import MetricRelay.Http.Exchange
import MetricRelay.Log.Event
import MetricRelay.Retry.Backoff
import MetricRelay.Text.Duration

namespace MetricRelay

open Http

/-- How long to wait between attempts, with the random choices of a backoff that has any, and how many attempts to
make. One is made in any case. -/
structure RetryPolicy where
  backoff : Backoff
  maxAttempts : Nat := 10
  draw : Nat → Nat → Nat := fun _ ↦ id

namespace RetryPolicy

inductive Step
  | retrying (attempt : Nat) (outcome : Outcome) (delay : Nat)
  | succeeded (attempt : Nat) (outcome : Outcome)
  | exhausted (attempt : Nat) (outcome : Outcome)

namespace Step

def attempt : Step → Nat
  | retrying n _ _ => n
  | succeeded n _ => n
  | exhausted n _ => n

def outcome : Step → Outcome
  | retrying _ o _ => o
  | succeeded _ o => o
  | exhausted _ o => o

def delay : Step → Nat
  | retrying _ _ d => d
  | succeeded _ _ => 0
  | exhausted _ _ => 0

def isRetrying : Step → Bool
  | retrying _ _ _ => true
  | _ => false

def event (url : String) (s : Step) : Log.Event :=
  let fields : List Log.Field := [.ofNat "attempt" s.attempt, .ofText "url" url]
  match s with
  | retrying _ o d => ⟨.warn, .retries, s!"{faultText o} Retrying after {Text.duration d}.", fields⟩
  | succeeded _ _ => ⟨.debug, .retries, "Request succeeded.", fields⟩
  | exhausted n o => ⟨.error, .retries, s!"{faultText o} Giving up after {n} attempts.", fields⟩

end Step

def limit (p : RetryPolicy) : Nat := max p.maxAttempts 1

def delay (p : RetryPolicy) (attempt : Nat) : Nat := p.backoff.duration (p.draw attempt) attempt

/-- What follows an attempt: a success ends the request, and so does the last attempt there may be. -/
def after (p : RetryPolicy) (attempt : Nat) (outcome : Outcome) : Step :=
  if isSuccess outcome then .succeeded attempt outcome
  else if p.limit ≤ attempt then .exhausted attempt outcome
  else .retrying attempt outcome (p.delay attempt)

theorem lt_limit_of_isRetrying {p : RetryPolicy} {attempt : Nat} {outcome : Outcome}
    (h : (p.after attempt outcome).isRetrying) : attempt < p.limit := by
  unfold after at h
  split at h
  · cases h
  · split at h
    · cases h
    · omega

def stepsFrom (p : RetryPolicy) (outcome : Nat → Outcome) (attempt : Nat) : List Step :=
  let step := p.after attempt (outcome attempt)
  if h : step.isRetrying then step :: p.stepsFrom outcome (attempt + 1) else [step]
termination_by p.limit - attempt
decreasing_by
  have := lt_limit_of_isRetrying h
  omega

theorem stepsFrom_ne_nil (p : RetryPolicy) (outcome : Nat → Outcome) (attempt : Nat) :
    p.stepsFrom outcome attempt ≠ [] := by
  rw [stepsFrom]
  split <;> simp

def run (p : RetryPolicy) (outcome : Nat → Outcome) : List Step := p.stepsFrom outcome 1

theorem run_ne_nil (p : RetryPolicy) (outcome : Nat → Outcome) : p.run outcome ≠ [] := p.stepsFrom_ne_nil outcome 1

def result (p : RetryPolicy) (outcome : Nat → Outcome) : Outcome :=
  ((p.run outcome).getLast (p.run_ne_nil outcome)).outcome

def failures (steps : List Step) : Nat := steps.countP fun s ↦ !isSuccess s.outcome

end RetryPolicy
end MetricRelay
