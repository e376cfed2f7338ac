import MetricRelay.Http.Client
import MetricRelay.Retry.Policy

namespace MetricRelay.Submission

open Http

structure TimedStep where
  began : Nat
  ended : Nat
  step : RetryPolicy.Step

/-- Places steps in time. An attempt begins when the delay after the one before it is over. -/
def timed (elapsed : Nat → Nat) (start : Nat) : List RetryPolicy.Step → List TimedStep
  | [] => []
  | step :: rest =>
    let ended := start + elapsed step.attempt
    ⟨start, ended, step⟩ :: timed elapsed (ended + step.delay) rest

inductive Ending
  | answered (outcome : Outcome)
  | expired
  | cancelled

structure Round where
  steps : List RetryPolicy.Step
  begun : Nat
  ending : Ending

/-- How a request is sent, and how many nanoseconds a round of it may take. -/
structure RoundPlan where
  policy : RetryPolicy
  client : Client
  uri : Uri
  deadline : Nat

namespace RoundPlan

/-- The reply to an attempt of a round in front of which so many attempts were begun. -/
def reply (p : RoundPlan) (replies : Nat → Reply) (before attempt : Nat) : Nat × Outcome :=
  p.client.reply p.uri (replies (before + attempt - 1))

/-- One round that begins at `start`. What ends at the very deadline has ended in time, and a cancellation goes before
whatever happens at its moment. -/
def round (p : RoundPlan) (replies : Nat → Reply) (cancelledAt : Option Nat) (before start : Nat) : Round :=
  let outcome (attempt : Nat) : Outcome := (p.reply replies before attempt).2
  let steps := timed (fun attempt ↦ (p.reply replies before attempt).1) start (p.policy.run outcome)
  let ended := (steps.getLast?.map TimedStep.ended).getD start
  let isCancelled (moment : Nat) : Bool := cancelledAt.any (· ≤ moment)
  let isLive (moment : Nat) : Bool := moment ≤ start + p.deadline && !isCancelled moment
  { steps := (steps.filter fun s ↦ isLive s.ended).map TimedStep.step
    begun := steps.countP fun s ↦ isLive s.began
    ending :=
      if isLive ended then .answered (p.policy.result outcome)
      else if isCancelled (min ended (start + p.deadline)) then .cancelled
      else .expired }

/-- Rounds up to the first that does not end at the deadline, none if that takes more than `limit` of them. -/
def rounds? (p : RoundPlan) (replies : Nat → Reply) (cancelledAt : Option Nat) :
    (limit before start : Nat) → Option (List Round)
  | 0, _, _ => none
  | limit + 1, before, start =>
    let round := p.round replies cancelledAt before start
    match round.ending with
    | .expired =>
      (rounds? p replies cancelledAt limit (before + round.begun) (start + p.deadline)).map (round :: ·)
    | _ => some [round]

end RoundPlan
end MetricRelay.Submission
