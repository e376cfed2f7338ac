import Mathlib.Data.ENat.Lattice
import MetricRelay.Retry.Client
import MetricRelay.Submission.Round

namespace MetricRelay.RetryPolicy

open Http Submission

variable {p : RetryPolicy} {outcome : Nat → Outcome}

def Succeeds (o : Outcome) : Prop := ∃ body, o = .ok ⟨200, body⟩

theorem isSuccess_iff {o : Outcome} : isSuccess o = true ↔ Succeeds o := by
  cases o with
  | error failure => simp [isSuccess, Succeeds]
  | ok response =>
    obtain ⟨status, body⟩ := response
    simp [isSuccess, Response.isOk, Succeeds]

instance (o : Outcome) : Decidable (Succeeds o) := decidable_of_iff _ isSuccess_iff

/-- The number of the first attempt that is a success, infinite if none is. -/
noncomputable def firstSuccess (outcome : Nat → Outcome) : ℕ∞ :=
  ⨅ attempt : ℕ, ⨅ _ : 1 ≤ attempt ∧ Succeeds (outcome attempt), (attempt : ℕ∞)

def retry (p : RetryPolicy) (outcome : Nat → Outcome) (attempt : Nat) : Step :=
  .retrying attempt (outcome attempt) (p.delay attempt)

def ending (outcome : Nat → Outcome) (attempt : Nat) : Step :=
  if isSuccess (outcome attempt) then .succeeded attempt (outcome attempt) else .exhausted attempt (outcome attempt)

theorem one_le_limit (p : RetryPolicy) : 1 ≤ p.limit := Nat.le_max_right _ _

/-- The attempts from one on end with `last`: those before it fail, and it succeeds or is the last one allowed. -/
structure EndsAt (p : RetryPolicy) (outcome : Nat → Outcome) (attempt last : Nat) : Prop where
  attempt_le : attempt ≤ last
  last_le : last ≤ p.limit
  fails : ∀ n, attempt ≤ n → n < last → isSuccess (outcome n) = false
  ends : isSuccess (outcome last) ∨ last = p.limit

theorem after_of_isSuccess {attempt : Nat} (h : isSuccess (outcome attempt)) :
    p.after attempt (outcome attempt) = ending outcome attempt := by
  rw [after, if_pos h, ending, if_pos h]

theorem after_limit (p : RetryPolicy) (outcome : Nat → Outcome) :
    p.after p.limit (outcome p.limit) = ending outcome p.limit := by
  rw [after, ending, if_pos le_rfl]

theorem after_of_lt {attempt : Nat} (h : isSuccess (outcome attempt) = false) (hl : attempt < p.limit) :
    p.after attempt (outcome attempt) = p.retry outcome attempt := by
  rw [after, if_neg (by simp [h]), if_neg (by omega), retry]

theorem not_isRetrying_ending (outcome : Nat → Outcome) (attempt : Nat) :
    (ending outcome attempt).isRetrying = false := by
  unfold ending
  split <;> rfl

theorem exists_endsAt (outcome : Nat → Outcome) {attempt : Nat} (hl : attempt ≤ p.limit) :
    ∃ last, p.EndsAt outcome attempt last := by
  -- on the number of attempts that are still allowed
  obtain ⟨remaining, hr⟩ := Nat.exists_eq_add_of_le hl
  induction remaining generalizing attempt with
  | zero => exact ⟨attempt, le_rfl, hl, fun n h h' ↦ by omega, .inr hr.symm⟩
  | succ remaining ih =>
    by_cases hs : isSuccess (outcome attempt)
    · exact ⟨attempt, le_rfl, hl, fun n h h' ↦ by omega, .inl hs⟩
    · have hnext : attempt + 1 ≤ p.limit := by omega
      obtain ⟨last, h⟩ := ih hnext (by omega)
      refine ⟨last, by have := h.attempt_le; omega, h.last_le, fun n hn hlt ↦ ?_, h.ends⟩
      rcases Nat.eq_or_lt_of_le hn with rfl | hn
      · exact Bool.eq_false_iff.mpr hs
      · exact h.fails n hn hlt

theorem stepsFrom_eq {attempt last : Nat} (h : p.EndsAt outcome attempt last) :
    p.stepsFrom outcome attempt =
      (List.range' attempt (last - attempt)).map (p.retry outcome) ++ [ending outcome last] := by
  obtain ⟨between, rfl⟩ := Nat.exists_eq_add_of_le h.attempt_le
  rw [Nat.add_sub_cancel_left]
  induction between generalizing attempt with
  | zero =>
    have hstep : p.after attempt (outcome attempt) = ending outcome attempt := by
      rcases h.ends with hs | hl
      · exact after_of_isSuccess hs
      · rw [Nat.add_zero] at hl
        rw [hl, after_limit]
    rw [stepsFrom, hstep, dif_neg (by simp [not_isRetrying_ending])]
    rfl
  | succ between ih =>
    have hfails := h.fails attempt le_rfl (by omega)
    have hnext : p.EndsAt outcome (attempt + 1) (attempt + 1 + between) := by
      rw [Nat.add_right_comm, Nat.add_assoc]
      exact ⟨by omega, h.last_le, fun n hn hlt ↦ h.fails n (by omega) hlt, h.ends⟩
    have hlt : attempt < p.limit := by have := h.last_le; omega
    have hretrying : (p.retry outcome attempt).isRetrying := rfl
    rw [stepsFrom, after_of_lt hfails hlt, dif_pos hretrying, ih hnext, List.range'_succ, Nat.add_right_comm attempt 1,
      Nat.add_assoc attempt]
    rfl

theorem EndsAt.eq_min {last : Nat} (h : p.EndsAt outcome 1 last) :
    (last : ℕ∞) = min (firstSuccess outcome) (max p.maxAttempts 1 : ℕ) := by
  refine le_antisymm (le_min (le_iInf₂ fun n hn ↦ ?_) (Nat.cast_le.mpr h.last_le)) ?_
  · refine Nat.cast_le.mpr (Nat.le_of_not_lt fun hlt ↦ ?_)
    have hsuccess := isSuccess_iff.mpr hn.2
    rw [h.fails n hn.1 hlt] at hsuccess
    exact Bool.false_ne_true hsuccess
  · rcases h.ends with hs | hl
    · exact min_le_of_left_le (iInf₂_le_of_le last ⟨h.attempt_le, isSuccess_iff.mp hs⟩ le_rfl)
    · rw [hl]
      exact min_le_right _ _

variable {last : Nat}

theorem outcome_ending (outcome : Nat → Outcome) (attempt : Nat) : (ending outcome attempt).outcome = outcome attempt := by
  unfold ending
  split <;> rfl

theorem EndsAt.outcomes (h : p.EndsAt outcome 1 last) :
    (p.run outcome).map Step.outcome = (List.range' 1 last).map outcome := by
  have hlast : last - 1 + 1 = last := Nat.sub_add_cancel h.attempt_le
  have hrange : List.range' 1 last = List.range' 1 (last - 1) ++ [last] := by
    conv_lhs => rw [← hlast, List.range'_concat]
    rw [Nat.one_mul, Nat.add_comm, hlast]
  have hretry : Step.outcome ∘ p.retry outcome = outcome := rfl
  rw [run, stepsFrom_eq h, hrange, List.map_append, List.map_append, List.map_map, hretry]
  simp only [List.map_cons, List.map_nil, outcome_ending]

theorem EndsAt.result (h : p.EndsAt outcome 1 last) : p.result outcome = outcome last := by
  have hlast : (p.run outcome).getLast (p.run_ne_nil outcome) = ending outcome last := by
    simp only [run, stepsFrom_eq h, List.getLast_append_singleton]
  rw [RetryPolicy.result, hlast, outcome_ending]

theorem failures_eq (steps : List Step) : failures steps = (steps.map Step.outcome).countP (!isSuccess ·) := by
  rw [failures, List.countP_map]
  rfl

theorem map_step_timed (elapsed : Nat → Nat) (start : Nat) (steps : List Step) :
    (timed elapsed start steps).map TimedStep.step = steps := by
  induction steps generalizing start with
  | nil => rfl
  | cons step steps ih => exact congrArg (step :: ·) (ih _)

theorem ended_of_mem_timed {elapsed : Nat → Nat} {start : Nat} {steps : List Step} {a : TimedStep}
    (h : a ∈ timed elapsed start steps) : a.ended = a.began + elapsed a.step.attempt := by
  induction steps generalizing start with
  | nil => cases h
  | cons step steps ih =>
    rcases List.mem_cons.mp h with rfl | hrest
    · rfl
    · exact ih hrest

theorem isChain_timed {R : Step → Prop} (elapsed : Nat → Nat) (start : Nat) {steps : List Step} (last : Step)
    (h : ∀ step ∈ steps, R step) :
    (timed elapsed start (steps ++ [last])).IsChain fun a b ↦ R a.step ∧ b.began = a.ended + a.step.delay := by
  induction steps generalizing start with
  | nil => exact .singleton _
  | cons step steps ih =>
    obtain ⟨hstep, hsteps⟩ := List.forall_mem_cons.mp h
    cases steps with
    | nil => exact .cons_cons ⟨hstep, rfl⟩ (ih _ hsteps)
    | cons next steps => exact .cons_cons ⟨hstep, rfl⟩ (ih _ hsteps)

theorem sendAll_eq (c : RetryClient) (earlier : List (Nat → Outcome)) :
    (c.sendAll earlier).policy = c.policy ∧ (c.sendAll earlier).attempt = c.attempt := by
  induction earlier generalizing c with
  | nil => exact ⟨rfl, rfl⟩
  | cons outcome earlier ih => exact ih (c.send outcome).2

/-- A client that has sent any requests sends the next one as often as it takes: up to its first success, but no more
often than the policy allows. It goes through the attempts in order and waits for the duration of the backoff after each
but the last, which ends the request in a success or exhausted. -/
theorem sent_steps (p : RetryPolicy) (earlier : List (Nat → Outcome)) (outcome : Nat → Outcome) :
    let client := RetryClient.sendAll { policy := p } earlier
    let steps := (client.send outcome).1
    let attempts := steps.length
    (attempts : ℕ∞) = min (firstSuccess outcome) (max p.maxAttempts 1 : ℕ) ∧
      (∃ last,
        steps = (List.range' 1 (attempts - 1)).map
          (fun n ↦ .retrying n (outcome n) (p.backoff.duration (p.draw n) n)) ++ [last] ∧
        (Succeeds (outcome attempts) → last = .succeeded attempts (outcome attempts)) ∧
        (¬Succeeds (outcome attempts) → last = .exhausted attempts (outcome attempts))) ∧
      steps = p.run outcome ∧ p.result outcome = outcome attempts ∧
      (client.send outcome).2.failed =
        client.failed + (List.range' 1 attempts).countP (fun n ↦ ¬Succeeds (outcome n)) ∧
      ∀ elapsed start, (timed elapsed start steps).map TimedStep.step = steps ∧
        (∀ a ∈ timed elapsed start steps, a.ended = a.began + elapsed a.step.attempt) ∧
        (timed elapsed start steps).IsChain fun a b ↦
          ∃ n, a.step = .retrying n (outcome n) (p.backoff.duration (p.draw n) n) ∧
            b.began = a.ended + p.backoff.duration (p.draw n) n := by
  intro client steps attempts
  obtain ⟨hpolicy, hattempt⟩ := sendAll_eq { policy := p } earlier
  have hsteps : steps = p.run outcome := by
    change client.policy.stepsFrom outcome client.attempt = _
    rw [hpolicy, hattempt]
    rfl
  obtain ⟨last, h⟩ := exists_endsAt outcome p.one_le_limit
  have hrun : p.run outcome = (List.range' 1 (last - 1)).map (p.retry outcome) ++ [ending outcome last] :=
    stepsFrom_eq h
  have hattempts : attempts = last := by
    change steps.length = last
    rw [hsteps, ← List.length_map Step.outcome, h.outcomes, List.length_map, List.length_range']
  have hfailed : (client.send outcome).2.failed = client.failed + failures steps := rfl
  refine ⟨?_, ⟨ending outcome attempts, ?_, fun hs ↦ ?_, fun hs ↦ ?_⟩, hsteps, ?_, ?_, fun elapsed start ↦
    ⟨map_step_timed elapsed start steps, fun _ ↦ ended_of_mem_timed, ?_⟩⟩
  · rw [hattempts, h.eq_min]
  · rw [hattempts, hsteps, hrun]
    rfl
  · rw [ending, if_pos (isSuccess_iff.mpr hs)]
  · rw [ending, if_neg (mt isSuccess_iff.mp hs)]
  · rw [hattempts, h.result]
  · rw [hfailed, hsteps, hattempts, failures_eq, h.outcomes, List.countP_map]
    congr 1
    apply List.countP_congr
    intro n hn
    simp [← isSuccess_iff]
  · have hretry : ∀ step ∈ (List.range' 1 (last - 1)).map (p.retry outcome), ∃ n, step = p.retry outcome n := by
      intro step hstep
      obtain ⟨n, -, rfl⟩ := List.mem_map.mp hstep
      exact ⟨n, rfl⟩
    rw [hsteps, hrun]
    refine (isChain_timed elapsed start _ hretry).imp ?_
    rintro a b ⟨⟨n, hn⟩, hbegan⟩
    rw [hn] at hbegan
    exact ⟨n, hn, hbegan⟩

end MetricRelay.RetryPolicy
