import Mathlib.Algebra.GroupWithZero.Nat
import MetricRelay.Submission.Round

namespace MetricRelay.Http.Client

/-- An exchange is refused at once, answered in time, or given up. -/
inductive Ends (c : Client) (uri : Uri) (r : Reply) : Nat × Outcome → Prop
  | refused {failure : Failure} : c.refusal? uri = some failure → Ends c uri r (0, .error failure)
  | answered {delay : Nat} :
      c.refusal? uri = none → r.after = some delay → delay ≤ c.timeout → Ends c uri r (delay, r.outcome)
  | late :
      c.refusal? uri = none → (∀ delay, r.after = some delay → c.timeout < delay) →
      Ends c uri r (c.timeout, .error .timeout)

theorem ends_reply (c : Client) (uri : Uri) (r : Reply) : c.Ends uri r (c.reply uri r) := by
  obtain ⟨after, outcome⟩ := r
  unfold reply
  cases hrefusal : c.refusal? uri with
  | some failure => exact .refused hrefusal
  | none =>
    cases after with
    | none => exact .late hrefusal fun delay hdelay ↦ by cases hdelay
    | some delay =>
      dsimp only
      split
      · next hle => exact .answered hrefusal rfl hle
      · next hgt =>
        refine .late hrefusal fun other hother ↦ ?_
        cases hother
        exact Nat.lt_of_not_le hgt

end MetricRelay.Http.Client

namespace MetricRelay.Submission

open Http

def CancelledBy (cancelledAt : Option Nat) (moment : Nat) : Prop := ∃ c, cancelledAt = some c ∧ c ≤ moment

variable {cancelledAt : Option Nat}

theorem CancelledBy.mono {first second : Nat} (h : CancelledBy cancelledAt first) (hle : first ≤ second) :
    CancelledBy cancelledAt second := by
  obtain ⟨c, hc, hl⟩ := h
  exact ⟨c, hc, Nat.le_trans hl hle⟩

theorem any_le_iff {moment : Nat} : cancelledAt.any (· ≤ moment) ↔ CancelledBy cancelledAt moment := by
  simp [Option.any_eq_true, CancelledBy]

theorem not_any_le_iff {moment : Nat} : cancelledAt.any (· ≤ moment) = false ↔ ¬CancelledBy cancelledAt moment := by
  rw [← any_le_iff, Bool.not_eq_true]

theorem began_le_ended_of_mem {elapsed : Nat → Nat} {start : Nat} {steps : List RetryPolicy.Step} {s last : TimedStep}
    (hs : s ∈ timed elapsed start steps) (hl : (timed elapsed start steps).getLast? = some last) :
    start ≤ s.began ∧ s.began ≤ last.ended := by
  induction steps generalizing start s with
  | nil => cases hs
  | cons step rest ih =>
    cases rest with
    | nil =>
      obtain rfl := List.mem_singleton.mp hs
      obtain rfl := Option.some.inj hl
      exact ⟨Nat.le_refl _, Nat.le_add_right _ _⟩
    | cons next rest =>
      have hl' : (timed elapsed (start + elapsed step.attempt + step.delay) (next :: rest)).getLast? = some last := by
        rw [← hl]
        rfl
      rcases List.mem_cons.mp hs with rfl | hs
      · have hnext := ih List.mem_cons_self hl'
        dsimp only at hnext ⊢
        omega
      · have hrest := ih hs hl'
        exact ⟨Nat.le_trans (by omega) hrest.1, hrest.2⟩

theorem timed_ne_nil {elapsed : Nat → Nat} {start : Nat} {steps : List RetryPolicy.Step} (h : steps ≠ []) :
    timed elapsed start steps ≠ [] := by
  cases steps with
  | nil => exact absurd rfl h
  | cons step rest => exact List.cons_ne_nil _ _

namespace RoundPlan

variable (p : RoundPlan) (replies : Nat → Reply)

def outcomes (before attempt : Nat) : Outcome := (p.reply replies before attempt).2

def uncut (before start : Nat) : List TimedStep :=
  timed (fun attempt ↦ (p.reply replies before attempt).1) start (p.policy.run (p.outcomes replies before))

def finish (before start : Nat) : Nat := ((p.uncut replies before start).getLast?.map TimedStep.ended).getD start

/-- How many attempts of a round begin by its deadline. -/
def begunInTime (before start : Nat) : Nat :=
  (p.uncut replies before start).countP fun s ↦ s.began ≤ start + p.deadline

theorem began_le_finish {before start : Nat} {s : TimedStep} (hs : s ∈ p.uncut replies before start) :
    start ≤ s.began ∧ s.began ≤ p.finish replies before start := by
  have hl := List.getLast?_eq_some_getLast (List.ne_nil_of_mem hs)
  rw [finish, hl]
  exact began_le_ended_of_mem hs hl

theorem start_le_finish (before start : Nat) : start ≤ p.finish replies before start := by
  have hne : p.uncut replies before start ≠ [] := timed_ne_nil (p.policy.run_ne_nil _)
  obtain ⟨s, hs⟩ := List.exists_mem_of_ne_nil _ hne
  have h := p.began_le_finish replies hs
  exact Nat.le_trans h.1 h.2

theorem begunInTime_pos (before start : Nat) : 0 < p.begunInTime replies before start := by
  obtain ⟨step, rest, hrun⟩ := List.exists_cons_of_ne_nil (p.policy.run_ne_nil (p.outcomes replies before))
  rw [begunInTime, uncut, hrun, List.countP_pos_iff]
  exact ⟨_, List.mem_cons_self, decide_eq_true (Nat.le_add_right _ _)⟩

theorem round_cases (cancelledAt : Option Nat) (before start : Nat) :
    let round := p.round replies cancelledAt before start
    let finish := p.finish replies before start
    round.ending = .answered (p.policy.result (p.outcomes replies before)) ∧ finish ≤ start + p.deadline ∧
        ¬CancelledBy cancelledAt finish ∧ round.begun = p.begunInTime replies before start ∨
      round.ending = .cancelled ∧ CancelledBy cancelledAt (min finish (start + p.deadline)) ∧
        round.begun ≤ p.begunInTime replies before start ∧ (CancelledBy cancelledAt start → round.begun = 0) ∨
      round.ending = .expired ∧ start + p.deadline < finish ∧ ¬CancelledBy cancelledAt (start + p.deadline) ∧
        round.begun = p.begunInTime replies before start := by
  intro round finish
  let isLive (moment : Nat) : Bool := moment ≤ start + p.deadline && !cancelledAt.any (· ≤ moment)
  have hbegun : round.begun = (p.uncut replies before start).countP fun s ↦ isLive s.began := rfl
  have hending : round.ending =
      if isLive finish then .answered (p.policy.result (p.outcomes replies before))
      else if cancelledAt.any (· ≤ min finish (start + p.deadline)) then .cancelled else .expired := rfl
  -- an attempt that begins in time and before a moment without cancellation is begun
  have hall (moment : Nat) (hm : ¬CancelledBy cancelledAt moment)
      (h : ∀ s ∈ p.uncut replies before start, s.began ≤ start + p.deadline → s.began ≤ moment) :
      round.begun = p.begunInTime replies before start := by
    rw [hbegun, begunInTime]
    refine List.countP_congr fun s hs ↦ ?_
    simp only [isLive, Bool.and_eq_true, decide_eq_true_eq, Bool.not_eq_true', not_any_le_iff]
    exact ⟨And.left, fun hle ↦ ⟨hle, fun hc ↦ hm (hc.mono (h s hs hle))⟩⟩
  by_cases hlive : isLive finish = true
  · left
    rw [hending, if_pos hlive]
    simp only [isLive, Bool.and_eq_true, decide_eq_true_eq, Bool.not_eq_true', not_any_le_iff] at hlive
    exact ⟨rfl, hlive.1, hlive.2, hall finish hlive.2 fun s hs _ ↦ (p.began_le_finish replies hs).2⟩
  · right
    rw [hending, if_neg hlive]
    by_cases hc : CancelledBy cancelledAt (min finish (start + p.deadline))
    · left
      rw [if_pos (any_le_iff.mpr hc), hbegun]
      refine ⟨rfl, hc, List.countP_mono_left fun s _ h ↦ (Bool.and_eq_true _ _ ▸ h).1, fun hstart ↦ ?_⟩
      refine List.countP_eq_zero.mpr fun s hs h ↦ ?_
      simp only [isLive, Bool.and_eq_true, Bool.not_eq_true', not_any_le_iff] at h
      exact h.2 (hstart.mono (p.began_le_finish replies hs).1)
    · right
      rw [if_neg (fun h ↦ hc (any_le_iff.mp h))]
      have hlt : start + p.deadline < finish := by
        refine Nat.lt_of_not_le fun hle ↦ hlive ?_
        rw [Nat.min_eq_left hle] at hc
        simp only [isLive, Bool.and_eq_true, decide_eq_true_eq, Bool.not_eq_true', not_any_le_iff]
        exact ⟨hle, hc⟩
      rw [Nat.min_eq_right (Nat.le_of_lt hlt)] at hc
      exact ⟨rfl, hlt, hc, hall _ hc fun s _ hle ↦ hle⟩

/-- How many attempts are begun before a round, as long as nothing is cancelled. -/
def begunBefore : Nat → Nat
  | 0 => 0
  | j + 1 => begunBefore j + p.begunInTime replies (begunBefore j) (j * p.deadline)

def endOf (j : Nat) : Nat := p.finish replies (p.begunBefore replies j) (j * p.deadline)

def answerOf (j : Nat) : Outcome := p.policy.result (p.outcomes replies (p.begunBefore replies j))

def IsCutOff (j : Nat) : Prop := (j + 1) * p.deadline < p.endOf replies j

structure IsFirstUncut (j : Nat) : Prop where
  uncut : ¬p.IsCutOff replies j
  cutBefore : ∀ i < j, p.IsCutOff replies i

variable {p replies}

theorem start_le_endOf (j : Nat) : j * p.deadline ≤ p.endOf replies j := p.start_le_finish replies _ _

theorem begunBefore_mono {i j : Nat} (h : i ≤ j) : p.begunBefore replies i ≤ p.begunBefore replies j := by
  induction h with
  | refl => exact Nat.le_refl _
  | step _ ih => exact Nat.le_trans ih (Nat.le_add_right _ _)

theorem IsFirstUncut.unique {i j : Nat} (hi : p.IsFirstUncut replies i) (hj : p.IsFirstUncut replies j) : i = j := by
  rcases Nat.lt_trichotomy i j with h | h | h
  · exact absurd (hj.cutBefore i h) hi.uncut
  · exact h
  · exact absurd (hi.cutBefore j h) hj.uncut

/-- Where rounds come to an end: in round `last`, all rounds before which have expired. -/
structure Ends (p : RoundPlan) (replies : Nat → Reply) (cancelledAt : Option Nat) (ending : Ending) (begun last : Nat) :
    Prop where
  cutBefore : ∀ i < last, p.IsCutOff replies i
  live : 0 < last → ¬CancelledBy cancelledAt (last * p.deadline)
  begun_le : begun ≤ p.begunBefore replies (last + 1)
  ending :
    ending = .answered (p.answerOf replies last) ∧ ¬p.IsCutOff replies last ∧
        ¬CancelledBy cancelledAt (p.endOf replies last) ∧ begun = p.begunBefore replies (last + 1) ∨
      ending = .cancelled ∧ CancelledBy cancelledAt (min (p.endOf replies last) ((last + 1) * p.deadline)) ∧
        (CancelledBy cancelledAt (last * p.deadline) → begun ≤ p.begunBefore replies last)

theorem rounds?_endsFrom {limit j : Nat} {rounds : List Round}
    (h : p.rounds? replies cancelledAt limit (p.begunBefore replies j) (j * p.deadline) = some rounds)
    (hcut : ∀ i < j, p.IsCutOff replies i) (hlive : 0 < j → ¬CancelledBy cancelledAt (j * p.deadline)) :
    ∃ ending last, rounds.getLast?.map Round.ending = some ending ∧
      p.Ends replies cancelledAt ending (p.begunBefore replies j + (rounds.map Round.begun).sum) last := by
  -- a round that expires leaves the schedule in front of the next one
  induction limit generalizing j rounds with
  | zero => cases h
  | succ limit ih =>
    have hnext : (j + 1) * p.deadline = j * p.deadline + p.deadline := Nat.succ_mul _ _
    have hcases := p.round_cases replies cancelledAt (p.begunBefore replies j) (j * p.deadline)
    rw [rounds?] at h
    generalize hround : p.round replies cancelledAt (p.begunBefore replies j) (j * p.deadline) = round at h hcases
    dsimp only at h hcases
    rcases hcases with ⟨he, hle, hc, hb⟩ | ⟨he, hc, hb, hb₀⟩ | ⟨he, hlt, hc, hb⟩
    · rw [he] at h
      obtain rfl := Option.some.inj h
      rw [List.map_singleton, List.sum_singleton, hb]
      refine ⟨_, j, congrArg some he, hcut, hlive, Nat.le_refl _, .inl ⟨rfl, ?_, hc, rfl⟩⟩
      rw [IsCutOff, hnext]
      exact Nat.not_lt.mpr hle
    · rw [he] at h
      obtain rfl := Option.some.inj h
      rw [List.map_singleton, List.sum_singleton]
      refine ⟨_, j, congrArg some he, hcut, hlive, Nat.add_le_add_left hb _, .inr ⟨rfl, hnext ▸ hc, fun hstart ↦ ?_⟩⟩
      rw [hb₀ hstart]
      exact Nat.le_refl _
    · rw [he] at h
      dsimp only at h
      obtain ⟨rest, hrest, rfl⟩ := Option.map_eq_some_iff.mp h
      have hbefore : p.begunBefore replies j + round.begun = p.begunBefore replies (j + 1) := by
        rw [hb]
        rfl
      have hcut' : ∀ i < j + 1, p.IsCutOff replies i := fun i hi ↦ by
        rcases Nat.lt_succ_iff_lt_or_eq.mp hi with hi | rfl
        · exact hcut i hi
        · rw [IsCutOff, hnext]
          exact hlt
      rw [hbefore, ← hnext] at hrest
      obtain ⟨ending, last, hlast, hends⟩ := ih hrest hcut' fun _ ↦ hnext ▸ hc
      refine ⟨ending, last, ?_, ?_⟩
      · cases rest with
        | nil => cases hlast
        | cons next rest => exact hlast
      · rw [List.map_cons, List.sum_cons, ← Nat.add_assoc, hbefore]
        exact hends

theorem rounds?_ends {limit : Nat} {rounds : List Round}
    (h : p.rounds? replies cancelledAt limit 0 0 = some rounds) :
    ∃ ending last, rounds.getLast?.map Round.ending = some ending ∧
      p.Ends replies cancelledAt ending (rounds.map Round.begun).sum last := by
  have hstart : p.rounds? replies cancelledAt limit (p.begunBefore replies 0) (0 * p.deadline) = some rounds := by
    rw [Nat.zero_mul]
    exact h
  have hends := rounds?_endsFrom hstart (fun _ hi ↦ absurd hi (Nat.not_lt_zero _)) fun hpos ↦ absurd hpos (Nat.lt_irrefl 0)
  simpa only [begunBefore, Nat.zero_add] using hends

variable {ending : Ending} {begun last : Nat}

/-- The first round that is not cut off decides, unless the cancellation comes before its end. -/
theorem Ends.of_isFirstUncut (h : p.Ends replies cancelledAt ending begun last) {j : Nat}
    (hj : p.IsFirstUncut replies j) :
    (¬CancelledBy cancelledAt (p.endOf replies j) →
        ending = .answered (p.answerOf replies j) ∧ begun = p.begunBefore replies (j + 1)) ∧
      (CancelledBy cancelledAt (p.endOf replies j) → ending = .cancelled) := by
  rcases h.ending with ⟨he, huncut, hc, hb⟩ | ⟨he, hc, -⟩
  · obtain rfl := hj.unique ⟨huncut, h.cutBefore⟩
    exact ⟨fun _ ↦ ⟨he, hb⟩, fun hc' ↦ absurd hc' hc⟩
  · refine ⟨fun hc' ↦ absurd (hc.mono ?_) hc', fun _ ↦ he⟩
    rcases Nat.lt_trichotomy last j with hlt | rfl | hlt
    · have hstart : (last + 1) * p.deadline ≤ j * p.deadline := Nat.mul_le_mul_right _ hlt
      exact Nat.le_trans (Nat.min_le_right _ _) (Nat.le_trans hstart (start_le_endOf j))
    · exact Nat.min_le_left _ _
    · exact absurd (h.cutBefore j hlt) hj.uncut

theorem Ends.of_forall_isCutOff (h : p.Ends replies cancelledAt ending begun last)
    (hall : ∀ j, p.IsCutOff replies j) : ending = .cancelled := by
  rcases h.ending with ⟨-, huncut, -⟩ | ⟨he, -⟩
  · exact absurd (hall last) huncut
  · exact he

theorem Ends.exists_isFirstUncut (h : p.Ends replies cancelledAt ending begun last) {outcome : Outcome}
    (ha : ending = .answered outcome) :
    p.IsFirstUncut replies last ∧ outcome = p.answerOf replies last ∧ 0 < begun := by
  rcases h.ending with ⟨he, huncut, -, hb⟩ | ⟨he, -⟩
  · rw [he] at ha
    cases ha
    exact ⟨⟨huncut, h.cutBefore⟩, rfl, hb ▸ Nat.add_pos_right _ (p.begunInTime_pos replies _ _)⟩
  · rw [he] at ha
    cases ha

/-- A cancellation keeps all attempts from being begun of the rounds that begin with it or later. -/
theorem Ends.begun_le_of_cancelledBy (h : p.Ends replies cancelledAt ending begun last) {j : Nat}
    (hc : CancelledBy cancelledAt (j * p.deadline)) : begun ≤ p.begunBefore replies j := by
  rcases Nat.lt_or_ge last j with hlt | hge
  · exact Nat.le_trans h.begun_le (begunBefore_mono hlt)
  have hstart : CancelledBy cancelledAt (last * p.deadline) := hc.mono (Nat.mul_le_mul_right _ hge)
  -- no round before the last one was cancelled, so the last one is the first
  obtain rfl : last = 0 := Nat.eq_zero_of_not_pos fun hpos ↦ h.live hpos hstart
  obtain rfl : j = 0 := Nat.le_zero.mp hge
  rcases h.ending with ⟨-, -, hc', -⟩ | ⟨-, -, hb⟩
  · exact absurd (hstart.mono (start_le_endOf 0)) hc'
  · exact hb hstart

end RoundPlan
end MetricRelay.Submission
