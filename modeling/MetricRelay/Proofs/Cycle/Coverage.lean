import MetricRelay.Cycle.Runner
import MetricRelay.Proofs.Cycle.Invariant

namespace MetricRelay

namespace Runner

variable {r : Runner} {conditions : NodeConditions}

def cycleAction? : RunnerAction → Option CycleAction
  | .enter => some .call
  | .cycle action => some action
  | _ => none

def cycleActions (actions : List RunnerAction) : List CycleAction := actions.filterMap cycleAction?

/-- The ticks since the last start. -/
def ticks (actions : List RunnerAction) : Nat :=
  (actions.reverse.takeWhile fun a ↦ a ≠ .start).countP fun a ↦ a = .tick

theorem ticks_concat (actions : List RunnerAction) (a : RunnerAction) :
    ticks (actions ++ [a]) = if a = .start then 0 else ticks actions + if a = .tick then 1 else 0 := by
  rw [ticks, List.reverse_append, List.reverse_singleton, List.singleton_append, List.takeWhile_cons]
  by_cases hs : a = .start
  · simp [hs]
  · simp [hs, ticks, List.countP_cons]

theorem ticks_concat_of_ne (actions : List RunnerAction) {a : RunnerAction} (hs : a ≠ .start) (ht : a ≠ .tick) :
    ticks (actions ++ [a]) = ticks actions := by
  rw [ticks_concat, if_neg hs, if_neg ht, Nat.add_zero]

theorem isActive_iff {s : CycleState} {call : Nat} :
    isActive s call = true ↔ ∃ stage, s.calls[call]? = some stage ∧ stage.isActive = true :=
  Option.any_eq_true _ _

variable {s next : RunnerState} {a : RunnerAction} {history : List RunnerAction}

theorem cycles_step (h : r.step? s a = some next) :
    cycleAction? a = none ∧ next.cycles = s.cycles ∨
      ∃ c, cycleAction? a = some c ∧ r.toOrchestrator.step? s.cycles c = some next.cycles := by
  cases a with
  | start | tick | stop | leave =>
    rw [step?] at h
    split at h
    · cases h
      exact .inl ⟨rfl, rfl⟩
    · cases h
  | enter =>
    rw [step?] at h
    split at h
    · cases h
    · obtain ⟨cycles, hc, rfl⟩ := Option.map_eq_some_iff.mp h
      exact .inr ⟨.call, rfl, hc⟩
  | cycle action =>
    obtain ⟨cycles, hc, rfl⟩ := Option.map_eq_some_iff.mp h
    exact .inr ⟨action, rfl, hc⟩

theorem stage_step (h : r.step? s a = some next) {i : Nat} {x : CycleStage} (hx : s.cycles.calls[i]? = some x) :
    ∃ y, next.cycles.calls[i]? = some y ∧ (y = x ∨ x.isActive = true ∧ y ≠ .refused) := by
  rcases cycles_step h with ⟨-, he⟩ | ⟨c, -, hc⟩
  · exact ⟨x, he ▸ hx, .inl rfl⟩
  · exact Orchestrator.stage_step hc hx

structure Sound (r : Runner) (history : List RunnerAction) (s : RunnerState) : Prop where
  cycles : r.toOrchestrator.Sound (cycleActions history) s.cycles
  started : ∀ call ∈ s.started, call < s.cycles.calls.length
  ticks : s.started.length + s.waiting = ticks history
  idle : s.phase = .idle → inFlight s = 0

theorem inFlight_eq_zero_iff : inFlight s = 0 ↔ s.waiting = 0 ∧ ∀ call ∈ s.started, isActive s.cycles call = false := by
  rw [inFlight, Nat.add_eq_zero_iff, List.countP_eq_zero]
  simp only [Bool.not_eq_true]

theorem sound_start (r : Runner) (conditions : NodeConditions) : r.Sound [] { cycles := { conditions } } :=
  ⟨Orchestrator.sound_start _ conditions, fun _ h ↦ absurd h List.not_mem_nil, rfl, fun _ ↦ rfl⟩

theorem Sound.step_cycles (h : r.Sound history s) (hs : r.step? s a = some next) :
    r.toOrchestrator.Sound (cycleActions (history ++ [a])) next.cycles := by
  rw [cycleActions, List.filterMap_append, ← cycleActions]
  rcases cycles_step hs with ⟨ha, he⟩ | ⟨c, ha, hc⟩
  · rw [he]
    simpa [ha] using h.cycles
  · simpa [ha] using h.cycles.step hc

theorem Sound.step (h : r.Sound history s) (hs : r.step? s a = some next) : r.Sound (history ++ [a]) next := by
  have hcycles := h.step_cycles hs
  cases a with
  | start =>
    rw [step?] at hs
    split at hs
    · next hp =>
      cases hs
      refine ⟨hcycles, fun _ hc ↦ absurd hc List.not_mem_nil, ?_, fun hi ↦ by cases hi⟩
      rw [ticks_concat, if_pos rfl]
      exact (Nat.zero_add _).trans (inFlight_eq_zero_iff.mp (h.idle hp)).1
    · cases hs
  | tick =>
    rw [step?] at hs
    split at hs
    · next hp =>
      cases hs
      refine ⟨hcycles, h.started, ?_, fun hi ↦ ?_⟩
      · rw [ticks_concat, if_neg (by simp), if_pos rfl, ← h.ticks]
        rfl
      · rw [hp] at hi
        cases hi
    · cases hs
  | stop =>
    rw [step?] at hs
    split at hs
    · cases hs
      refine ⟨hcycles, h.started, ?_, fun hi ↦ by cases hi⟩
      rw [ticks_concat_of_ne history (by simp) (by simp), ← h.ticks]
    · cases hs
  | leave =>
    rw [step?] at hs
    split at hs
    · next hl =>
      cases hs
      refine ⟨hcycles, h.started, ?_, fun _ ↦ hl.2⟩
      rw [ticks_concat_of_ne history (by simp) (by simp), ← h.ticks]
    · cases hs
  | enter =>
    rw [step?] at hs
    split at hs
    · cases hs
    · next waiting hw =>
      obtain ⟨cycles, hc, rfl⟩ := Option.map_eq_some_iff.mp hs
      have hlength := Orchestrator.length_calls_step hc
      rw [if_pos rfl] at hlength
      refine ⟨hcycles, fun call hcall ↦ ?_, ?_, fun hi ↦ ?_⟩
      · dsimp only
        rcases List.mem_append.mp hcall with hcall | hcall
        · have := h.started call hcall
          omega
        · rw [List.mem_singleton.mp hcall]
          omega
      · rw [ticks_concat_of_ne history (by simp) (by simp), ← h.ticks, hw, List.length_append, List.length_singleton]
        exact Nat.add_right_comm _ _ _
      · have := (inFlight_eq_zero_iff.mp (h.idle hi)).1
        omega
  | cycle action =>
    obtain ⟨cycles, hc, rfl⟩ := Option.map_eq_some_iff.mp hs
    have hlength := Orchestrator.length_calls_step hc
    refine ⟨hcycles, fun call hcall ↦ ?_, ?_, fun hi ↦ ?_⟩
    · exact Nat.lt_of_lt_of_le (h.started call hcall) (by dsimp only; omega)
    · rw [ticks_concat_of_ne history (by simp) (by simp), ← h.ticks]
    · -- while the runner is idle, none of its calls can become active again
      obtain ⟨hw, hinactive⟩ := inFlight_eq_zero_iff.mp (h.idle hi)
      refine inFlight_eq_zero_iff.mpr ⟨hw, fun call hcall ↦ ?_⟩
      have hx := List.getElem?_eq_getElem (h.started call hcall)
      have hxa := hinactive call hcall
      unfold isActive at hxa ⊢
      rw [hx, Option.any_some] at hxa
      obtain ⟨y, hy, rfl | ⟨hactive, -⟩⟩ := Orchestrator.stage_step hc hx
      · dsimp only
        rw [hy, Option.any_some, hxa]
      · rw [hxa] at hactive
        cases hactive

theorem Sound.run (h : r.Sound history s) {actions : List RunnerAction} (hr : r.run? s actions = some next) :
    r.Sound (history ++ actions) next := by
  induction actions generalizing s history with
  | nil =>
    obtain rfl := Option.some.inj hr
    rw [List.append_nil]
    exact h
  | cons a actions ih =>
    rw [run?, List.foldlM_cons] at hr
    obtain ⟨middle, hs, hrest⟩ := Option.bind_eq_some_iff.mp hr
    rw [← List.singleton_append, ← List.append_assoc]
    exact ih (h.step hs) hrest

theorem run?_append {first second : List RunnerAction} (hr : r.run? s (first ++ second) = some next) :
    ∃ middle, r.run? s first = some middle ∧ r.run? middle second = some next := by
  rw [run?, List.foldlM_append] at hr
  exact Option.bind_eq_some_iff.mp hr

theorem stage_run {actions : List RunnerAction} (hr : r.run? s actions = some next) {i : Nat} {x : CycleStage}
    (hx : s.cycles.calls[i]? = some x) :
    ∃ y, next.cycles.calls[i]? = some y ∧ (y = x ∨ x.isActive = true ∧ y ≠ .refused) := by
  induction actions generalizing s x with
  | nil =>
    obtain rfl := Option.some.inj hr
    exact ⟨x, hx, .inl rfl⟩
  | cons a actions ih =>
    rw [run?, List.foldlM_cons] at hr
    obtain ⟨middle, hs, hrest⟩ := Option.bind_eq_some_iff.mp hr
    obtain ⟨y, hy, hyx⟩ := stage_step hs hx
    obtain ⟨z, hz, hzy⟩ := ih hrest hy
    refine ⟨z, hz, ?_⟩
    rcases hzy with rfl | ⟨hya, hzr⟩
    · exact hyx
    · rcases hyx with rfl | ⟨hxa, -⟩
      · exact .inr ⟨hya, hzr⟩
      · exact .inr ⟨hxa, hzr⟩

structure Covers (r : Runner) (conditions : NodeConditions) (actions : List RunnerAction) (s : RunnerState) : Prop where
  exclusive : ∀ i j, isActive s.cycles i = true → isActive s.cycles j = true → i = j
  lease : s.cycles.lease.held = true ↔ ∃ i, isActive s.cycles i = true
  /-- A call is refused if a cycle is active when it is made: no action is ever one of this call, and nothing changes.
  Any other call is not refused. -/
  calls : ∀ before a after, actions = before ++ a :: after → cycleAction? a = some .call →
    ∃ earlier later, r.run? { cycles := { conditions } } before = some earlier ∧ r.step? earlier a = some later ∧
      let call := earlier.cycles.calls.length
      ((∃ i, isActive earlier.cycles i = true) →
        s.cycles.calls[call]? = some .refused ∧ actionsOf call (cycleActions actions) = [] ∧
          later.cycles.stats = earlier.cycles.stats ∧ later.cycles.conditions = earlier.cycles.conditions) ∧
      ((∀ i, isActive earlier.cycles i = false) →
        ∃ stage, s.cycles.calls[call]? = some stage ∧ stage ≠ .refused)
  /-- Each collector has ended once, and the report says how, and what the collectors of this very call have added. -/
  reports : ∀ call report, s.cycles.calls[call]? = some (.returned report) →
    let own := actionsOf call (cycleActions actions)
    report.succeeded + report.failed = r.collectors.length ∧ report.stats = changed own ∧ report = reportOf own ∧
      ((endings own).map Prod.fst).Perm (List.range r.collectors.length)
  /-- A call that is not refused returns after so many moves of its own, one of which can be made until it does. -/
  returns : ∀ call stage, s.cycles.calls[call]? = some stage → stage ≠ .refused →
    (actionsOf call (cycleActions actions)).countP CycleAction.isMove + stage.remaining = r.collectors.length + 2 ∧
      ((∃ report, stage = .returned report) ∨
        ∃ a next, a.owner? = some call ∧ a.isMove = true ∧ r.step? s (.cycle a) = some next)
  /-- What the reports have taken out of the statistics and what is still there is all that was ever added. -/
  total : (s.cycles.calls.map CycleStage.taken).sum + s.cycles.stats = changed (cycleActions actions)
  /-- A runner that has left has made a call for each of its ticks, and none of them goes on. -/
  left : s.phase = .idle → s.started.length = ticks actions ∧ ∀ call ∈ s.started,
    s.cycles.calls[call]? = some .refused ∨ ∃ report, s.cycles.calls[call]? = some (.returned report)

theorem Sound.returns (h : r.Sound history s) {call : Nat} {stage : CycleStage}
    (hs : s.cycles.calls[call]? = some stage) (hr : stage ≠ .refused) :
    (actionsOf call (cycleActions history)).countP CycleAction.isMove + stage.remaining = r.collectors.length + 2 ∧
      ((∃ report, stage = .returned report) ∨
        ∃ a next, a.owner? = some call ∧ a.isMove = true ∧ r.step? s (.cycle a) = some next) := by
  refine ⟨(h.cycles.accounts hs).moves hr, ?_⟩
  rcases Nat.eq_zero_or_pos stage.remaining with hz | hpos
  · left
    cases stage with
    | refused => exact absurd rfl hr
    | collecting pending counted => cases hz
    | reported report => cases hz
    | returned report => exact ⟨report, rfl⟩
  · right
    obtain ⟨a, next, ho, hm, ha⟩ := Orchestrator.exists_move r.toOrchestrator hs hpos
    refine ⟨a, { s with cycles := next }, ho, hm, ?_⟩
    rw [step?, ha]
    rfl

theorem Sound.left (h : r.Sound history s) (hi : s.phase = .idle) : s.started.length = Runner.ticks history ∧
    ∀ call ∈ s.started,
      s.cycles.calls[call]? = some .refused ∨ ∃ report, s.cycles.calls[call]? = some (.returned report) := by
  obtain ⟨hw, hinactive⟩ := inFlight_eq_zero_iff.mp (h.idle hi)
  refine ⟨by rw [← h.ticks, hw, Nat.add_zero], fun call hcall ↦ ?_⟩
  obtain ⟨x, hx⟩ : ∃ x, s.cycles.calls[call]? = some x := ⟨_, List.getElem?_eq_getElem (h.started call hcall)⟩
  have hxa := hinactive call hcall
  rw [isActive, hx, Option.any_some] at hxa
  rw [hx]
  cases x with
  | refused => exact .inl rfl
  | returned report => exact .inr ⟨report, rfl⟩
  | collecting | reported => cases hxa

theorem Sound.held_iff (h : r.Sound history s) : s.cycles.lease.held = true ↔ ∃ i, isActive s.cycles i = true := by
  simp only [isActive_iff]
  exact h.cycles.holder

/-- Each report covers its cycle and nothing else, in whatever order things happen. -/
theorem run?_covers {actions : List RunnerAction} (hr : r.run? { cycles := { conditions } } actions = some s) :
    r.Covers conditions actions s := by
  have hstart := sound_start r conditions
  have h : r.Sound actions s := hstart.run hr
  constructor
  case exclusive =>
    intro i j hi hj
    obtain ⟨x, hx, hxa⟩ := isActive_iff.mp hi
    obtain ⟨y, hy, hya⟩ := isActive_iff.mp hj
    exact h.cycles.unique hx hy hxa hya
  case lease => exact h.held_iff
  case calls =>
    rintro before a after rfl ha
    obtain ⟨earlier, hbefore, hafter⟩ := run?_append hr
    rw [run?, List.foldlM_cons] at hafter
    obtain ⟨later, hs, hafter⟩ := Option.bind_eq_some_iff.mp hafter
    refine ⟨earlier, later, hbefore, hs, ?_⟩
    have hearlier : r.Sound before earlier := hstart.run hbefore
    -- whoever makes the call, the cycles take the same step
    obtain ⟨c, hc, hcall⟩ : ∃ c, cycleAction? a = some c ∧ r.toOrchestrator.step? earlier.cycles c = some later.cycles := by
      rcases cycles_step hs with ⟨hn, -⟩ | hc
      · rw [ha] at hn
        cases hn
      · exact hc
    obtain rfl := Option.some.inj (hc.symm.trans ha)
    rcases Orchestrator.step?_cases hcall with ⟨-, hl, he⟩ | ⟨-, hl, he⟩ | ⟨call, old, new, ht⟩
    · refine ⟨fun _ ↦ ?_, fun hn ↦ ?_⟩
      · have hx : later.cycles.calls[earlier.cycles.calls.length]? = some .refused := by
          rw [he]
          exact List.getElem?_concat_length
        obtain ⟨y, hy, rfl | ⟨hactive, -⟩⟩ := stage_run hafter hx
        · exact ⟨hy, h.cycles.accounts hy, by rw [he], by rw [he]⟩
        · cases hactive
      · obtain ⟨i, hi⟩ := hearlier.held_iff.mp hl
        rw [hn i] at hi
        cases hi
    · refine ⟨fun hactive ↦ ?_, fun _ ↦ ?_⟩
      · rw [hearlier.held_iff.mpr hactive] at hl
        cases hl
      · have hx : later.cycles.calls[earlier.cycles.calls.length]? =
            some (.collecting (List.range r.collectors.length) {}) := by
          rw [he]
          exact List.getElem?_concat_length
        obtain ⟨y, hy, rfl | ⟨-, hne⟩⟩ := stage_run hafter hx
        · exact ⟨_, hy, fun hy ↦ by cases hy⟩
        · exact ⟨y, hy, hne⟩
    · cases ht.owner
  case reports =>
    intro call report hreport own
    obtain ⟨hends, rfl, -⟩ := h.cycles.accounts hreport
    refine ⟨?_, rfl, rfl, hends⟩
    rw [succeeded_add_failed, ← List.length_map Prod.fst, hends.length_eq, List.length_range]
  case returns => exact fun call stage ↦ h.returns
  case total => exact h.cycles.total
  case left => exact h.left

/-- Two ticks and a call by somebody else; the first cycle goes on when the runner is stopped. -/
theorem run?_covers_overlapping :
    let r : Runner := { collectors := ["pods", "nodes"], interval := 1 }
    let amount : Stats := { sent := 5, received := 3 }
    ∃ s report, r.run? {} [.start, .tick, .enter, .cycle .call, .tick, .cycle (.change 0 1 amount),
        .cycle (.finish 0 1 .succeeded), .stop, .enter, .cycle (.finish 0 0 (.crashed "panic")), .cycle (.report 0),
        .cycle (.release 0), .leave] = some s ∧
      s.cycles.calls = [.returned report, .refused, .refused] ∧ report.stats = amount ∧ s.started.length = 2 := by
  intro r amount
  let actions : List RunnerAction := [.start, .tick, .enter, .cycle .call, .tick, .cycle (.change 0 1 amount),
    .cycle (.finish 0 1 .succeeded), .stop, .enter, .cycle (.finish 0 0 (.crashed "panic")), .cycle (.report 0),
    .cycle (.release 0), .leave]
  let report : CycleReport := { succeeded := 1, failed := 1, stats := amount }
  have hrun : (r.run? {} actions).map (fun s ↦ (s.phase, s.cycles.calls)) =
      some (.idle, [.returned report, .refused, .refused]) := by decide
  obtain ⟨s, hs, he⟩ := Option.map_eq_some_iff.mp hrun
  obtain ⟨hphase, hcalls⟩ := Prod.ext_iff.mp he
  dsimp only at hphase hcalls
  have hcovers := run?_covers hs
  refine ⟨s, report, hs, hcalls, ?_, ?_⟩
  · have hreport := (hcovers.reports 0 report (by rw [hcalls]; rfl)).2.1
    exact hreport.trans (by decide)
  · exact (hcovers.left hphase).1.trans (by decide)

end Runner
end MetricRelay
