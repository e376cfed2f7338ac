import Mathlib.Algebra.BigOperators.Group.List.Basic
import MetricRelay.Cycle.Orchestrator

namespace MetricRelay

/-- What a submission adds to the statistics. -/
def SubmissionRecord.amount (r : SubmissionRecord) : Stats where
  brokerFiltered := r.brokerFiltered
  received := r.received
  sent := r.sent
  sentBytes := r.rawBytes
  sentBytesWire := r.wireBytes

namespace Stats

instance : Zero Stats := ⟨{}⟩

instance : Add Stats := ⟨Stats.add⟩

theorem add_def (a b : Stats) : a + b = a.add b := rfl

instance : AddCommMonoid Stats where
  add_assoc a b c := by simp only [add_def, add, UInt64.add_assoc]
  zero_add a := by
    change Stats.add {} a = a
    simp only [add, UInt64.zero_add]
  add_zero a := by
    change Stats.add a {} = a
    simp only [add, UInt64.add_zero]
  add_comm a b := by simp only [add_def, add, UInt64.add_comm]
  nsmul := nsmulRec

theorem addFiltered_eq (s : Stats) (count : UInt64) : s.addFiltered count = s + { filtered := count } := by
  simp [addFiltered, add_def, add]

theorem record_eq (s : Stats) (r : SubmissionRecord) : s.record r = s + r.amount := by
  simp [record, SubmissionRecord.amount, add_def, add]

end Stats

namespace CycleAction

def owner? : CycleAction → Option Nat
  | call => none
  | change owner _ _ => some owner
  | observe owner _ _ _ _ => some owner
  | finish owner _ _ => some owner
  | report owner => some owner
  | release owner => some owner

def amount : CycleAction → Stats
  | change _ _ amount => amount
  | _ => 0

def ended? : CycleAction → Option (Nat × CollectionEnd)
  | finish _ collector ending => some (collector, ending)
  | _ => none

/-- An action that brings its call nearer to its return. -/
def isMove : CycleAction → Bool
  | finish _ _ _ => true
  | report _ => true
  | release _ => true
  | _ => false

end CycleAction

def actionsOf (call : Nat) (actions : List CycleAction) : List CycleAction :=
  actions.filter fun a ↦ a.owner? = some call

def changed (actions : List CycleAction) : Stats := (actions.map CycleAction.amount).sum

def endings (actions : List CycleAction) : List (Nat × CollectionEnd) := actions.filterMap CycleAction.ended?

def reportOf (actions : List CycleAction) : CycleReport where
  succeeded := (endings actions).countP fun e ↦ e.2 = .succeeded
  failed := (endings actions).countP fun e ↦ ¬e.2 = .succeeded
  stats := changed actions

theorem succeeded_add_failed (actions : List CycleAction) :
    (reportOf actions).succeeded + (reportOf actions).failed = (endings actions).length := by
  rw [List.length_eq_countP_add_countP fun e : Nat × CollectionEnd ↦ e.2 = .succeeded]
  simp [reportOf]

theorem changed_concat (actions : List CycleAction) (a : CycleAction) :
    changed (actions ++ [a]) = changed actions + a.amount := by
  simp [changed]

theorem endings_concat (actions : List CycleAction) (a : CycleAction) :
    endings (actions ++ [a]) = endings actions ++ a.ended?.toList := by
  rw [endings, List.filterMap_append, endings]
  cases h : a.ended? <;> simp [h]

theorem actionsOf_concat_self {call : Nat} {a : CycleAction} (h : a.owner? = some call) (actions : List CycleAction) :
    actionsOf call (actions ++ [a]) = actionsOf call actions ++ [a] := by
  simp [actionsOf, h]

theorem actionsOf_concat_of_ne {call : Nat} {a : CycleAction} (h : a.owner? ≠ some call) (actions : List CycleAction) :
    actionsOf call (actions ++ [a]) = actionsOf call actions := by
  simp [actionsOf, h]

namespace CycleStage

/-- How many moves a call that was not refused is away from its return. -/
def remaining : CycleStage → Nat
  | refused => 0
  | collecting pending _ => pending.length + 2
  | reported _ => 1
  | returned _ => 0

def taken : CycleStage → Stats
  | reported report => report.stats
  | returned report => report.stats
  | _ => 0

/-- What the statistics hold for a call that has taken these actions. -/
def held (own : List CycleAction) : CycleStage → Stats
  | collecting _ _ => changed own
  | _ => 0

/-- The stage of a call for that many collectors, as far as its actions go. A refused call takes none. Each collector
ends once, and the report counts the ends and holds what the collectors have added. -/
def Accounts (n : Nat) (own : List CycleAction) : CycleStage → Prop
  | refused => own = []
  | collecting pending counted =>
    ((endings own).map Prod.fst ++ pending).Perm (List.range n) ∧ { counted with stats := changed own } = reportOf own ∧
      own.countP CycleAction.isMove + pending.length = n
  | reported report =>
    ((endings own).map Prod.fst).Perm (List.range n) ∧ report = reportOf own ∧ own.countP CycleAction.isMove = n + 1
  | returned report =>
    ((endings own).map Prod.fst).Perm (List.range n) ∧ report = reportOf own ∧ own.countP CycleAction.isMove = n + 2

end CycleStage

inductive Turn : CycleAction → Stats → Stats → CycleStage → CycleStage → Prop
  | change {call collector amount pending counted stats} :
    Turn (.change call collector amount) stats (stats + amount) (.collecting pending counted)
      (.collecting pending counted)
  | observe {call collector node condition status pending counted stats} :
    Turn (.observe call collector node condition status) stats stats (.collecting pending counted)
      (.collecting pending counted)
  | finish {call collector ending pending counted stats} (h : collector ∈ pending) :
    Turn (.finish call collector ending) stats stats (.collecting pending counted)
      (.collecting (pending.erase collector) (counted.count ending))
  | report {call counted stats} :
    Turn (.report call) stats 0 (.collecting [] counted) (.reported { counted with stats })
  | release {call report stats} : Turn (.release call) stats stats (.reported report) (.returned report)

variable {a : CycleAction} {before after : Stats} {old new : CycleStage} {own : List CycleAction} {n : Nat}

theorem Turn.isActive (h : Turn a before after old new) : old.isActive = true := by
  cases h <;> rfl

theorem Turn.new_ne_refused (h : Turn a before after old new) : new ≠ .refused := by
  cases h <;> exact fun he ↦ by cases he

theorem count_eq (r : CycleReport) (ending : CollectionEnd) : r.count ending =
    { r with
      succeeded := r.succeeded + if ending = .succeeded then 1 else 0
      failed := r.failed + if ¬ending = .succeeded then 1 else 0 } := by
  cases ending <;> rfl

theorem reportOf_concat_of_none (h : a.ended? = none) (own : List CycleAction) :
    reportOf (own ++ [a]) = { reportOf own with stats := changed own + a.amount } := by
  simp [reportOf, endings_concat, changed_concat, h]

theorem reportOf_concat_finish (own : List CycleAction) (call collector : Nat) (ending : CollectionEnd) :
    reportOf (own ++ [.finish call collector ending]) = (reportOf own).count ending := by
  have hamount : changed own + (CycleAction.finish call collector ending).amount = changed own := add_zero _
  rw [count_eq, reportOf, endings_concat, changed_concat, hamount, reportOf]
  simp [CycleAction.ended?, List.countP_cons]

theorem countP_concat_of_isMove (h : a.isMove = true) (own : List CycleAction) :
    (own ++ [a]).countP CycleAction.isMove = own.countP CycleAction.isMove + 1 := by
  rw [List.countP_append, List.countP_singleton, if_pos h]

theorem countP_concat_of_not_isMove (h : a.isMove = false) (own : List CycleAction) :
    (own ++ [a]).countP CycleAction.isMove = own.countP CycleAction.isMove := by
  rw [List.countP_append, List.countP_singleton, h]
  rfl

theorem Turn.accounts (h : Turn a before after old new) (ho : old.Accounts n own) (hb : before = old.held own) :
    new.Accounts n (own ++ [a]) ∧ after = new.held (own ++ [a]) := by
  subst hb
  cases h with
  | change | observe =>
    obtain ⟨hp, hr, hm⟩ := ho
    refine ⟨⟨?_, ?_, ?_⟩, ?_⟩
    · rw [endings_concat]
      simpa [CycleAction.ended?] using hp
    · rw [reportOf_concat_of_none rfl, changed_concat, ← hr]
    · rw [countP_concat_of_not_isMove rfl, hm]
    · simp [CycleStage.held, changed_concat, CycleAction.amount]
  | @finish call collector ending pending counted _ hmem =>
    obtain ⟨hp, hr, hm⟩ := ho
    have hchanged : changed (own ++ [.finish call collector ending]) = changed own :=
      (changed_concat _ _).trans (add_zero _)
    refine ⟨⟨?_, ?_, ?_⟩, ?_⟩
    · have hends : endings (own ++ [.finish call collector ending]) = endings own ++ [(collector, ending)] :=
        endings_concat _ _
      rw [hends, List.map_append, List.append_assoc]
      exact ((List.perm_cons_erase hmem).symm.append_left _).trans hp
    · rw [reportOf_concat_finish, hchanged, ← hr, count_eq, count_eq]
    · have hlength := List.length_erase_of_mem hmem
      have hpos := List.length_pos_of_mem hmem
      rw [countP_concat_of_isMove rfl]
      omega
    · exact hchanged.symm
  | report =>
    obtain ⟨hp, hr, hm⟩ := ho
    refine ⟨⟨?_, ?_, ?_⟩, rfl⟩
    · rw [endings_concat]
      simpa [CycleAction.ended?] using hp
    · rw [reportOf_concat_of_none rfl, ← hr]
      simp [CycleStage.held, CycleAction.amount]
    · rw [countP_concat_of_isMove rfl]
      exact congrArg (· + 1) hm
  | release =>
    obtain ⟨hp, hr, hm⟩ := ho
    refine ⟨⟨?_, ?_, ?_⟩, rfl⟩
    · rw [endings_concat]
      simpa [CycleAction.ended?] using hp
    · rw [reportOf_concat_of_none rfl, hr]
      simp [reportOf, CycleAction.amount]
    · rw [countP_concat_of_isMove rfl, hm]

/-- What leaves the statistics is taken by a report. -/
theorem Turn.taken (h : Turn a before after old new) :
    ∃ extra, new.taken = old.taken + extra ∧ extra + after = before + a.amount := by
  cases h with
  | change => exact ⟨0, rfl, zero_add _⟩
  | observe | finish | release => exact ⟨0, (add_zero _).symm, (zero_add _).trans (add_zero _).symm⟩
  | report => exact ⟨before, (zero_add _).symm, rfl⟩

structure Turns (a : CycleAction) (s next : CycleState) (call : Nat) (old new : CycleStage) : Prop where
  owner : a.owner? = some call
  stage : s.calls[call]? = some old
  calls : next.calls = s.calls.set call new
  turn : Turn a s.stats next.stats old new
  lease : next.lease = if new.isActive then s.lease else ⟨false⟩

namespace Orchestrator

variable {o : Orchestrator} {s next : CycleState}

theorem exists_of_isCollecting {call collector : Nat} (h : isCollecting s call collector = true) :
    ∃ pending counted, s.calls[call]? = some (.collecting pending counted) := by
  obtain ⟨stage, hs, hp⟩ := (Option.any_eq_true _ _).mp h
  cases stage with
  | collecting pending counted => exact ⟨pending, counted, hs⟩
  | refused | reported | returned => cases hp

/-- What a collector does to the statistics while its collection goes on is one change after the other. -/
theorem run?_change {call collector : Nat} (h : isCollecting s call collector = true) (amounts : List Stats) :
    o.run? s (amounts.map (.change call collector)) = some { s with stats := s.stats + amounts.sum } := by
  induction amounts generalizing s with
  | nil => simp [run?]
  | cons amount amounts ih =>
    have hstep : o.step? s (.change call collector amount) = some { s with stats := s.stats + amount } := if_pos h
    have hnext : isCollecting { s with stats := s.stats + amount } call collector = true := h
    rw [run?, List.map_cons, List.foldlM_cons, hstep, List.sum_cons, ← add_assoc]
    exact ih hnext

theorem set_of_getElem? {α : Type} {l : List α} {i : Nat} {x : α} (h : l[i]? = some x) : l.set i x = l := by
  obtain ⟨hi, rfl⟩ := List.getElem?_eq_some_iff.mp h
  exact List.set_getElem_self hi

/-- All that a step can do. -/
theorem step?_cases (h : o.step? s a = some next) :
    (a = .call ∧ s.lease.held = true ∧ next = { s with calls := s.calls ++ [.refused] }) ∨
      (a = .call ∧ s.lease.held = false ∧ next = { s with
        lease := ⟨true⟩, calls := s.calls ++ [.collecting (List.range o.collectors.length) {}] }) ∨
      ∃ call old new, Turns a s next call old new := by
  cases a with
  | call =>
    rw [step?] at h
    unfold Lease.acquire? at h
    cases hl : s.lease.held with
    | true =>
      rw [hl] at h
      exact .inl ⟨rfl, rfl, (Option.some.inj h).symm⟩
    | false =>
      rw [hl] at h
      exact .inr (.inl ⟨rfl, rfl, (Option.some.inj h).symm⟩)
  | change call collector amount =>
    rw [step?] at h
    split at h
    · next hc =>
      obtain rfl := Option.some.inj h
      obtain ⟨pending, counted, hs⟩ := exists_of_isCollecting hc
      exact .inr (.inr ⟨call, _, _, rfl, hs, (set_of_getElem? hs).symm, .change, rfl⟩)
    · cases h
  | observe call collector node condition status =>
    rw [step?] at h
    split at h
    · next hc =>
      obtain rfl := Option.some.inj h
      obtain ⟨pending, counted, hs⟩ := exists_of_isCollecting hc
      exact .inr (.inr ⟨call, _, _, rfl, hs, (set_of_getElem? hs).symm, .observe, rfl⟩)
    · cases h
  | finish call collector ending =>
    rw [step?] at h
    split at h
    · next pending counted hs =>
      split at h
      · next hmem =>
        obtain rfl := Option.some.inj h
        exact .inr (.inr ⟨call, _, _, rfl, hs, rfl, .finish (List.contains_iff_mem.mp hmem), rfl⟩)
      · cases h
    · cases h
  | report call =>
    rw [step?] at h
    split at h
    · next counted hs =>
      obtain rfl := Option.some.inj h
      exact .inr (.inr ⟨call, _, _, rfl, hs, rfl, .report, rfl⟩)
    · cases h
  | release call =>
    rw [step?] at h
    split at h
    · next report hs =>
      obtain rfl := Option.some.inj h
      exact .inr (.inr ⟨call, _, _, rfl, hs, rfl, .release, rfl⟩)
    · cases h

end Orchestrator
end MetricRelay
