import MetricRelay.Proofs.Cycle.Account

namespace MetricRelay

theorem sum_map_set {α β : Type} [AddCommMonoid β] {f : α → β} {l : List α} {i : Nat} {old new : α} {extra : β}
    (h : l[i]? = some old) (he : f new = f old + extra) : ((l.set i new).map f).sum = (l.map f).sum + extra := by
  induction l generalizing i with
  | nil => simp at h
  | cons x l ih =>
    cases i with
    | zero =>
      obtain rfl : x = old := by simpa using h
      simp only [List.set_cons_zero, List.map_cons, List.sum_cons, he]
      exact add_right_comm _ _ _
    | succ i =>
      simp only [List.set_cons_succ, List.map_cons, List.sum_cons, ih (by simpa using h)]
      exact (add_assoc _ _ _).symm

theorem getElem?_concat_cases {α : Type} {l : List α} {x y : α} {i : Nat} (h : (l ++ [x])[i]? = some y) :
    l[i]? = some y ∨ i = l.length ∧ y = x := by
  rcases Nat.lt_trichotomy i l.length with hi | rfl | hi
  · rw [List.getElem?_append_left hi] at h
    exact .inl h
  · rw [List.getElem?_concat_length] at h
    exact .inr ⟨rfl, (Option.some.inj h).symm⟩
  · rw [List.getElem?_eq_none (by simp; omega)] at h
    cases h

variable {a : CycleAction} {s next : CycleState} {call : Nat} {stage old new : CycleStage}

theorem Turns.getElem? (h : Turns a s next call old new) (i : Nat) :
    next.calls[i]? = if call = i then some new else s.calls[i]? := by
  obtain ⟨hlt, -⟩ := List.getElem?_eq_some_iff.mp h.stage
  rw [h.calls]
  split
  · next he => rw [← he, List.getElem?_set_self hlt]
  · next hne => rw [List.getElem?_set_ne hne]

namespace Orchestrator

variable {o : Orchestrator} {history : List CycleAction}

structure Sound (o : Orchestrator) (history : List CycleAction) (s : CycleState) : Prop where
  accounts : ∀ {call : Nat} {stage : CycleStage}, s.calls[call]? = some stage →
    stage.Accounts o.collectors.length (actionsOf call history)
  fresh : ∀ {call : Nat}, s.calls.length ≤ call → actionsOf call history = []
  unique : ∀ {i j : Nat} {x y : CycleStage}, s.calls[i]? = some x → s.calls[j]? = some y → x.isActive = true →
    y.isActive = true → i = j
  holder : s.lease.held = true ↔ ∃ (call : Nat) (stage : CycleStage), s.calls[call]? = some stage ∧ stage.isActive = true
  counters : ∀ {call : Nat} {stage : CycleStage}, s.calls[call]? = some stage → stage.isActive = true →
    s.stats = stage.held (actionsOf call history)
  idle : s.lease.held = false → s.stats = 0
  total : (s.calls.map CycleStage.taken).sum + s.stats = changed history

theorem sound_start (o : Orchestrator) (conditions : NodeConditions) : o.Sound [] { conditions } := by
  refine ⟨fun h ↦ ?_, fun _ ↦ rfl, fun h ↦ ?_, ?_, fun h ↦ ?_, fun _ ↦ rfl, rfl⟩
  · cases h
  · cases h
  · simp
  · cases h

theorem held_nil (stage : CycleStage) : stage.held [] = 0 := by
  cases stage <;> rfl

theorem Sound.made (h : o.Sound history s) {x : CycleStage} {lease : Lease} (hx : x.Accounts o.collectors.length [])
    (htaken : x.taken = 0) (hactive : x.isActive = true → s.lease.held = false ∧ lease.held = true)
    (hrefused : x.isActive = false → lease = s.lease) :
    o.Sound (history ++ [.call]) { s with lease, calls := s.calls ++ [x] } := by
  have hown (i : Nat) : actionsOf i (history ++ [.call]) = actionsOf i history := 
    actionsOf_concat_of_ne (by simp [CycleAction.owner?]) history
  -- a call that gets the lease finds no other one active
  have hnone (hxa : x.isActive = true) {i : Nat} {y : CycleStage} (hy : s.calls[i]? = some y) : y.isActive = false := by
    refine Bool.eq_false_iff.mpr fun hya ↦ ?_
    have hheld := h.holder.mpr ⟨i, y, hy, hya⟩
    rw [(hactive hxa).1] at hheld
    cases hheld
  constructor
  case accounts =>
    intro i y hy
    rw [hown]
    rcases getElem?_concat_cases hy with hy | ⟨rfl, rfl⟩
    · exact h.accounts hy
    · rw [h.fresh (Nat.le_refl _)]
      exact hx
  case fresh =>
    intro i hi
    rw [hown]
    apply h.fresh
    simp only [List.length_append, List.length_singleton] at hi
    omega
  case unique =>
    intro i j y z hy hz hya hza
    rcases getElem?_concat_cases hy with hy' | ⟨rfl, rfl⟩ <;> rcases getElem?_concat_cases hz with hz' | ⟨rfl, rfl⟩
    · exact h.unique hy' hz' hya hza
    · rw [hnone hza hy'] at hya
      cases hya
    · rw [hnone hya hz'] at hza
      cases hza
    · rfl
  case holder =>
    refine ⟨fun hheld ↦ ?_, fun ⟨i, y, hy, hya⟩ ↦ ?_⟩
    · cases hxa : x.isActive with
      | true => exact ⟨s.calls.length, x, List.getElem?_concat_length, hxa⟩
      | false =>
        obtain ⟨i, y, hy, hya⟩ := h.holder.mp (hrefused hxa ▸ hheld)
        obtain ⟨hi, -⟩ := List.getElem?_eq_some_iff.mp hy
        exact ⟨i, y, (List.getElem?_append_left hi).trans hy, hya⟩
    · cases hxa : x.isActive with
      | true => exact (hactive hxa).2
      | false =>
        rw [hrefused hxa]
        rcases getElem?_concat_cases hy with hy | ⟨rfl, rfl⟩
        · exact h.holder.mpr ⟨i, y, hy, hya⟩
        · rw [hxa] at hya
          cases hya
  case counters =>
    intro i y hy hya
    rw [hown]
    rcases getElem?_concat_cases hy with hy | ⟨rfl, rfl⟩
    · exact h.counters hy hya
    · rw [h.fresh (Nat.le_refl _), held_nil]
      exact h.idle (hactive hya).1
  case idle =>
    intro hfree
    cases hxa : x.isActive with
    | true =>
      rw [(hactive hxa).2] at hfree
      cases hfree
    | false => exact h.idle (hrefused hxa ▸ hfree)
  case total =>
    have hamount : changed (history ++ [.call]) = changed history := (changed_concat _ _).trans (add_zero _)
    have hsum : ((s.calls ++ [x]).map CycleStage.taken).sum = (s.calls.map CycleStage.taken).sum := by
      rw [List.map_append, List.sum_append, List.map_singleton, List.sum_singleton, htaken, add_zero]
    rw [hamount, ← h.total]
    exact congrArg (· + s.stats) hsum

theorem Sound.turn (h : o.Sound history s) (ht : Turns a s next call old new) : o.Sound (history ++ [a]) next := by
  have hold := ht.turn.isActive
  have hself := actionsOf_concat_self ht.owner history
  have hothers {i : Nat} (hi : call ≠ i) : actionsOf i (history ++ [a]) = actionsOf i history := by
    refine actionsOf_concat_of_ne (fun he ↦ hi ?_) history
    exact Option.some.inj (ht.owner.symm.trans he)
  have hheld := h.holder.mpr ⟨call, old, ht.stage, hold⟩
  obtain ⟨haccounts, hstats⟩ := ht.turn.accounts (h.accounts ht.stage) (h.counters ht.stage hold)
  -- whichever call is active now was the active one before
  have hactive {i : Nat} {x : CycleStage} (hx : next.calls[i]? = some x) (hxa : x.isActive = true) :
      call = i ∧ x = new := by
    rw [ht.getElem?] at hx
    split at hx
    · next he => exact ⟨he, (Option.some.inj hx).symm⟩
    · next hne => exact absurd (h.unique ht.stage hx hold hxa) hne
  constructor
  case accounts =>
    intro i x hx
    rw [ht.getElem?] at hx
    split at hx
    · next he =>
      obtain rfl := Option.some.inj hx
      rw [← he, hself]
      exact haccounts
    · next hne =>
      rw [hothers hne]
      exact h.accounts hx
  case fresh =>
    intro i hi
    obtain ⟨hlt, -⟩ := List.getElem?_eq_some_iff.mp ht.stage
    rw [ht.calls, List.length_set] at hi
    rw [hothers (by omega)]
    exact h.fresh hi
  case unique =>
    intro i j x y hx hy hxa hya
    exact (hactive hx hxa).1.symm.trans (hactive hy hya).1
  case holder =>
    rw [ht.lease]
    refine ⟨fun hl ↦ ?_, fun ⟨i, x, hx, hxa⟩ ↦ ?_⟩
    · split at hl
      · next hn => exact ⟨call, new, by rw [ht.getElem?, if_pos rfl], hn⟩
      · cases hl
    · obtain ⟨-, rfl⟩ := hactive hx hxa
      rw [if_pos hxa]
      exact hheld
  case counters =>
    intro i x hx hxa
    obtain ⟨rfl, rfl⟩ := hactive hx hxa
    rw [hself]
    exact hstats
  case idle =>
    intro hl
    rw [ht.lease] at hl
    split at hl
    · rw [hheld] at hl
      cases hl
    · next hn =>
      rw [hstats]
      cases new with
      | collecting | reported => exact absurd rfl hn
      | refused | returned => rfl
  case total =>
    obtain ⟨extra, hnew, hafter⟩ := ht.turn.taken
    rw [ht.calls, sum_map_set ht.stage hnew, add_assoc, hafter, ← add_assoc, h.total, changed_concat]

theorem Sound.step (h : o.Sound history s) (hs : o.step? s a = some next) : o.Sound (history ++ [a]) next := by
  rcases step?_cases hs with ⟨rfl, hl, rfl⟩ | ⟨rfl, hl, rfl⟩ | ⟨call, old, new, ht⟩
  · exact h.made rfl rfl (fun hx ↦ by cases hx) fun _ ↦ rfl
  · refine h.made ⟨?_, rfl, Nat.zero_add _ |>.trans List.length_range⟩ rfl (fun _ ↦ ⟨hl, rfl⟩) fun hx ↦ by cases hx
    exact .refl _
  · exact h.turn ht

/-- A call that is not active stays what it is, and one that is active is never refused later on. -/
theorem stage_step (hs : o.step? s a = some next) {i : Nat} {x : CycleStage} (hx : s.calls[i]? = some x) :
    ∃ y, next.calls[i]? = some y ∧ (y = x ∨ x.isActive = true ∧ y ≠ .refused) := by
  obtain ⟨hi, -⟩ := List.getElem?_eq_some_iff.mp hx
  rcases step?_cases hs with ⟨-, -, rfl⟩ | ⟨-, -, rfl⟩ | ⟨call, old, new, ht⟩
  · exact ⟨x, (List.getElem?_append_left hi).trans hx, .inl rfl⟩
  · exact ⟨x, (List.getElem?_append_left hi).trans hx, .inl rfl⟩
  · rw [ht.getElem?]
    split
    · next he =>
      obtain rfl : old = x := Option.some.inj (ht.stage.symm.trans (he ▸ hx))
      exact ⟨new, rfl, .inr ⟨ht.turn.isActive, ht.turn.new_ne_refused⟩⟩
    · exact ⟨x, hx, .inl rfl⟩

/-- As long as a call that was not refused has moves left, one of them can be made. -/
theorem exists_move (o : Orchestrator) {i : Nat} {x : CycleStage} (hx : s.calls[i]? = some x) (hr : 0 < x.remaining) :
    ∃ a next, a.owner? = some i ∧ a.isMove = true ∧ o.step? s a = some next := by
  cases x with
  | refused => cases hr
  | returned => cases hr
  | reported report => exact ⟨.release i, _, rfl, rfl, by rw [step?, hx]⟩
  | collecting pending counted =>
    cases pending with
    | nil => exact ⟨.report i, _, rfl, rfl, by rw [step?, hx]⟩
    | cons collector rest =>
      have hmem : (collector :: rest).contains collector = true := List.contains_iff_mem.mpr List.mem_cons_self
      exact ⟨.finish i collector .succeeded, _, rfl, rfl, by rw [step?, hx]; exact if_pos hmem⟩

theorem length_calls_step (hs : o.step? s a = some next) :
    next.calls.length = s.calls.length + if a = .call then 1 else 0 := by
  rcases step?_cases hs with ⟨rfl, -, rfl⟩ | ⟨rfl, -, rfl⟩ | ⟨call, old, new, ht⟩
  · rw [if_pos rfl, List.length_append, List.length_singleton]
  · rw [if_pos rfl, List.length_append, List.length_singleton]
  · have hne : a ≠ .call := fun he ↦ by
      have ho := ht.owner
      rw [he] at ho
      cases ho
    rw [if_neg hne, ht.calls, List.length_set, add_zero]

end Orchestrator

theorem CycleStage.Accounts.moves {n : Nat} {own : List CycleAction} {x : CycleStage} (h : x.Accounts n own)
    (hx : x ≠ .refused) : own.countP CycleAction.isMove + x.remaining = n + 2 := by
  cases x with
  | refused => exact absurd rfl hx
  | collecting pending counted => exact congrArg (· + 2) h.2.2
  | reported report => exact congrArg (· + 1) h.2.2
  | returned report => exact h.2.2

end MetricRelay
