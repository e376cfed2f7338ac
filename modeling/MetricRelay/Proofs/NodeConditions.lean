import Mathlib.Data.List.Induction
import Mathlib.Logic.Function.Basic
import MetricRelay.NodeConditions
import MetricRelay.Proofs.Insertions

namespace MetricRelay.NodeConditions

inductive Call
  | update (node condition status : String)
  | removeNode (node : String)
  | retainNodes (keep : String → Bool)

namespace Call

def run (cache : NodeConditions) : Call → NodeConditions
  | update node condition status => cache.update node condition status
  | removeNode node => cache.removeNode node
  | retainNodes keep => cache.retainNodes keep

/-- The call is about other nodes or conditions. -/
def Spares (node condition : String) : Call → Prop
  | update n c _ => n ≠ node ∨ c ≠ condition
  | removeNode n => n ≠ node
  | retainNodes keep => keep node = true

end Call

/-- The last update of the condition gave it this status, and its node has not been dropped since. -/
def Stands (node condition status : String) (calls : List Call) : Prop :=
  ∃ before after, calls = before ++ .update node condition status :: after ∧ ∀ call ∈ after, call.Spares node condition

def NoneBare (cache : NodeConditions) : Prop := ∀ entry ∈ cache.entries, entry.2.entries ≠ []

def Records (cache : NodeConditions) (node : String) : Prop :=
  ∃ condition status, cache.status? node condition = some status

variable {cache : NodeConditions} {call : Call} {calls : List Call} {node condition status : String}

/-- However it is made, an update looks a status up and writes the new one. -/
theorem record_eq (cache : NodeConditions) (node condition status : String) :
    cache.record node condition status = (cache.compare node condition status,
      OrderedMap.upsert cache node fun conditions ↦ (conditions.getD .empty).insert condition status) := by
  have hopened : status? (OrderedMap.upsert cache node fun conditions ↦ conditions.getD .empty) node condition =
      cache.status? node condition := by
    rw [status?, status?, OrderedMap.get?_upsert, if_pos rfl]
    cases OrderedMap.get? cache node <;> rfl
  have hwritten : OrderedMap.upsert (OrderedMap.upsert cache node fun conditions ↦ conditions.getD .empty) node
      (fun conditions ↦ (conditions.getD .empty).insert condition status) =
        OrderedMap.upsert cache node fun conditions ↦ (conditions.getD .empty).insert condition status :=
    OrderedMap.upsert_upsert cache node _ _
  rw [record, compare, hopened, hwritten]
  cases hstatus : cache.status? node condition with
  | none => rfl
  | some current =>
    by_cases hsame : current = status
    · subst hsame
      obtain ⟨conditions, hconditions, hcurrent⟩ := Option.bind_eq_some_iff.mp hstatus
      have hkept : (OrderedMap.upsert cache node fun conditions ↦ conditions.getD .empty) =
          OrderedMap.upsert cache node fun conditions ↦ (conditions.getD .empty).insert condition current := by
        apply OrderedMap.ext_get?
        · rw [OrderedMap.keys_upsert, OrderedMap.keys_upsert]
        · intro n
          rw [OrderedMap.get?_upsert, OrderedMap.get?_upsert, hconditions, Option.getD_some,
            OrderedMap.insert_of_get? hcurrent]
      simp [hkept]
    · simp [hsame]

theorem update_eq (cache : NodeConditions) (node condition status : String) :
    cache.update node condition status =
      OrderedMap.upsert cache node fun conditions ↦ (conditions.getD .empty).insert condition status := by
  rw [update, record_eq]

theorem status?_update (cache : NodeConditions) (n c s node condition : String) :
    (cache.update n c s).status? node condition =
      if n = node ∧ c = condition then some s else cache.status? node condition := by
  rw [status?, update_eq, OrderedMap.get?_upsert]
  by_cases hn : n = node
  · subst hn
    rw [if_pos rfl, Option.bind_some, OrderedMap.get?_insert]
    by_cases hc : c = condition
    · simp [hc]
    · rw [if_neg hc, if_neg fun h ↦ hc h.2, status?]
      cases OrderedMap.get? cache n <;> rfl
  · rw [if_neg hn, if_neg fun h ↦ hn h.1, status?]

theorem status?_removeNode (cache : NodeConditions) (n node condition : String) :
    (cache.removeNode n).status? node condition = if node = n then none else cache.status? node condition := by
  rw [status?, removeNode, forget, OrderedMap.get?_erase]
  split
  · rfl
  · rw [status?]

theorem status?_retainNodes (cache : NodeConditions) (keep : String → Bool) (node condition : String) :
    (cache.retainNodes keep).status? node condition = if keep node then cache.status? node condition else none := by
  rw [status?, retainNodes, OrderedMap.get?_filter]
  split
  · rw [status?]
  · rfl

theorem status?_run_of_spares (h : call.Spares node condition) :
    (call.run cache).status? node condition = cache.status? node condition := by
  cases call with
  | update n c s =>
    have hother : ¬(n = node ∧ c = condition) := by
      rintro ⟨hn, hc⟩
      rcases h with h | h
      · exact h hn
      · exact h hc
    rw [Call.run, status?_update, if_neg hother]
  | removeNode n => rw [Call.run, status?_removeNode, if_neg (Ne.symm h)]
  | retainNodes keep =>
    have hkeep : keep node = true := h
    rw [Call.run, status?_retainNodes, if_pos hkeep]

theorem status?_run :
    (call.run cache).status? node condition = some status ↔
      call = .update node condition status ∨ call.Spares node condition ∧ cache.status? node condition = some status := by
  by_cases hs : call.Spares node condition
  · have hne : call ≠ .update node condition status := by
      rintro rfl
      simp [Call.Spares] at hs
    simp [status?_run_of_spares hs, hs, hne]
  · simp only [hs, false_and, or_false]
    cases call with
    | update n c s =>
      simp only [Call.Spares, not_or, Decidable.not_not] at hs
      obtain ⟨rfl, rfl⟩ := hs
      simp [Call.run, status?_update]
    | removeNode n =>
      simp only [Call.Spares, Decidable.not_not] at hs
      simp [Call.run, status?_removeNode, hs]
    | retainNodes keep =>
      simp only [Call.Spares] at hs
      simp [Call.run, status?_retainNodes, hs]

theorem stands_concat :
    Stands node condition status (calls ++ [call]) ↔
      call = .update node condition status ∨ call.Spares node condition ∧ Stands node condition status calls := by
  constructor
  · rintro ⟨before, after, he, hspares⟩
    -- the update is the last call, or the last call comes after it
    cases after using List.reverseRecOn with
    | nil =>
      obtain ⟨-, hcall⟩ := List.append_inj' he rfl
      exact .inl (List.singleton_inj.mp hcall)
    | append_singleton after last =>
      rw [← List.cons_append, ← List.append_assoc] at he
      obtain ⟨rfl, hcall⟩ := List.append_inj' he rfl
      cases hcall
      refine .inr ⟨hspares call (by simp), before, after, rfl, ?_⟩
      intro other hother
      exact hspares other (List.mem_append_left _ hother)
  · rintro (rfl | ⟨hcall, before, after, rfl, hspares⟩)
    · exact ⟨calls, [], rfl, by simp⟩
    · refine ⟨before, after ++ [call], by simp, ?_⟩
      intro other hother
      rcases List.mem_append.mp hother with hother | hother
      · exact hspares other hother
      · rwa [List.mem_singleton.mp hother]

theorem NoneBare.run (h : NoneBare cache) (call : Call) : NoneBare (call.run cache) := by
  intro entry hentry
  cases call with
  | update n c s =>
    rw [Call.run, update_eq] at hentry
    rcases Entries.mem_upsert hentry with hold | ⟨present, rfl⟩
    · exact h entry hold
    · intro hnone
      have hkeys := OrderedMap.keys_upsert (present.getD .empty) c fun _ ↦ s
      have hempty : ((present.getD .empty).upsert c fun _ ↦ s).keys = [] := by
        rw [OrderedMap.keys]
        exact List.map_eq_nil_iff.mpr hnone
      rw [hempty] at hkeys
      split at hkeys
      · next hmem => simp [← hkeys] at hmem
      · simp at hkeys
  | removeNode n => exact h entry (List.mem_filter.mp hentry).1
  | retainNodes keep => exact h entry (List.mem_filter.mp hentry).1

theorem status?_foldl_run :
    (calls.foldl Call.run .empty).status? node condition = some status ↔ Stands node condition status calls := by
  induction calls using List.reverseRecOn with
  | nil => simp [status?, OrderedMap.get?, Entries.get?, OrderedMap.empty, Stands]
  | append_singleton calls call ih => rw [List.foldl_concat, status?_run, ih, stands_concat]

theorem noneBare_foldl_run (calls : List Call) : NoneBare (calls.foldl Call.run .empty) := by
  induction calls using List.reverseRecOn with
  | nil => simp [NoneBare, OrderedMap.empty]
  | append_singleton calls call ih =>
    rw [List.foldl_concat]
    exact ih.run call

theorem NoneBare.mem_keys_iff (h : NoneBare cache) : node ∈ OrderedMap.keys cache ↔ cache.Records node := by
  constructor
  · intro hnode
    obtain ⟨⟨n, conditions⟩, hentry, rfl⟩ := List.mem_map.mp hnode
    obtain ⟨⟨condition, status⟩, hfirst⟩ := List.exists_mem_of_ne_nil _ (h _ hentry)
    have hconditions : OrderedMap.get? cache n = some conditions := Entries.get?_of_mem cache.nodup hentry
    have hstatus : conditions.get? condition = some status := Entries.get?_of_mem conditions.nodup hfirst
    exact ⟨condition, status, by rw [status?, hconditions, Option.bind_some, hstatus]⟩
  · rintro ⟨condition, status, hstatus⟩
    obtain ⟨conditions, hconditions, -⟩ := Option.bind_eq_some_iff.mp hstatus
    refine OrderedMap.contains_iff.mp ?_
    rw [OrderedMap.contains, hconditions]
    rfl

/-- A handle on a cache. The handles on one cache are clones of one another. -/
structure Handle where
  cache : Nat
  clone : Nat

def Handle.make (caches : Nat → NodeConditions) (made : Handle × Call) : Nat → NodeConditions :=
  Function.update caches made.1.cache (made.2.run (caches made.1.cache))

def callsOn (cache : Nat) (made : List (Handle × Call)) : List Call :=
  (made.filter fun entry ↦ entry.1.cache = cache).map Prod.snd

def cachesAfter (made : List (Handle × Call)) : Nat → NodeConditions := made.foldl Handle.make fun _ ↦ .empty

theorem cachesAfter_eq (made : List (Handle × Call)) (cache : Nat) :
    cachesAfter made cache = (callsOn cache made).foldl Call.run .empty := by
  induction made using List.reverseRecOn with
  | nil => rfl
  | append_singleton made last ih =>
    rw [cachesAfter, List.foldl_concat, ← cachesAfter, Handle.make, callsOn, List.filter_append, List.map_append,
      List.foldl_append, ← callsOn, ← ih]
    by_cases h : last.1.cache = cache
    · subst h
      simp
    · simp [h, Function.update_of_ne (Ne.symm h)]

/-- After any calls through any handles, a condition has the status of its last update unless its node has been dropped
since, and an update answers how its status compares with that. A node is there, and its removal answers so, exactly if
a condition of it is recorded, and those nodes are counted. A call that spares a condition, or goes to another cache,
leaves its status alone. -/
theorem cachesAfter_status (made : List (Handle × Call)) (h : Handle) :
    let cache := cachesAfter made h.cache
    (∀ node condition status, cache.status? node condition = some status ↔
      Stands node condition status (callsOn h.cache made)) ∧
    (∀ node condition status, ∃ answer,
      cache.record node condition status = (answer, (Call.update node condition status).run cache) ∧
      (answer = .new ↔ cache.status? node condition = none) ∧
      (answer = .unchanged ↔ cache.status? node condition = some status) ∧
      ∀ previous, answer = .changed previous ↔ cache.status? node condition = some previous ∧ previous ≠ status) ∧
    (∀ node, OrderedMap.contains cache node = true ↔ cache.Records node) ∧
    (∀ node, ∃ answer, cache.forget node = (answer, (Call.removeNode node).run cache) ∧
      (answer = true ↔ cache.Records node)) ∧
    (∀ (other : Handle) (call : Call) (node condition : String),
      other.cache ≠ h.cache ∨ call.Spares node condition →
        (cachesAfter (made ++ [(other, call)]) h.cache).status? node condition = cache.status? node condition) ∧
    cache.NoneBare ∧
    (∃ nodes : List String, nodes.Nodup ∧ (∀ node, node ∈ nodes ↔ cache.Records node) ∧ cache.size = nodes.length) ∧
    (cache.isEmpty = true ↔ cache.size = 0) := by
  intro cache
  have hcache : cache = (callsOn h.cache made).foldl Call.run .empty := cachesAfter_eq made h.cache
  have hbare : cache.NoneBare := by
    rw [hcache]
    exact noneBare_foldl_run _
  have hpresent : ∀ node, OrderedMap.contains cache node = true ↔ cache.Records node := by
    intro node
    rw [OrderedMap.contains_iff]
    exact hbare.mem_keys_iff
  refine ⟨?_, ?_, hpresent, fun node ↦ ⟨_, rfl, hpresent node⟩, ?_, hbare, ?_, ?_⟩
  · intro node condition status
    rw [hcache]
    exact status?_foldl_run
  · intro node condition status
    refine ⟨cache.compare node condition status, ?_, ?_⟩
    · rw [record_eq, Call.run, update_eq]
    rw [compare]
    cases cache.status? node condition with
    | none => simp
    | some previous => by_cases hp : previous = status <;> simp [hp]
  · intro other call node condition hother
    rw [cachesAfter, List.foldl_concat, ← cachesAfter, Handle.make]
    rcases hother with hother | hspares
    · rw [Function.update_of_ne (Ne.symm hother)]
    · by_cases hsame : h.cache = other.cache
      · rw [← hsame, Function.update_self]
        exact status?_run_of_spares hspares
      · rw [Function.update_of_ne hsame]
  · refine ⟨OrderedMap.keys cache, cache.nodup, fun node ↦ hbare.mem_keys_iff, ?_⟩
    rw [OrderedMap.keys, List.length_map]
    rfl
  · rw [OrderedMap.isEmpty, OrderedMap.size, List.isEmpty_iff, List.length_eq_zero_iff]

/-- Two clones change one cache, and what a third handle does to another cache is not seen there. -/
theorem cachesAfter_status_clones :
    let made : List (Handle × Call) :=
      [(⟨0, 0⟩, .update "a" "Ready" "True"), (⟨0, 1⟩, .update "a" "Ready" "False"), (⟨1, 0⟩, .removeNode "a"),
        (⟨0, 1⟩, .update "b" "Ready" "True"), (⟨0, 0⟩, .retainNodes fun node ↦ node ≠ "b")]
    let cache := cachesAfter made 0
    cache.status? "a" "Ready" = some "False" ∧ cache.size = 1 ∧ (Call.removeNode "b").Spares "a" "Ready" ∧
      (cachesAfter (made ++ [(⟨0, 1⟩, .removeNode "b")]) 0).status? "a" "Ready" = some "False" := by
  intro made cache
  have hstatus : cache.status? "a" "Ready" = some "False" := by decide
  have hspares : (Call.removeNode "b").Spares "a" "Ready" := show "b" ≠ "a" by decide
  obtain ⟨-, -, -, -, hframe, -⟩ := cachesAfter_status made ⟨0, 0⟩
  have hkept := hframe ⟨0, 1⟩ (.removeNode "b") "a" "Ready" (.inr hspares)
  exact ⟨hstatus, by decide, hspares, hkept.trans hstatus⟩

end MetricRelay.NodeConditions
