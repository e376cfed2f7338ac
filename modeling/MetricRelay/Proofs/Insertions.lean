import Mathlib.Data.List.Basic
import MetricRelay.OrderedMap

namespace MetricRelay

variable {κ α : Type} [DecidableEq κ]

theorem Entries.filter_upsert (p : κ → Bool) (key : κ) (f : Option α → α) (entries : List (κ × α)) :
    (upsert key f entries).filter (fun entry ↦ p entry.1) =
      if p key then upsert key f (entries.filter fun entry ↦ p entry.1)
      else entries.filter fun entry ↦ p entry.1 := by
  induction entries with
  | nil => by_cases hp : p key <;> simp [upsert, hp]
  | cons entry rest ih =>
    obtain ⟨k, a⟩ := entry
    by_cases hk : k = key
    · subst hk
      by_cases hp : p k <;> simp [upsert, hp]
    · rw [upsert, if_neg hk, List.filter_cons, ih, List.filter_cons]
      by_cases hp : p key <;> by_cases hpk : p k <;> simp [upsert, hp, hpk, hk]

theorem Entries.mem_upsert {key : κ} {f : Option α → α} {entries : List (κ × α)} {entry : κ × α}
    (h : entry ∈ upsert key f entries) : entry ∈ entries ∨ ∃ present, entry = (key, f present) := by
  induction entries with
  | nil => exact .inr ⟨none, List.mem_singleton.mp h⟩
  | cons first rest ih =>
    rw [upsert] at h
    split at h
    · next hk =>
      rcases List.mem_cons.mp h with rfl | h
      · exact .inr ⟨some first.2, by rw [← hk]⟩
      · exact .inl (List.mem_cons_of_mem _ h)
    · rcases List.mem_cons.mp h with rfl | h
      · exact .inl List.mem_cons_self
      · exact (ih h).imp_left (List.mem_cons_of_mem _)

theorem Entries.exists_mem_upsert (key : κ) (f : Option α → α) (entries : List (κ × α)) :
    ∃ present, (key, f present) ∈ upsert key f entries := by
  induction entries with
  | nil => exact ⟨none, List.mem_singleton_self _⟩
  | cons first rest ih =>
    rw [upsert]
    split
    · next hk =>
      rw [hk]
      exact ⟨some first.2, List.mem_cons_self⟩
    · exact ih.imp fun _ ↦ List.mem_cons_of_mem _

theorem Entries.get?_of_mem {entries : List (κ × α)} (hn : (entries.map Prod.fst).Nodup) {entry : κ × α}
    (h : entry ∈ entries) : get? entry.1 entries = some entry.2 := by
  induction entries with
  | nil => cases h
  | cons first rest ih =>
    rw [List.map_cons, List.nodup_cons] at hn
    rcases List.mem_cons.mp h with rfl | h
    · simp [get?]
    · have hne : first.1 ≠ entry.1 := by
        intro he
        apply hn.1
        rw [he]
        exact List.mem_map_of_mem h
      simpa [get?, hne] using ih hn.2 h

namespace OrderedMap

omit [DecidableEq κ] in
theorem ext_entries {m n : OrderedMap κ α} (h : m.entries = n.entries) : m = n := by
  cases m
  cases n
  cases h
  rfl

theorem get?_eq_some_iff {m : OrderedMap κ α} {key : κ} {a : α} : m.get? key = some a ↔ (key, a) ∈ m.entries := by
  constructor
  · intro h
    obtain ⟨entry, he, rfl⟩ := Option.map_eq_some_iff.mp h
    have hkey : entry.1 = key := by simpa using List.find?_some he
    rw [← hkey]
    exact List.mem_of_find?_eq_some he
  · exact fun h ↦ Entries.get?_of_mem m.nodup h

theorem entries_eq_map_keys (m : OrderedMap κ α) :
    m.entries.map (fun entry ↦ (entry.1, some entry.2)) = m.keys.map fun key ↦ (key, m.get? key) := by
  rw [keys, List.map_map]
  apply List.map_congr_left
  intro entry hentry
  have hget : m.get? entry.1 = some entry.2 := Entries.get?_of_mem m.nodup hentry
  rw [Function.comp_apply, hget]

theorem ext_get? {m n : OrderedMap κ α} (hk : m.keys = n.keys) (hg : ∀ key, m.get? key = n.get? key) : m = n := by
  have hentries := entries_eq_map_keys m
  rw [hk, funext hg, ← entries_eq_map_keys n] at hentries
  have hinjective : Function.Injective fun entry : κ × α ↦ (entry.1, some entry.2) := by
    intro a b hab
    simpa [Prod.ext_iff] using hab
  exact ext_entries (hinjective.list_map hentries)

theorem upsert_upsert (m : OrderedMap κ α) (key : κ) (f g : Option α → α) :
    (m.upsert key f).upsert key g = m.upsert key fun present ↦ g (some (f present)) := by
  apply ext_get?
  · simp only [keys_upsert]
    by_cases h : key ∈ m.keys <;> simp [h]
  · intro k
    simp only [get?_upsert]
    by_cases h : key = k <;> simp [h]

theorem contains_iff {m : OrderedMap κ α} {key : κ} : m.contains key = true ↔ key ∈ m.entries.map Prod.fst := by
  have hnone : Entries.get? key m.entries = none ↔ key ∉ m.entries.map Prod.fst := Entries.get?_eq_none_iff
  rw [contains, get?, Option.isSome_iff_ne_none, ne_eq, hnone, Decidable.not_not]

theorem insert_of_get? {m : OrderedMap κ α} {key : κ} {a : α} (h : m.get? key = some a) : m.insert key a = m := by
  have hmem : key ∈ m.keys := by
    apply contains_iff.mp
    rw [contains, h]
    rfl
  apply ext_get?
  · rw [insert, keys_upsert, if_pos hmem]
  · intro k
    rw [get?_insert]
    split
    · next hk => rw [← hk, h]
    · rfl

theorem size_insert (m : OrderedMap κ α) (key : κ) (a : α) :
    (m.insert key a).size + (m.contains key).toNat = m.size + 1 := by
  have hkeys := congrArg List.length (Entries.map_fst_upsert key (fun _ ↦ a) m.entries)
  rw [List.length_map, apply_ite List.length, List.length_append, List.length_map] at hkeys
  have hsize : (m.insert key a).size = (Entries.upsert key (fun _ ↦ a) m.entries).length := rfl
  rw [hsize, hkeys]
  by_cases hc : m.contains key = true
  · rw [if_pos (contains_iff.mp hc), hc]
    rfl
  · rw [if_neg (fun h ↦ hc (contains_iff.mpr h)), Bool.eq_false_iff.mpr hc]
    rfl

theorem filter_insert (p : κ → Bool) (m : OrderedMap κ α) (key : κ) (a : α) :
    (m.insert key a).filter (fun k _ ↦ p k) =
      if p key then (m.filter fun k _ ↦ p k).insert key a else m.filter fun k _ ↦ p k := by
  have hentries := Entries.filter_upsert p key (fun _ ↦ a) m.entries
  by_cases hp : p key
  · rw [if_pos hp] at hentries ⊢
    exact ext_entries hentries
  · rw [if_neg hp] at hentries ⊢
    exact ext_entries hentries

def insertAll (m : OrderedMap κ α) (items : List (κ × α)) : OrderedMap κ α :=
  items.foldl (fun m item ↦ m.insert item.1 item.2) m

/-- How many of these insertions replace an entry. -/
def replacements (m : OrderedMap κ α) : List (κ × α) → Nat
  | [] => 0
  | item :: rest => (m.contains item.1).toNat + (m.insert item.1 item.2).replacements rest

theorem insertAll_append (m : OrderedMap κ α) (first second : List (κ × α)) :
    m.insertAll (first ++ second) = (m.insertAll first).insertAll second := List.foldl_append

theorem size_insertAll (m : OrderedMap κ α) (items : List (κ × α)) :
    (m.insertAll items).size + m.replacements items = m.size + items.length := by
  induction items generalizing m with
  | nil => rfl
  | cons item rest ih =>
    have hinsert := size_insert m item.1 item.2
    have hrest := ih (m.insert item.1 item.2)
    have hall : m.insertAll (item :: rest) = (m.insert item.1 item.2).insertAll rest := rfl
    rw [hall, replacements, List.length_cons]
    omega

theorem keys_insertAll (m : OrderedMap κ α) (items : List (κ × α)) :
    (m.insertAll items).keys = m.keys ++ ((items.map Prod.fst).filter fun key ↦ key ∉ m.keys).eraseDups := by
  induction items generalizing m with
  | nil => simp [insertAll]
  | cons item rest ih =>
    have hall : m.insertAll (item :: rest) = (m.insert item.1 item.2).insertAll rest := rfl
    have hkeys : (m.insert item.1 item.2).keys = if item.1 ∈ m.keys then m.keys else m.keys ++ [item.1] :=
      keys_upsert m item.1 _
    rw [hall, ih, hkeys, List.map_cons, List.filter_cons]
    by_cases hm : item.1 ∈ m.keys
    · simp [hm]
    · have hbeq (key : κ) : (key == item.1) = decide (key = item.1) := rfl
      simp [hm, List.eraseDups_cons, List.filter_filter, and_comm, hbeq]

theorem keys_insertAll_empty (items : List (κ × α)) :
    (empty.insertAll items).keys = (items.map Prod.fst).eraseDups := by
  have hkeys := keys_insertAll (empty : OrderedMap κ α) items
  have hnone : (empty : OrderedMap κ α).keys = [] := rfl
  rw [hkeys, hnone, List.nil_append, List.filter_eq_self.mpr (fun _ _ ↦ decide_eq_true List.not_mem_nil)]

theorem mem_of_mem_insertAll {m : OrderedMap κ α} {items : List (κ × α)} {entry : κ × α}
    (h : entry ∈ (m.insertAll items).entries) : entry ∈ m.entries ∨ entry ∈ items := by
  induction items generalizing m with
  | nil => exact .inl h
  | cons item rest ih =>
    rcases ih h with hinsert | hrest
    · rcases Entries.mem_upsert hinsert with hold | ⟨-, rfl⟩
      · exact .inl hold
      · exact .inr List.mem_cons_self
    · exact .inr (List.mem_cons_of_mem _ hrest)

/-- The last insertion under a key counts. -/
theorem get?_insertAll (m : OrderedMap κ α) (items : List (κ × α)) (key : κ) :
    (m.insertAll items).get? key = (Entries.get? key items.reverse).or (m.get? key) := by
  induction items generalizing m with
  | nil => rfl
  | cons item rest ih =>
    have hall : m.insertAll (item :: rest) = (m.insert item.1 item.2).insertAll rest := rfl
    have hlast : Entries.get? key (rest.reverse ++ [item]) =
        (Entries.get? key rest.reverse).or (if item.1 = key then some item.2 else none) := by
      rw [Entries.get?, List.find?_append, Option.map_or]
      by_cases hk : item.1 = key <;> simp [Entries.get?, hk]
    rw [hall, ih, get?_insert, List.reverse_cons, hlast, Option.or_assoc]
    split <;> rfl

theorem get?_insertAll_empty (items : List (κ × α)) (key : κ) :
    (empty.insertAll items).get? key = Entries.get? key items.reverse := by
  rw [get?_insertAll]
  exact Option.or_none

theorem mem_keys_insertAll (m : OrderedMap κ α) {items : List (κ × α)} {item : κ × α} (h : item ∈ items) :
    item.1 ∈ (m.insertAll items).keys := by
  rw [keys_insertAll]
  by_cases hm : item.1 ∈ m.keys
  · exact List.mem_append_left _ hm
  · apply List.mem_append_right
    rw [List.mem_eraseDups, List.mem_filter]
    exact ⟨List.mem_map_of_mem h, by simpa using hm⟩

/-- The keys are all there, so nothing new is appended, and the last insertion under each is the one already made. -/
theorem insertAll_insertAll (m : OrderedMap κ α) (items : List (κ × α)) :
    (m.insertAll items).insertAll items = m.insertAll items := by
  apply ext_get?
  · have hnone : (items.map Prod.fst).filter (fun key ↦ key ∉ (m.insertAll items).keys) = [] := by
      simp only [List.filter_eq_nil_iff, List.forall_mem_map, decide_eq_true_eq, Decidable.not_not]
      exact fun item hitem ↦ mem_keys_insertAll m hitem
    rw [keys_insertAll, hnone]
    simp
  · intro key
    rw [get?_insertAll, get?_insertAll, ← Option.or_assoc, Option.or_self]

theorem filter_insertAll (p : κ → Bool) (m : OrderedMap κ α) (items : List (κ × α)) :
    (m.insertAll items).filter (fun k _ ↦ p k) =
      (m.filter fun k _ ↦ p k).insertAll (items.filter fun item ↦ p item.1) := by
  induction items generalizing m with
  | nil => rfl
  | cons item rest ih =>
    have hall : m.insertAll (item :: rest) = (m.insert item.1 item.2).insertAll rest := rfl
    rw [hall, ih, filter_insert, List.filter_cons]
    by_cases hp : p item.1
    · rw [if_pos hp, if_pos hp]
      rfl
    · rw [if_neg hp, if_neg hp]

end OrderedMap
end MetricRelay
