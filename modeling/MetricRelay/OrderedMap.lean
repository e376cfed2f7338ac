namespace MetricRelay

variable {κ α : Type}

namespace Entries

def get? [DecidableEq κ] (key : κ) (entries : List (κ × α)) : Option α :=
  (entries.find? fun entry ↦ entry.1 = key).map Prod.snd

/-- Gives `key` the value `f` makes of its present one, at its present place or else at the end. -/
def upsert [DecidableEq κ] (key : κ) (f : Option α → α) : List (κ × α) → List (κ × α)
  | [] => [(key, f none)]
  | (k, a) :: rest => if k = key then (k, f (some a)) :: rest else (k, a) :: upsert key f rest

theorem map_fst_upsert [DecidableEq κ] (key : κ) (f : Option α → α) (entries : List (κ × α)) :
    (upsert key f entries).map Prod.fst =
      if key ∈ entries.map Prod.fst then entries.map Prod.fst else entries.map Prod.fst ++ [key] := by
  induction entries with
  | nil => rfl
  | cons entry rest ih =>
    obtain ⟨k, a⟩ := entry
    by_cases h : k = key
    · simp [upsert, h]
    · have h' : key ≠ k := fun e ↦ h e.symm
      by_cases hm : key ∈ rest.map Prod.fst
      · simp only [upsert, if_neg h, List.map_cons, ih, List.mem_cons, hm, or_true, if_true]
      · simp only [upsert, if_neg h, List.map_cons, ih, List.mem_cons, hm, h', or_self, if_false,
          List.cons_append]

theorem nodup_upsert [DecidableEq κ] (key : κ) (f : Option α → α) {entries : List (κ × α)}
    (h : (entries.map Prod.fst).Nodup) : ((upsert key f entries).map Prod.fst).Nodup := by
  rw [map_fst_upsert]
  split
  · exact h
  · rename_i hm
    refine List.nodup_append.mpr ⟨h, by simp, ?_⟩
    intro a ha b hb
    simp only [List.mem_singleton] at hb
    exact fun e ↦ hm (by rw [← hb, ← e]; exact ha)

theorem get?_upsert [DecidableEq κ] (key k : κ) (f : Option α → α) (entries : List (κ × α)) :
    get? k (upsert key f entries) = if key = k then some (f (get? key entries)) else get? k entries := by
  induction entries with
  | nil => by_cases h : key = k <;> simp [get?, upsert, h]
  | cons entry rest ih =>
    obtain ⟨j, a⟩ := entry
    by_cases hj : j = key
    · by_cases h : key = k
      · simp [get?, upsert, hj, h]
      · simp [get?, upsert, hj, h]
    · rw [upsert, if_neg hj]
      by_cases h : j = k
      · have : key ≠ k := fun e ↦ hj (h.trans e.symm)
        simp [get?, h, this]
      · simpa [get?, h, hj] using ih

theorem get?_eq_none_iff [DecidableEq κ] {key : κ} {entries : List (κ × α)} :
    get? key entries = none ↔ key ∉ entries.map Prod.fst := by
  induction entries with
  | nil => simp [get?]
  | cons entry rest ih =>
    by_cases h : entry.1 = key
    · simp [get?, h]
    · have h' : key ≠ entry.1 := fun e ↦ h e.symm
      simpa [get?, h, h'] using ih

theorem get?_append [DecidableEq κ] {key : κ} {front : List (κ × α)} (h : key ∉ front.map Prod.fst)
    (rest : List (κ × α)) : get? key (front ++ rest) = get? key rest := by
  induction front with
  | nil => rfl
  | cons entry front ih =>
    simp only [List.map_cons, List.mem_cons, not_or] at h
    simpa [get?, Ne.symm h.1] using ih h.2

theorem upsert_append [DecidableEq κ] {key : κ} {front : List (κ × α)} (h : key ∉ front.map Prod.fst)
    (f : Option α → α) (rest : List (κ × α)) : upsert key f (front ++ rest) = front ++ upsert key f rest := by
  induction front with
  | nil => rfl
  | cons entry front ih =>
    simp only [List.map_cons, List.mem_cons, not_or] at h
    rw [List.cons_append, upsert, if_neg (Ne.symm h.1), ih h.2, List.cons_append]

theorem get?_filter [DecidableEq κ] (p : κ → Bool) (key : κ) (entries : List (κ × α)) :
    get? key (entries.filter fun entry ↦ p entry.1) = if p key then get? key entries else none := by
  induction entries with
  | nil => simp [get?]
  | cons entry rest ih =>
    obtain ⟨k, a⟩ := entry
    by_cases h : k = key
    · subst h
      by_cases hp : p k
      · simp [get?, hp]
      · simpa [hp] using ih
    · by_cases hp : p k
      · simpa [get?, h, hp] using ih
      · simpa [get?, h, hp] using ih

end Entries

/-- Entries in insertion order, each key once. -/
structure OrderedMap (κ α : Type) where
  entries : List (κ × α)
  nodup : (entries.map Prod.fst).Nodup

namespace OrderedMap

def empty : OrderedMap κ α := ⟨[], List.nodup_nil⟩

instance : Inhabited (OrderedMap κ α) := ⟨empty⟩

def keys (m : OrderedMap κ α) : List κ := m.entries.map Prod.fst

def values (m : OrderedMap κ α) : List α := m.entries.map Prod.snd

def size (m : OrderedMap κ α) : Nat := m.entries.length

def isEmpty (m : OrderedMap κ α) : Bool := m.entries.isEmpty

def filter (p : κ → α → Bool) (m : OrderedMap κ α) : OrderedMap κ α :=
  ⟨m.entries.filter fun entry ↦ p entry.1 entry.2, m.nodup.sublist (List.filter_sublist.map Prod.fst)⟩

variable [DecidableEq κ]

def get? (m : OrderedMap κ α) (key : κ) : Option α := Entries.get? key m.entries

def contains (m : OrderedMap κ α) (key : κ) : Bool := (m.get? key).isSome

def upsert (m : OrderedMap κ α) (key : κ) (f : Option α → α) : OrderedMap κ α :=
  ⟨Entries.upsert key f m.entries, Entries.nodup_upsert key f m.nodup⟩

def insert (m : OrderedMap κ α) (key : κ) (a : α) : OrderedMap κ α := m.upsert key fun _ ↦ a

def erase (m : OrderedMap κ α) (key : κ) : OrderedMap κ α := m.filter fun k _ ↦ k ≠ key

theorem keys_upsert (m : OrderedMap κ α) (key : κ) (f : Option α → α) :
    (m.upsert key f).keys = if key ∈ m.keys then m.keys else m.keys ++ [key] :=
  Entries.map_fst_upsert key f m.entries

theorem get?_upsert (m : OrderedMap κ α) (key k : κ) (f : Option α → α) :
    (m.upsert key f).get? k = if key = k then some (f (m.get? key)) else m.get? k :=
  Entries.get?_upsert key k f m.entries

theorem get?_insert (m : OrderedMap κ α) (key k : κ) (a : α) :
    (m.insert key a).get? k = if key = k then some a else m.get? k :=
  get?_upsert m key k fun _ ↦ a

theorem get?_filter (p : κ → Bool) (m : OrderedMap κ α) (key : κ) :
    (m.filter fun k _ ↦ p k).get? key = if p key then m.get? key else none :=
  Entries.get?_filter p key m.entries

theorem get?_erase (m : OrderedMap κ α) (key k : κ) :
    (m.erase key).get? k = if k = key then none else m.get? k := by
  rw [erase, get?_filter fun k ↦ decide (k ≠ key)]
  by_cases h : k = key <;> simp [h]

end OrderedMap
end MetricRelay
