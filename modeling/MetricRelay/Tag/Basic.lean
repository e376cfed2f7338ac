import MetricRelay.Text.Blank
import MetricRelay.Text.Cut

namespace MetricRelay

structure Tag where
  category : String
  value : String
deriving DecidableEq, Repr, Inhabited

namespace Tag

/-- By category, then by value, each in the order of their bytes. -/
def Precedes (a b : Tag) : Prop := a.category < b.category ∨ a.category = b.category ∧ a.value < b.value

instance : LT Tag := ⟨Precedes⟩

instance (a b : Tag) : Decidable (a < b) :=
  inferInstanceAs (Decidable (a.category < b.category ∨ a.category = b.category ∧ a.value < b.value))

theorem lt_irrefl (a : Tag) : ¬a < a := by
  rintro (h | ⟨-, h⟩) <;> exact String.lt_irrefl _ h

theorem lt_trans {a b c : Tag} (hab : a < b) (hbc : b < c) : a < c := by
  rcases hab with h | ⟨h, h'⟩ <;> rcases hbc with k | ⟨k, k'⟩
  · exact .inl (String.lt_trans h k)
  · exact .inl (k ▸ h)
  · exact .inl (h ▸ k)
  · exact .inr ⟨h.trans k, String.lt_trans h' k'⟩

theorem lt_or_lt_of_ne {a b : Tag} (h : a ≠ b) : a < b ∨ b < a := by
  obtain ⟨c, v⟩ := a
  obtain ⟨c', v'⟩ := b
  by_cases hc : c = c'
  · subst hc
    have hv : v ≠ v' := fun e ↦ h (by rw [e])
    by_cases hl : v < v'
    · exact .inl (.inr ⟨rfl, hl⟩)
    · by_cases hg : v' < v
      · exact .inr (.inr ⟨rfl, hg⟩)
      · exact absurd (String.le_antisymm (String.not_lt.mp hg) (String.not_lt.mp hl)) hv
  · by_cases hl : c < c'
    · exact .inl (.inl hl)
    · by_cases hg : c' < c
      · exact .inr (.inl hg)
      · exact absurd (String.le_antisymm (String.not_lt.mp hg) (String.not_lt.mp hl)) hc

def parse (raw : String) : Tag :=
  match Text.cut? ':' raw.toList with
  | some (category, value) => ⟨String.ofList category, String.ofList value⟩
  | none => ⟨raw, ""⟩

def text (t : Tag) : String := t.category ++ ":" ++ t.value

def size (t : Tag) : Nat := t.category.utf8ByteSize + t.value.utf8ByteSize

def isEmpty (t : Tag) : Bool := t.category = "" && t.value = ""

def insertSorted (t : Tag) : List Tag → List Tag
  | [] => [t]
  | u :: rest => if t < u then t :: u :: rest else if t = u then u :: rest else u :: insertSorted t rest

theorem mem_insertSorted {t u : Tag} {tags : List Tag} : u ∈ insertSorted t tags ↔ u = t ∨ u ∈ tags := by
  induction tags with
  | nil => simp [insertSorted]
  | cons v rest ih =>
    simp only [insertSorted]
    split
    · simp
    · split
      · rename_i h
        simp [h]
      · simp only [List.mem_cons, ih]
        constructor <;> rintro (h | h | h) <;> simp [h]

theorem pairwise_insertSorted (t : Tag) {tags : List Tag} (h : tags.Pairwise (· < ·)) :
    (insertSorted t tags).Pairwise (· < ·) := by
  induction tags with
  | nil => simp [insertSorted]
  | cons u rest ih =>
    obtain ⟨hu, hr⟩ := List.pairwise_cons.mp h
    simp only [insertSorted]
    split
    · rename_i htu
      refine List.pairwise_cons.mpr ⟨fun v hv ↦ ?_, h⟩
      rcases List.mem_cons.mp hv with rfl | hv
      · exact htu
      · exact lt_trans htu (hu v hv)
    · split
      · exact h
      · rename_i hn hne
        refine List.pairwise_cons.mpr ⟨fun v hv ↦ ?_, ih hr⟩
        rcases mem_insertSorted.mp hv with rfl | hv
        · exact (lt_or_lt_of_ne hne).resolve_left hn
        · exact hu v hv

end Tag

structure TagList where
  tags : List Tag
  sorted : tags.Pairwise (· < ·)
deriving DecidableEq

namespace TagList

def empty : TagList := ⟨[], .nil⟩

instance : Inhabited TagList := ⟨empty⟩

def insert (list : TagList) (t : Tag) : TagList := ⟨t.insertSorted list.tags, t.pairwise_insertSorted list.sorted⟩

def ofTags (tags : List Tag) : TagList := tags.foldr (fun t list ↦ list.insert t) empty

def ofRaw (raw : List String) : TagList := ofTags ((raw.filter (· ≠ "")).map Tag.parse)

/-- Reads tags separated by commas; white space around a tag does not count. -/
def ofDelimited (text : String) : TagList :=
  ofRaw ((Text.split ',' text.toList).map fun piece ↦ String.ofList (Text.trim piece))

def merged (a b : TagList) : TagList := ofTags (a.tags ++ b.tags)

def size (list : TagList) : Nat := list.tags.length

def isEmpty (list : TagList) : Bool := list.tags.isEmpty

theorem mem_insert {list : TagList} {t u : Tag} : u ∈ (list.insert t).tags ↔ u = t ∨ u ∈ list.tags :=
  Tag.mem_insertSorted

theorem mem_ofTags {tags : List Tag} {t : Tag} : t ∈ (ofTags tags).tags ↔ t ∈ tags := by
  induction tags with
  | nil => simp [ofTags, empty]
  | cons u rest ih =>
    have : t ∈ ((ofTags rest).insert u).tags ↔ t = u ∨ t ∈ rest := by rw [mem_insert, ih]
    simpa [ofTags] using this

end TagList
end MetricRelay
