import MetricRelay.Proofs.Tag.Building
import MetricRelay.Proofs.Tag.Encoded
import MetricRelay.Proofs.Text.Utf8

namespace MetricRelay

/-- The tag a raw text stands for: the first colon ends its category, and without one all of the text is category. -/
def Tag.ReadFrom (raw : String) (t : Tag) : Prop :=
  ':' ∉ t.category.toList ∧ (raw = t.text ∨ raw = t.category ∧ t.value = "")

theorem readFrom_parse (raw : String) : Tag.ReadFrom raw (Tag.parse raw) := by
  by_cases h : ':' ∈ raw.toList
  · obtain ⟨category, value, hraw, hcategory⟩ := List.eq_append_cons_of_mem h
    have hparse : Tag.parse raw = ⟨String.ofList category, String.ofList value⟩ := by
      rw [Tag.parse, hraw, Text.cut?_append hcategory]
    rw [hparse]
    refine ⟨by simpa using hcategory, .inl ?_⟩
    apply String.toList_inj.mp
    simp [Tag.text, hraw]
  · have hparse : Tag.parse raw = ⟨raw, ""⟩ := by rw [Tag.parse, Text.cut?_of_not_mem h]
    rw [hparse]
    exact ⟨h, .inr ⟨rfl, rfl⟩⟩

theorem parse_eq_iff {raw : String} {t : Tag} : Tag.parse raw = t ↔ Tag.ReadFrom raw t := by
  refine ⟨fun h ↦ h ▸ readFrom_parse raw, ?_⟩
  rintro ⟨hcolon, rfl | ⟨rfl, hv⟩⟩
  · exact parse_text hcolon
  · rw [Tag.parse, Text.cut?_of_not_mem hcolon, ← hv]

namespace TagList

variable {a b : TagList} {t : Tag}

theorem mem_merged : t ∈ (a.merged b).tags ↔ t ∈ a.tags ∨ t ∈ b.tags := by
  rw [merged, mem_ofTags, List.mem_append]

theorem mem_ofRaw {raws : List String} : t ∈ (ofRaw raws).tags ↔ ∃ raw ∈ raws, raw ≠ "" ∧ Tag.ReadFrom raw t := by
  simp only [ofRaw, mem_ofTags, List.mem_map, List.mem_filter, decide_eq_true_eq, parse_eq_iff, and_assoc]

theorem mem_ofDelimited {text : String} :
    t ∈ (ofDelimited text).tags ↔
      ∃ piece ∈ Text.split ',' text.toList,
        Text.trim piece ≠ [] ∧ Tag.ReadFrom (String.ofList (Text.trim piece)) t := by
  simp [ofDelimited, mem_ofRaw]

inductive Build
  | new
  | ofSets (sets : List (List String))
  | ofDelimited (text : String)
  | ofTags (tags : List Tag)
  | collect (front : List Tag) (list : Build)
  | insert (list : Build) (t : Tag)
  | insertRaw (list : Build) (raw : String)
  | merged (a b : Build)

namespace Build

def list : Build → TagList
  | new => .empty
  | ofSets sets => .ofRaw sets.flatten
  | ofDelimited text => .ofDelimited text
  | ofTags tags => .ofTags tags
  | collect front list => .ofTags (front ++ list.list.tags)
  | insert list t => list.list.insert t
  | insertRaw list raw => list.list.insert (Tag.parse raw)
  | merged a b => a.list.merged b.list

/-- The same with every list kept ascending by sorting it and by searching it. -/
def vector : Build → List Tag
  | new => []
  | ofSets sets => Tag.sortOnce ((sets.flatten.filter (· ≠ "")).map Tag.parse)
  | ofDelimited text =>
    let pieces := (Text.split ',' text.toList).map fun piece ↦ String.ofList (Text.trim piece)
    Tag.sortOnce ((pieces.filter (· ≠ "")).map Tag.parse)
  | ofTags tags => Tag.sortOnce tags
  | collect front list => Tag.sortOnce (front ++ list.vector)
  | insert list t => t.insertSearched list.vector
  | insertRaw list raw => (Tag.parse raw).insertSearched list.vector
  | merged a b => Tag.sortOnce (a.vector ++ b.vector)

/-- The tags put in. An empty raw text is none in a set or between commas, and a tag with no category elsewhere. -/
def Holds : Build → Tag → Prop
  | new, _ => False
  | ofSets sets, t => ∃ raws ∈ sets, ∃ raw ∈ raws, raw ≠ "" ∧ Tag.ReadFrom raw t
  | ofDelimited text, t =>
    ∃ piece ∈ Text.split ',' text.toList, Text.trim piece ≠ [] ∧ Tag.ReadFrom (String.ofList (Text.trim piece)) t
  | ofTags tags, t => t ∈ tags
  | collect front list, t => t ∈ front ∨ list.Holds t
  | insert list u, t => t = u ∨ list.Holds t
  | insertRaw list raw, t => Tag.ReadFrom raw t ∨ list.Holds t
  | merged a b, t => a.Holds t ∨ b.Holds t

theorem vector_eq (b : Build) : b.vector = b.list.tags := by
  induction b with
  | new => rfl
  | ofSets sets => exact Tag.sortOnce_eq _
  | ofDelimited text => exact Tag.sortOnce_eq _
  | ofTags tags => exact Tag.sortOnce_eq tags
  | collect front list ih => rw [vector, ih, Tag.sortOnce_eq, Build.list]
  | insert list t ih => rw [vector, ih, Tag.insertSearched_eq, Build.list]
  | insertRaw list raw ih => rw [vector, ih, Tag.insertSearched_eq, Build.list]
  | merged a b iha ihb =>
    rw [vector, iha, ihb, Tag.sortOnce_eq]
    rfl

theorem mem_list {b : Build} {t : Tag} : t ∈ b.list.tags ↔ b.Holds t := by
  induction b with
  | new => exact List.mem_nil_iff t
  | ofSets sets =>
    simp only [list, Holds, mem_ofRaw, List.mem_flatten]
    constructor
    · rintro ⟨raw, ⟨raws, hraws, hraw⟩, h⟩
      exact ⟨raws, hraws, raw, hraw, h⟩
    · rintro ⟨raws, hraws, raw, hraw, h⟩
      exact ⟨raw, ⟨raws, hraws, hraw⟩, h⟩
  | ofDelimited text => exact mem_ofDelimited
  | ofTags tags => exact mem_ofTags
  | collect front list ih => rw [Build.list, mem_ofTags, List.mem_append, ih, Holds]
  | insert list u ih => rw [Build.list, mem_insert, ih, Holds]
  | insertRaw list raw ih => rw [Build.list, mem_insert, ih, Holds, eq_comm, parse_eq_iff]
  | merged a b iha ihb => rw [Build.list, mem_merged, iha, ihb, Holds]

theorem list_eq_of_holds_iff {a b : Build} (h : ∀ t, a.Holds t ↔ b.Holds t) : a.list = b.list :=
  eq_of_mem_iff fun t ↦ mem_list.trans ((h t).trans mem_list.symm)

end Build

theorem merged_comm (a b : TagList) : a.merged b = b.merged a :=
  eq_of_mem_iff fun t ↦ by rw [mem_merged, mem_merged, or_comm]

theorem merged_assoc (a b c : TagList) : (a.merged b).merged c = a.merged (b.merged c) :=
  eq_of_mem_iff fun t ↦ by simp only [mem_merged, or_assoc]

theorem merged_self (a : TagList) : a.merged a = a :=
  eq_of_mem_iff fun t ↦ by rw [mem_merged, or_self]

end TagList

def Tag.BytesPrecede (t u : Tag) : Prop :=
  t.category.toUTF8.toList < u.category.toUTF8.toList ∨
    t.category = u.category ∧ t.value.toUTF8.toList < u.value.toUTF8.toList

theorem bytesPrecede_iff {t u : Tag} : t.BytesPrecede u ↔ t < u :=
  or_congr toUTF8_lt_iff (and_congr_right fun _ ↦ toUTF8_lt_iff)

/-- However a list is built, sorting and searching agree, and it ascends in the order of bytes and holds what was put
in. So the order, the repetitions and the operations do not show in it, nor in the tagged names it gives. -/
theorem TagList.build_canonical :
    (∀ b : Build, b.vector = b.list.tags ∧ b.vector.Pairwise Tag.BytesPrecede ∧ ∀ t, t ∈ b.vector ↔ b.Holds t) ∧
    (∀ a b : Build, (∀ t, a.Holds t ↔ b.Holds t) → a.list = b.list ∧
      ∀ (e : TagEncoder) (name : String) (other : TagList),
        e.taggedName? name a.list other = e.taggedName? name b.list other ∧
        e.taggedName? name other a.list = e.taggedName? name other b.list) ∧
    ∀ a b c : TagList,
      a.merged b = b.merged a ∧ (a.merged b).merged c = a.merged (b.merged c) ∧ a.merged a = a := by
  refine ⟨fun b ↦ ?_, fun a b h ↦ ?_, fun a b c ↦ ?_⟩
  · rw [b.vector_eq]
    exact ⟨rfl, b.list.sorted.imp bytesPrecede_iff.mpr, fun t ↦ Build.mem_list⟩
  · have hlist := Build.list_eq_of_holds_iff h
    rw [hlist]
    exact ⟨rfl, fun _ _ _ ↦ ⟨rfl, rfl⟩⟩
  · exact ⟨merged_comm a b, merged_assoc a b c, merged_self a⟩

end MetricRelay
