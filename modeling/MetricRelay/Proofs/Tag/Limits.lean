import MetricRelay.Proofs.Tag.Canonical
import MetricRelay.Proofs.Tag.Reading
import MetricRelay.Proofs.Unicode.Lower

namespace MetricRelay

def Tag.FitsWithin (excess : Nat) (t : Tag) : Prop :=
  t.category.utf8ByteSize ≤ maxCategorySize + excess ∧ t.size ≤ maxTagSize + excess

/-- How many letters of the category are one byte longer in lower case, if that is how the tag is shown. -/
def Tag.lengthening (base64 : Bool) (t : Tag) : Nat :=
  if base64 then t.category.toList.countP Unicode.lengthens else 0

def writeGroup (marker : List Char) : List (List Char) → List Char
  | [] => []
  | text :: texts => marker ++ text ++ texts.flatMap (',' :: ·) ++ [']']

variable {e : TagEncoder} {t : Tag}

theorem encodeGroup_eq_writeGroup (marker : List Char) {tags : List Tag} (h : ∀ t ∈ tags, t.withinLimits = true) :
    e.encodeGroup marker tags = writeGroup marker (tags.map e.encodeTag) := by
  rw [TagEncoder.encodeGroup, List.filter_eq_self.mpr h]
  cases tags with
  | nil => rfl
  | cons t tags => rw [List.map_cons, writeGroup, List.flatMap_map]

theorem withinLimits_of_mem_keptTags {stream measurement : TagList}
    (h : t ∈ (keptTags stream measurement).1 ++ (keptTags stream measurement).2) : t.withinLimits = true := by
  rcases List.mem_append.mp h with h | h
  · exact (List.mem_filter.mp h).2
  · exact (List.mem_filter.mp h).2

theorem length_keptTags_le (stream measurement : TagList) :
    (keptTags stream measurement).1.length + (keptTags stream measurement).2.length ≤ maxTags := by
  have hs : (keptTags stream measurement).1.length ≤ (firstTags stream measurement).1.length :=
    List.length_filter_le _ _
  have hm : (keptTags stream measurement).2.length ≤ (firstTags stream measurement).2.length :=
    List.length_filter_le _ _
  have hsize : stream.size = stream.tags.length := rfl
  rw [firstTags_eq, List.length_take] at hs hm
  omega

theorem fitsWithin_of_withinLimits (h : t.withinLimits = true) : t.FitsWithin 0 := by
  rw [Tag.withinLimits, Bool.and_eq_true] at h
  exact ⟨of_decide_eq_true h.1, of_decide_eq_true h.2⟩

theorem utf8ByteSize_le_of_taggedName? {name text : String} {stream measurement : TagList}
    (h : e.taggedName? name stream measurement = some text) : text.utf8ByteSize ≤ maxTaggedNameSize := by
  rw [taggedName?_eq] at h
  split at h
  · cases h
  next hlimits =>
  cases h
  exact Nat.le_of_not_lt fun hsize ↦ hlimits (.inr hsize)

theorem size_parse_text (t : Tag) : (Tag.parse t.text).size = t.size ∧
    (Tag.parse t.text).category.utf8ByteSize ≤ t.category.utf8ByteSize := by
  obtain ⟨hcolon, htext⟩ := readFrom_parse t.text
  generalize Tag.parse t.text = u at *
  have hlist : t.text.toList = t.category.toList ++ ':' :: t.value.toList := by simp [Tag.text]
  rcases htext with htext | ⟨htext, -⟩
  · have hsize := congrArg String.utf8ByteSize htext
    have hsplit : u.category.toList ++ ':' :: u.value.toList = t.category.toList ++ ':' :: t.value.toList := by
      rw [← hlist, htext]
      simp [Tag.text]
    simp only [Tag.text, String.utf8ByteSize_append] at hsize
    refine ⟨by rw [Tag.size, Tag.size]; omega, ?_⟩
    -- the category that is read ends at the first colon, and there is one behind the category that was written
    rcases List.append_eq_append_iff.mp hsplit with ⟨more, hc, -⟩ | ⟨more, hc, hrest⟩
    · rw [← utf8Size_toList t.category, hc, utf8Size_append, utf8Size_toList]
      exact Nat.le_add_right _ _
    · cases more with
      | nil =>
        rw [List.append_nil] at hc
        exact Nat.le_of_eq (congrArg String.utf8ByteSize (String.toList_inj.mp hc))
      | cons c more =>
        rw [List.cons_append, List.cons.injEq] at hrest
        obtain ⟨rfl, -⟩ := hrest
        exact absurd (by simp [hc]) hcolon
  · rw [← htext, hlist] at hcolon
    exact absurd (by simp) hcolon

theorem utf8Size_filter_le (p : Char → Bool) (s : List Char) : utf8Size (s.filter p) ≤ utf8Size s := by
  induction s with
  | nil => exact Nat.le_refl _
  | cons c s ih =>
    rw [List.filter_cons, utf8Size_cons]
    split
    · rw [utf8Size_cons]
      omega
    · omega

theorem size_normalized_le (t : Tag) :
    t.normalized.category.utf8ByteSize ≤ t.category.utf8ByteSize + t.lengthening true ∧
      t.normalized.value.utf8ByteSize ≤ t.value.utf8ByteSize := by
  have hlower := Unicode.utf8Size_lower_le t.category.toList
  rw [utf8Size_toList] at hlower
  constructor
  · exact Nat.le_trans (utf8Size_filter_le _ _) hlower
  · rw [← utf8Size_toList t.value]
    exact utf8Size_filter_le _ _

/-- The tag that is read exceeds the limits by no more than the letters that got longer. -/
theorem exists_readTag? (h : t.FitsWithin 0) :
    ∃ u, readTag? e.base64 (e.encodeTag t) = some u ∧ u.FitsWithin (t.lengthening e.base64) := by
  obtain ⟨hcategory, hsize⟩ := h
  cases hb : e.base64 with
  | true =>
    obtain ⟨hc, hv⟩ := size_normalized_le t
    refine ⟨t.normalized, ?_, ?_, ?_⟩
    · rw [readTag?, if_pos rfl, encodeTag_of_base64 hb, decode_encodeBase64]
      rfl
    · omega
    · rw [Tag.size] at hsize ⊢
      omega
  | false =>
    obtain ⟨hs, hc⟩ := size_parse_text t
    refine ⟨Tag.parse t.text, ?_, ?_, ?_⟩
    · rw [readTag?, if_neg Bool.false_ne_true, encodeTag_of_plain hb, String.ofList_toList]
    · omega
    · omega

/-- A tagged name, and each tag in it as it was given, is within the limits. As it is read, too, but in base 64 for a
byte with each letter that takes one more in lower case. -/
theorem taggedName?_limits {name text : String} {stream measurement : TagList}
    (h : e.taggedName? name stream measurement = some text) :
    let tags := keptTags stream measurement
    text.utf8ByteSize ≤ maxTaggedNameSize ∧
    text.toList = name.toList ++ writeGroup streamMarker (tags.1.map e.encodeTag) ++
      writeGroup measurementMarker (tags.2.map e.encodeTag) ∧
    tags.1.length + tags.2.length ≤ maxTags ∧
    ∀ t ∈ tags.1 ++ tags.2, t.FitsWithin 0 ∧
      (e.base64 = false → e.encodeTag t = t.category.toList ++ ':' :: t.value.toList) ∧
      ∃ u, readTag? e.base64 (e.encodeTag t) = some u ∧ u.FitsWithin (t.lengthening e.base64) := by
  intro tags
  have hkept (t : Tag) (ht : t ∈ tags.1 ++ tags.2) : t.withinLimits = true := withinLimits_of_mem_keptTags ht
  refine ⟨utf8ByteSize_le_of_taggedName? h, ?_, length_keptTags_le stream measurement, fun t ht ↦ ?_⟩
  · rw [taggedName?_eq] at h
    split at h
    · cases h
    cases h
    rw [String.toList_ofList, TagEncoder.assemble,
      encodeGroup_eq_writeGroup _ fun t ht ↦ hkept t (List.mem_append_left _ ht),
      encodeGroup_eq_writeGroup _ fun t ht ↦ hkept t (List.mem_append_right _ ht)]
  · have hfits := fitsWithin_of_withinLimits (hkept t ht)
    refine ⟨hfits, fun hb ↦ ?_, exists_readTag? hfits⟩
    rw [encodeTag_of_plain hb]
    simp [Tag.text]

theorem taggedName?_limits_podName :
    let encoded := "b\"cG9kbmFtZQ==\":b\"d2ViMQ==\"".toList
    ∃ u, readTag? true encoded = some u ∧ u.FitsWithin 0 := by
  intro encoded
  let e : TagEncoder := ⟨true, .truncate⟩
  let t : Tag := ⟨"Pod Name", "web 1"⟩
  have hname : e.taggedName? "m" (.ofTags [t]) .empty = some "m|ST[b\"cG9kbmFtZQ==\":b\"d2ViMQ==\"]" := by
    decide +kernel
  have hkept : t ∈ (keptTags (.ofTags [t]) .empty).1 ++ (keptTags (.ofTags [t]) .empty).2 := by decide +kernel
  have hencoded : e.encodeTag t = encoded := by decide +kernel
  have hsteady : t.lengthening e.base64 = 0 := by decide +kernel
  have hread := ((taggedName?_limits hname).2.2.2 t hkept).2.2
  rwa [hencoded, hsteady] at hread

theorem utf8Size_le_length (s : List Char) : utf8Size s ≤ 4 * s.length := by
  induction s with
  | nil => exact Nat.le_refl _
  | cons c s ih =>
    have hc := c.utf8Size_le_four
    rw [utf8Size_cons, List.length_cons]
    omega

theorem length_encodePart (s : List Char) : (encodePart s).length = (utf8Size s + 2) / 3 * 4 + 3 := by
  have hbytes : (utf8Bytes s).length = utf8Size s := length_toList _
  simp [encodePart, Text.Base64.length_encode, hbytes]

theorem keptTags_singleton (h : t.withinLimits = true) : keptTags (.ofTags [t]) .empty = ([t], []) := by
  have hfirst : firstTags (.ofTags [t]) .empty = ([t], []) := rfl
  rw [keptTags, hfirst]
  dsimp only
  rw [List.filter_cons_of_pos h, List.filter_nil]

theorem length_assemble_bare (hb : e.base64 = true) (h : t.withinLimits = true)
    (hvalue : t.normalized.value.toList = []) (name : List Char) :
    (e.assemble name ([t], [])).length =
      name.length + (utf8Size t.normalized.category.toList + 2) / 3 * 4 + 9 := by
  have hgroup : e.encodeGroup streamMarker [t] = streamMarker ++ e.encodeTag t ++ [']'] := by
    rw [TagEncoder.encodeGroup, List.filter_cons_of_pos h]
    simp
  have hnone : e.encodeGroup measurementMarker [] = [] := rfl
  have hmarker : streamMarker.length = 4 := rfl
  rw [TagEncoder.assemble, hgroup, hnone, encodeTag_of_base64 hb, Tag.encodeBase64, hvalue, if_pos rfl]
  simp [length_encodePart, hmarker]
  omega

theorem exists_taggedName?_bare {category : String} (hlimits : (Tag.mk category "").withinLimits = true)
    (hsize : (Tag.mk category "").normalized.category.utf8ByteSize ≤ maxTagSize) :
    ∃ text, (⟨true, .truncate⟩ : TagEncoder).taggedName? "m" (.ofTags [⟨category, ""⟩]) .empty = some text ∧
      readName? true text = some ⟨"m", [(Tag.mk category "").normalized], []⟩ := by
  generalize ht : Tag.mk category "" = t at *
  let e : TagEncoder := ⟨true, .truncate⟩
  have hkept := keptTags_singleton hlimits
  have hvalue : t.normalized.value.toList = [] := by
    rw [← ht]
    rfl
  have hname : e.taggedName? "m" (.ofTags [t]) .empty =
      some (String.ofList (e.assemble "m".toList (keptTags (.ofTags [t]) .empty))) := by
    have hshort := utf8Size_le_length (e.assemble "m".toList ([t], []))
    have hlength : "m".toList.length = 1 := rfl
    rw [length_assemble_bare rfl hlimits hvalue, utf8Size_toList, hlength] at hshort
    rw [taggedName?_eq, if_neg]
    rw [hkept]
    rintro (⟨hpolicy, -⟩ | hlong)
    · cases hpolicy
    · rw [maxTaggedNameSize] at hlong
      rw [maxTagSize] at hsize
      omega
  refine ⟨_, hname, ?_⟩
  have hreadable : Readable e.base64 (.ofTags [t]) .empty := fun _ _ ↦ .inl rfl
  rw [readName?_taggedName (by decide) hreadable hname, keptParts, hkept]
  rfl

theorem lowerAfter_replicate_a (before : List Char) (n : Nat) :
    Unicode.lowerAfter before (List.replicate n 'a') = List.replicate n 'a' := by
  induction n generalizing before with
  | zero => rfl
  | succ n ih =>
    rw [List.replicate_succ, Unicode.lowerAfter, ih]
    rfl

theorem normalized_strokedA (n : Nat) :
    (Tag.mk (String.ofList ('Ⱥ' :: List.replicate n 'a')) "").normalized =
      ⟨String.ofList ('ⱥ' :: List.replicate n 'a'), ""⟩ := by
  have hstrip : Text.stripBlanks ('ⱥ' :: List.replicate n 'a') = 'ⱥ' :: List.replicate n 'a' := by
    rw [Text.stripBlanks, List.filter_eq_self]
    intro c hc
    rcases List.mem_cons.mp hc with rfl | hc
    · rfl
    · rw [List.eq_of_mem_replicate hc]
      rfl
  rw [Tag.normalized, String.toList_ofList, Unicode.lower, Unicode.lowerAfter, lowerAfter_replicate_a,
    Unicode.lowerChar_strokedA]
  exact congrArg (fun category ↦ Tag.mk (String.ofList category) "") hstrip

/-- A category of 254 bytes is kept, and is read with 255 of them. -/
theorem taggedName?_exceeds_limits :
    let t : Tag := ⟨String.ofList ('Ⱥ' :: List.replicate 252 'a'), ""⟩
    ∃ text u, (⟨true, .truncate⟩ : TagEncoder).taggedName? "m" (.ofTags [t]) .empty = some text ∧
      readName? true text = some ⟨"m", [u], []⟩ ∧ maxCategorySize < u.category.utf8ByteSize := by
  intro t
  have hlimits : t.withinLimits = true := by decide +kernel
  have hsize : t.normalized.category.utf8ByteSize = 255 := by
    rw [normalized_strokedA]
    decide +kernel
  obtain ⟨text, hname, hread⟩ := exists_taggedName?_bare hlimits (by rw [hsize]; decide)
  exact ⟨text, t.normalized, hname, hread, by rw [hsize]; decide⟩

end MetricRelay
