import MetricRelay.Proofs.Tag.Encoded
import MetricRelay.Proofs.Text.Scanning

namespace MetricRelay

structure NameParts where
  name : String
  stream : List Tag
  measurement : List Tag
deriving DecidableEq, Repr

/-- Reads a tag as the mode writes it; in plain mode the first colon stands behind the category. -/
def readTag? (base64 : Bool) (text : List Char) : Option Tag :=
  if base64 then (Tag.decode text).toOption else some (Tag.parse (String.ofList text))

def readGroup? (base64 : Bool) (marker text : List Char) : Option (List Tag × List Char) :=
  match Text.dropStart? marker text with
  | none => some ([], text)
  | some body => do
    let (tags, rest) ← Text.cut? ']' body
    let tags ← (Text.split ',' tags).mapM (readTag? base64)
    return (tags, rest)

def readName? (base64 : Bool) (text : String) : Option NameParts := do
  let name := text.toList.takeWhile (· ≠ '|')
  let (stream, rest) ← readGroup? base64 streamMarker (text.toList.drop name.length)
  let (measurement, rest) ← readGroup? base64 measurementMarker rest
  if rest = [] then some ⟨String.ofList name, stream, measurement⟩ else none

def Tag.shown (base64 : Bool) (t : Tag) : Tag := if base64 then t.normalized else t

/-- No character of the tag is one of those that end it in the mode; base 64 hides them all. -/
def Tag.Readable (base64 : Bool) (t : Tag) : Prop :=
  base64 ∨ (∀ c ∈ [':', ',', ']'], c ∉ t.category.toList) ∧ ∀ c ∈ [',', ']'], c ∉ t.value.toList

/-- Of all tags, stream tags first, the first `maxTags`, group by group. -/
def firstTags (stream measurement : TagList) : List Tag × List Tag :=
  let tags := (stream.tags.map Sum.inl ++ measurement.tags.map Sum.inr).take maxTags
  (tags.filterMap Sum.getLeft?, tags.filterMap Sum.getRight?)

def keptTags (stream measurement : TagList) : List Tag × List Tag :=
  let (stream, measurement) := firstTags stream measurement
  (stream.filter Tag.withinLimits, measurement.filter Tag.withinLimits)

def keptParts (base64 : Bool) (name : String) (stream measurement : TagList) : NameParts :=
  let (stream, measurement) := keptTags stream measurement
  ⟨name, stream.map (Tag.shown base64), measurement.map (Tag.shown base64)⟩

def Readable (base64 : Bool) (stream measurement : TagList) : Prop :=
  ∀ t ∈ (keptTags stream measurement).1 ++ (keptTags stream measurement).2, t.Readable base64

variable {e : TagEncoder} {t : Tag}

theorem encodeTag_of_base64 (h : e.base64 = true) (t : Tag) : e.encodeTag t = t.encodeBase64 := by
  rw [TagEncoder.encodeTag, if_pos h]

theorem encodeTag_of_plain (h : e.base64 = false) (t : Tag) : e.encodeTag t = t.text.toList := by
  rw [TagEncoder.encodeTag, h]
  rfl

theorem readTag?_encodeTag (h : t.Readable e.base64) : readTag? e.base64 (e.encodeTag t) = some (t.shown e.base64) := by
  cases hb : e.base64 with
  | true =>
    rw [encodeTag_of_base64 hb, readTag?, if_pos rfl, decode_encodeBase64]
    rfl
  | false =>
    rw [Tag.Readable, hb] at h
    have hcolon := (h.resolve_left (by decide)).1 ':' (by decide)
    rw [encodeTag_of_plain hb, readTag?, if_neg (by decide), String.ofList_toList, parse_text hcolon]
    rfl

theorem not_mem_encodeTag (h : t.Readable e.base64) {c : Char} (hc : c ∈ [',', ']']) : c ∉ e.encodeTag t := by
  have hmem : c = ',' ∨ c = ']' := by simpa using hc
  cases hb : e.base64 with
  | true =>
    rw [encodeTag_of_base64 hb]
    rcases hmem with rfl | rfl <;> exact not_mem_encodeBase64 (by decide) (by decide) (by decide) (by decide) t
  | false =>
    rw [Tag.Readable, hb] at h
    obtain ⟨hcategory, hvalue⟩ := h.resolve_left (by decide)
    have hcolon : c ≠ ':' := by rcases hmem with rfl | rfl <;> decide
    rw [encodeTag_of_plain hb, Tag.text]
    simp only [String.toList_append, List.mem_append, not_or]
    exact ⟨⟨hcategory c (List.mem_cons_of_mem _ hc), by simpa using hcolon⟩, hvalue c hc⟩

theorem encodeGroup_filter (e : TagEncoder) (marker : List Char) (tags : List Tag) :
    e.encodeGroup marker (tags.filter Tag.withinLimits) = e.encodeGroup marker tags := by
  rw [TagEncoder.encodeGroup, TagEncoder.encodeGroup, List.filter_filter]
  simp

theorem mapM_readTag? {tags : List Tag} (h : ∀ t ∈ tags, t.Readable e.base64) :
    (tags.map e.encodeTag).mapM (readTag? e.base64) = some (tags.map (Tag.shown e.base64)) := by
  induction tags with
  | nil => rfl
  | cons t tags ih =>
    obtain ⟨ht, hrest⟩ := List.forall_mem_cons.mp h
    rw [List.map_cons, List.mapM_cons, readTag?_encodeTag ht, ih hrest]
    rfl

theorem readGroup?_encodeGroup {marker rest : List Char} {tags : List Tag}
    (h : ∀ t ∈ tags.filter Tag.withinLimits, t.Readable e.base64) (hr : Text.dropStart? marker rest = none) :
    readGroup? e.base64 marker (e.encodeGroup marker tags ++ rest) =
      some ((tags.filter Tag.withinLimits).map (Tag.shown e.base64), rest) := by
  rw [TagEncoder.encodeGroup]
  cases hk : tags.filter Tag.withinLimits with
  | nil => rw [readGroup?, List.nil_append, hr]; rfl
  | cons t kept =>
    rw [hk] at h
    have hsep {c : Char} (hc : c ∈ [',', ']']) : ∀ p ∈ e.encodeTag t :: kept.map e.encodeTag, c ∉ p := by
      rw [← List.map_cons]
      intro p hp
      obtain ⟨u, hu, rfl⟩ := List.mem_map.mp hp
      exact not_mem_encodeTag (h u hu) hc
    have hbracket : ']' ∉ e.encodeTag t ++ (kept.map e.encodeTag).flatMap fun p ↦ ',' :: p := by
      have hs := hsep (c := ']') (by decide)
      simp only [List.mem_append, List.mem_flatMap, List.mem_cons, not_or, not_exists, not_and]
      exact ⟨hs _ List.mem_cons_self, fun p hp ↦ ⟨by decide, hs p (List.mem_cons_of_mem _ hp)⟩⟩
    have htext : marker ++ e.encodeTag t ++ kept.flatMap (fun t ↦ ',' :: e.encodeTag t) ++ [']'] ++ rest =
        marker ++ ((e.encodeTag t ++ (kept.map e.encodeTag).flatMap fun p ↦ ',' :: p) ++ ']' :: rest) := by
      simp [List.flatMap_map]
    dsimp only
    rw [htext, readGroup?, Text.dropStart?_append]
    dsimp only [Option.bind_eq_bind]
    rw [Text.cut?_append hbracket, Option.bind_some, Text.split_pieces (hsep (by decide)), ← List.map_cons,
      mapM_readTag? h]
    rfl

theorem encodeGroup_cases (e : TagEncoder) (marker : List Char) (tags : List Tag) :
    e.encodeGroup marker tags = [] ∨ ∃ body, e.encodeGroup marker tags = marker ++ body := by
  rw [TagEncoder.encodeGroup]
  split
  · exact .inl rfl
  · exact .inr ⟨_, by rw [List.append_assoc, List.append_assoc]⟩

theorem stopsAt_groups (e : TagEncoder) (groups : List Tag × List Tag) :
    Text.StopsAt (· ≠ '|') (e.encodeGroup streamMarker groups.1 ++ e.encodeGroup measurementMarker groups.2) := by
  rcases encodeGroup_cases e streamMarker groups.1 with h | ⟨body, h⟩
  · rw [h, List.nil_append]
    rcases encodeGroup_cases e measurementMarker groups.2 with h | ⟨body, h⟩
    · rw [h]
      exact Text.stopsAt_nil
    · rw [h]
      exact Text.stopsAt_cons.mpr rfl
  · rw [h]
    exact Text.stopsAt_cons.mpr rfl

theorem takeWhile_assemble {name : List Char} (hn : '|' ∉ name) (groups : List Tag × List Tag) :
    (e.assemble name groups).takeWhile (· ≠ '|') = name := by
  have hname : ∀ c ∈ name, decide (c ≠ '|') = true := by
    intro c hc
    refine decide_eq_true ?_
    rintro rfl
    exact hn hc
  rw [TagEncoder.assemble, List.append_assoc]
  exact Text.takeWhile_run hname (stopsAt_groups e groups)

theorem readName?_assemble {name : List Char} (hn : '|' ∉ name) {groups : List Tag × List Tag}
    (hs : ∀ t ∈ groups.1.filter Tag.withinLimits, t.Readable e.base64)
    (hm : ∀ t ∈ groups.2.filter Tag.withinLimits, t.Readable e.base64) :
    readName? e.base64 (String.ofList (e.assemble name groups)) =
      some ⟨String.ofList name, (groups.1.filter Tag.withinLimits).map (Tag.shown e.base64),
        (groups.2.filter Tag.withinLimits).map (Tag.shown e.base64)⟩ := by
  have hstream : Text.dropStart? streamMarker (e.encodeGroup measurementMarker groups.2) = none := by
    rcases encodeGroup_cases e measurementMarker groups.2 with h | ⟨body, h⟩ <;> rw [h] <;> rfl
  have hmeasurement : readGroup? e.base64 measurementMarker (e.encodeGroup measurementMarker groups.2 ++ []) = _ :=
    readGroup?_encodeGroup hm rfl
  rw [List.append_nil] at hmeasurement
  rw [readName?, String.toList_ofList]
  dsimp only [Option.bind_eq_bind]
  rw [takeWhile_assemble hn, TagEncoder.assemble, List.append_assoc, List.drop_left,
    readGroup?_encodeGroup hs hstream, Option.bind_some]
  dsimp only
  rw [hmeasurement, Option.bind_some]
  rfl

theorem filterMap_take_groups (stream measurement : List Tag) (n : Nat) :
    ((stream.map Sum.inl ++ measurement.map Sum.inr).take n).filterMap Sum.getLeft? = stream.take n ∧
    ((stream.map Sum.inl ++ measurement.map Sum.inr).take n).filterMap Sum.getRight? =
      measurement.take (n - stream.length) := by
  rw [List.take_append, List.length_map, ← List.map_take, ← List.map_take]
  constructor
  · rw [List.filterMap_append, List.filterMap_map, List.filterMap_map]
    simp [Function.comp_def]
  · rw [List.filterMap_append, List.filterMap_map, List.filterMap_map]
    simp [Function.comp_def]

theorem firstTags_eq (stream measurement : TagList) :
    firstTags stream measurement = (stream.tags.take maxTags, measurement.tags.take (maxTags - stream.size)) := by
  obtain ⟨hs, hm⟩ := filterMap_take_groups stream.tags measurement.tags maxTags
  rw [firstTags, hs, hm]
  rfl

theorem selectTags?_eq (e : TagEncoder) (stream measurement : TagList) :
    e.selectTags? stream measurement =
      if e.policy = .dropMetric ∧ maxTags < stream.size + measurement.size then none
      else some (firstTags stream measurement) := by
  have hstream (h : stream.size ≤ maxTags) : stream.tags.take maxTags = stream.tags := List.take_of_length_le h
  rw [TagEncoder.selectTags?, firstTags_eq]
  split
  -- within the limit nothing is cut off
  · next h =>
    have hm : measurement.tags.take (maxTags - stream.size) = measurement.tags := by
      refine List.take_of_length_le ?_
      have hl : measurement.tags.length = measurement.size := rfl
      omega
    rw [if_neg (by omega), hstream (by omega), hm]
  · next h =>
    cases hp : e.policy with
    | dropMetric => rw [if_pos ⟨rfl, by omega⟩]
    | truncate =>
      have hkept : maxTags - min stream.size maxTags = maxTags - stream.size := by omega
      have htake : stream.tags.take (min stream.size maxTags) = stream.tags.take maxTags := by
        rw [List.take_eq_take_min (i := maxTags), Nat.min_comm]
        rfl
      rw [if_neg (by simp)]
      dsimp only
      rw [hkept, htake]

theorem assemble_keptTags (e : TagEncoder) (name : List Char) (stream measurement : TagList) :
    e.assemble name (keptTags stream measurement) = e.assemble name (firstTags stream measurement) := by
  rw [TagEncoder.assemble, TagEncoder.assemble]
  have hs := encodeGroup_filter e streamMarker (firstTags stream measurement).1
  have hm := encodeGroup_filter e measurementMarker (firstTags stream measurement).2
  rw [keptTags, hs, hm]

theorem taggedName?_eq (e : TagEncoder) (name : String) (stream measurement : TagList) :
    e.taggedName? name stream measurement =
      if e.policy = .dropMetric ∧ maxTags < stream.size + measurement.size ∨
          maxTaggedNameSize < utf8Size (e.assemble name.toList (keptTags stream measurement)) then none
      else some (String.ofList (e.assemble name.toList (keptTags stream measurement))) := by
  rw [TagEncoder.taggedName?, selectTags?_eq, assemble_keptTags]
  by_cases hp : e.policy = .dropMetric ∧ maxTags < stream.size + measurement.size
  · rw [if_pos hp, if_pos (.inl hp)]
  · rw [if_neg hp]
    simp only [hp, false_or]

theorem readName?_taggedName {name text : String} {stream measurement : TagList} (hn : '|' ∉ name.toList)
    (hr : Readable e.base64 stream measurement) (ht : e.taggedName? name stream measurement = some text) :
    readName? e.base64 text = some (keptParts e.base64 name stream measurement) := by
  have hs : ∀ t ∈ (firstTags stream measurement).1.filter Tag.withinLimits, t.Readable e.base64 :=
    fun t h ↦ hr t (List.mem_append_left _ h)
  have hm : ∀ t ∈ (firstTags stream measurement).2.filter Tag.withinLimits, t.Readable e.base64 :=
    fun t h ↦ hr t (List.mem_append_right _ h)
  rw [taggedName?_eq] at ht
  split at ht
  · cases ht
  · cases ht
    rw [assemble_keptTags, readName?_assemble hn hs hm, String.ofList_toList]
    rfl

/-- There is a tagged name unless the limits forbid it, and it says which name and tags it stands for: no other name
or tags have it in the same mode. -/
theorem taggedName?_unambiguous (e : TagEncoder) {name : String} (hn : '|' ∉ name.toList)
    (stream measurement : TagList) :
    (e.taggedName? name stream measurement = none ↔
      (e.policy = .dropMetric ∧ maxTags < stream.size + measurement.size) ∨
        maxTaggedNameSize < utf8Size (e.assemble name.toList (keptTags stream measurement))) ∧
    ∀ text, Readable e.base64 stream measurement → e.taggedName? name stream measurement = some text →
      readName? e.base64 text = some (keptParts e.base64 name stream measurement) ∧
      ∀ (other : TagEncoder) (name' : String) (stream' measurement' : TagList), other.base64 = e.base64 →
        '|' ∉ name'.toList → Readable other.base64 stream' measurement' →
        other.taggedName? name' stream' measurement' = some text →
        keptParts e.base64 name' stream' measurement' = keptParts e.base64 name stream measurement := by
  refine ⟨?_, fun text hr ht ↦ ?_⟩
  · rw [taggedName?_eq]
    split
    · next h => exact iff_of_true rfl h
    · next h => exact iff_of_false (Option.some_ne_none _) h
  · have hread := readName?_taggedName hn hr ht
    refine ⟨hread, fun other name' stream' measurement' hmode hn' hr' ht' ↦ ?_⟩
    have hread' := readName?_taggedName hn' hr' ht'
    rw [hmode, hread] at hread'
    exact (Option.some.inj hread').symm

/-- A tag that holds every separator, in base 64. -/
theorem taggedName?_unambiguous_separators :
    readName? true "up|ST[b\"cG9k\":b\"W2EsYjpjXXxNVFs=\"]|MT[b\"dW5pdHM=\":]" =
      some ⟨"up", [⟨"pod", "[a,b:c]|MT["⟩], [⟨"units", ""⟩]⟩ := by
  let e : TagEncoder := ⟨true, .dropMetric⟩
  let stream : TagList := .ofRaw ["Pod: [a, b:c]|MT["]
  let measurement : TagList := .ofRaw ["units"]
  have hn : '|' ∉ "up".toList := by decide
  have hr : Readable e.base64 stream measurement := fun _ _ ↦ .inl rfl
  have ht : e.taggedName? "up" stream measurement =
      some "up|ST[b\"cG9k\":b\"W2EsYjpjXXxNVFs=\"]|MT[b\"dW5pdHM=\":]" := by decide +kernel
  have hparts : keptParts e.base64 "up" stream measurement =
      ⟨"up", [⟨"pod", "[a,b:c]|MT["⟩], [⟨"units", ""⟩]⟩ := by decide +kernel
  rw [← hparts]
  exact ((taggedName?_unambiguous e hn stream measurement).2 _ hr ht).1

end MetricRelay
