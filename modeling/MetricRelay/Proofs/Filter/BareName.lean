import MetricRelay.Filter.Basic
import MetricRelay.Proofs.Tag.Reading

namespace MetricRelay

open Text (StopsAt stopsAt_cons)

/-- A bar begins what is added, and no marker has a bar behind its first character. -/
theorem isPrefixOf_append_bar {marker tail : List Char} (hm : '|' ∉ marker) (ht : StopsAt (· ≠ '|') tail)
    (s : List Char) : marker.isPrefixOf (s ++ tail) = marker.isPrefixOf s := by
  induction marker generalizing s with
  | nil => rfl
  | cons c marker ih =>
    simp only [List.mem_cons, not_or] at hm
    cases s with
    | nil =>
      cases tail with
      | nil => rfl
      | cons d tail =>
        have hd : d = '|' := by simpa using stopsAt_cons.mp ht
        simp [List.isPrefixOf, hd, Ne.symm hm.1]
    | cons d s => rw [List.cons_append, List.isPrefixOf, List.isPrefixOf, ih hm.2]

theorem isPrefixOf_marker_append {marker tail : List Char} (hm : '|' ∉ marker) (ht : StopsAt (· ≠ '|') tail) (c : Char)
    (s : List Char) : ('|' :: marker).isPrefixOf (c :: (s ++ tail)) = ('|' :: marker).isPrefixOf (c :: s) := by
  rw [List.isPrefixOf, List.isPrefixOf, isPrefixOf_append_bar hm ht]

theorem beforeTags_append {tail : List Char} (hb : beforeTags tail = []) (ht : StopsAt (· ≠ '|') tail)
    (name : List Char) : beforeTags (name ++ tail) = beforeTags name := by
  -- at every place of the name a marker is found or not as it would be without the tail
  induction name with
  | nil => exact hb
  | cons c name ih =>
    have hs : "|ST[".toList.isPrefixOf (c :: (name ++ tail)) = "|ST[".toList.isPrefixOf (c :: name) :=
      isPrefixOf_marker_append (by decide) ht c name
    have hm : "|MT[".toList.isPrefixOf (c :: (name ++ tail)) = "|MT[".toList.isPrefixOf (c :: name) :=
      isPrefixOf_marker_append (by decide) ht c name
    rw [List.cons_append, beforeTags, beforeTags, hs, hm, ih]

theorem beforeTags_groups (e : TagEncoder) (groups : List Tag × List Tag) :
    beforeTags (e.encodeGroup streamMarker groups.1 ++ e.encodeGroup measurementMarker groups.2) = [] := by
  rcases encodeGroup_cases e streamMarker groups.1 with h | ⟨body, h⟩
  · rw [h, List.nil_append]
    rcases encodeGroup_cases e measurementMarker groups.2 with h | ⟨body, h⟩ <;> rw [h] <;> rfl
  · rw [h]
    rfl

theorem bareName_taggedName? {e : TagEncoder} {name text : String} {stream measurement : TagList}
    (h : e.taggedName? name stream measurement = some text) : bareName text = bareName name := by
  rw [taggedName?_eq] at h
  split at h
  · cases h
  · cases h
    rw [bareName, bareName, String.toList_ofList, TagEncoder.assemble, List.append_assoc,
      beforeTags_append (beforeTags_groups e _) (stopsAt_groups e _)]

theorem isAllowed_taggedName? (filter : MetricFilter) {e : TagEncoder} {name text : String}
    {stream measurement : TagList} (h : e.taggedName? name stream measurement = some text) :
    filter.isAllowed text = filter.isAllowed name := by
  rw [MetricFilter.isAllowed, MetricFilter.isAllowed, bareName_taggedName? h]

def HoldsNoMarker (s : List Char) : Prop := ¬streamMarker <:+: s ∧ ¬measurementMarker <:+: s

theorem holdsNoMarker_cons {c : Char} {rest : List Char} :
    HoldsNoMarker (c :: rest) ↔
      ("|ST[".toList.isPrefixOf (c :: rest) || "|MT[".toList.isPrefixOf (c :: rest)) = false ∧ HoldsNoMarker rest := by
  rw [HoldsNoMarker, HoldsNoMarker, List.infix_cons_iff, List.infix_cons_iff, Bool.or_eq_false_iff,
    ← Bool.not_eq_true, ← Bool.not_eq_true, List.isPrefixOf_iff_prefix, List.isPrefixOf_iff_prefix]
  simp only [streamMarker, measurementMarker, not_or]
  exact and_and_and_comm

theorem isPrefix_beforeTags (s : List Char) : beforeTags s <+: s := by
  induction s with
  | nil => exact List.prefix_rfl
  | cons c rest ih =>
    rw [beforeTags]
    split
    · exact List.nil_prefix
    · exact (List.prefix_cons_inj c).mpr ih

theorem beforeTags_eq_self_iff {s : List Char} : beforeTags s = s ↔ HoldsNoMarker s := by
  induction s with
  | nil => exact iff_of_true rfl (by unfold HoldsNoMarker; decide)
  | cons c rest ih =>
    rw [holdsNoMarker_cons, ← ih, beforeTags]
    split
    · next h => exact iff_of_false (List.cons_ne_nil c rest).symm fun hc ↦ Bool.eq_false_iff.mp hc.1 h
    · next h => rw [List.cons_inj_right, and_iff_right (Bool.eq_false_iff.mpr h)]

theorem holdsNoMarker_beforeTags (s : List Char) : HoldsNoMarker (beforeTags s) := by
  induction s with
  | nil => exact beforeTags_eq_self_iff.mp rfl
  | cons c rest ih =>
    rw [beforeTags]
    split
    · exact beforeTags_eq_self_iff.mp rfl
    · next h =>
      -- a marker at the front of what is left would stand at the front of the whole text
      refine holdsNoMarker_cons.mpr ⟨Bool.eq_false_iff.mpr fun hm ↦ h ?_, ih⟩
      have hprefix : c :: beforeTags rest <+: c :: rest := (List.prefix_cons_inj c).mpr (isPrefix_beforeTags rest)
      simp only [Bool.or_eq_true, List.isPrefixOf_iff_prefix] at hm ⊢
      exact hm.imp (·.trans hprefix) (·.trans hprefix)

theorem bareName_bareName (name : String) : bareName (bareName name) = bareName name := by
  rw [bareName, bareName, String.toList_ofList, beforeTags_eq_self_iff.mpr (holdsNoMarker_beforeTags _)]

/-- Whatever the encoder adds to a name, the filter decides as it does about the name alone, which may hold markers of
its own. Stripping finds nothing more in a name that is stripped. -/
theorem MetricFilter.isAllowed_encoded (filter : MetricFilter) (e : TagEncoder) (name : String)
    (stream measurement : TagList) :
    (∀ text, e.taggedName? name stream measurement = some text →
      bareName text = bareName name ∧ filter.isAllowed text = filter.isAllowed name) ∧
    bareName (bareName name) = bareName name ∧ filter.isAllowed (bareName name) = filter.isAllowed name := by
  refine ⟨fun text h ↦ ⟨bareName_taggedName? h, isAllowed_taggedName? filter h⟩, bareName_bareName name, ?_⟩
  rw [isAllowed, isAllowed, bareName_bareName]

/-- A name that ends with the beginning of a marker, and a tag the value of which is a marker. -/
theorem MetricFilter.isAllowed_encoded_marker :
    let filter : MetricFilter := ⟨[⟨.allow, "up.M", true, fun name ↦ name = "up|M"⟩]⟩
    let stream : TagList := .ofTags [⟨"k", "|ST["⟩]
    TagEncoder.taggedName? {} "up|M" stream .empty = some "up|M|ST[k:|ST[]" ∧
      bareName "up|M|ST[k:|ST[]" = "up|M" ∧ filter.isAllowed "up|M|ST[k:|ST[]" = true := by
  intro filter stream
  have htext : TagEncoder.taggedName? {} "up|M" stream .empty = some "up|M|ST[k:|ST[]" := by decide +kernel
  have hname : bareName "up|M" = "up|M" := by decide +kernel
  have hallowed : filter.isAllowed "up|M" = true := by decide +kernel
  obtain ⟨hbare, hsame⟩ := (isAllowed_encoded filter {} "up|M" stream .empty).1 _ htext
  exact ⟨htext, hbare.trans hname, hsame.trans hallowed⟩

end MetricRelay
