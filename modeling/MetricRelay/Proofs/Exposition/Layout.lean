import MetricRelay.Proofs.Exposition.WrittenLine

namespace MetricRelay.Exposition

open Text (isBlank StopsAt stopsAt_cons stopsAt_append IsTrimmed isVisible joinLines)

def Families.run (families : Families) (lines : List (List Char)) : Except LineError Families :=
  lines.foldlM Families.readLine families

/-- A line as it is written: no white space around it, and no line feed inside. -/
def IsLine (line : List Char) : Prop := IsTrimmed line ∧ '\n' ∉ line

theorem readLines_of_run {families result : Families} {lines : List (List Char)} {number : Nat}
    (h : families.run lines = .ok result) : families.readLines number lines = .ok result := by
  induction lines generalizing families number with
  | nil => cases h; rfl
  | cons line lines ih =>
    rw [Families.run, List.foldlM_cons] at h
    rw [Families.readLines]
    cases hl : families.readLine line with
    | error e => rw [hl] at h; cases h
    | ok next => rw [hl] at h; exact ih h

theorem read_joinLines {families : Families} {lines : List (List Char)} (hl : ∀ l ∈ lines, '\n' ∉ l)
    (h : Families.run .empty lines = .ok families) :
    read (String.ofList (joinLines lines)) = .ok families.toList := by
  rw [read, String.toList_ofList, Text.lines_joinLines hl, readLines_of_run h]
  rfl

theorem run_append {families middle : Families} {first second : List (List Char)}
    (h : families.run first = .ok middle) : families.run (first ++ second) = middle.run second := by
  rw [Families.run] at h
  rw [Families.run, List.foldlM_append, h]
  rfl

theorem run_cons {families middle : Families} {line : List Char} {lines : List (List Char)}
    (h : families.readLine line = .ok middle) : families.run (line :: lines) = middle.run lines := by
  rw [Families.run, List.foldlM_cons, h]
  rfl

theorem readLine_comment (families : Families) {line rest : List Char} (h : Text.trim line = '#' :: rest) :
    families.readLine line = families.readComment ('#' :: rest) := by
  rw [Families.readLine, h]
  rfl

theorem readLine_sample (families : Families) {line rest : List Char} {c : Char} (h : Text.trim line = c :: rest)
    (hc : c ≠ '#') : families.readLine line = families.readSample (c :: rest) := by
  rw [Families.readLine, h]
  split
  · next he => cases he
  · next he => cases he; exact absurd rfl hc
  · rfl

theorem readLine_padded {left line right : List Char} (hl : IsPadding left) (hr : IsPadding right)
    (ht : IsTrimmed line) (families : Families) :
    families.readLine (left ++ line ++ right) = families.readLine line := by
  have hpad : Text.trim (left ++ line ++ right) = line :=
    Text.trim_padded (fun c hc ↦ (hl c hc).1) (fun c hc ↦ (hr c hc).1) ht
  rw [Families.readLine, Families.readLine, hpad, Text.trim_of_isTrimmed ht]

theorem takeWhile_word {word : List Char} {c : Char} {tail : List Char} (hw : ∀ d ∈ word, isVisible d)
    (hc : isBlank c) : (word ++ c :: tail).takeWhile (fun d ↦ !isBlank d) = word :=
  Text.takeWhile_run (fun d hd ↦ by simp [Text.isBlank_of_isVisible (hw d hd)]) (stopsAt_cons.mpr (by simp [hc]))

theorem word_append_blank {s blank : List Char} (h : ∀ c ∈ blank, isBlank c) :
    ((s ++ blank).dropWhile isBlank).takeWhile (fun c ↦ !isBlank c) =
      (s.dropWhile isBlank).takeWhile fun c ↦ !isBlank c := by
  induction s with
  | nil =>
    have hd : blank.dropWhile isBlank = [] := by simpa using Text.dropWhile_run h Text.stopsAt_nil
    simp [hd]
  | cons c s ih =>
    by_cases hc : isBlank c
    · simpa [hc] using ih
    · have hstop : StopsAt (fun c ↦ !isBlank c) blank := fun d hd ↦ by simp [h d (List.mem_of_mem_head? hd)]
      have ht : (s ++ blank).takeWhile (fun c ↦ !isBlank c) = s.takeWhile fun c ↦ !isBlank c := by
        rw [List.takeWhile_append, Text.takeWhile_of_stopsAt hstop, List.append_nil]
        split
        · next he => exact ((List.takeWhile_prefix _).eq_of_length he).symm
        · rfl
      simp [hc, ht]

theorem firstWord_append_blank {s blank : List Char} (h : ∀ c ∈ blank, isBlank c) :
    firstWord (s ++ blank) = firstWord s := by
  induction s with
  | nil =>
    have hd : blank.dropWhile (· = '#') = blank := by
      refine Text.dropWhile_of_stopsAt fun c hc ↦ decide_eq_false ?_
      rintro rfl
      cases h '#' (List.mem_of_mem_head? hc)
    simp only [firstWord, List.nil_append, hd]
    exact word_append_blank (s := []) h
  | cons c s ih =>
    by_cases hc : c = '#'
    · simpa [firstWord, hc] using ih
    · simpa [firstWord, hc] using word_append_blank (s := c :: s) h

theorem firstWord_of_skipBlanks {s word : List Char} {c : Char} {tail : List Char} (hw : word ≠ [])
    (hv : ∀ d ∈ word, isVisible d) (hh : word.head? ≠ some '#') (hc : isBlank c)
    (h : Text.skipBlanks s = word ++ c :: tail) : firstWord s = word := by
  have hs : s = s.takeWhile Text.isSpaceOrTab ++ (word ++ c :: tail) := by
    rw [← h]
    exact List.takeWhile_append_dropWhile.symm
  have hblank : ∀ d ∈ s.takeWhile Text.isSpaceOrTab, isBlank d := fun d hd ↦ by
    have := List.all_eq_true.mp List.all_takeWhile d hd
    simp only [Text.isSpaceOrTab, Bool.or_eq_true, decide_eq_true_eq] at this
    rcases this with rfl | rfl <;> rfl
  have hstop : StopsAt isBlank (word ++ c :: tail) := by
    obtain ⟨d, w, rfl⟩ := List.exists_cons_of_ne_nil hw
    exact stopsAt_cons.mpr (Text.isBlank_of_isVisible (hv d List.mem_cons_self))
  have hhash : s.dropWhile (· = '#') = s := by
    refine Text.dropWhile_of_stopsAt fun d hd ↦ decide_eq_false ?_
    rintro rfl
    rw [hs] at hd
    cases ht : s.takeWhile Text.isSpaceOrTab with
    | nil =>
      rw [ht, List.nil_append] at hd
      obtain ⟨e, w, rfl⟩ := List.exists_cons_of_ne_nil hw
      exact hh hd
    | cons e w =>
      rw [ht] at hd
      cases hd
      cases hblank '#' (by rw [ht]; exact List.mem_cons_self)
  rw [firstWord, hhash, hs, Text.dropWhile_run hblank hstop, takeWhile_word hv hc]

theorem exists_blank_of_blanks? {s rest : List Char} (h : blanks? s = some rest) :
    ∃ c tail, s = c :: tail ∧ isBlank c := by
  cases s with
  | nil => cases h
  | cons c s =>
    refine ⟨c, s, rfl, ?_⟩
    rw [blanks?] at h
    split at h
    · next hc =>
      simp only [Text.isSpaceOrTab, Bool.or_eq_true, decide_eq_true_eq] at hc
      rcases hc with rfl | rfl <;> rfl
    · cases h

theorem firstWord_of_isPrefixOf {s word rest : List Char} (hw : word ≠ []) (hv : word.all isVisible)
    (hh : word.head? ≠ some '#') (hp : word.isPrefixOf (Text.skipBlanks s))
    (hb : blanks? ((Text.skipBlanks s).drop word.length) = some rest) : firstWord s = word := by
  obtain ⟨t, ht⟩ := List.isPrefixOf_iff_prefix.mp hp
  obtain ⟨c, tail, hd, hc⟩ := exists_blank_of_blanks? hb
  rw [← ht, List.drop_left] at hd
  exact firstWord_of_skipBlanks hw (List.all_eq_true.mp hv) hh hc (by rw [← hd, ht])

theorem helpBody?_eq_none {s : List Char} (h : firstWord s ≠ "HELP".toList) : helpBody? (Text.skipBlanks s) = none := by
  unfold helpBody?
  split
  · next hp =>
    cases hb : blanks? ((Text.skipBlanks s).drop 4) with
    | none => simp [hb]
    | some rest => exact absurd (firstWord_of_isPrefixOf (by decide) (by decide) (by decide) hp hb) h
  · rfl

theorem kindBody?_eq_none {s : List Char} (h : firstWord s ≠ "TYPE".toList) : kindBody? (Text.skipBlanks s) = none := by
  unfold kindBody?
  split
  · next hp =>
    cases hb : blanks? ((Text.skipBlanks s).drop 4) with
    | none => simp [hb]
    | some rest => exact absurd (firstWord_of_isPrefixOf (by decide) (by decide) (by decide) hp hb) h
  · rfl

theorem looksLikeMetadata_eq_false {s : List Char} (hh : firstWord s ≠ "HELP".toList)
    (ht : firstWord s ≠ "TYPE".toList) : looksLikeMetadata ('#' :: s) = false := by
  have hbody {word : List Char} (hv : word.all isVisible) (hne : firstWord s ≠ word) :
      (word ++ [' ']).isPrefixOf (Text.trimStart (s.dropWhile (· = '#'))) = false := by
    refine Bool.eq_false_iff.mpr fun hp ↦ hne ?_
    obtain ⟨t, ht⟩ := List.isPrefixOf_iff_prefix.mp hp
    rw [List.append_assoc] at ht
    rw [firstWord, ← Text.trimStart, ← ht]
    exact takeWhile_word (List.all_eq_true.mp hv) rfl
  have hrest : ('#' :: s).dropWhile (· = '#') = s.dropWhile (· = '#') := rfl
  rw [looksLikeMetadata, hrest, Bool.or_eq_false_iff]
  exact ⟨hbody (by decide) hh, hbody (by decide) ht⟩

theorem exists_trimEnd (s : List Char) :
    ∃ kept blank, s = kept ++ blank ∧ (∀ c ∈ blank, isBlank c) ∧ StopsAt isBlank kept.reverse := by
  refine ⟨(s.reverse.dropWhile isBlank).reverse, (s.reverse.takeWhile isBlank).reverse, ?_, ?_, ?_⟩
  · rw [← List.reverse_append, List.takeWhile_append_dropWhile, List.reverse_reverse]
  · exact fun c hc ↦ List.all_eq_true.mp List.all_takeWhile c (List.mem_reverse.mp hc)
  · rw [List.reverse_reverse]
    intro c hc
    have := List.head?_dropWhile_not isBlank s.reverse
    rw [hc] at this
    simpa using this

theorem readLine_filler {line : List Char} (h : IsFiller line) (families : Families) :
    families.readLine line = .ok families := by
  cases h with
  | blank hb =>
    rw [Families.readLine, Text.trim_blank fun c hc ↦ (hb c hc).1]
  | @comment left rest hl _ hh ht =>
    obtain ⟨kept, blank, rfl, hblank, hkept⟩ := exists_trimEnd rest
    have htrim : IsTrimmed ('#' :: kept) := by
      refine ⟨stopsAt_cons.mpr rfl, ?_⟩
      rw [List.reverse_cons]
      cases hk : kept.reverse with
      | nil => exact stopsAt_cons.mpr rfl
      | cons c k => rw [hk] at hkept; exact stopsAt_cons.mpr (stopsAt_cons.mp hkept)
    have htext : Text.trim (left ++ '#' :: (kept ++ blank)) = '#' :: kept := by
      simpa using Text.trim_padded (fun c hc ↦ (hl c hc).1) hblank htrim
    rw [firstWord_append_blank hblank] at hh ht
    have hread : Metadata.read? ('#' :: kept) = none := by
      rw [Metadata.read?, char?_self]
      dsimp only [Option.bind_eq_bind, Option.bind_some]
      rw [helpBody?_eq_none hh, kindBody?_eq_none ht]
    rw [readLine_comment families htext, Families.readComment, hread, looksLikeMetadata_eq_false hh ht]
    rfl

/-- Only the written lines count, not what stands between and around them. -/
theorem run_interspersed {lines others : List (List Char)} (h : Interspersed lines others)
    (hl : ∀ l ∈ lines, IsLine l) (families : Families) : families.run others = families.run lines := by
  -- fillers are dropped one by one; padding is gone once a line is trimmed
  induction h generalizing families with
  | nil => rfl
  | filler hf _ ih => rw [run_cons (readLine_filler hf families), ih hl]
  | line hleft hright _ ih =>
    have ht := (hl _ List.mem_cons_self).1
    rw [Families.run, Families.run, List.foldlM_cons, List.foldlM_cons, readLine_padded hleft hright ht]
    exact congrArg _ (funext fun next ↦ ih (fun l hm ↦ hl l (List.mem_cons_of_mem _ hm)) next)

theorem IsPadding.not_mem {s : List Char} (h : IsPadding s) : '\n' ∉ s := fun hm ↦ (h _ hm).2 rfl

theorem Interspersed.noFeed {lines others : List (List Char)} (h : Interspersed lines others)
    (hl : ∀ l ∈ lines, IsLine l) : ∀ l ∈ others, '\n' ∉ l := by
  induction h with
  | nil => simp
  | filler hf _ ih =>
    refine List.forall_mem_cons.mpr ⟨?_, ih hl⟩
    cases hf with
    | blank hb => exact hb.not_mem
    | comment hleft hrest _ _ => simp [hleft.not_mem, hrest]
  | line hleft hright _ ih =>
    obtain ⟨hline, htail⟩ := List.forall_mem_cons.mp hl
    refine List.forall_mem_cons.mpr ⟨?_, ih htail⟩
    simp [hleft.not_mem, hright.not_mem, hline.2]

theorem read_interspersed {lines others : List (List Char)} {families : Families} (h : Interspersed lines others)
    (hl : ∀ l ∈ lines, IsLine l) (hr : Families.run .empty lines = .ok families) :
    read (String.ofList (joinLines others)) = .ok families.toList :=
  read_joinLines (h.noFeed hl) ((run_interspersed h hl .empty).trans hr)

theorem not_mem_of_isVisible {s : List Char} (h : ∀ c ∈ s, isVisible c) : '\n' ∉ s := fun hm ↦ by
  cases h '\n' hm

theorem stopsAt_reverse_append {s t : List Char} (ht : t ≠ []) (h : StopsAt isBlank t.reverse) :
    StopsAt isBlank (s ++ t).reverse := by
  rw [List.reverse_append]
  exact (stopsAt_append (by simpa using ht)).mpr h

theorem stopsAt_reverse_of_isVisible {s : List Char} (h : ∀ c ∈ s, isVisible c) : StopsAt isBlank s.reverse :=
  fun c hc ↦ Text.isBlank_of_isVisible (h c (List.mem_reverse.mp (List.mem_of_mem_head? hc)))

theorem feed_not_mem_escapeLabel (c : Char) : '\n' ∉ escapeLabel c := by
  unfold escapeLabel
  split
  · simp
  split
  · simp
  split
  · simp
  · next hn => simpa using Ne.symm hn

theorem feed_not_mem_escapeHelp (c : Char) : '\n' ∉ escapeHelp c := by
  unfold escapeHelp
  split
  · simp
  split
  · simp
  · next hn => simpa using Ne.symm hn

theorem isVisible_of_isLabelNameChar {c : Char} (h : isLabelNameChar c) : isVisible c := by
  simp only [isLabelNameChar, Bool.or_eq_true, decide_eq_true_eq] at h
  rcases h with h | rfl
  · exact Text.isVisible_of_isAlphanum h
  · rfl

theorem IsLabelName.chars {name : String} (h : IsLabelName name) : ∀ c ∈ name.toList, isVisible c := by
  unfold IsLabelName at h
  cases hn : name.toList with
  | nil => simp
  | cons c s =>
    rw [hn] at h
    exact List.forall_mem_cons.mpr ⟨isVisible_of_isLabelNameStart h.1, fun d hd ↦ isVisible_of_isLabelNameChar (h.2 d hd)⟩

theorem feed_not_mem_writeLabel {label : Label} (h : IsLabelName label.1) : '\n' ∉ writeLabel label := by
  have hn := not_mem_of_isVisible h.chars
  have hv : '\n' ∉ label.2.toList.flatMap escapeLabel := by simp [feed_not_mem_escapeLabel]
  rw [writeLabel]
  simp only [List.mem_append, List.mem_cons, List.not_mem_nil, or_false, not_or]
  exact ⟨hn, by decide, by decide, hv, by decide⟩

theorem feed_not_mem_writeLabels {labels : List Label} (h : ∀ l ∈ labels, IsLabelName l.1) :
    '\n' ∉ writeLabels labels := by
  cases labels with
  | nil => simp [writeLabels]
  | cons label labels =>
    have hl := feed_not_mem_writeLabel (h label List.mem_cons_self)
    have hrest : '\n' ∉ labels.flatMap (fun l ↦ ',' :: writeLabel l) := by
      rw [List.mem_flatMap]
      rintro ⟨l, hm, hc⟩
      rcases List.mem_cons.mp hc with hc | hc
      · cases hc
      · exact feed_not_mem_writeLabel (h l (List.mem_cons_of_mem _ hm)) hc
    simp [writeLabels, hl, hrest]

theorem stopsAt_reverse_value {numeral : String} {x : Binary64} (hx : Spells numeral x) (timestamp : Option Int64) :
    StopsAt isBlank (' ' :: (numeral.toList ++ writeTimestamp timestamp)).reverse := by
  obtain ⟨c, s, he, -, hb⟩ := hx.chars
  rw [← List.cons_append]
  cases timestamp with
  | none =>
    rw [writeTimestamp, List.append_nil, ← List.singleton_append]
    refine stopsAt_reverse_append (by simp [he]) fun d hd ↦ ?_
    exact hb d (List.mem_reverse.mp (List.mem_of_mem_head? hd))
  | some t =>
    have hne : (toString t).toList ≠ [] := by
      obtain ⟨sign, digits, he, -, hdigits, -⟩ := Decimal.toString_int64_eq t
      rw [he]
      exact List.append_ne_nil_of_right_ne_nil sign hdigits
    have hend := stopsAt_reverse_of_isVisible (toString_int64_chars t)
    exact stopsAt_reverse_append (by simp [writeTimestamp])
      (stopsAt_reverse_append (s := [' ']) hne hend)

theorem isLine_writeSample {name numeral : String} {labels : List Label} {x : Binary64} (hn : IsMetricName name)
    (hl : ∀ l ∈ labels, IsLabelName l.1) (hx : Spells numeral x) (timestamp : Option Int64) :
    IsLine (writeSample name labels numeral timestamp) := by
  obtain ⟨hne, hv⟩ := hn.chars
  obtain ⟨c, s, he, -, hb⟩ := hx.chars
  have hnumeral : '\n' ∉ numeral.toList := fun hm ↦ by cases hb '\n' hm
  have hstamp : '\n' ∉ writeTimestamp timestamp := by
    cases timestamp with
    | none => simp [writeTimestamp]
    | some t => simp [writeTimestamp, not_mem_of_isVisible (toString_int64_chars t)]
  have hstop : StopsAt isBlank name.toList :=
    fun c hc ↦ Text.isBlank_of_isVisible (hv c (List.mem_of_mem_head? hc))
  refine ⟨⟨?_, stopsAt_reverse_append (by simp) (stopsAt_reverse_value hx timestamp)⟩, ?_⟩
  · rw [writeSample, List.append_assoc]
    exact (stopsAt_append hne).mpr hstop
  · simp [writeSample, not_mem_of_isVisible hv, feed_not_mem_writeLabels hl, hnumeral, hstamp]

theorem isLine_writeComment {word name : String} {tail : List Char} (hw : word.toList.all isVisible)
    (hn : IsMetricName name) (hfeed : '\n' ∉ tail) (hend : StopsAt isBlank tail.reverse) :
    IsLine (writeComment word name tail) := by
  obtain ⟨hne, hv⟩ := hn.chars
  have htail : StopsAt isBlank (name.toList ++ tail).reverse := by
    cases tail with
    | nil => simpa using stopsAt_reverse_of_isVisible hv
    | cons c s => exact stopsAt_reverse_append (by simp) hend
  have hline : writeComment word name tail = ('#' :: ' ' :: (word.toList ++ [' '])) ++ (name.toList ++ tail) := by
    simp [writeComment]
  refine ⟨⟨stopsAt_cons.mpr rfl, ?_⟩, ?_⟩
  · rw [hline]
    exact stopsAt_reverse_append (by simp [hne]) htail
  · simp [writeComment, not_mem_of_isVisible (List.all_eq_true.mp hw), not_mem_of_isVisible hv, hfeed]

theorem isLine_writeHelp {name help : String} (hn : IsMetricName name) (hh : IsTrimmed help.toList) :
    IsLine (writeHelp name help) := by
  have hesc : '\n' ∉ help.toList.flatMap escapeHelp := by simp [feed_not_mem_escapeHelp]
  refine isLine_writeComment (by decide) hn ?_ ?_
  · split
    · simp
    · simpa using hesc
  · split
    · exact Text.stopsAt_nil
    · next he =>
      have hne : help.toList.flatMap escapeHelp ≠ [] := fun h ↦ by
        have hu := unescapeHelp_escape help.toList
        rw [h] at hu
        exact he (String.toList_eq_nil_iff.mp hu.symm)
      exact stopsAt_reverse_append (s := [' ']) hne (isTrimmed_escapeHelp hh).2

theorem isLine_writeKind {name : String} (hn : IsMetricName name) (kind : MetricKind) : IsLine (writeKind name kind) := by
  have hkind : ∀ c ∈ kind.text.toList, isVisible c := List.all_eq_true.mp (by cases kind <;> decide)
  have hne : kind.text.toList ≠ [] := by cases kind <;> decide
  refine isLine_writeComment (by decide) hn (by simp [not_mem_of_isVisible hkind]) ?_
  exact stopsAt_reverse_append (s := [' ']) hne (stopsAt_reverse_of_isVisible hkind)

end MetricRelay.Exposition
