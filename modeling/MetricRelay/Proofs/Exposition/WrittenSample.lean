import MetricRelay.Proofs.Exposition.SampleGrammar

namespace MetricRelay.Exposition

variable {label : Label} {labels : List Label} {numeral : String} {x : Binary64}

def noBlanks : Blanks := ⟨[], by simp⟩

def oneSpace : Blanks := ⟨[' '], by simp [Text.isSpaceOrTab]⟩

theorem exists_spelled_char (c : Char) : ∃ s : Spelled, s.text = escapeLabel c ∧ s.char = c := by
  by_cases hbackslash : c = '\\'
  · subst hbackslash
    exact ⟨.escaped '\\', rfl, rfl⟩
  by_cases hquote : c = '"'
  · subst hquote
    exact ⟨.escaped '"', rfl, rfl⟩
  by_cases hfeed : c = '\n'
  · subst hfeed
    exact ⟨.escaped 'n', rfl, rfl⟩
  · refine ⟨.plain c hquote hbackslash, ?_, rfl⟩
    simp [escapeLabel, Spelled.text, hbackslash, hquote, hfeed]

theorem exists_spelled (value : List Char) : ∃ spelled : List Spelled,
    spelled.flatMap Spelled.text = value.flatMap escapeLabel ∧ spelled.map Spelled.char = value := by
  induction value with
  | nil => exact ⟨[], rfl, rfl⟩
  | cons c value ih =>
    obtain ⟨s, htext, hchar⟩ := exists_spelled_char c
    obtain ⟨spelled, htexts, hchars⟩ := ih
    refine ⟨s :: spelled, ?_, ?_⟩
    · rw [List.flatMap_cons, List.flatMap_cons, htext, htexts]
    · rw [List.map_cons, hchar, hchars]

theorem exists_labelForm (h : IsLabelName label.1) :
    ∃ form : LabelForm, form.text = writeLabel label ∧ form.label = label := by
  obtain ⟨spelled, htext, hvalue⟩ := exists_spelled label.2.toList
  refine ⟨⟨label.1, noBlanks, noBlanks, spelled, h⟩, ?_, ?_⟩
  · simp [LabelForm.text, writeLabel, noBlanks, htext]
  · rw [LabelForm.label, hvalue, String.ofList_toList]

theorem exists_moreLabels (h : ∀ l ∈ labels, IsLabelName l.1) : ∃ more : MoreLabels,
    more.text = labels.flatMap (fun l ↦ ',' :: writeLabel l) ++ ['}'] ∧ more.labels = labels := by
  induction labels with
  | nil => exact ⟨.done (.brace noBlanks), rfl, rfl⟩
  | cons label labels ih =>
    obtain ⟨form, htext, hlabel⟩ := exists_labelForm (h label List.mem_cons_self)
    obtain ⟨more, hmore, hlabels⟩ := ih fun l hl ↦ h l (List.mem_cons_of_mem _ hl)
    refine ⟨.next noBlanks noBlanks form more, ?_, ?_⟩
    · simp [MoreLabels.text, noBlanks, htext, hmore]
    · rw [MoreLabels.labels, hlabel, hlabels]

theorem exists_gap (h : ∀ l ∈ labels, IsLabelName l.1) :
    ∃ gap : Gap, gap.text = writeLabels labels ++ [' '] ∧ gap.labels = labels := by
  cases labels with
  | nil => exact ⟨.blanks oneSpace (List.cons_ne_nil ' ' []), rfl, rfl⟩
  | cons label labels =>
    obtain ⟨form, htext, hlabel⟩ := exists_labelForm (h label List.mem_cons_self)
    obtain ⟨more, hmore, hlabels⟩ := exists_moreLabels fun l hl ↦ h l (List.mem_cons_of_mem _ hl)
    refine ⟨.block noBlanks (.labels noBlanks form more) oneSpace, ?_, ?_⟩
    · simp [Gap.text, BlockForm.text, writeLabels, noBlanks, oneSpace, htext, hmore]
    · rw [Gap.labels, BlockForm.read, hlabel, hlabels]

theorem Spells.isValue (h : Spells numeral x) : IsValue numeral := by
  obtain ⟨c, s, htext, hc, hword⟩ := h.chars
  refine ⟨?_, hword, ?_⟩
  · rw [htext]
    exact List.cons_ne_nil c s
  · rw [htext, List.head?_cons]
    intro he
    exact hc (Option.some.inj he)

theorem isStamp_toString (t : Int64) : IsStamp (toString t) := by
  obtain ⟨sign, digits, htext, hsign, hne, hdigits⟩ := Decimal.toString_int64_eq t
  refine ⟨digits, hne, hdigits, ?_⟩
  rw [htext]
  rcases hsign with rfl | rfl
  · exact .inl rfl
  · exact .inr rfl

theorem exists_stampForm (timestamp : Option Int64) : ∃ stamp : Option StampForm,
    tailText noBlanks stamp = writeTimestamp timestamp ∧ stamp.map StampForm.stamp = timestamp.map toString := by
  cases timestamp with
  | none => exact ⟨none, rfl, rfl⟩
  | some t =>
    refine ⟨some ⟨oneSpace, toString t, List.cons_ne_nil ' ' [], isStamp_toString t⟩, ?_, rfl⟩
    simp [tailText, writeTimestamp, noBlanks, oneSpace]

theorem read?_writeSample {name : String} (hn : IsMetricName name) (hl : ∀ l ∈ labels, IsLabelName l.1)
    (hx : Spells numeral x) (timestamp : Option Int64) :
    SampleLine.read? (writeSample name labels numeral timestamp) =
      some ⟨name, labels, numeral, timestamp.map toString⟩ := by
  obtain ⟨gap, hgap, hlabels⟩ := exists_gap hl
  obtain ⟨stamp, htail, hstamp⟩ := exists_stampForm timestamp
  have hread := read?_text ⟨name, gap, numeral, stamp, noBlanks, hn, hx.isValue⟩
  have htext : writeSample name labels numeral timestamp =
      SampleForm.text ⟨name, gap, numeral, stamp, noBlanks, hn, hx.isValue⟩ := by
    simp [SampleForm.text, writeSample, hgap, htail]
  rw [htext, hread, SampleForm.sample, hlabels, hstamp]

end MetricRelay.Exposition
