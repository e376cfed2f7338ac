import MetricRelay.Proofs.Decimal.Numeral
import MetricRelay.Proofs.Exposition.Written

namespace MetricRelay.Exposition

open Text (isBlank isSpaceOrTab skipBlanks StopsAt stopsAt_cons stopsAt_append IsTrimmed)

variable {rest : List Char}

theorem name?_append {start more : Char → Bool} {name : String} (hn : IsName start more name.toList)
    (hr : StopsAt more rest) : name? start more (name.toList ++ rest) = some (name, rest) := by
  cases h : name.toList with
  | nil => rw [h] at hn; exact hn.elim
  | cons c s =>
    rw [h] at hn
    rw [List.cons_append, name?, if_pos hn.1, Text.takeWhile_run hn.2 hr, Text.dropWhile_run hn.2 hr, ← h,
      String.ofList_toList]

theorem skipBlanks_of_isBlank {c : Char} {s : List Char} (h : isBlank c = false) : skipBlanks (c :: s) = c :: s :=
  Text.skipBlanks_of_stopsAt (stopsAt_cons.mpr (Text.isSpaceOrTab_of_isBlank h))

@[simp] theorem char?_self (c : Char) (s : List Char) : char? c (c :: s) = some s := by simp [char?]

theorem char?_of_ne {c d : Char} {s : List Char} (h : d ≠ c) : char? c (d :: s) = none := by simp [char?, h]

theorem isVisible_of_isLabelNameStart {c : Char} (h : isLabelNameStart c) : Text.isVisible c := by
  simp only [isLabelNameStart, Bool.or_eq_true, decide_eq_true_eq] at h
  rcases h with h | rfl
  · exact Text.isVisible_of_isAlphanum (by simp [Char.isAlphanum, h])
  · rfl

theorem isVisible_of_isNumeralChar {c : Char} (h : Decimal.isNumeralChar c) : Text.isVisible c := by
  simp only [Decimal.isNumeralChar, Bool.or_eq_true, decide_eq_true_eq] at h
  rcases h with ((h | rfl) | rfl) | rfl
  · exact Text.isVisible_of_isAlphanum h
  all_goals rfl

theorem Spells.chars {numeral : String} {x : Binary64} (h : Spells numeral x) :
    ∃ c s, numeral.toList = c :: s ∧ c ≠ '{' ∧ ∀ d ∈ numeral.toList, isBlank d = false := by
  obtain ⟨hne, hc⟩ := Decimal.float?_chars h
  obtain ⟨c, s, he⟩ := List.exists_cons_of_ne_nil hne
  refine ⟨c, s, he, ?_, fun d hd ↦ Text.isBlank_of_isVisible (isVisible_of_isNumeralChar (hc d hd))⟩
  rintro rfl
  have := hc '{' (by rw [he]; exact List.mem_cons_self)
  cases this

theorem toString_int64_chars (t : Int64) : ∀ c ∈ (toString t).toList, Text.isVisible c := by
  obtain ⟨sign, digits, he, hs, -, hd⟩ := Decimal.toString_int64_eq t
  rw [he]
  intro c hc
  rcases List.mem_append.mp hc with hc | hc
  · rcases hs with rfl | rfl
    · cases hc
    · cases List.mem_singleton.mp hc
      rfl
  · exact Text.isVisible_of_isAlphanum (by simp [Char.isAlphanum, hd c hc])

theorem blanks?_space {c : Char} {s : List Char} (h : isBlank c = false) : blanks? (' ' :: c :: s) = some (c :: s) := by
  rw [blanks?, if_pos (show isSpaceOrTab ' ' from rfl), skipBlanks_of_isBlank h]

theorem unescapeHelp_escape (help : List Char) : unescapeHelp (help.flatMap escapeHelp) = help := by
  induction help with
  | nil => rfl
  | cons c help ih =>
    rw [List.flatMap_cons]
    by_cases hb : c = '\\'
    · subst hb
      simp [escapeHelp, unescapeHelp, ih]
    by_cases hn : c = '\n'
    · subst hn
      simp [escapeHelp, unescapeHelp, ih]
    · simp [escapeHelp, hb, hn, unescapeHelp, ih]

theorem isVisible_of_isMetricNameStart {c : Char} (h : isMetricNameStart c) : Text.isVisible c := by
  simp only [isMetricNameStart, Bool.or_eq_true, decide_eq_true_eq] at h
  rcases h with (h | rfl) | rfl
  · exact Text.isVisible_of_isAlphanum (by simp [Char.isAlphanum, h])
  all_goals rfl

theorem isVisible_of_isMetricNameChar {c : Char} (h : isMetricNameChar c) : Text.isVisible c := by
  simp only [isMetricNameChar, Bool.or_eq_true, decide_eq_true_eq] at h
  rcases h with (h | rfl) | rfl
  · exact Text.isVisible_of_isAlphanum h
  all_goals rfl

theorem IsMetricName.chars {name : String} (h : IsMetricName name) :
    name.toList ≠ [] ∧ ∀ c ∈ name.toList, Text.isVisible c := by
  unfold IsMetricName at h
  cases hn : name.toList with
  | nil => rw [hn] at h; exact h.elim
  | cons c s =>
    rw [hn] at h
    refine ⟨by simp, fun d hd ↦ ?_⟩
    rcases List.mem_cons.mp hd with rfl | hd
    · exact isVisible_of_isMetricNameStart h.1
    · exact isVisible_of_isMetricNameChar (h.2 d hd)

theorem blanks?_name {name : String} (h : IsMetricName name) (tail : List Char) :
    blanks? (' ' :: (name.toList ++ tail)) = some (name.toList ++ tail) := by
  obtain ⟨hne, hv⟩ := h.chars
  obtain ⟨c, s, he⟩ := List.exists_cons_of_ne_nil hne
  rw [he]
  exact blanks?_space (Text.isBlank_of_isVisible (hv c (by rw [he]; exact List.mem_cons_self)))

theorem escapeHelp_stops {c : Char} (hc : isBlank c = false) :
    escapeHelp c ≠ [] ∧ StopsAt isBlank (escapeHelp c) ∧ StopsAt isBlank (escapeHelp c).reverse := by
  unfold escapeHelp
  split
  · exact ⟨by simp, stopsAt_cons.mpr rfl, stopsAt_cons.mpr rfl⟩
  split
  · exact ⟨by simp, stopsAt_cons.mpr rfl, stopsAt_cons.mpr rfl⟩
  · exact ⟨by simp, stopsAt_cons.mpr hc, stopsAt_cons.mpr hc⟩

theorem isTrimmed_escapeHelp {help : List Char} (h : IsTrimmed help) : IsTrimmed (help.flatMap escapeHelp) := by
  refine ⟨Text.stopsAt_flatMap (fun c hc ↦ ?_) h.1, ?_⟩
  · exact ⟨(escapeHelp_stops hc).1, (escapeHelp_stops hc).2.1⟩
  · rw [List.reverse_flatMap]
    refine Text.stopsAt_flatMap (fun c hc ↦ ?_) h.2
    exact ⟨by simpa using (escapeHelp_stops hc).1, (escapeHelp_stops hc).2.2⟩

theorem helpBody?_name {name : String} (hn : IsMetricName name) {tail : List Char}
    (ht : StopsAt isMetricNameChar tail) :
    helpBody? ('H' :: 'E' :: 'L' :: 'P' :: ' ' :: (name.toList ++ tail)) =
      match blanks? tail with
      | some text => some (.help name (String.ofList text))
      | none => if skipBlanks tail = [] then some (.help name "") else none := by
  have hname : metricName? (name.toList ++ tail) = some (name, tail) := name?_append hn ht
  unfold helpBody?
  rw [if_pos (by rfl)]
  dsimp only [Option.bind_eq_bind, Option.bind_some, List.drop]
  rw [blanks?_name hn, Option.bind_some, hname]
  rfl

theorem read?_writeHelp {name help : String} (hn : IsMetricName name) (hh : IsTrimmed help.toList) :
    Metadata.read? (writeHelp name help) = some (.help name (String.ofList (help.toList.flatMap escapeHelp))) := by
  have hread {tail : List Char} {text : String}
      (ht : helpBody? ('H' :: 'E' :: 'L' :: 'P' :: ' ' :: (name.toList ++ tail)) = some (.help name text)) :
      Metadata.read? (writeComment "HELP" name tail) = some (.help name text) := by
    have hbody : Text.skipBlanks (' ' :: ("HELP".toList ++ ' ' :: (name.toList ++ tail))) =
        'H' :: 'E' :: 'L' :: 'P' :: ' ' :: (name.toList ++ tail) := rfl
    rw [Metadata.read?, writeComment, char?_self]
    dsimp only [Option.bind_eq_bind, Option.bind_some]
    rw [hbody, ht]
  refine hread ?_
  by_cases he : help = ""
  · subst he
    exact helpBody?_name hn Text.stopsAt_nil
  · rw [if_neg he, helpBody?_name hn (stopsAt_cons.mpr rfl)]
    have hstop := (isTrimmed_escapeHelp hh).1
    cases h : help.toList.flatMap escapeHelp with
    | nil => rfl
    | cons c s =>
      rw [h] at hstop
      rw [blanks?_space (stopsAt_cons.mp hstop)]

theorem read?_writeKind {name : String} (hn : IsMetricName name) (kind : MetricKind) :
    Metadata.read? (writeKind name kind) = some (.kind name kind.text) := by
  have hname : metricName? (name.toList ++ ' ' :: kind.text.toList) = some (name, ' ' :: kind.text.toList) :=
    name?_append hn (stopsAt_cons.mpr rfl)
  have hblanks : blanks? (' ' :: kind.text.toList) = some kind.text.toList := by cases kind <;> rfl
  have hword : word? kind.text.toList = some (kind.text, []) := by cases kind <;> rfl
  change kindBody? ('T' :: 'Y' :: 'P' :: 'E' :: ' ' :: (name.toList ++ ' ' :: kind.text.toList)) = _
  unfold kindBody?
  rw [if_pos (by rfl)]
  dsimp only [Option.bind_eq_bind, Option.bind_some, List.drop]
  rw [blanks?_name hn, Option.bind_some, hname, Option.bind_some, hblanks, Option.bind_some, hword]
  rfl

theorem ofText?_text (kind : MetricKind) : MetricKind.ofText? kind.text = some kind := by cases kind <;> rfl

end MetricRelay.Exposition
