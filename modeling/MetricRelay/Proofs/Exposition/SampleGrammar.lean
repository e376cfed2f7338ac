import Mathlib.Data.List.DropRight
import MetricRelay.Proofs.Exposition.Names
import MetricRelay.Proofs.Exposition.SampleForm

namespace MetricRelay.Exposition

open Text (isBlank isSpaceOrTab skipBlanks StopsAt stopsAt_cons stopsAt_append)

def blockEnd? (s : List Char) : Option (List Char) := char? '}' (skipBlanks ((char? ',' (skipBlanks s)).getD s))

def gap? (s : List Char) : Option (List Label × List Char) :=
  match labelBlock? (skipBlanks s) with
  | some (labels, rest) => some (labels, skipBlanks rest)
  | none => (blanks? s).map fun rest ↦ ([], rest)

def tail? (s : List Char) : Option (Option String) :=
  let stamp := (blanks? s).bind timestamp?
  if skipBlanks ((stamp.map Prod.snd).getD s) = [] then some (stamp.map Prod.fst) else none

theorem labelBlock?_eq (s : List Char) : labelBlock? s =
    (char? '{' s).bind fun rest ↦ (blockEnd? (pairs (skipBlanks rest)).2).map ((pairs (skipBlanks rest)).1, ·) := by
  rw [labelBlock?]
  cases char? '{' s with
  | none => rfl
  | some rest =>
    dsimp only [Option.bind_eq_bind, Option.bind_some]
    rw [Option.map_eq_bind]
    rfl

theorem read?_eq (s : List Char) : SampleLine.read? s =
    (metricName? s).bind fun (name, rest) ↦ (gap? rest).bind fun (labels, rest) ↦
      (word? rest).bind fun (value, rest) ↦ (tail? rest).map fun stamp ↦ ⟨name, labels, value, stamp⟩ := by
  rw [SampleLine.read?]
  cases metricName? s with
  | none => rfl
  | some found =>
    obtain ⟨name, rest⟩ := found
    have hvalue (labels : List Label) (rest : List Char) :
        ((word? rest).bind fun (value, rest) ↦
          let stamp := (blanks? rest).bind timestamp?
          if skipBlanks ((stamp.map Prod.snd).getD rest) = [] then
            some (SampleLine.mk name labels value (stamp.map Prod.fst)) else none) =
        (word? rest).bind fun (value, rest) ↦ (tail? rest).map fun stamp ↦ ⟨name, labels, value, stamp⟩ := by
      cases word? rest with
      | none => rfl
      | some found =>
        dsimp only [Option.bind_some]
        rw [tail?]
        split
        · rfl
        · rfl
    dsimp only [Option.bind_eq_bind, Option.bind_some]
    rw [gap?]
    cases labelBlock? (skipBlanks rest) with
    | none =>
      cases blanks? rest with
      | none => rfl
      | some rest => exact hvalue [] rest
    | some block => exact hvalue block.1 (skipBlanks block.2)

variable {s rest : List Char} {label : Label} {labels : List Label}

theorem exists_blanks (s : List Char) : ∃ a : Blanks, s = a ++ skipBlanks s := by
  refine ⟨⟨s.takeWhile isSpaceOrTab, List.all_eq_true.mp List.all_takeWhile⟩, ?_⟩
  exact List.takeWhile_append_dropWhile.symm

theorem skipBlanks_append (a : Blanks) (h : StopsAt isSpaceOrTab s) : skipBlanks (a ++ s) = s :=
  Text.dropWhile_run a.property h

theorem skipBlanks_append_cons (a : Blanks) {c : Char} (hc : isSpaceOrTab c = false) (s : List Char) :
    skipBlanks (a ++ c :: s) = c :: s :=
  skipBlanks_append a (stopsAt_cons.mpr hc)

theorem skipBlanks_blanks (a : Blanks) : skipBlanks a = [] := by
  have h := skipBlanks_append a Text.stopsAt_nil
  rwa [List.append_nil] at h

theorem char?_eq_some_iff {c : Char} : char? c s = some rest ↔ s = c :: rest := by
  cases s with
  | nil => simp [char?]
  | cons d s => simp [char?]

theorem blanks?_append {a : Blanks} (ha : a.val ≠ []) (h : StopsAt isSpaceOrTab rest) :
    blanks? (a ++ rest) = some rest := by
  obtain ⟨s, hs⟩ := a
  cases s with
  | nil => exact absurd rfl ha
  | cons c s =>
    have hrun : skipBlanks (s ++ rest) = rest :=
      Text.dropWhile_run (fun d hd ↦ hs d (List.mem_cons_of_mem c hd)) h
    change blanks? (c :: (s ++ rest)) = some rest
    rw [blanks?, if_pos (hs c List.mem_cons_self), hrun]

theorem exists_of_blanks? (h : blanks? s = some rest) : ∃ a : Blanks, a.val ≠ [] ∧ s = a ++ rest := by
  cases s with
  | nil => cases h
  | cons c s =>
    rw [blanks?] at h
    split at h
    · next hc =>
      obtain rfl := Option.some.inj h
      obtain ⟨a, ha⟩ := exists_blanks s
      refine ⟨⟨c :: a, List.forall_mem_cons.mpr ⟨hc, a.property⟩⟩, List.cons_ne_nil _ _, ?_⟩
      exact congrArg (c :: ·) ha
    · cases h

theorem quotedRest?_eq_some_iff {value : List Char} : quotedRest? s = some (value, rest) ↔
    ∃ spelled : List Spelled, s = spelled.flatMap Spelled.text ++ '"' :: rest ∧ spelled.map Spelled.char = value := by
  constructor
  · intro h
    fun_induction quotedRest? s generalizing value with
    | case1 => cases h
    | case2 tail =>
      cases h
      exact ⟨[], rfl, rfl⟩
    | case3 => cases h
    | case4 c tail ih =>
      obtain ⟨⟨v, r⟩, hq, he⟩ := Option.map_eq_some_iff.mp h
      obtain ⟨rfl, rfl⟩ := Prod.mk.inj he
      obtain ⟨spelled, rfl, rfl⟩ := ih hq
      exact ⟨.escaped c :: spelled, rfl, rfl⟩
    | case5 c tail hquote hbackslash ih =>
      obtain ⟨⟨v, r⟩, hq, he⟩ := Option.map_eq_some_iff.mp h
      obtain ⟨rfl, rfl⟩ := Prod.mk.inj he
      obtain ⟨spelled, rfl, rfl⟩ := ih hq
      exact ⟨.plain c hquote hbackslash :: spelled, rfl, rfl⟩
  · rintro ⟨spelled, rfl, rfl⟩
    induction spelled with
    | nil => rfl
    | cons c spelled ih =>
      rw [List.flatMap_cons, List.append_assoc]
      cases c with
      | plain c hquote hbackslash => simp [Spelled.text, Spelled.char, quotedRest?, ih]
      | escaped c => simp [Spelled.text, Spelled.char, quotedRest?, ih]

theorem labelPair?_eq_some_iff : labelPair? s = some (label, rest) ↔
    ∃ form : LabelForm, s = form.text ++ rest ∧ form.label = label := by
  constructor
  · intro h
    simp only [labelPair?, labelValue?, Option.bind_eq_bind, Option.bind_eq_some_iff, Option.pure_def,
      Option.some.injEq, Prod.mk.injEq] at h
    obtain ⟨⟨name, r₁⟩, hname, r₂, hsign, ⟨v, r₃⟩, ⟨r₄, hquote, ⟨w, r₅⟩, hvalue, rfl, rfl⟩, rfl, rfl⟩ := h
    obtain ⟨hisName, rfl⟩ := eq_append_of_name? hname
    obtain ⟨before, hbefore⟩ := exists_blanks r₁
    obtain ⟨after, hafter⟩ := exists_blanks r₂
    obtain ⟨spelled, rfl, rfl⟩ := quotedRest?_eq_some_iff.mp hvalue
    rw [char?_eq_some_iff.mp hsign] at hbefore
    rw [char?_eq_some_iff.mp hquote] at hafter
    refine ⟨⟨name, before, after, spelled, hisName⟩, ?_, rfl⟩
    rw [LabelForm.text_append, hbefore, hafter]
  · rintro ⟨form, rfl, rfl⟩
    rw [form.text_append]
    have hvalue : quotedRest? (form.value.flatMap Spelled.text ++ '"' :: rest) =
        some (form.value.map Spelled.char, rest) := quotedRest?_eq_some_iff.mpr ⟨form.value, rfl, rfl⟩
    rw [labelPair?, labelName?, name?_append form.isName (stopsAt_sign _ _)]
    dsimp only [Option.bind_eq_bind, Option.bind_some]
    rw [skipBlanks_append_cons _ rfl, char?_self, Option.bind_some,
      skipBlanks_append_cons _ rfl, labelValue?, char?_self]
    dsimp only [Option.bind_eq_bind, Option.bind_some]
    rw [hvalue]
    rfl

theorem nextPair?_eq_some_iff : nextPair? s = some (label, rest) ↔ ∃ (before after : Blanks) (form : LabelForm),
    s = before ++ ',' :: (after ++ (form.text ++ rest)) ∧ form.label = label := by
  constructor
  · intro h
    simp only [nextPair?, Option.bind_eq_bind, Option.bind_eq_some_iff] at h
    obtain ⟨r, hcomma, hlabel⟩ := h
    obtain ⟨form, hform, rfl⟩ := labelPair?_eq_some_iff.mp hlabel
    obtain ⟨before, hbefore⟩ := exists_blanks s
    obtain ⟨after, hafter⟩ := exists_blanks r
    rw [char?_eq_some_iff.mp hcomma] at hbefore
    rw [hform] at hafter
    exact ⟨before, after, form, by rw [hbefore, hafter], rfl⟩
  · rintro ⟨before, after, form, rfl, rfl⟩
    rw [nextPair?, skipBlanks_append_cons _ rfl, char?_self]
    dsimp only [Option.bind_eq_bind, Option.bind_some]
    rw [skipBlanks_append _ (form.stopsAt_text rest)]
    exact labelPair?_eq_some_iff.mpr ⟨form, rfl, rfl⟩

theorem blockEnd?_eq_some_iff : blockEnd? s = some rest ↔ ∃ last : BlockEnd, s = last.text ++ rest := by
  constructor
  · intro h
    obtain ⟨before, hbefore⟩ := exists_blanks s
    rw [blockEnd?] at h
    cases hcomma : char? ',' (skipBlanks s) with
    | none =>
      rw [hcomma, Option.getD_none, char?_eq_some_iff] at h
      rw [h] at hbefore
      exact ⟨.brace before, by rw [BlockEnd.text_brace, ← hbefore]⟩
    | some r =>
      obtain ⟨closing, hclosing⟩ := exists_blanks r
      rw [hcomma, Option.getD_some, char?_eq_some_iff] at h
      rw [h] at hclosing
      rw [char?_eq_some_iff.mp hcomma, hclosing] at hbefore
      exact ⟨.comma before closing, by rw [BlockEnd.text_comma, ← hbefore]⟩
  · rintro ⟨last, rfl⟩
    cases last with
    | brace closing =>
      rw [BlockEnd.text_brace, blockEnd?, skipBlanks_append_cons _ rfl, char?_of_ne (by decide),
        Option.getD_none, skipBlanks_append_cons _ rfl, char?_self]
    | comma before closing =>
      rw [BlockEnd.text_comma, blockEnd?, skipBlanks_append_cons _ rfl, char?_self,
        Option.getD_some, skipBlanks_append_cons _ rfl, char?_self]

theorem morePairs_of_none (h : nextPair? s = none) : morePairs s = ([], s) := by
  rw [morePairs]
  split
  · rfl
  · next hn => rw [h] at hn; cases hn

theorem morePairs_of_some (h : nextPair? s = some (label, rest)) :
    morePairs s = (label :: (morePairs rest).1, (morePairs rest).2) := by
  rw [morePairs]
  split
  · next hn => rw [h] at hn; cases hn
  · next hn =>
    rw [h] at hn
    cases hn
    rfl

theorem morePairs_iff : (morePairs s).1 = labels ∧ blockEnd? (morePairs s).2 = some rest ↔
    ∃ more : MoreLabels, s = more.text ++ rest ∧ more.labels = labels := by
  constructor
  · rintro ⟨rfl, h⟩
    fun_induction morePairs s with
    | case1 s hn =>
      obtain ⟨last, hlast⟩ := blockEnd?_eq_some_iff.mp h
      exact ⟨.done last, hlast, rfl⟩
    | case2 s label r hn labels left hmore ih =>
      rw [hmore] at ih
      obtain ⟨more, rfl, hlabels⟩ := ih h
      obtain ⟨before, after, form, rfl, rfl⟩ := nextPair?_eq_some_iff.mp hn
      exact ⟨.next before after form more, by rw [MoreLabels.text_next], congrArg (form.label :: ·) hlabels⟩
  · rintro ⟨more, rfl, rfl⟩
    induction more with
    | done last =>
      have hn : nextPair? ((MoreLabels.done last).text ++ rest) = none := by
        cases hn : nextPair? ((MoreLabels.done last).text ++ rest) with
        | none => rfl
        | some found =>
          obtain ⟨before, after, form, hform, -⟩ := nextPair?_eq_some_iff.mp hn
          exact absurd hform (last.text_ne_next before after form)
      rw [morePairs_of_none hn]
      exact ⟨rfl, blockEnd?_eq_some_iff.mpr ⟨last, rfl⟩⟩
    | next before after label more ih =>
      rw [MoreLabels.text_next, morePairs_of_some (nextPair?_eq_some_iff.mpr ⟨before, after, label, rfl, rfl⟩)]
      exact ⟨congrArg (label.label :: ·) ih.1, ih.2⟩

theorem blockEnd?_skipBlanks (s : List Char) : blockEnd? (skipBlanks s) = blockEnd? s := by
  have hskip (t : List Char) : skipBlanks (skipBlanks t) = skipBlanks t := List.dropWhile_idempotent _ t
  rw [blockEnd?, blockEnd?, hskip]
  cases char? ',' (skipBlanks s) with
  | none => rw [Option.getD_none, Option.getD_none, hskip]
  | some r => rfl

theorem labelBlock?_eq_some_iff : labelBlock? s = some (labels, rest) ↔
    ∃ form : BlockForm, s = form.text ++ rest ∧ form.read = labels := by
  constructor
  · intro h
    simp only [labelBlock?_eq, Option.bind_eq_some_iff, Option.map_eq_some_iff, Prod.mk.injEq] at h
    obtain ⟨r, hopen, left, hend, hlabels, rfl⟩ := h
    obtain rfl := char?_eq_some_iff.mp hopen
    rw [pairs] at hlabels hend
    cases hl : labelPair? (skipBlanks r) with
    | none =>
      rw [hl, blockEnd?_skipBlanks] at hend
      rw [hl] at hlabels
      obtain ⟨last, rfl⟩ := blockEnd?_eq_some_iff.mp hend
      exact ⟨.empty last, rfl, hlabels⟩
    | some found =>
      obtain ⟨label, u⟩ := found
      rw [hl] at hend hlabels
      obtain ⟨more, rfl, hmore⟩ := morePairs_iff.mp ⟨rfl, hend⟩
      obtain ⟨form, hform, rfl⟩ := labelPair?_eq_some_iff.mp hl
      obtain ⟨opening, hopening⟩ := exists_blanks r
      refine ⟨.labels opening form more, ?_, ?_⟩
      · rw [BlockForm.text_labels, hopening, hform]
      · rw [← hlabels, BlockForm.read, hmore]
  · rintro ⟨form, rfl, rfl⟩
    rw [labelBlock?_eq]
    cases form with
    | empty last =>
      have hl : labelPair? (skipBlanks (last.text ++ rest)) = none := by
        cases hl : labelPair? (skipBlanks (last.text ++ rest)) with
        | none => rfl
        | some found =>
          obtain ⟨form, hform, -⟩ := labelPair?_eq_some_iff.mp hl
          obtain ⟨opening, hopening⟩ := exists_blanks (last.text ++ rest)
          rw [hform] at hopening
          exact absurd hopening (last.text_ne_label opening form)
      rw [BlockForm.text_empty, char?_self, Option.bind_some, pairs, hl]
      dsimp only
      rw [blockEnd?_skipBlanks, blockEnd?_eq_some_iff.mpr ⟨last, rfl⟩]
      rfl
    | labels opening label more =>
      have hl : labelPair? (label.text ++ (more.text ++ rest)) = some (label.label, more.text ++ rest) :=
        labelPair?_eq_some_iff.mpr ⟨label, rfl, rfl⟩
      obtain ⟨hlabels, hend⟩ := morePairs_iff.mpr ⟨more, rfl, rfl⟩
      rw [BlockForm.text_labels, char?_self, Option.bind_some, skipBlanks_append _ (label.stopsAt_text _), pairs, hl]
      dsimp only
      rw [hend, hlabels]
      rfl

theorem exists_of_gap? (h : gap? s = some (labels, rest)) :
    ∃ gap : Gap, s = gap.text ++ rest ∧ gap.labels = labels := by
  rw [gap?] at h
  cases hb : labelBlock? (skipBlanks s) with
  | none =>
    rw [hb] at h
    obtain ⟨r, hr, he⟩ := Option.map_eq_some_iff.mp h
    obtain ⟨rfl, rfl⟩ := Prod.mk.inj he
    obtain ⟨a, ha, rfl⟩ := exists_of_blanks? hr
    exact ⟨.blanks a ha, rfl, rfl⟩
  | some found =>
    obtain ⟨found, r⟩ := found
    rw [hb] at h
    obtain ⟨rfl, rfl⟩ := Prod.mk.inj (Option.some.inj h)
    obtain ⟨form, hform, rfl⟩ := labelBlock?_eq_some_iff.mp hb
    obtain ⟨before, hbefore⟩ := exists_blanks s
    obtain ⟨after, hafter⟩ := exists_blanks r
    refine ⟨.block before form after, ?_, rfl⟩
    rw [Gap.text_block, ← hafter, ← hform, ← hbefore]

theorem gap?_append {value : String} (hv : IsValue value) (gap : Gap) (rest : List Char) :
    gap? (gap.text ++ (value.toList ++ rest)) = some (gap.labels, value.toList ++ rest) := by
  cases gap with
  | blanks s hs =>
    have hb : labelBlock? (value.toList ++ rest) = none := by
      obtain ⟨c, t, -, hc, htext⟩ := hv.exists_append rest
      rw [htext, labelBlock?_eq, char?_of_ne hc]
      rfl
    change gap? (s ++ (value.toList ++ rest)) = some ([], value.toList ++ rest)
    rw [gap?, skipBlanks_append s (hv.stopsAt rest), hb]
    dsimp only
    rw [blanks?_append hs (hv.stopsAt rest)]
    rfl
  | block before form after =>
    have hb : labelBlock? (form.text ++ (after ++ (value.toList ++ rest))) =
        some (form.read, after ++ (value.toList ++ rest)) := labelBlock?_eq_some_iff.mpr ⟨form, rfl, rfl⟩
    rw [Gap.text_block, gap?, skipBlanks_append before (form.stopsAt_text _), hb]
    dsimp only
    rw [skipBlanks_append after (hv.stopsAt rest)]
    rfl

theorem eq_append_of_word? {value : String} (h : word? s = some (value, rest)) :
    value.toList ≠ [] ∧ (∀ c ∈ value.toList, isBlank c = false) ∧ s = value.toList ++ rest := by
  have hrun : ∀ c ∈ s.takeWhile fun c ↦ !isBlank c, isBlank c = false := by
    intro c hc
    have hc' := List.all_eq_true.mp List.all_takeWhile c hc
    simpa using hc'
  rw [word?] at h
  split at h
  · cases h
  · next hne =>
    obtain ⟨rfl, rfl⟩ := Prod.mk.inj (Option.some.inj h)
    rw [String.toList_ofList]
    exact ⟨hne, hrun, List.takeWhile_append_dropWhile.symm⟩

theorem eq_append_of_timestamp? {stamp : String} (h : timestamp? s = some (stamp, rest)) :
    IsStamp stamp ∧ s = stamp.toList ++ rest := by
  have hrun (t : List Char) : ∀ c ∈ t.takeWhile Char.isDigit, c.isDigit := List.all_eq_true.mp List.all_takeWhile
  unfold timestamp? at h
  split at h
  · next t =>
    split at h
    · cases h
    · next hne =>
      obtain ⟨rfl, rfl⟩ := Prod.mk.inj (Option.some.inj h)
      rw [IsStamp, String.toList_ofList]
      refine ⟨⟨_, hne, hrun t, .inr rfl⟩, ?_⟩
      rw [List.cons_append, List.takeWhile_append_dropWhile]
  · split at h
    · cases h
    · next hne =>
      obtain ⟨rfl, rfl⟩ := Prod.mk.inj (Option.some.inj h)
      rw [IsStamp, String.toList_ofList]
      exact ⟨⟨_, hne, hrun _, .inl rfl⟩, List.takeWhile_append_dropWhile.symm⟩

theorem word?_append {value : String} (hne : value.toList ≠ []) (hw : ∀ c ∈ value.toList, isBlank c = false)
    (hr : StopsAt (fun c ↦ !isBlank c) rest) : word? (value.toList ++ rest) = some (value, rest) := by
  have hrun : ∀ c ∈ value.toList, (!isBlank c) = true := by
    intro c hc
    rw [hw c hc]
    rfl
  rw [word?, Text.takeWhile_run hrun hr, Text.dropWhile_run hrun hr]
  split
  · next hnil => exact absurd hnil hne
  · rw [String.ofList_toList]

theorem timestamp?_append {stamp : String} (h : IsStamp stamp) (hr : StopsAt Char.isDigit rest) :
    timestamp? (stamp.toList ++ rest) = some (stamp, rest) := by
  obtain ⟨digits, hne, hd, hs⟩ := h
  have htake := Text.takeWhile_run hd hr
  have hdrop := Text.dropWhile_run hd hr
  obtain ⟨d, ds, rfl⟩ := List.exists_cons_of_ne_nil hne
  rcases hs with hs | hs
  · have hof : stamp = String.ofList (d :: ds) := by rw [← hs, String.ofList_toList]
    rw [hs, timestamp?]
    · rw [htake, hdrop, hof]
    · rintro rest ⟨⟩
      exact absurd (hd '-' List.mem_cons_self) (by decide)
  · have hof : stamp = String.ofList ('-' :: d :: ds) := by rw [← hs, String.ofList_toList]
    rw [hs, List.cons_append, timestamp?, htake, hdrop, hof]

theorem tail?_eq_some_iff {stamp : Option String} : tail? s = some stamp ↔
    ∃ trailing form, s = tailText trailing form ∧ form.map StampForm.stamp = stamp := by
  constructor
  · intro h
    rw [tail?] at h
    cases hstamp : (blanks? s).bind timestamp? with
    | none =>
      rw [hstamp] at h
      obtain ⟨hend, hsome⟩ := Option.ite_none_right_eq_some.mp h
      obtain rfl := Option.some.inj hsome
      obtain ⟨trailing, htrailing⟩ := exists_blanks s
      rw [Option.map_none, Option.getD_none] at hend
      rw [hend, List.append_nil] at htrailing
      exact ⟨trailing, none, htrailing, rfl⟩
    | some found =>
      obtain ⟨stamp, r⟩ := found
      rw [hstamp] at h
      obtain ⟨hend, hsome⟩ := Option.ite_none_right_eq_some.mp h
      obtain rfl := Option.some.inj hsome
      obtain ⟨u, hu, ht⟩ := Option.bind_eq_some_iff.mp hstamp
      obtain ⟨before, hne, rfl⟩ := exists_of_blanks? hu
      obtain ⟨hisStamp, rfl⟩ := eq_append_of_timestamp? ht
      obtain ⟨trailing, htrailing⟩ := exists_blanks r
      rw [Option.map_some, Option.getD_some] at hend
      rw [hend, List.append_nil] at htrailing
      refine ⟨trailing, some ⟨before, stamp, hne, hisStamp⟩, ?_, rfl⟩
      rw [htrailing]
      rfl
  · rintro ⟨trailing, form, rfl, rfl⟩
    cases form with
    | none =>
      have hstamp : (blanks? trailing).bind timestamp? = none := by
        apply Option.eq_none_iff_forall_ne_some.mpr
        intro found hfound
        obtain ⟨r, hr, ht⟩ := Option.bind_eq_some_iff.mp hfound
        obtain ⟨before, -, htrailing⟩ := exists_of_blanks? hr
        obtain ⟨hisStamp, rfl⟩ := eq_append_of_timestamp? ht
        exact trailing.ne_stamp hisStamp before htrailing
      change tail? trailing = some none
      rw [tail?, hstamp]
      exact if_pos (skipBlanks_blanks trailing)
    | some form =>
      have hdigit : StopsAt Char.isDigit trailing.val := by
        apply trailing.stopsAt
        intro c hc
        rcases eq_of_isSpaceOrTab hc with rfl | rfl <;> rfl
      have hb : blanks? (form.before ++ (form.stamp.toList ++ trailing)) = some (form.stamp.toList ++ trailing) :=
        blanks?_append form.ne_nil (form.isStamp.stopsAt trailing)
      rw [tailText, tail?, hb, Option.bind_some, timestamp?_append form.isStamp hdigit]
      exact if_pos (skipBlanks_blanks trailing)

theorem read?_text (f : SampleForm) : SampleLine.read? f.text = some f.sample := by
  have hname : metricName? f.text = some (f.name, f.gap.text ++ (f.value.toList ++ tailText f.trailing f.stamp)) :=
    name?_append f.isName (f.gap.stopsAt _)
  have hvalue := word?_append f.isValue.ne_nil f.isValue.word f.stopsAt_tail
  have htail := tail?_eq_some_iff.mpr ⟨f.trailing, f.stamp, rfl, rfl⟩
  rw [read?_eq, hname]
  dsimp only [Option.bind_some]
  rw [gap?_append f.isValue f.gap, Option.bind_some]
  dsimp only
  rw [hvalue, Option.bind_some]
  dsimp only
  rw [htail]
  rfl

theorem exists_form {line : List Char} {sample : SampleLine} (h : SampleLine.read? line = some sample)
    (hbrace : sample.value.toList.head? ≠ some '{') : ∃ f : SampleForm, f.text = line ∧ f.sample = sample := by
  rw [read?_eq] at h
  simp only [Option.bind_eq_some_iff, Option.map_eq_some_iff] at h
  obtain ⟨⟨name, r₁⟩, hname, ⟨labels, r₂⟩, hgap, ⟨value, r₃⟩, hvalue, stamp, htail, rfl⟩ := h
  obtain ⟨hisName, rfl⟩ := eq_append_of_name? hname
  obtain ⟨gap, hgapText, rfl⟩ := exists_of_gap? hgap
  obtain ⟨hne, hword, rfl⟩ := eq_append_of_word? hvalue
  obtain ⟨trailing, form, htailText, rfl⟩ := tail?_eq_some_iff.mp htail
  dsimp only at hgapText htailText
  refine ⟨⟨name, gap, value, form, trailing, hisName, hne, hword, hbrace⟩, ?_, rfl⟩
  rw [SampleForm.text, hgapText, htailText]

/-- A line is read as a sample whose value opens no block exactly if it has a form, and then it has one form only. -/
theorem read?_eq_some_iff {line : List Char} {sample : SampleLine} :
    SampleLine.read? line = some sample ∧ sample.value.toList.head? ≠ some '{' ↔
      ∃ form : SampleForm, form.text = line ∧ form.sample = sample ∧
        ∀ other : SampleForm, other.text = line → other = form := by
  constructor
  · rintro ⟨h, hbrace⟩
    obtain ⟨form, htext, hsample⟩ := exists_form h hbrace
    refine ⟨form, htext, hsample, ?_⟩
    intro other hother
    exact SampleForm.text_inj (hother.trans htext.symm)
  · rintro ⟨form, rfl, rfl, -⟩
    exact ⟨read?_text form, form.isValue.noBrace⟩

/-- Blanks wherever they may stand, two escapes, and a comma in front of the brace. -/
theorem read?_eq_some_iff_blanks : ∃ form : SampleForm, form.text = "up \x7b a\t= \"\\n\\x\" , \x7d 1 -2 ".toList ∧
    form.sample = ⟨"up", [("a", "\nx")], "1", some "-2"⟩ := by
  have hread : SampleLine.read? "up \x7b a\t= \"\\n\\x\" , \x7d 1 -2 ".toList =
      some ⟨"up", [("a", "\nx")], "1", some "-2"⟩ := by
    decide +kernel
  obtain ⟨form, htext, hsample, -⟩ := read?_eq_some_iff.mp ⟨hread, by decide⟩
  exact ⟨form, htext, hsample⟩

end MetricRelay.Exposition
