import MetricRelay.Proofs.Exposition.WrittenLine

namespace MetricRelay.Exposition

open Text (isBlank isSpaceOrTab StopsAt stopsAt_cons stopsAt_append)

abbrev Blanks := { s : List Char // ∀ c ∈ s, isSpaceOrTab c }

/-- A character of a label value as it stands between the quotes. -/
inductive Spelled
  | plain (c : Char) (hquote : c ≠ '"') (hbackslash : c ≠ '\\')
  | escaped (c : Char)

def Spelled.text : Spelled → List Char
  | .plain c _ _ => [c]
  | .escaped c => ['\\', c]

def Spelled.char : Spelled → Char
  | .plain c _ _ => c
  | .escaped c => if c = 'n' then '\n' else c

structure LabelForm where
  name : String
  beforeSign : Blanks
  afterSign : Blanks
  value : List Spelled
  isName : IsLabelName name

def LabelForm.text (l : LabelForm) : List Char :=
  l.name.toList ++ l.beforeSign ++ '=' :: (l.afterSign ++ '"' :: (l.value.flatMap Spelled.text ++ ['"']))

def LabelForm.label (l : LabelForm) : Label := (l.name, String.ofList (l.value.map Spelled.char))

inductive BlockEnd
  | brace (closing : Blanks)
  | comma (before closing : Blanks)

def BlockEnd.text : BlockEnd → List Char
  | .brace closing => closing ++ ['}']
  | .comma before closing => before ++ ',' :: (closing ++ ['}'])

inductive MoreLabels
  | done (last : BlockEnd)
  | next (before after : Blanks) (label : LabelForm) (more : MoreLabels)

def MoreLabels.text : MoreLabels → List Char
  | .done last => last.text
  | .next before after label more => before ++ ',' :: (after ++ (label.text ++ more.text))

def MoreLabels.labels : MoreLabels → List Label
  | .done _ => []
  | .next _ _ label more => label.label :: more.labels

inductive BlockForm
  | empty (last : BlockEnd)
  | labels (opening : Blanks) (label : LabelForm) (more : MoreLabels)

def BlockForm.text : BlockForm → List Char
  | .empty last => '{' :: last.text
  | .labels opening label more => '{' :: (opening ++ (label.text ++ more.text))

def BlockForm.read : BlockForm → List Label
  | .empty _ => []
  | .labels _ label more => label.label :: more.labels

inductive Gap
  | blanks (s : Blanks) (hne : s.val ≠ [])
  | block (before : Blanks) (form : BlockForm) (after : Blanks)

def Gap.text : Gap → List Char
  | .blanks s _ => s
  | .block before form after => before ++ (form.text ++ after)

def Gap.labels : Gap → List Label
  | .blanks _ _ => []
  | .block _ form _ => form.read

/-- A word that cannot be taken for a label block. -/
structure IsValue (value : String) : Prop where
  ne_nil : value.toList ≠ []
  word : ∀ c ∈ value.toList, isBlank c = false
  noBrace : value.toList.head? ≠ some '{'

def IsStamp (stamp : String) : Prop :=
  ∃ digits, digits ≠ [] ∧ (∀ c ∈ digits, c.isDigit) ∧ (stamp.toList = digits ∨ stamp.toList = '-' :: digits)

structure StampForm where
  before : Blanks
  stamp : String
  ne_nil : before.val ≠ []
  isStamp : IsStamp stamp

structure SampleForm where
  name : String
  gap : Gap
  value : String
  stamp : Option StampForm
  trailing : Blanks
  isName : IsMetricName name
  isValue : IsValue value

def tailText (trailing : Blanks) : Option StampForm → List Char
  | none => trailing
  | some s => s.before ++ (s.stamp.toList ++ trailing)

def SampleForm.text (f : SampleForm) : List Char :=
  f.name.toList ++ (f.gap.text ++ (f.value.toList ++ tailText f.trailing f.stamp))

def SampleForm.sample (f : SampleForm) : SampleLine :=
  ⟨f.name, f.gap.labels, f.value, f.stamp.map StampForm.stamp⟩

/-- The texts of two things differ, whatever stands behind them. -/
def Unambiguous {α : Type} (text : α → List Char) : Prop :=
  ∀ {a b : α} {rest rest' : List Char}, text a ++ rest = text b ++ rest' → a = b ∧ rest = rest'

variable {a b : Blanks} {rest rest' : List Char}

theorem Blanks.inj (hr : StopsAt isSpaceOrTab rest) (hr' : StopsAt isSpaceOrTab rest')
    (h : a.val ++ rest = b.val ++ rest') : a = b ∧ rest = rest' := by
  obtain ⟨hab, hrest⟩ := Text.run_inj a.property b.property hr hr' h
  exact ⟨Subtype.ext hab, hrest⟩

theorem Blanks.inj_cons {c d : Char} (hc : isSpaceOrTab c = false) (hd : isSpaceOrTab d = false)
    (h : a.val ++ c :: rest = b.val ++ d :: rest') : a = b ∧ c = d ∧ rest = rest' := by
  obtain ⟨hab, hcons⟩ := Blanks.inj (stopsAt_cons.mpr hc) (stopsAt_cons.mpr hd) h
  exact ⟨hab, List.cons.inj hcons⟩

theorem name_inj {start more : Char → Bool} {name name' : String} (hn : IsName start more name.toList)
    (hn' : IsName start more name'.toList) (hr : StopsAt more rest) (hr' : StopsAt more rest')
    (h : name.toList ++ rest = name'.toList ++ rest') : name = name' ∧ rest = rest' := by
  have hread := congrArg (name? start more) h
  rw [name?_append hn hr, name?_append hn' hr'] at hread
  exact Prod.mk.inj (Option.some.inj hread)

theorem stopsAt_blanks {p : Char → Bool} (hp : ∀ c, isSpaceOrTab c → p c = false) (a : Blanks)
    (hr : StopsAt p rest) : StopsAt p (a.val ++ rest) := by
  obtain ⟨s, hs⟩ := a
  cases s with
  | nil => exact hr
  | cons c s => exact stopsAt_cons.mpr (hp c (hs c List.mem_cons_self))

theorem Blanks.stopsAt {p : Char → Bool} (hp : ∀ c, isSpaceOrTab c → p c = false) (a : Blanks) :
    StopsAt p a.val := by
  have hstop := stopsAt_blanks hp a Text.stopsAt_nil
  rwa [List.append_nil] at hstop

theorem eq_of_isSpaceOrTab {c : Char} (h : isSpaceOrTab c) : c = ' ' ∨ c = '\t' := by
  simpa [isSpaceOrTab] using h

theorem isLabelNameChar_of_isSpaceOrTab (c : Char) (h : isSpaceOrTab c) : isLabelNameChar c = false := by
  rcases eq_of_isSpaceOrTab h with rfl | rfl <;> rfl

theorem stopsAt_sign (a : Blanks) (s : List Char) : StopsAt isLabelNameChar (a.val ++ '=' :: s) :=
  stopsAt_blanks isLabelNameChar_of_isSpaceOrTab a (stopsAt_cons.mpr rfl)

theorem isMetricNameChar_of_isSpaceOrTab (c : Char) (h : isSpaceOrTab c) : isMetricNameChar c = false := by
  rcases eq_of_isSpaceOrTab h with rfl | rfl <;> rfl

theorem Spelled.unambiguous : Unambiguous Spelled.text := by
  intro c d rest rest' h
  cases c with
  | plain c hquote hbackslash =>
    cases d with
    | plain d hquote' hbackslash' =>
      obtain ⟨rfl, hrest⟩ := List.cons.inj h
      exact ⟨rfl, hrest⟩
    | escaped d => exact absurd (List.cons.inj h).1 hbackslash
  | escaped c =>
    cases d with
    | plain d hquote hbackslash => exact absurd (List.cons.inj h).1.symm hbackslash
    | escaped d =>
      obtain ⟨rfl, hrest⟩ := List.cons.inj (List.cons.inj h).2
      exact ⟨rfl, hrest⟩

theorem Spelled.text_append_ne (c : Spelled) : c.text ++ rest ≠ '"' :: rest' := by
  intro h
  cases c with
  | plain c hquote hbackslash => exact hquote (List.cons.inj h).1
  | escaped c => exact absurd (List.cons.inj h).1 (by decide)

theorem spelled_inj {v w : List Spelled}
    (h : v.flatMap Spelled.text ++ '"' :: rest = w.flatMap Spelled.text ++ '"' :: rest') : v = w ∧ rest = rest' := by
  induction v generalizing w with
  | nil =>
    cases w with
    | nil => exact ⟨rfl, (List.cons.inj h).2⟩
    | cons d w =>
      rw [List.flatMap_cons, List.append_assoc] at h
      exact absurd h.symm d.text_append_ne
  | cons c v ih =>
    rw [List.flatMap_cons, List.append_assoc] at h
    cases w with
    | nil => exact absurd h c.text_append_ne
    | cons d w =>
      rw [List.flatMap_cons, List.append_assoc] at h
      obtain ⟨rfl, htail⟩ := Spelled.unambiguous h
      obtain ⟨rfl, hrest⟩ := ih htail
      exact ⟨rfl, hrest⟩

theorem LabelForm.text_append (l : LabelForm) (rest : List Char) : l.text ++ rest =
    l.name.toList ++ (l.beforeSign ++ '=' :: (l.afterSign ++ '"' :: (l.value.flatMap Spelled.text ++ '"' :: rest))) := by
  simp [LabelForm.text]

theorem LabelForm.exists_text_append (l : LabelForm) (rest : List Char) :
    ∃ c s, isLabelNameStart c ∧ l.text ++ rest = c :: s := by
  have hname := l.isName
  unfold IsLabelName at hname
  rw [l.text_append]
  cases hn : l.name.toList with
  | nil =>
    rw [hn] at hname
    exact hname.elim
  | cons c s =>
    rw [hn] at hname
    exact ⟨c, _, hname.1, rfl⟩

theorem LabelForm.stopsAt_text (l : LabelForm) (rest : List Char) : StopsAt isSpaceOrTab (l.text ++ rest) := by
  obtain ⟨c, s, hc, htext⟩ := l.exists_text_append rest
  rw [htext]
  apply stopsAt_cons.mpr
  apply Text.isSpaceOrTab_of_isBlank
  exact Text.isBlank_of_isVisible (isVisible_of_isLabelNameStart hc)

theorem LabelForm.text_append_ne (l : LabelForm) {c : Char} (hc : isLabelNameStart c = false) (s : List Char) :
    l.text ++ rest ≠ c :: s := by
  intro h
  obtain ⟨d, t, hd, htext⟩ := l.exists_text_append rest
  rw [htext, List.cons.injEq] at h
  rw [h.1, hc] at hd
  cases hd

theorem LabelForm.unambiguous : Unambiguous LabelForm.text := by
  intro l l' rest rest' h
  rw [l.text_append, l'.text_append] at h
  obtain ⟨hname, h⟩ := name_inj l.isName l'.isName (stopsAt_sign _ _) (stopsAt_sign _ _) h
  obtain ⟨hbefore, -, h⟩ := Blanks.inj_cons rfl rfl h
  obtain ⟨hafter, -, h⟩ := Blanks.inj_cons rfl rfl h
  obtain ⟨hvalue, hrest⟩ := spelled_inj h
  cases l
  cases l'
  cases hname
  cases hbefore
  cases hafter
  cases hvalue
  exact ⟨rfl, hrest⟩

theorem BlockEnd.text_brace (closing : Blanks) (rest : List Char) :
    (BlockEnd.brace closing).text ++ rest = closing ++ '}' :: rest := by
  simp [BlockEnd.text]

theorem BlockEnd.text_comma (before closing : Blanks) (rest : List Char) :
    (BlockEnd.comma before closing).text ++ rest = before ++ ',' :: (closing ++ '}' :: rest) := by
  simp [BlockEnd.text]

theorem BlockEnd.unambiguous : Unambiguous BlockEnd.text := by
  intro last last' rest rest' h
  cases last with
  | brace closing =>
    rw [BlockEnd.text_brace] at h
    cases last' with
    | brace closing' =>
      rw [BlockEnd.text_brace] at h
      obtain ⟨rfl, -, hrest⟩ := Blanks.inj_cons rfl rfl h
      exact ⟨rfl, hrest⟩
    | comma before' closing' =>
      rw [BlockEnd.text_comma] at h
      obtain ⟨-, hchar, -⟩ := Blanks.inj_cons rfl rfl h
      exact absurd hchar (by decide)
  | comma before closing =>
    rw [BlockEnd.text_comma] at h
    cases last' with
    | brace closing' =>
      rw [BlockEnd.text_brace] at h
      obtain ⟨-, hchar, -⟩ := Blanks.inj_cons rfl rfl h
      exact absurd hchar (by decide)
    | comma before' closing' =>
      rw [BlockEnd.text_comma] at h
      obtain ⟨rfl, -, hclosing⟩ := Blanks.inj_cons rfl rfl h
      obtain ⟨rfl, -, hrest⟩ := Blanks.inj_cons rfl rfl hclosing
      exact ⟨rfl, hrest⟩

theorem BlockEnd.text_ne_label (last : BlockEnd) (opening : Blanks) (label : LabelForm) :
    last.text ++ rest ≠ opening ++ (label.text ++ rest') := by
  intro h
  cases last with
  | brace closing =>
    rw [BlockEnd.text_brace] at h
    obtain ⟨-, hlabel⟩ := Blanks.inj (stopsAt_cons.mpr rfl) (label.stopsAt_text rest') h
    exact label.text_append_ne rfl rest hlabel.symm
  | comma before closing =>
    rw [BlockEnd.text_comma] at h
    obtain ⟨-, hlabel⟩ := Blanks.inj (stopsAt_cons.mpr rfl) (label.stopsAt_text rest') h
    exact label.text_append_ne rfl _ hlabel.symm

theorem BlockEnd.text_ne_next (last : BlockEnd) (before after : Blanks) (label : LabelForm) :
    last.text ++ rest ≠ before ++ ',' :: (after ++ (label.text ++ rest')) := by
  intro h
  cases last with
  | brace closing =>
    rw [BlockEnd.text_brace] at h
    obtain ⟨-, hchar, -⟩ := Blanks.inj_cons rfl rfl h
    exact absurd hchar (by decide)
  | comma before' closing =>
    rw [BlockEnd.text_comma] at h
    obtain ⟨-, -, hafter⟩ := Blanks.inj_cons rfl rfl h
    rw [← BlockEnd.text_brace] at hafter
    exact BlockEnd.text_ne_label (.brace closing) after label hafter

theorem MoreLabels.text_next (before after : Blanks) (label : LabelForm) (more : MoreLabels) (rest : List Char) :
    (MoreLabels.next before after label more).text ++ rest =
      before ++ ',' :: (after ++ (label.text ++ (more.text ++ rest))) := by
  simp [MoreLabels.text]

theorem MoreLabels.unambiguous : Unambiguous MoreLabels.text := by
  intro more more' rest rest' h
  induction more generalizing more' with
  | done last =>
    cases more' with
    | done last' =>
      obtain ⟨rfl, hrest⟩ := BlockEnd.unambiguous h
      exact ⟨rfl, hrest⟩
    | next before after label more =>
      rw [MoreLabels.text_next] at h
      exact absurd h (last.text_ne_next before after label)
  | next before after label more ih =>
    rw [MoreLabels.text_next] at h
    cases more' with
    | done last' => exact absurd h.symm (last'.text_ne_next before after label)
    | next before' after' label' more' =>
      rw [MoreLabels.text_next] at h
      obtain ⟨rfl, -, hafter⟩ := Blanks.inj_cons rfl rfl h
      obtain ⟨rfl, hlabel⟩ := Blanks.inj (label.stopsAt_text _) (label'.stopsAt_text _) hafter
      obtain ⟨rfl, hmore⟩ := LabelForm.unambiguous hlabel
      obtain ⟨rfl, hrest⟩ := ih hmore
      exact ⟨rfl, hrest⟩

theorem BlockForm.text_empty (last : BlockEnd) (rest : List Char) :
    (BlockForm.empty last).text ++ rest = '{' :: (last.text ++ rest) := rfl

theorem BlockForm.text_labels (opening : Blanks) (label : LabelForm) (more : MoreLabels) (rest : List Char) :
    (BlockForm.labels opening label more).text ++ rest =
      '{' :: (opening ++ (label.text ++ (more.text ++ rest))) := by
  simp [BlockForm.text]

theorem BlockForm.exists_text_append (form : BlockForm) (rest : List Char) : ∃ s, form.text ++ rest = '{' :: s := by
  cases form with
  | empty last => exact ⟨_, rfl⟩
  | labels opening label more => exact ⟨_, rfl⟩

theorem BlockForm.stopsAt_text (form : BlockForm) (rest : List Char) : StopsAt isSpaceOrTab (form.text ++ rest) := by
  obtain ⟨s, hs⟩ := form.exists_text_append rest
  rw [hs]
  exact stopsAt_cons.mpr rfl

theorem BlockForm.unambiguous : Unambiguous BlockForm.text := by
  intro form form' rest rest' h
  cases form with
  | empty last =>
    cases form' with
    | empty last' =>
      obtain ⟨rfl, hrest⟩ := BlockEnd.unambiguous (List.cons.inj h).2
      exact ⟨rfl, hrest⟩
    | labels opening label more =>
      rw [BlockForm.text_labels] at h
      exact absurd (List.cons.inj h).2 (last.text_ne_label opening label)
  | labels opening label more =>
    rw [BlockForm.text_labels] at h
    cases form' with
    | empty last' => exact absurd (List.cons.inj h).2.symm (last'.text_ne_label opening label)
    | labels opening' label' more' =>
      rw [BlockForm.text_labels] at h
      obtain ⟨rfl, hlabel⟩ := Blanks.inj (label.stopsAt_text _) (label'.stopsAt_text _) (List.cons.inj h).2
      obtain ⟨rfl, hmore⟩ := LabelForm.unambiguous hlabel
      obtain ⟨rfl, hrest⟩ := MoreLabels.unambiguous hmore
      exact ⟨rfl, hrest⟩

theorem IsValue.exists_append {value : String} (h : IsValue value) (rest : List Char) :
    ∃ c s, isBlank c = false ∧ c ≠ '{' ∧ value.toList ++ rest = c :: s := by
  obtain ⟨c, s, hc⟩ := List.exists_cons_of_ne_nil h.ne_nil
  refine ⟨c, s ++ rest, h.word c ?_, ?_, by rw [hc, List.cons_append]⟩
  · rw [hc]
    exact List.mem_cons_self
  · rintro rfl
    apply h.noBrace
    rw [hc, List.head?_cons]

theorem IsValue.stopsAt {value : String} (h : IsValue value) (rest : List Char) :
    StopsAt isSpaceOrTab (value.toList ++ rest) := by
  obtain ⟨c, s, hc, -, htext⟩ := h.exists_append rest
  rw [htext]
  exact stopsAt_cons.mpr (Text.isSpaceOrTab_of_isBlank hc)

theorem Gap.text_block (before : Blanks) (form : BlockForm) (after : Blanks) (rest : List Char) :
    (Gap.block before form after).text ++ rest = before ++ (form.text ++ (after ++ rest)) := by
  simp [Gap.text]

theorem Gap.inj {gap gap' : Gap} {value value' : String} (hv : IsValue value) (hv' : IsValue value')
    (h : gap.text ++ (value.toList ++ rest) = gap'.text ++ (value'.toList ++ rest')) :
    gap = gap' ∧ value.toList ++ rest = value'.toList ++ rest' := by
  have hne {v : String} (hv : IsValue v) (form : BlockForm) (s t : List Char) : v.toList ++ s ≠ form.text ++ t := by
    intro he
    obtain ⟨c, _, -, hc, htext⟩ := hv.exists_append s
    obtain ⟨_, hs⟩ := form.exists_text_append t
    rw [htext, hs] at he
    exact hc (List.cons.inj he).1
  cases gap with
  | blanks s hs =>
    cases gap' with
    | blanks s' hs' =>
      obtain ⟨rfl, hrest⟩ := Blanks.inj (hv.stopsAt rest) (hv'.stopsAt rest') h
      exact ⟨rfl, hrest⟩
    | block before form after =>
      rw [Gap.text_block] at h
      obtain ⟨-, hblock⟩ := Blanks.inj (hv.stopsAt rest) (form.stopsAt_text _) h
      exact absurd hblock (hne hv form _ _)
  | block before form after =>
    rw [Gap.text_block] at h
    cases gap' with
    | blanks s' hs' =>
      obtain ⟨-, hblock⟩ := Blanks.inj (form.stopsAt_text _) (hv'.stopsAt rest') h
      exact absurd hblock.symm (hne hv' form _ _)
    | block before' form' after' =>
      rw [Gap.text_block] at h
      obtain ⟨rfl, hblock⟩ := Blanks.inj (form.stopsAt_text _) (form'.stopsAt_text _) h
      obtain ⟨rfl, hafter⟩ := BlockForm.unambiguous hblock
      obtain ⟨rfl, hrest⟩ := Blanks.inj (hv.stopsAt rest) (hv'.stopsAt rest') hafter
      exact ⟨rfl, hrest⟩

theorem Gap.stopsAt (gap : Gap) (rest : List Char) : StopsAt isMetricNameChar (gap.text ++ rest) := by
  cases gap with
  | blanks s hs =>
    obtain ⟨c, t, hc⟩ := List.exists_cons_of_ne_nil hs
    have hblank := s.property c (by rw [hc]; exact List.mem_cons_self)
    have htext : (Gap.blanks s hs).text ++ rest = c :: (t ++ rest) := by
      rw [Gap.text, hc, List.cons_append]
    rw [htext]
    exact stopsAt_cons.mpr (isMetricNameChar_of_isSpaceOrTab c hblank)
  | block before form after =>
    rw [Gap.text_block]
    apply stopsAt_blanks isMetricNameChar_of_isSpaceOrTab
    obtain ⟨s, hs⟩ := form.exists_text_append (after ++ rest)
    rw [hs]
    exact stopsAt_cons.mpr rfl

theorem IsStamp.chars {stamp : String} (h : IsStamp stamp) :
    stamp.toList ≠ [] ∧ ∀ c ∈ stamp.toList, isSpaceOrTab c = false := by
  obtain ⟨digits, hne, hdigits, hstamp⟩ := h
  have hblank : ∀ c ∈ digits, isSpaceOrTab c = false := by
    intro c hc
    apply Text.isSpaceOrTab_of_isBlank
    apply Text.isBlank_of_isVisible
    apply Text.isVisible_of_isAlphanum
    simp [Char.isAlphanum, hdigits c hc]
  rcases hstamp with hstamp | hstamp
  · rw [hstamp]
    exact ⟨hne, hblank⟩
  · rw [hstamp]
    exact ⟨List.cons_ne_nil '-' digits, List.forall_mem_cons.mpr ⟨rfl, hblank⟩⟩

theorem IsStamp.stopsAt {stamp : String} (h : IsStamp stamp) (rest : List Char) :
    StopsAt isSpaceOrTab (stamp.toList ++ rest) := by
  obtain ⟨hne, hchars⟩ := h.chars
  apply (stopsAt_append hne).mpr
  intro c hc
  exact hchars c (List.mem_of_mem_head? hc)

theorem stopsAt_tailText {p : Char → Bool} (hp : ∀ c, isSpaceOrTab c → p c = false) (trailing : Blanks)
    (stamp : Option StampForm) : StopsAt p (tailText trailing stamp) := by
  cases stamp with
  | none => exact trailing.stopsAt hp
  | some s => exact (stopsAt_append s.ne_nil).mpr (s.before.stopsAt hp)

theorem Blanks.ne_stamp (a : Blanks) {stamp : String} (h : IsStamp stamp) (before : List Char) :
    a.val ≠ before ++ (stamp.toList ++ rest) := by
  intro he
  obtain ⟨hne, hchars⟩ := h.chars
  obtain ⟨c, t, hc⟩ := List.exists_cons_of_ne_nil hne
  have hmem : c ∈ a.val := by
    rw [he, hc]
    simp
  have hblank := hchars c (by rw [hc]; exact List.mem_cons_self)
  rw [a.property c hmem] at hblank
  cases hblank

theorem tailText_inj {stamp stamp' : Option StampForm} (h : tailText a stamp = tailText b stamp') :
    a = b ∧ stamp = stamp' := by
  cases stamp with
  | none =>
    cases stamp' with
    | none => exact ⟨Subtype.ext h, rfl⟩
    | some s' => exact absurd h (a.ne_stamp s'.isStamp s'.before)
  | some s =>
    cases stamp' with
    | none => exact absurd h.symm (b.ne_stamp s.isStamp s.before)
    | some s' =>
      obtain ⟨hbefore, h⟩ := Blanks.inj (s.isStamp.stopsAt a) (s'.isStamp.stopsAt b) h
      have hword {t : StampForm} : ∀ c ∈ t.stamp.toList, (!isSpaceOrTab c) = true := by
        intro c hc
        rw [t.isStamp.chars.2 c hc]
        rfl
      have hstop (t : Blanks) : StopsAt (fun c ↦ !isSpaceOrTab c) t.val := by
        apply t.stopsAt
        intro c hc
        simp [hc]
      obtain ⟨hstamp, htrailing⟩ := Text.run_inj hword hword (hstop a) (hstop b) h
      cases s
      cases s'
      cases hbefore
      cases String.toList_inj.mp hstamp
      exact ⟨Subtype.ext htrailing, rfl⟩

theorem SampleForm.stopsAt_tail (f : SampleForm) :
    StopsAt (fun c ↦ !isBlank c) (tailText f.trailing f.stamp) := by
  apply stopsAt_tailText
  intro c hc
  rcases eq_of_isSpaceOrTab hc with rfl | rfl <;> rfl

/-- No line has two forms. -/
theorem SampleForm.text_inj {f g : SampleForm} (h : f.text = g.text) : f = g := by
  obtain ⟨hname, h⟩ := name_inj f.isName g.isName (f.gap.stopsAt _) (g.gap.stopsAt _) h
  obtain ⟨hgap, h⟩ := Gap.inj f.isValue g.isValue h
  have hword {v : String} (hv : IsValue v) : ∀ c ∈ v.toList, (!isBlank c) = true := by
    intro c hc
    rw [hv.word c hc]
    rfl
  obtain ⟨hvalue, h⟩ := Text.run_inj (hword f.isValue) (hword g.isValue) f.stopsAt_tail g.stopsAt_tail h
  obtain ⟨htrailing, hstamp⟩ := tailText_inj h
  cases f
  cases g
  cases hname
  cases hgap
  cases String.toList_inj.mp hvalue
  cases htrailing
  cases hstamp
  rfl

end MetricRelay.Exposition
