import MetricRelay.Text.Blank
import MetricRelay.Text.Cut

namespace MetricRelay.Text

/-- The text is empty or starts with a character that `p` refuses. -/
def StopsAt (p : Char → Bool) (s : List Char) : Prop := ∀ c, s.head? = some c → p c = false

def IsTrimmed (s : List Char) : Prop := StopsAt isBlank s ∧ StopsAt isBlank s.reverse

def joinLines (lines : List (List Char)) : List Char := lines.flatMap (· ++ ['\n'])

variable {p : Char → Bool} {s rest : List Char}

theorem stopsAt_nil : StopsAt p [] := by simp [StopsAt]

theorem stopsAt_cons {c : Char} : StopsAt p (c :: s) ↔ p c = false := by simp [StopsAt]

theorem stopsAt_append {t : List Char} (hs : s ≠ []) : StopsAt p (s ++ t) ↔ StopsAt p s := by
  obtain ⟨c, s, rfl⟩ := List.exists_cons_of_ne_nil hs
  exact stopsAt_cons.trans stopsAt_cons.symm

theorem stopsAt_flatMap {f : Char → List Char} (hf : ∀ c, p c = false → f c ≠ [] ∧ StopsAt p (f c))
    (h : StopsAt p s) : StopsAt p (s.flatMap f) := by
  cases s with
  | nil => exact stopsAt_nil
  | cons c s =>
    obtain ⟨hne, hc⟩ := hf c (stopsAt_cons.mp h)
    exact (stopsAt_append hne).mpr hc

theorem takeWhile_of_stopsAt (h : StopsAt p s) : s.takeWhile p = [] := by
  cases s with
  | nil => rfl
  | cons c s => simp [stopsAt_cons.mp h]

theorem dropWhile_of_stopsAt (h : StopsAt p s) : s.dropWhile p = s := by
  cases s with
  | nil => rfl
  | cons c s => simp [stopsAt_cons.mp h]

theorem takeWhile_run (hs : ∀ c ∈ s, p c) (hr : StopsAt p rest) : (s ++ rest).takeWhile p = s := by
  rw [List.takeWhile_append_of_pos hs, takeWhile_of_stopsAt hr, List.append_nil]

theorem dropWhile_run (hs : ∀ c ∈ s, p c) (hr : StopsAt p rest) : (s ++ rest).dropWhile p = rest := by
  rw [List.dropWhile_append_of_pos hs, dropWhile_of_stopsAt hr]

theorem run_inj {t rest' : List Char} (hs : ∀ c ∈ s, p c) (ht : ∀ c ∈ t, p c) (hr : StopsAt p rest)
    (hr' : StopsAt p rest') (h : s ++ rest = t ++ rest') : s = t ∧ rest = rest' := by
  have htake := congrArg (List.takeWhile p) h
  have hdrop := congrArg (List.dropWhile p) h
  rw [takeWhile_run hs hr, takeWhile_run ht hr'] at htake
  rw [dropWhile_run hs hr, dropWhile_run ht hr'] at hdrop
  exact ⟨htake, hdrop⟩

theorem skipBlanks_of_stopsAt (h : StopsAt isSpaceOrTab s) : skipBlanks s = s := dropWhile_of_stopsAt h

def isVisible (c : Char) : Bool := 0x20 < c.toNat && c.toNat < 0x7F

theorem isBlank_of_isVisible {c : Char} (h : isVisible c) : isBlank c = false := by
  simp only [isVisible, Bool.and_eq_true, decide_eq_true_eq] at h
  simp only [isBlank, Bool.or_eq_false_iff, Bool.and_eq_false_imp, decide_eq_true_eq, decide_eq_false_iff_not]
  omega

theorem isVisible_of_isAlphanum {c : Char} (h : c.isAlphanum) : isVisible c := by
  have hranges : ((decide ('A'.val ≤ c.val ∧ c.val ≤ 'Z'.val) || ('a'.val ≤ c.val && c.val ≤ 'z'.val)) ||
      ('0'.val ≤ c.val && c.val ≤ '9'.val)) = true := h
  simp only [Bool.or_eq_true, Bool.and_eq_true, decide_eq_true_eq, UInt32.le_iff_toNat_le] at hranges
  have hbounds : 'A'.val.toNat = 65 ∧ 'Z'.val.toNat = 90 ∧ 'a'.val.toNat = 97 ∧ 'z'.val.toNat = 122 ∧
    '0'.val.toNat = 48 ∧ '9'.val.toNat = 57 := by decide
  simp only [isVisible, Bool.and_eq_true, decide_eq_true_eq, Char.toNat]
  omega

theorem isSpaceOrTab_of_isBlank {c : Char} (h : isBlank c = false) : isSpaceOrTab c = false := by
  refine Bool.eq_false_iff.mpr fun hc ↦ ?_
  have hc' : c = ' ' ∨ c = '\t' := by simpa [isSpaceOrTab] using hc
  rcases hc' with rfl | rfl <;> cases h

theorem trimStart_append {left : List Char} (hl : ∀ c ∈ left, isBlank c) (hs : StopsAt isBlank s) :
    trimStart (left ++ s) = s := dropWhile_run hl hs

theorem trimEnd_append {right : List Char} (hr : ∀ c ∈ right, isBlank c) (hs : StopsAt isBlank s.reverse) :
    trimEnd (s ++ right) = s := by
  have hr' : ∀ c ∈ right.reverse, isBlank c := fun c hc ↦ hr c (List.mem_reverse.mp hc)
  rw [trimEnd, List.reverse_append, dropWhile_run hr' hs, List.reverse_reverse]

theorem trim_blank (h : ∀ c ∈ s, isBlank c) : trim s = [] := by
  have hs : trimStart s = [] := by simpa using trimStart_append h stopsAt_nil
  rw [trim, hs]
  rfl

theorem trim_padded {left right : List Char} (hl : ∀ c ∈ left, isBlank c) (hr : ∀ c ∈ right, isBlank c)
    (hs : IsTrimmed s) : trim (left ++ s ++ right) = s := by
  cases s with
  | nil => exact trim_blank (by simpa [or_imp, forall_and] using And.intro hl hr)
  | cons c s =>
    have hstart : StopsAt isBlank (c :: s ++ right) := (stopsAt_append (by simp)).mpr hs.1
    rw [trim, List.append_assoc, trimStart_append hl hstart, trimEnd_append hr hs.2]

theorem trim_of_isTrimmed (h : IsTrimmed s) : trim s = s := by
  have ht : trim ([] ++ s ++ []) = s := trim_padded (by simp) (by simp) h
  rwa [List.nil_append, List.append_nil] at ht

theorem stopsAt_of_forall (h : ∀ c ∈ s, p c = false) : StopsAt p s := fun c hc ↦ h c (List.mem_of_mem_head? hc)

theorem isTrimmed_of_forall (h : ∀ c ∈ s, isBlank c = false) : IsTrimmed s :=
  ⟨stopsAt_of_forall h, stopsAt_of_forall fun c hc ↦ h c (List.mem_reverse.mp hc)⟩

theorem lines_cons {line : List Char} (h : '\n' ∉ line) : lines (line ++ '\n' :: rest) = line :: lines rest := by
  induction line with
  | nil => simp [lines]
  | cons c line ih =>
    simp only [List.mem_cons, not_or] at h
    rw [List.cons_append, lines, if_neg (Ne.symm h.1), ih h.2]

theorem lines_joinLines_append {ls : List (List Char)} (h : ∀ l ∈ ls, '\n' ∉ l) (rest : List Char) :
    lines (joinLines ls ++ rest) = ls ++ lines rest := by
  induction ls with
  | nil => rfl
  | cons l ls ih =>
    have hj : joinLines (l :: ls) ++ rest = l ++ '\n' :: (joinLines ls ++ rest) := by simp [joinLines]
    rw [hj, lines_cons (h l List.mem_cons_self), ih fun m hm ↦ h m (List.mem_cons_of_mem _ hm), List.cons_append]

theorem lines_joinLines {ls : List (List Char)} (h : ∀ l ∈ ls, '\n' ∉ l) : lines (joinLines ls) = ls := by
  have happend := lines_joinLines_append h []
  rwa [List.append_nil, lines, List.append_nil] at happend

theorem not_mem_of_mem_lines {line : List Char} (h : line ∈ lines s) : '\n' ∉ line := by
  fun_induction lines s generalizing line with
  | case1 => cases h
  | case2 rest ih =>
    rcases List.mem_cons.mp h with rfl | h
    · exact List.not_mem_nil
    · exact ih h
  | case3 c rest hc hnil =>
    rw [List.mem_singleton.mp h]
    exact fun hm ↦ hc (List.mem_singleton.mp hm).symm
  | case4 c rest hc first others hrest ih =>
    rw [hrest] at ih
    rcases List.mem_cons.mp h with rfl | h
    · exact List.not_mem_cons_of_ne_of_not_mem (Ne.symm hc) (ih List.mem_cons_self)
    · exact ih (List.mem_cons_of_mem _ h)

end MetricRelay.Text
