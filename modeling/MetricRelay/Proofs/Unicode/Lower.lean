import MetricRelay.Proofs.Text.Utf8
import MetricRelay.Unicode.Case

namespace MetricRelay.Unicode

def codeSize (n : Nat) : Nat := if n < 0x80 then 1 else if n < 0x800 then 2 else if n < 0x10000 then 3 else 4

/-- The letters that take one byte more in lower case: the capital dotted I, and A and T with a stroke. -/
def lengthens (c : Char) : Bool := c.toNat = 0x130 || c.toNat = 0x23A || c.toNat = 0x23E

theorem utf8Size_eq_codeSize (c : Char) : c.utf8Size = codeSize c.toNat := by
  have hc : c.val.toNat = c.toNat := rfl
  unfold Char.utf8Size codeSize
  simp only [UInt32.le_iff_toNat_le, UInt32.toNat_ofNatLT]
  split_ifs <;> omega

theorem codeSize_mono {n m : Nat} (h : n ≤ m) : codeSize n ≤ codeSize m := by
  unfold codeSize
  split_ifs <;> omega

theorem utf8Size_ofNat_le (n : Nat) : (Char.ofNat n).utf8Size ≤ codeSize n := by
  rw [utf8Size_eq_codeSize]
  apply codeSize_mono
  by_cases hn : n.isValidChar
  · rw [Char.ofNat, dif_pos hn]
    exact Nat.le_refl n
  · rw [Char.ofNat, dif_neg hn]
    exact Nat.zero_le n

/-- The row makes no character longer, or it is the row of one letter alone and that by one byte. -/
def CaseRow.isSteady (row : CaseRow) : Bool :=
  codeSize (row.last + row.distance).toNat ≤ codeSize row.first ||
    row.first = row.last && (row.first = 0x23A || row.first = 0x23E) &&
      codeSize (row.last + row.distance).toNat ≤ codeSize row.first + 1

theorem all_words_cons {p : List Char → Bool} {line : List Char} {lines : List String}
    (hl : (Text.split ' ' line).all p = true) (h : (words lines).all p = true) :
    (words (String.ofList line :: lines)).all p = true := by
  rw [words, List.flatMap_cons, String.toList_ofList, List.all_append, hl]
  exact h

theorem isSteady_lowerRows : lowerRows.toList.all CaseRow.isSteady = true := by
  rw [lowerRows, CaseRow.table, List.all_map]
  repeat refine all_words_cons (by decide +kernel) ?_
  rfl

theorem find?_words_cons {c : Char} {line : List Char} {lines : List String}
    (h : ((Text.split ' ' line).map CaseRow.ofWord).all (fun row ↦ !row.covers c.toNat) = true) :
    ((words (String.ofList line :: lines)).map CaseRow.ofWord).find? (·.covers c.toNat) =
      ((words lines).map CaseRow.ofWord).find? (·.covers c.toNat) := by
  have hline : ((Text.split ' ' line).map CaseRow.ofWord).find? (·.covers c.toNat) = none := by
    rw [List.find?_eq_none]
    intro row hrow
    simpa using List.all_eq_true.mp h row hrow
  rw [words, List.flatMap_cons, String.toList_ofList, List.map_append, List.find?_append, hline, Option.none_or]
  rfl

theorem find?_words_of_line {c : Char} {line : List Char} {lines : List String} {row : CaseRow}
    (h : ((Text.split ' ' line).map CaseRow.ofWord).find? (·.covers c.toNat) = some row) :
    ((words (String.ofList line :: lines)).map CaseRow.ofWord).find? (·.covers c.toNat) = some row := by
  rw [words, List.flatMap_cons, String.toList_ofList, List.map_append, List.find?_append, h]
  rfl

theorem lowerChar_strokedA : lowerChar 'Ⱥ' = ['ⱥ'] := by
  have hrow : lowerRows.toList.find? (·.covers 'Ⱥ'.toNat) = some ⟨0x23A, 0x23A, 1, 10795⟩ := by
    rw [lowerRows, CaseRow.table]
    repeat refine (find?_words_cons (by decide +kernel)).trans ?_
    exact find?_words_of_line (by rfl)
  rw [lowerChar, if_neg (by decide), if_neg (by decide), move, ← Array.find?_toList, hrow]
  rfl

theorem utf8Size_move_le (c : Char) : (move lowerRows c).utf8Size ≤ c.utf8Size + (lengthens c).toNat := by
  rw [move, ← Array.find?_toList]
  split
  · next row hrow =>
    have hcovers := List.find?_some hrow
    have hsteady := List.all_eq_true.mp isSteady_lowerRows row (List.mem_of_find?_eq_some hrow)
    simp only [CaseRow.covers, Bool.and_eq_true, decide_eq_true_eq] at hcovers
    simp only [CaseRow.isSteady, Bool.or_eq_true, Bool.and_eq_true, decide_eq_true_eq] at hsteady
    -- inside a row the last character ends up longest, and the first is shortest
    have hmoved : codeSize (c.toNat + row.distance).toNat ≤ codeSize (row.last + row.distance).toNat :=
      codeSize_mono (by omega)
    have hfirst := codeSize_mono hcovers.1.1
    have hsize := utf8Size_ofNat_le (c.toNat + row.distance).toNat
    rw [utf8Size_eq_codeSize c]
    obtain hsteady | ⟨⟨hone, hletter⟩, hsteady⟩ := hsteady
    · omega
    · have hc : lengthens c = true := by
        simp only [lengthens, Bool.or_eq_true, decide_eq_true_eq]
        omega
      rw [hc, Bool.toNat_true]
      omega
  · exact Nat.le_add_right _ _

theorem utf8Size_singleton (c : Char) : utf8Size [c] = c.utf8Size := utf8Size_cons c []

theorem toNat_toLower_lt {c : Char} (h : c.toNat < 128) : c.toLower.toNat < 128 := by
  have hascii : ∀ n < 128, (Char.ofNat n).toLower.toNat < 128 := by decide
  have hc := hascii c.toNat h
  rwa [Char.ofNat_toNat] at hc

theorem utf8Size_lowerChar_le (c : Char) : utf8Size (lowerChar c) ≤ c.utf8Size + (lengthens c).toNat := by
  rw [lowerChar]
  split_ifs with hascii hdotted
  · have hlower : codeSize c.toLower.toNat = 1 := if_pos (toNat_toLower_lt hascii)
    have hc : codeSize c.toNat = 1 := if_pos hascii
    rw [utf8Size_singleton, utf8Size_eq_codeSize, utf8Size_eq_codeSize, hlower, hc]
    exact Nat.le_add_right _ _
  · rw [utf8Size_eq_codeSize, lengthens, hdotted]
    decide
  · rw [utf8Size_singleton]
    exact utf8Size_move_le c

theorem utf8Size_lowerAfter_le (before s : List Char) :
    utf8Size (lowerAfter before s) ≤ utf8Size s + s.countP lengthens := by
  induction s generalizing before with
  | nil => exact Nat.le_refl _
  | cons c s ih =>
    have hrest := ih (c :: before)
    have hcount : (c :: s).countP lengthens = s.countP lengthens + (lengthens c).toNat := by
      rw [List.countP_cons]
      cases lengthens c <;> rfl
    rw [lowerAfter, utf8Size_append, utf8Size_cons, hcount]
    -- both forms of the small sigma are as long as the capital one
    have hlowered : utf8Size (if c.toNat = 0x3A3 then
        if leadsToCased before && !leadsToCased s then [Char.ofNat 0x3C2] else [Char.ofNat 0x3C3]
      else lowerChar c) ≤ c.utf8Size + (lengthens c).toNat := by
      split_ifs with hsigma
      · rw [utf8Size_eq_codeSize, lengthens, hsigma]
        decide
      · rw [utf8Size_eq_codeSize, lengthens, hsigma]
        decide
      · exact utf8Size_lowerChar_le c
    omega

theorem utf8Size_lower_le (s : List Char) : utf8Size (lower s) ≤ utf8Size s + s.countP lengthens :=
  utf8Size_lowerAfter_le [] s

end MetricRelay.Unicode
