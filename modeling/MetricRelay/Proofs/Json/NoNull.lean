import Mathlib.Tactic.SplitIfs
import MetricRelay.Proofs.Decimal.Numeral
import MetricRelay.Json.Value

namespace MetricRelay

namespace Decimal

def isNumberChar (c : Char) : Bool := c.isDigit || c = '-' || c = '+' || c = '.' || c = 'e'

theorem isNumberChar_of_isDigit {c : Char} (h : c.isDigit) : isNumberChar c := by simp [isNumberChar, h]

theorem isNumberChar_of_mem_digitChars {n : Nat} {c : Char} (h : c ∈ digitChars n) : isNumberChar c :=
  isNumberChar_of_isDigit (Nat.isDigit_of_mem_toDigits (by decide) (by decide) h)

theorem isNumberChar_of_mem_toString {n : Int} {c : Char} (h : c ∈ (toString n).toList) : isNumberChar c := by
  rw [Int.toString_eq_repr, Int.repr_eq_if] at h
  split at h
  · rw [Nat.toList_repr] at h
    exact isNumberChar_of_mem_digitChars h
  · rw [String.toList_append, Nat.toList_repr, List.mem_append] at h
    rcases h with h | h
    · rw [List.mem_singleton.mp h]
      rfl
    · exact isNumberChar_of_mem_digitChars h

theorem isNumberChar_of_mem_placePoint {digits : List Char} {point : Int} {c : Char}
    (hd : ∀ c ∈ digits, isNumberChar c) (h : c ∈ placePoint digits point) : isNumberChar c := by
  have hzero {n : Nat} (h : c ∈ List.replicate n '0') : isNumberChar c := by
    rw [List.eq_of_mem_replicate h]
    rfl
  rw [placePoint] at h
  split at h
  · simp only [List.mem_cons, List.mem_append] at h
    rcases h with rfl | rfl | h | h
    · rfl
    · rfl
    · exact hzero h
    · exact hd c h
  · dsimp only at h
    split at h
    · rcases List.mem_append.mp h with h | h
      · exact hd c h
      · exact hzero h
    · simp only [List.mem_append, List.mem_cons] at h
      rcases h with h | rfl | h
      · exact hd c (List.mem_of_mem_take h)
      · rfl
      · exact hd c (List.mem_of_mem_drop h)

theorem isNumberChar_of_mem_scientific {plus : List Char} {d : Decimal} {c : Char} (hp : ∀ c ∈ plus, isNumberChar c)
    (h : c ∈ d.scientific plus) : isNumberChar c := by
  simp only [scientific, List.mem_append, List.mem_cons] at h
  rcases h with h | rfl | h | h
  · exact isNumberChar_of_mem_placePoint (fun _ ↦ isNumberChar_of_mem_digitChars) h
  · rfl
  · split at h
    · exact hp c h
    · cases h
  · exact isNumberChar_of_mem_toString h

theorem isNumberChar_of_mem_ranged {least greatest : Int} {plus : List Char} {d : Decimal} {c : Char}
    (hp : ∀ c ∈ plus, isNumberChar c) (h : c ∈ d.ranged least greatest plus) : isNumberChar c := by
  rw [ranged] at h
  split at h
  · rcases List.mem_append.mp h with h | h
    · exact isNumberChar_of_mem_placePoint (fun _ ↦ isNumberChar_of_mem_digitChars) h
    · split at h
      · simp only [List.mem_cons, List.not_mem_nil, or_false] at h
        rcases h with rfl | rfl <;> rfl
      · cases h
  · exact isNumberChar_of_mem_scientific hp h

end Decimal

open Decimal (isNumberChar)

theorem isNumberChar_of_mem_signed {x : Binary64} {text : List Char} {c : Char} (ht : ∀ c ∈ text, isNumberChar c)
    (h : c ∈ (x.signed text).toList) : isNumberChar c := by
  rw [Binary64.signed, String.toList_ofList] at h
  split at h
  · rcases List.mem_cons.mp h with rfl | h
    · rfl
    · exact ht c h
  · exact ht c h

theorem isNumberChar_of_json? {x : Binary64} {text : String} {c : Char} (h : x.json? = some text)
    (hc : c ∈ text.toList) : isNumberChar c := by
  rw [Binary64.json?] at h
  split at h
  · cases h
  · split at h
    · cases h
      exact isNumberChar_of_mem_signed (List.all_eq_true.mp rfl) hc
    · cases h
      exact isNumberChar_of_mem_signed (fun _ ↦ Decimal.isNumberChar_of_mem_ranged (List.all_eq_true.mp rfl)) hc

theorem exists_json?_of_isFinite {x : Binary64} (h : x.isFinite = true) : ∃ text, x.json? = some text := by
  rw [Binary64.json?, h]
  split
  · next hn => cases hn
  · split
    · exact ⟨_, rfl⟩
    · exact ⟨_, rfl⟩

namespace Json

def IsNumeral : JsonNumber → Prop
  | .float x => x.isFinite = true
  | _ => True

theorem isNumberChar_of_mem_numberText {n : JsonNumber} {c : Char} (hn : IsNumeral n) (h : c ∈ numberText n) :
    isNumberChar c := by
  cases n with
  | unsigned n =>
    have htext : (toString n.toNat).toList = Decimal.digitChars n.toNat := Nat.toList_repr
    rw [numberText, htext] at h
    exact Decimal.isNumberChar_of_mem_digitChars h
  | negative n => exact Decimal.isNumberChar_of_mem_toString h
  | float x =>
    obtain ⟨text, ht⟩ := exists_json?_of_isFinite hn
    rw [numberText, ht] at h
    exact isNumberChar_of_json? ht h

/-- Where a reader stands: outside the strings, inside one, or behind a backslash inside one. -/
inductive Place
  | outside
  | inside
  | escaped

/-- What of a text stands outside its strings. -/
def bareText : Place → List Char → List Char
  | _, [] => []
  | .outside, c :: rest => if c = '"' then bareText .inside rest else c :: bareText .outside rest
  | .inside, c :: rest =>
    if c = '"' then bareText .outside rest
    else if c = '\\' then bareText .escaped rest
    else bareText .inside rest
  | .escaped, _ :: rest => bareText .inside rest

/-- In front of any text, `s` brings no bare `n`, and it ends outside the strings. -/
def IsQuiet (s : List Char) : Prop := ∀ rest, 'n' ∈ bareText .outside (s ++ rest) → 'n' ∈ bareText .outside rest

variable {s t : List Char}

theorem IsQuiet.not_mem (h : IsQuiet s) : 'n' ∉ bareText .outside s := by
  intro hn
  rw [← List.append_nil s] at hn
  exact List.not_mem_nil (h [] hn)

theorem IsQuiet.append (hs : IsQuiet s) (ht : IsQuiet t) : IsQuiet (s ++ t) := by
  intro rest h
  rw [List.append_assoc] at h
  exact ht rest (hs (t ++ rest) h)

theorem IsQuiet.cons {c : Char} (hq : c ≠ '"') (hn : c ≠ 'n') (h : IsQuiet s) : IsQuiet (c :: s) := by
  intro rest hmem
  rw [List.cons_append, bareText, if_neg hq, List.mem_cons] at hmem
  exact h rest (hmem.resolve_left fun e ↦ hn e.symm)

theorem isQuiet_nil : IsQuiet [] := fun _ h ↦ h

theorem isQuiet_of_forall_mem (h : ∀ c ∈ s, c ≠ '"' ∧ c ≠ 'n') : IsQuiet s := by
  induction s with
  | nil => exact isQuiet_nil
  | cons c s ih =>
    obtain ⟨hc, hs⟩ := List.forall_mem_cons.mp h
    exact (ih hs).cons hc.1 hc.2

theorem isQuiet_numberText {n : JsonNumber} (hn : IsNumeral n) : IsQuiet (numberText n) := by
  apply isQuiet_of_forall_mem
  intro c hc
  have h := isNumberChar_of_mem_numberText hn hc
  constructor
  · rintro rfl
    cases h
  · rintro rfl
    cases h

theorem hexDigit_ne {n : Nat} (h : n < 16) : hexDigit n ≠ '"' ∧ hexDigit n ≠ '\\' := by
  revert n
  decide

theorem bareText_escapeChar (c : Char) (rest : List Char) :
    bareText .inside (escapeChar c ++ rest) = bareText .inside rest := by
  by_cases hc : c.toNat < 32
  · obtain ⟨hhigh, hhigh'⟩ := hexDigit_ne (show c.toNat / 16 < 16 by omega)
    obtain ⟨hlow, hlow'⟩ := hexDigit_ne (Nat.mod_lt c.toNat (by decide : 0 < 16))
    rw [escapeChar]
    split_ifs <;> simp [bareText, hhigh, hhigh', hlow, hlow']
  · rw [escapeChar]
    split_ifs with hq hb <;> simp [bareText, *]

theorem bareText_flatMap_escapeChar (s rest : List Char) :
    bareText .inside (s.flatMap escapeChar ++ rest) = bareText .inside rest := by
  induction s with
  | nil => rfl
  | cons c s ih => rw [List.flatMap_cons, List.append_assoc, bareText_escapeChar, ih]

theorem isQuiet_quote (s : String) : IsQuiet (quote s) := by
  intro rest h
  rw [quote, List.cons_append, List.append_assoc, bareText, if_pos rfl, bareText_flatMap_escapeChar] at h
  exact h

theorem isQuiet_renderItems {items : List Json} (h : ∀ item ∈ items, IsQuiet item.render) :
    IsQuiet (renderItems items) := by
  induction items with
  | nil => exact isQuiet_nil.cons (by decide) (by decide)
  | cons item rest ih =>
    obtain ⟨hitem, hrest⟩ := List.forall_mem_cons.mp h
    cases rest with
    | nil => exact hitem.append (isQuiet_nil.cons (by decide) (by decide))
    | cons next rest => exact hitem.append ((ih hrest).cons (by decide) (by decide))

theorem isQuiet_renderMembers {members : List (String × Json)} (h : ∀ m ∈ members, IsQuiet m.2.render) :
    IsQuiet (renderMembers members) := by
  induction members with
  | nil => exact isQuiet_nil.cons (by decide) (by decide)
  | cons member rest ih =>
    obtain ⟨hmember, hrest⟩ := List.forall_mem_cons.mp h
    have hvalue {t : List Char} (ht : IsQuiet t) : IsQuiet (quote member.1 ++ ':' :: (member.2.render ++ t)) :=
      (isQuiet_quote member.1).append ((hmember.append ht).cons (by decide) (by decide))
    cases rest with
    | nil => exact hvalue (isQuiet_nil.cons (by decide) (by decide))
    | cons next rest => exact hvalue ((ih hrest).cons (by decide) (by decide))

theorem isQuiet_string (s : String) : IsQuiet (string s).render := isQuiet_quote s

theorem isQuiet_number {n : JsonNumber} (h : IsNumeral n) : IsQuiet (number n).render := isQuiet_numberText h

theorem isQuiet_array {items : List Json} (h : ∀ item ∈ items, IsQuiet item.render) : IsQuiet (array items).render :=
  (isQuiet_renderItems h).cons (by decide) (by decide)

theorem isQuiet_object {members : List (String × Json)} (h : ∀ m ∈ members, IsQuiet m.2.render) :
    IsQuiet (object members).render :=
  (isQuiet_renderMembers h).cons (by decide) (by decide)

end Json
end MetricRelay
