import MetricRelay.Proofs.Json.Reading

namespace MetricRelay.Json

open Text (StopsAt stopsAt_nil stopsAt_cons takeWhile_of_stopsAt dropWhile_of_stopsAt takeWhile_run dropWhile_run)

variable {s rest : List Char}

theorem Ends.eq (h : Ends rest) : rest = [] ∨ ∃ t, rest = ',' :: t ∨ rest = ']' :: t ∨ rest = '\x7d' :: t := by
  cases rest with
  | nil => exact .inl rfl
  | cons c t =>
    have hend : isEnd c = true := by simpa using stopsAt_cons.mp h
    simp only [isEnd, Bool.or_eq_true, decide_eq_true_eq] at hend
    rcases hend with (rfl | rfl) | rfl
    · exact .inr ⟨t, .inl rfl⟩
    · exact .inr ⟨t, .inr (.inl rfl)⟩
    · exact .inr ⟨t, .inr (.inr rfl)⟩

theorem Ends.not_digit (h : Ends rest) : StopsAt Char.isDigit rest := by
  rcases h.eq with rfl | ⟨t, rfl | rfl | rfl⟩
  · exact stopsAt_nil
  all_goals exact stopsAt_cons.mpr rfl

theorem takeWhile_append_of_ends (h : Ends rest) (s : List Char) :
    (s ++ rest).takeWhile Char.isDigit = s.takeWhile Char.isDigit := by
  induction s with
  | nil => exact takeWhile_of_stopsAt h.not_digit
  | cons c s ih => simp only [List.cons_append, List.takeWhile_cons, ih]

theorem dropWhile_append_of_ends (h : Ends rest) (s : List Char) :
    (s ++ rest).dropWhile Char.isDigit = s.dropWhile Char.isDigit ++ rest := by
  induction s with
  | nil => exact dropWhile_of_stopsAt h.not_digit
  | cons c s ih =>
    rw [List.cons_append, List.dropWhile_cons, List.dropWhile_cons, ih]
    split <;> rfl

/-- What a reader finds stays the same in front of anything that can follow a value. -/
def KeepsEnd {α : Type} (read : List Char → Option (α × List Char)) : Prop :=
  ∀ {s a behind rest}, read s = some (a, behind) → Ends rest → read (s ++ rest) = some (a, behind ++ rest)

theorem keepsEnd_digits {α : Type} (f : List Char → α) :
    KeepsEnd fun s ↦ match s.takeWhile Char.isDigit with
      | [] => none
      | digits => some (f digits, s.dropWhile Char.isDigit) := by
  intro s a behind rest h hrest
  dsimp only at h ⊢
  rw [takeWhile_append_of_ends hrest, dropWhile_append_of_ends hrest]
  cases hdigits : s.takeWhile Char.isDigit with
  | nil =>
    rw [hdigits] at h
    cases h
  | cons c digits =>
    rw [hdigits] at h
    cases h
    rfl

theorem keepsEnd_exponent? : KeepsEnd exponent? := by
  intro s n behind rest h hrest
  cases s with
  | nil => cases h
  | cons c s =>
    by_cases hminus : c = '-'
    · subst hminus
      exact keepsEnd_digits (fun digits ↦ if true then -(Decimal.value digits : Int) else Decimal.value digits) h hrest
    by_cases hplus : c = '+'
    · subst hplus
      exact keepsEnd_digits (fun digits ↦ if false then -(Decimal.value digits : Int) else Decimal.value digits) h hrest
    have hsign (t : List Char) : exponent? (c :: t) = match (c :: t).takeWhile Char.isDigit with
        | [] => none
        | digits => some ((Decimal.value digits : Int), (c :: t).dropWhile Char.isDigit) := by
      unfold exponent?
      split
      next negative digits he =>
      split at he
      · next hc => exact absurd (List.cons.inj hc).1 hminus
      · next hc => exact absurd (List.cons.inj hc).1 hplus
      · cases he
        rfl
    rw [hsign] at h
    rw [List.cons_append, hsign]
    exact keepsEnd_digits (fun digits ↦ (Decimal.value digits : Int)) h hrest

theorem keepsEnd_fraction? : KeepsEnd fraction? := by
  intro s fraction behind rest h hrest
  cases s with
  | nil =>
    cases h
    rcases hrest.eq with rfl | ⟨t, rfl | rfl | rfl⟩ <;> rfl
  | cons c s =>
    by_cases hc : c = '.'
    · subst hc
      exact keepsEnd_digits id h hrest
    · have hnone (t : List Char) : fraction? (c :: t) = some ([], c :: t) := by
        unfold fraction?
        split
        · next he => exact absurd (List.cons.inj he).1 hc
        · rfl
      rw [hnone] at h
      cases h
      exact hnone _

theorem keepsEnd_marked? : KeepsEnd marked? := by
  intro s exponent behind rest h hrest
  cases s with
  | nil =>
    cases h
    rcases hrest.eq with rfl | ⟨t, rfl | rfl | rfl⟩ <;> rfl
  | cons c s =>
    rw [List.cons_append]
    unfold marked? at h ⊢
    dsimp only at h ⊢
    by_cases hmark : c = 'e' ∨ c = 'E'
    · rw [if_pos hmark] at h ⊢
      obtain ⟨⟨n, after⟩, hn, he⟩ := Option.map_eq_some_iff.mp h
      cases he
      rw [keepsEnd_exponent? hn hrest]
      rfl
    · rw [if_neg hmark] at h ⊢
      cases h
      rfl

theorem keepsEnd_number? (negative : Bool) : KeepsEnd (number? negative) := by
  intro s n behind rest h hrest
  unfold number? at h ⊢
  dsimp only at h ⊢
  rw [takeWhile_append_of_ends hrest, dropWhile_append_of_ends hrest]
  split at h
  · cases h
  next hwhole =>
  rw [if_neg hwhole]
  -- Fraction and exponent are the same in front of `rest`, and the kind of the number depends on nothing else.
  obtain ⟨⟨fraction, afterFraction⟩, hfraction, h⟩ := Option.bind_eq_some_iff.mp h
  obtain ⟨⟨exponent, after⟩, hexponent, h⟩ := Option.bind_eq_some_iff.mp h
  rw [keepsEnd_fraction? hfraction hrest]
  simp only [Option.bind_eq_bind, Option.bind_some]
  rw [keepsEnd_marked? hexponent hrest]
  simp only [Option.bind_some]
  dsimp only at h
  split at h
  · next hinteger =>
    rw [if_pos hinteger]
    split_ifs at h ⊢
    all_goals
      cases h
      rfl
  · next hfloat =>
    rw [if_neg hfloat]
    obtain ⟨x, hx, h⟩ := Option.bind_eq_some_iff.mp h
    cases h
    rw [hx]
    rfl

theorem keepsEnd_numeral? : KeepsEnd numeral? := by
  intro s n behind rest h hrest
  cases s with
  | nil => cases h
  | cons c s =>
    by_cases hc : c = '-'
    · subst hc
      exact keepsEnd_number? true h hrest
    · have hsign (t : List Char) : numeral? (c :: t) = number? false (c :: t) := by
        unfold numeral?
        split
        · next he => exact absurd (List.cons.inj he).1 hc
        · rfl
      rw [hsign] at h
      rw [List.cons_append, hsign]
      exact keepsEnd_number? false h hrest

/-- A number reads back wherever it stands if it reads back alone. -/
theorem readsBack_iff {n : JsonNumber} : ReadsBack numeral? n ↔ numeral? (numberText n) = some (n, []) := by
  constructor
  · intro h
    simpa using h [] stopsAt_nil
  · intro h rest hrest
    exact keepsEnd_numeral? h hrest

theorem number?_toDigits {n : Nat} (negative : Bool) (hn : n < UInt64.size) :
    number? negative (Nat.toDigits 10 n) = some
      (if !negative then .unsigned (UInt64.ofNat n)
       else if 0 < n ∧ Int64.minValue.toInt ≤ -n then .negative (Int64.ofInt (-(n : Int)))
       else .float (Binary64.ofNat n).neg, []) := by
  have hdigits : ∀ c ∈ Nat.toDigits 10 n, c.isDigit := fun c hc ↦
    Nat.isDigit_of_mem_toDigits (by decide) (by decide) hc
  have htake : (Nat.toDigits 10 n).takeWhile Char.isDigit = Nat.toDigits 10 n := by
    simpa using takeWhile_run hdigits stopsAt_nil
  have hdrop : (Nat.toDigits 10 n).dropWhile Char.isDigit = [] := by
    simpa using dropWhile_run hdigits stopsAt_nil
  have hwhole : ¬(Nat.toDigits 10 n = [] ∨ (Nat.toDigits 10 n).head? = some '0' ∧ Nat.toDigits 10 n ≠ ['0']) := by
    rintro (hnil | ⟨hhead, hne⟩)
    · exact Nat.toDigits_ne_nil hnil
    · rw [Decimal.eq_zero_of_head?_toDigits hhead] at hne
      exact hne rfl
  have hfraction : fraction? [] = some ([], []) := rfl
  have hmarked : marked? [] = some (none, []) := rfl
  unfold number?
  dsimp only
  rw [htake, hdrop, if_neg hwhole, hfraction, Decimal.value_toDigits]
  simp only [Option.bind_eq_bind, Option.bind_some, hmarked, true_and, hn, if_true]
  split_ifs <;> rfl

theorem readsBack_unsigned (n : UInt64) : ReadsBack numeral? (.unsigned n) := by
  obtain ⟨c, rest, htext, hc⟩ := Decimal.toDigits_eq_cons n.toNat
  have hsign : numeral? (Nat.toDigits 10 n.toNat) = number? false (Nat.toDigits 10 n.toNat) := by
    rw [htext]
    unfold numeral?
    split
    · next he =>
      cases he
      cases hc
    · rfl
  have hlist : numberText (.unsigned n) = Nat.toDigits 10 n.toNat := Nat.toList_repr
  rw [readsBack_iff, hlist, hsign, number?_toDigits false n.toNat_lt_size]
  simp

theorem readsBack_negative {n : Int64} (h : n.toInt < 0) : ReadsBack numeral? (.negative n) := by
  have hlist : numberText (.negative n) = '-' :: Nat.toDigits 10 (-n.toInt).toNat := by
    rw [numberText, Int.toString_eq_repr, Int.repr_eq_if, if_neg (by omega), String.toList_append, Nat.toList_repr]
    rfl
  have hleast := n.minValue_le_toInt
  have hmin : Int64.minValue.toInt = -9223372036854775808 := by decide
  have hsize : UInt64.size = 18446744073709551616 := rfl
  have hback : -(((-n.toInt).toNat : Nat) : Int) = n.toInt := by omega
  have hnumber := number?_toDigits (n := (-n.toInt).toNat) true (by omega)
  rw [readsBack_iff, hlist, numeral?, hnumber, hback, if_neg (by decide), if_pos ⟨by omega, hleast⟩,
    Int64.ofInt_toInt]

end MetricRelay.Json
