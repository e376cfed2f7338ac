import MetricRelay.Decimal.Reading

namespace MetricRelay.Decimal

def isNumeralChar (c : Char) : Bool := c.isAlphanum || c = '+' || c = '-' || c = '.'

theorem value_toDigits (n : Nat) : value (Nat.toDigits 10 n) = n := Nat.ofDigitChars_ten_toDigits

theorem natural?_toDigits (n : Nat) : natural? (Nat.toDigits 10 n) = some n := by
  have hd : ∀ c ∈ Nat.toDigits 10 n, c.isDigit := fun c hc ↦
    Nat.isDigit_of_mem_toDigits (by decide) (by decide) hc
  rw [natural?, if_pos ⟨Nat.toDigits_ne_nil, List.all_eq_true.mpr hd⟩, value_toDigits]

theorem integer?_of_head_isDigit {c : Char} {rest : List Char} (h : c.isDigit) :
    integer? (c :: rest) = (natural? (c :: rest)).map Int.ofNat := by
  unfold integer?
  split
  · next he => cases he; simp at h
  · next he => cases he; simp at h
  · rfl

theorem toDigits_eq_cons (n : Nat) : ∃ c rest, Nat.toDigits 10 n = c :: rest ∧ c.isDigit := by
  cases h : Nat.toDigits 10 n with
  | nil => exact absurd h Nat.toDigits_ne_nil
  | cons c rest =>
    have hc : c ∈ Nat.toDigits 10 n := by rw [h]; exact List.mem_cons_self
    exact ⟨c, rest, rfl, Nat.isDigit_of_mem_toDigits (by decide) (by decide) hc⟩

theorem eq_zero_of_head?_toDigits {n : Nat} (h : (Nat.toDigits 10 n).head? = some '0') : n = 0 := by
  induction n using Nat.strongRecOn with
  | ind n ih =>
    by_cases hn : n < 10
    · rw [Nat.toDigits_of_lt_base hn] at h
      have hdigit : ∀ m < 10, [Nat.digitChar m].head? = some '0' → m = 0 := by decide
      exact hdigit n hn h
    · obtain ⟨c, rest, hc, -⟩ := toDigits_eq_cons (n / 10)
      rw [Nat.toDigits_of_base_le (by decide) (by omega), hc] at h
      have hzero : n / 10 = 0 := ih (n / 10) (by omega) (by rw [hc]; exact h)
      omega

theorem integer?_toString (n : Int) : integer? (toString n).toList = some n := by
  rw [Int.toString_eq_repr, Int.repr_eq_if]
  split
  · next hn =>
    obtain ⟨c, rest, hc, hd⟩ := toDigits_eq_cons n.toNat
    rw [Nat.toList_repr, hc, integer?_of_head_isDigit hd, ← hc, natural?_toDigits]
    exact congrArg some (Int.toNat_of_nonneg hn)
  · next hn =>
    have he : ("-" ++ (-n).toNat.repr).toList = '-' :: Nat.toDigits 10 (-n).toNat := by
      rw [String.toList_append, Nat.toList_repr]
      rfl
    rw [he, integer?, natural?_toDigits]
    have hn : -((-n).toNat : Int) = n := by omega
    exact congrArg some hn

theorem int64?_toString (t : Int64) : int64? (toString t).toList = some t := by
  have h : integer? (toString t).toList = some t.toInt := integer?_toString t.toInt
  unfold int64?
  rw [h]
  dsimp only
  rw [if_pos ⟨t.minValue_le_toInt, t.toInt_le⟩, Int64.ofInt_toInt]

theorem toString_int64_eq (t : Int64) : ∃ sign digits, (toString t).toList = sign ++ digits ∧
    (sign = [] ∨ sign = ['-']) ∧ digits ≠ [] ∧ ∀ c ∈ digits, c.isDigit := by
  have hd (n : Nat) : ∀ c ∈ Nat.toDigits 10 n, c.isDigit := fun c hc ↦
    Nat.isDigit_of_mem_toDigits (by decide) (by decide) hc
  have h : (toString t).toList = t.toInt.repr.toList := rfl
  rw [Int.repr_eq_if] at h
  split at h
  · exact ⟨[], _, by rw [h, Nat.toList_repr]; rfl, .inl rfl, Nat.toDigits_ne_nil, hd _⟩
  · exact ⟨['-'], _, by rw [h, String.toList_append, Nat.toList_repr]; rfl, .inr rfl, Nat.toDigits_ne_nil, hd _⟩

theorem isNumeralChar_of_isDigit {c : Char} (h : c.isDigit) : isNumeralChar c := by
  simp [isNumeralChar, Char.isAlphanum, h]

theorem isNumeralChar_of_toLower {c : Char} (h : c.toLower.isAlpha) : isNumeralChar c := by
  by_cases hu : c.isUpper
  · have ha : c.isAlpha = true := Bool.or_eq_true_iff.mpr (.inl hu)
    simp [isNumeralChar, Char.isAlphanum, ha]
  · have hc : c.toLower = c := by
      have hupper : ¬('A'.val ≤ c.val ∧ c.val ≤ 'Z'.val) := fun h ↦ hu (decide_eq_true h)
      exact dif_neg hupper
    rw [hc] at h
    simp [isNumeralChar, Char.isAlphanum, h]

theorem natural?_chars {s : List Char} {n : Nat} (h : natural? s = some n) : s ≠ [] ∧ ∀ c ∈ s, isNumeralChar c := by
  simp only [natural?] at h
  split at h
  · next hs => exact ⟨hs.1, fun c hc ↦ isNumeralChar_of_isDigit (List.all_eq_true.mp hs.2 c hc)⟩
  · cases h

theorem integer?_chars {s : List Char} {n : Int} (h : integer? s = some n) : ∀ c ∈ s, isNumeralChar c := by
  unfold integer? at h
  split at h <;> obtain ⟨m, hm, -⟩ := Option.map_eq_some_iff.mp h
  · simpa [isNumeralChar] using (natural?_chars hm).2
  · obtain ⟨k, hk, -⟩ := Option.bind_eq_some_iff.mp hm
    simpa [isNumeralChar] using (natural?_chars hk).2
  · exact (natural?_chars hm).2

theorem exponentPart?_chars {s : List Char} {n : Int} (h : exponentPart? s = some n) :
    ∀ c ∈ s, isNumeralChar c := by
  unfold exponentPart? at h
  split at h
  · simp
  · next c rest =>
    split at h
    · next hc =>
      have hr := integer?_chars h
      rcases hc with rfl | rfl <;> simpa [isNumeralChar] using hr
    · cases h

theorem takeWhile_isDigit_chars (s : List Char) : ∀ c ∈ s.takeWhile Char.isDigit, isNumeralChar c := fun _ hc ↦
  isNumeralChar_of_isDigit (List.all_eq_true.mp List.all_takeWhile _ hc)

theorem unsignedFloat?_chars {negative : Bool} {s : List Char} {x : Binary64}
    (h : unsignedFloat? negative s = some x) : s ≠ [] ∧ ∀ c ∈ s, isNumeralChar c := by
  refine ⟨(by rintro rfl; cases h), fun c hc ↦ ?_⟩
  rw [← List.takeWhile_append_dropWhile (p := Char.isDigit) (l := s)] at hc
  rcases List.mem_append.mp hc with hc | hc
  · exact takeWhile_isDigit_chars s c hc
  unfold unsignedFloat? at h
  dsimp only at h
  split at h <;> split at h
  · cases h
  · next rest hd _ =>
    obtain ⟨e, he, -⟩ := Option.map_eq_some_iff.mp h
    rw [hd] at hc
    rcases List.mem_cons.mp hc with rfl | hc
    · rfl
    rw [← List.takeWhile_append_dropWhile (p := Char.isDigit) (l := rest)] at hc
    rcases List.mem_append.mp hc with hc | hc
    · exact takeWhile_isDigit_chars rest c hc
    · exact exponentPart?_chars he c hc
  · cases h
  · obtain ⟨e, he, -⟩ := Option.map_eq_some_iff.mp h
    exact exponentPart?_chars he c hc

theorem chars_of_toLower_eq {s word : List Char} (hne : word ≠ []) (hw : word.all Char.isAlpha)
    (h : s.map Char.toLower = word) : s ≠ [] ∧ ∀ c ∈ s, isNumeralChar c := by
  subst h
  refine ⟨by simpa using hne, fun c hc ↦ isNumeralChar_of_toLower ?_⟩
  exact List.all_eq_true.mp hw _ (List.mem_map_of_mem hc)

/-- A literal is not empty, and it holds no white space, quote or bracket. -/
theorem float?_chars {s : List Char} {x : Binary64} (h : float? s = some x) :
    s ≠ [] ∧ ∀ c ∈ s, isNumeralChar c := by
  have hbody {negative : Bool} {body : List Char}
      (h : (if body.map Char.toLower = "inf".toList ∨ body.map Char.toLower = "infinity".toList then
        some (Binary64.infinity negative)
      else if body.map Char.toLower = "nan".toList then some Binary64.nan
      else unsignedFloat? negative body) = some x) : body ≠ [] ∧ ∀ c ∈ body, isNumeralChar c := by
    split at h
    · next hw => rcases hw with hw | hw <;> exact chars_of_toLower_eq (by decide) (by decide) hw
    · split at h
      · next hw => exact chars_of_toLower_eq (by decide) (by decide) hw
      · exact unsignedFloat?_chars h
  unfold float? at h
  dsimp only at h
  split at h
  · simpa [isNumeralChar] using (hbody h).2
  · simpa [isNumeralChar] using (hbody h).2
  · exact hbody h

end MetricRelay.Decimal
