import MetricRelay.Text.Base64

namespace MetricRelay.Text.Base64

theorem digitValue?_digit : ∀ n < 64, digitValue? (digit n) = some n := by decide

theorem digit_ne_pad : ∀ n < 64, digit n ≠ '=' := by decide

def IsCode (c : Char) : Prop := (digitValue? c).isSome ∨ c = '='

instance (c : Char) : Decidable (IsCode c) := inferInstanceAs (Decidable ((digitValue? c).isSome ∨ c = '='))

theorem isCode_digit {n : Nat} (h : n < 64) : IsCode (digit n) := .inl (by rw [digitValue?_digit n h]; rfl)

theorem isCode_of_mem_encode {bytes : List UInt8} {c : Char} (h : c ∈ encode bytes) : IsCode c := by
  have hpad : IsCode '=' := .inr rfl
  induction bytes using encode.induct with
  | case1 => cases h
  | case2 a =>
    have := a.toNat_lt
    simp only [encode, List.mem_cons, List.not_mem_nil, or_false] at h
    rcases h with rfl | rfl | rfl | rfl
    · exact isCode_digit (by omega)
    · exact isCode_digit (by omega)
    · exact hpad
    · exact hpad
  | case3 a b =>
    have := a.toNat_lt
    have := b.toNat_lt
    simp only [encode, List.mem_cons, List.not_mem_nil, or_false] at h
    rcases h with rfl | rfl | rfl | rfl
    · exact isCode_digit (by omega)
    · exact isCode_digit (by omega)
    · exact isCode_digit (by omega)
    · exact hpad
  | case4 a b c rest ih =>
    have := a.toNat_lt
    have := b.toNat_lt
    have := c.toNat_lt
    simp only [encode, List.mem_cons] at h
    rcases h with rfl | rfl | rfl | rfl | h
    · exact isCode_digit (by omega)
    · exact isCode_digit (by omega)
    · exact isCode_digit (by omega)
    · exact isCode_digit (by omega)
    · exact ih h

theorem length_encode (bytes : List UInt8) : (encode bytes).length = (bytes.length + 2) / 3 * 4 := by
  induction bytes using encode.induct with
  | case1 => rfl
  | case2 a => simp [encode]
  | case3 a b => simp [encode]
  | case4 a b c rest ih =>
    simp only [encode, List.length_cons, ih]
    omega

theorem ofNat_eq {a : UInt8} {n : Nat} (h : n = a.toNat) : UInt8.ofNat n = a := by rw [h, UInt8.ofNat_toNat]

theorem decode?_group {n : Nat} (h : n < 16777216) (rest : List Char) :
    decode? (digit (n / 262144) :: digit (n / 4096 % 64) :: digit (n / 64 % 64) :: digit (n % 64) :: rest) =
      (decode? rest).map fun bytes ↦
        UInt8.ofNat (n / 65536) :: UInt8.ofNat (n / 256 % 256) :: UInt8.ofNat (n % 256) :: bytes := by
  have hlast := digit_ne_pad (n % 64) (by omega)
  have hn : ((n / 262144 * 64 + n / 4096 % 64) * 64 + n / 64 % 64) * 64 + n % 64 = n := by omega
  rw [decode?, digitValue?_digit _ (by omega), digitValue?_digit _ (by omega), digitValue?_digit _ (by omega),
    digitValue?_digit _ (by omega)]
  · simp only [Option.bind_eq_bind, Option.bind_some, hn]
    cases decode? rest <;> rfl
  · exact fun _ hd _ ↦ hlast hd
  · exact fun hd _ ↦ hlast hd

theorem decode?_encode (bytes : List UInt8) : decode? (encode bytes) = some bytes := by
  induction bytes using encode.induct with
  | case1 => rfl
  | case2 a =>
    have := a.toNat_lt
    have hn : a.toNat * 16 / 64 * 64 + a.toNat * 16 % 64 = a.toNat * 16 := by omega
    rw [encode, decode?, digitValue?_digit _ (by omega), digitValue?_digit _ (by omega)]
    simp only [Option.bind_eq_bind, Option.bind_some, hn]
    rw [if_pos (by omega), ofNat_eq (a := a) (by omega)]
  | case3 a b =>
    have := a.toNat_lt
    have := b.toNat_lt
    have hpad := digit_ne_pad ((a.toNat * 256 + b.toNat) * 4 % 64) (by omega)
    have hn : ((a.toNat * 256 + b.toNat) * 4 / 4096 * 64 + (a.toNat * 256 + b.toNat) * 4 / 64 % 64) * 64 +
        (a.toNat * 256 + b.toNat) * 4 % 64 = (a.toNat * 256 + b.toNat) * 4 := by omega
    rw [encode, decode?, digitValue?_digit _ (by omega), digitValue?_digit _ (by omega),
      digitValue?_digit _ (by omega)]
    · simp only [Option.bind_eq_bind, Option.bind_some, hn]
      rw [if_pos (by omega), ofNat_eq (a := a) (by omega), ofNat_eq (a := b) (by omega)]
    · exact hpad
  | case4 a b c rest ih =>
    have := a.toNat_lt
    have := b.toNat_lt
    have := c.toNat_lt
    rw [encode, decode?_group (by omega), ih, Option.map_some, ofNat_eq (a := a) (by omega),
      ofNat_eq (a := b) (by omega), ofNat_eq (a := c) (by omega)]

theorem digit_of_digitValue? {c : Char} {n : Nat} (h : digitValue? c = some n) : n < 64 ∧ digit n = c := by
  have hchar {k : Nat} (hk : k = c.toNat) : Char.ofNat k = c := by rw [hk, Char.ofNat_toNat]
  unfold digitValue? at h
  dsimp only at h
  split at h
  · obtain rfl := Option.some.inj h
    refine ⟨by omega, ?_⟩
    rw [digit, if_pos (by omega)]
    exact hchar (by omega)
  split at h
  · obtain rfl := Option.some.inj h
    refine ⟨by omega, ?_⟩
    rw [digit, if_neg (by omega), if_pos (by omega)]
    exact hchar (by omega)
  split at h
  · obtain rfl := Option.some.inj h
    refine ⟨by omega, ?_⟩
    rw [digit, if_neg (by omega), if_neg (by omega), if_pos (by omega)]
    exact hchar (by omega)
  split at h
  · next hplus =>
    obtain rfl := Option.some.inj h
    exact ⟨by decide, hplus.symm⟩
  split at h
  · next hslash =>
    obtain rfl := Option.some.inj h
    exact ⟨by decide, hslash.symm⟩
  · cases h

theorem encode_group {n : Nat} (h : n < 16777216) (rest : List UInt8) :
    encode (UInt8.ofNat (n / 65536) :: UInt8.ofNat (n / 256 % 256) :: UInt8.ofNat (n % 256) :: rest) =
      digit (n / 262144) :: digit (n / 4096 % 64) :: digit (n / 64 % 64) :: digit (n % 64) :: encode rest := by
  have hsize : UInt8.size = 256 := rfl
  have hn : (n / 65536 * 256 + n / 256 % 256) * 256 + n % 256 = n := by omega
  rw [encode, UInt8.toNat_ofNat_of_lt' (by omega), UInt8.toNat_ofNat_of_lt' (by omega),
    UInt8.toNat_ofNat_of_lt' (by omega), hn]

/-- The padded groups are where a text could differ from what is written: a bit that the bytes do not use is refused. -/
theorem eq_encode_of_decode? {text : List Char} {bytes : List UInt8} (h : decode? text = some bytes) :
    text = encode bytes := by
  have hsize : UInt8.size = 256 := rfl
  fun_induction decode? text generalizing bytes with
  | case1 => rw [← Option.some.inj h, encode]
  | case2 a b =>
    simp only [Option.bind_eq_bind, Option.bind_eq_some_iff] at h
    obtain ⟨x, hx, y, hy, h⟩ := h
    obtain ⟨hx, rfl⟩ := digit_of_digitValue? hx
    obtain ⟨hy, rfl⟩ := digit_of_digitValue? hy
    split at h
    · have hbyte : (x * 64 + y) / 16 * 16 = x * 64 + y := by omega
      have hfirst : (x * 64 + y) / 64 = x := by omega
      have hsecond : (x * 64 + y) % 64 = y := by omega
      rw [← Option.some.inj h, encode, UInt8.toNat_ofNat_of_lt' (by omega), hbyte, hfirst, hsecond]
    · cases h
  | case3 a b c _ =>
    simp only [Option.bind_eq_bind, Option.bind_eq_some_iff] at h
    obtain ⟨x, hx, y, hy, z, hz, h⟩ := h
    obtain ⟨hx, rfl⟩ := digit_of_digitValue? hx
    obtain ⟨hy, rfl⟩ := digit_of_digitValue? hy
    obtain ⟨hz, rfl⟩ := digit_of_digitValue? hz
    split at h
    · have hbytes : (((x * 64 + y) * 64 + z) / 1024 * 256 + ((x * 64 + y) * 64 + z) / 4 % 256) * 4 =
          (x * 64 + y) * 64 + z := by omega
      have hfirst : ((x * 64 + y) * 64 + z) / 4096 = x := by omega
      have hsecond : ((x * 64 + y) * 64 + z) / 64 % 64 = y := by omega
      have hthird : ((x * 64 + y) * 64 + z) % 64 = z := by omega
      rw [← Option.some.inj h, encode, UInt8.toNat_ofNat_of_lt' (by omega), UInt8.toNat_ofNat_of_lt' (by omega),
        hbytes, hfirst, hsecond, hthird]
    · cases h
  | case4 a b c d rest _ _ ih =>
    simp only [Option.bind_eq_bind, Option.bind_eq_some_iff] at h
    obtain ⟨x, hx, y, hy, z, hz, w, hw, bytes', hrest, h⟩ := h
    obtain ⟨hx, rfl⟩ := digit_of_digitValue? hx
    obtain ⟨hy, rfl⟩ := digit_of_digitValue? hy
    obtain ⟨hz, rfl⟩ := digit_of_digitValue? hz
    obtain ⟨hw, rfl⟩ := digit_of_digitValue? hw
    have hfirst : (((x * 64 + y) * 64 + z) * 64 + w) / 262144 = x := by omega
    have hsecond : (((x * 64 + y) * 64 + z) * 64 + w) / 4096 % 64 = y := by omega
    have hthird : (((x * 64 + y) * 64 + z) * 64 + w) / 64 % 64 = z := by omega
    have hfourth : (((x * 64 + y) * 64 + z) * 64 + w) % 64 = w := by omega
    rw [← Option.some.inj h, encode_group (by omega), hfirst, hsecond, hthird, hfourth, ih hrest]
  | case5 => cases h

theorem decode?_eq_some_iff {text : List Char} {bytes : List UInt8} :
    decode? text = some bytes ↔ text = encode bytes := by
  refine ⟨eq_encode_of_decode?, ?_⟩
  rintro rfl
  exact decode?_encode bytes

end MetricRelay.Text.Base64
