import Mathlib.Data.Rat.Floor
import Mathlib.Tactic.Ring
import MetricRelay.Proofs.Binary64.Order
import MetricRelay.Sample.Value

namespace MetricRelay

namespace Binary64

variable {x : Binary64}

/-- The number that a finite pattern stands for: sign, significand and power of two. The exponent field 0 marks the
numbers below the least one with a leading one. -/
def value (x : Binary64) : ℚ :=
  (if x.isNegative then -1 else 1) *
    if x.exponentField = 0 then (x.fraction : ℚ) * (2 : ℚ) ^ (-1074 : ℤ)
    else (2 ^ 52 + x.fraction : ℚ) * (2 : ℚ) ^ (x.exponentField - 1075 : ℤ)

def integerPart (x : Binary64) : ℤ := if 0 ≤ x.value then ⌊x.value⌋ else ⌈x.value⌉

theorem unitsPerOne_eq : unitsPerOne = Nat.pow 2 1074 := by
  unfold unitsPerOne
  exact Eq.refl _

theorem cast_unitsPerOne : (unitsPerOne : ℚ) = (2 : ℚ) ^ (1074 : ℤ) := by
  have hcast {m n : ℕ} (h : m = Nat.pow 2 n) : (m : ℚ) = (2 : ℚ) ^ (n : ℤ) := by
    rw [h, Nat.pow_eq, Nat.cast_pow, Nat.cast_ofNat, zpow_natCast]
  rw [hcast unitsPerOne_eq, Nat.cast_ofNat]

theorem units_div_unitsPerOne (x : Binary64) :
    (x.units : ℚ) / unitsPerOne =
      if x.exponentField = 0 then (x.fraction : ℚ) * (2 : ℚ) ^ (-1074 : ℤ)
      else (2 ^ 52 + x.fraction : ℚ) * (2 : ℚ) ^ (x.exponentField - 1075 : ℤ) := by
  have hsize : (fractionSize : ℚ) = 2 ^ 52 := by norm_num [fractionSize]
  rw [units, cast_unitsPerOne]
  split
  · rw [zpow_neg, div_eq_mul_inv]
  · next he =>
    have hexponent : (x.exponentField - 1075 : ℤ) = ((x.exponentField - 1 : ℕ) : ℤ) - 1074 := by omega
    rw [hexponent, zpow_sub₀ two_ne_zero, zpow_natCast, Nat.pow_eq, Nat.cast_mul, Nat.cast_add, Nat.cast_pow,
      Nat.cast_ofNat, hsize, mul_div_assoc]

theorem value_eq (x : Binary64) : x.value = x.signedUnits / unitsPerOne := by
  rw [value, signedUnits, ← units_div_unitsPerOne]
  split
  · rw [Int.cast_neg, Int.cast_natCast, neg_div, neg_one_mul]
  · rw [Int.cast_natCast, one_mul]

theorem trunc?_of_isFinite (h : x.isFinite = true) : x.trunc? = some x.integerPart := by
  have hpos : (0 : ℚ) < unitsPerOne := Nat.cast_pos.mpr unitsPerOne_pos
  rw [trunc?, if_pos h, integerPart, value_eq]
  generalize unitsPerOne = d at hpos
  congr 1
  split
  · next hv =>
    have hn : 0 ≤ x.signedUnits := by
      rw [le_div_iff₀ hpos, zero_mul] at hv
      exact_mod_cast hv
    rw [Rat.floor_intCast_div_natCast, Int.tdiv_eq_ediv_of_nonneg hn]
  · next hv =>
    have hn : 0 ≤ -x.signedUnits := by
      rw [le_div_iff₀ hpos, zero_mul] at hv
      have hneg : x.signedUnits < 0 := by exact_mod_cast not_le.mp hv
      omega
    rw [Rat.ceil_intCast_div_natCast, ← Int.tdiv_eq_ediv_of_nonneg hn, Int.neg_tdiv, neg_neg]

theorem trunc?_of_isInfinite (h : x.isInfinite = true) : x.isNaN = false ∧ x.trunc? = none := by
  have hnan : x.isNaN ≠ true := fun hnan ↦ Bool.false_ne_true ((not_isInfinite_of_isNaN hnan).symm.trans h)
  have hfinite : x.isFinite ≠ true := fun hf ↦ Bool.false_ne_true ((isFinite_iff.mp hf).2.symm.trans h)
  rw [trunc?, if_neg hfinite]
  exact ⟨Bool.eq_false_iff.mpr hnan, rfl⟩

end Binary64

def MetricType.range? : MetricType → Option (ℤ × ℤ)
  | int32 => some (-2 ^ 31, 2 ^ 31 - 1)
  | uint32 => some (0, 2 ^ 32 - 1)
  | int64 => some (-2 ^ 63, 2 ^ 63 - 1)
  | uint64 => some (0, 2 ^ 64 - 1)
  | _ => none

/-- An integer beyond the range of the type is replaced by the nearest one in it. -/
def MetricType.Saturates (type : MetricType) (n : ℤ) : Prop := type = int64 ∨ type = uint64 ∧ 0 ≤ n

def MetricValue.integer? : MetricValue → Option ℤ
  | int32 n => some n.toInt
  | uint32 n => some n.toNat
  | int64 n => some n.toInt
  | uint64 n => some n.toNat
  | _ => none

namespace MetricValue

variable {type : MetricType} {least greatest : ℤ} {x : Binary64}

theorem ofFloat_of_isFinite (ht : type.range? = some (least, greatest)) (hf : x.isFinite = true) :
    (least ≤ x.integerPart ∧ x.integerPart ≤ greatest ∨ type.Saturates x.integerPart →
      ∃ v, ofFloat type x = .ok v ∧ v.type = type ∧ v.integer? = some (max least (min x.integerPart greatest))) ∧
    (¬(least ≤ x.integerPart ∧ x.integerPart ≤ greatest ∨ type.Saturates x.integerPart) →
      ofFloat type x = .error (.outOfRange type x)) := by
  rw [ofFloat, (Binary64.isFinite_iff.mp hf).1, if_neg Bool.false_ne_true, Binary64.trunc?_of_isFinite hf]
  generalize x.integerPart = n
  dsimp only
  cases type <;> cases ht
  case int32 =>
    have hmin : Int32.minValue.toInt = -2 ^ 31 := by decide
    have hmax : Int32.maxValue.toInt = 2 ^ 31 - 1 := by decide
    have hsaturates : ¬MetricType.int32.Saturates n := by simp [MetricType.Saturates]
    rw [hmin, hmax]
    refine ⟨fun h ↦ ?_, fun h ↦ if_neg fun hrange ↦ h (.inl hrange)⟩
    have hrange := h.resolve_right hsaturates
    rw [if_pos hrange]
    refine ⟨_, rfl, rfl, ?_⟩
    rw [integer?, Int32.toInt_ofInt_of_le (by omega) (by omega), min_eq_left hrange.2, max_eq_right hrange.1]
  case uint32 =>
    have hsize : UInt32.size = 2 ^ 32 := rfl
    have hsaturates : ¬MetricType.uint32.Saturates n := by simp [MetricType.Saturates]
    refine ⟨fun h ↦ ?_, fun h ↦ if_neg fun hrange ↦ h (.inl (by omega))⟩
    have hrange := h.resolve_right hsaturates
    have hfits : 0 ≤ n ∧ n < UInt32.size := by omega
    rw [if_pos hfits]
    refine ⟨_, rfl, rfl, ?_⟩
    rw [integer?, UInt32.toNat_ofNat_of_lt' (by omega), min_eq_left hrange.2, max_eq_right hrange.1,
      Int.toNat_of_nonneg hrange.1]
  case int64 =>
    have hmin : Int64.minValue.toInt = -2 ^ 63 := by decide
    have hmax : Int64.maxValue.toInt = 2 ^ 63 - 1 := by decide
    refine ⟨fun _ ↦ ⟨_, rfl, rfl, ?_⟩, fun h ↦ absurd (.inr (.inl rfl)) h⟩
    rw [integer?, hmin, hmax, Int64.toInt_ofInt_of_le (by omega) (by omega)]
  case uint64 =>
    have hsize : UInt64.size = 2 ^ 64 := rfl
    have hnonneg : 0 ≤ n ∧ n ≤ 2 ^ 64 - 1 ∨ MetricType.uint64.Saturates n ↔ 0 ≤ n := by
      simp [MetricType.Saturates]
      omega
    rw [hnonneg]
    refine ⟨fun h ↦ ?_, fun h ↦ if_neg h⟩
    rw [if_pos h]
    refine ⟨_, rfl, rfl, ?_⟩
    rw [integer?, UInt64.toNat_ofNat_of_lt' (by omega)]
    congr 1
    omega

/-- What is not finite is refused by its kind. A finite number whose integer part is in the range of the type is held as
exactly that integer; any other is refused as out of range, except where the type saturates: it then holds the bound
that was passed. -/
theorem ofFloat_exact_or_nearest (ht : type.range? = some (least, greatest)) (x : Binary64) :
    (x.isNaN = true → ofFloat type x = .error .notANumber) ∧
    (x.isInfinite = true → ofFloat type x = .error (.notFinite x)) ∧
    (x.isFinite = true →
      (least ≤ x.integerPart ∧ x.integerPart ≤ greatest →
        ∃ v, ofFloat type x = .ok v ∧ v.type = type ∧ v.integer? = some x.integerPart) ∧
      (¬(least ≤ x.integerPart ∧ x.integerPart ≤ greatest) →
        (¬type.Saturates x.integerPart → ofFloat type x = .error (.outOfRange type x)) ∧
        (type.Saturates x.integerPart → ∃ v, ofFloat type x = .ok v ∧ v.type = type ∧
          v.integer? = some (if x.integerPart < least then least else greatest)))) := by
  refine ⟨fun h ↦ ?_, fun h ↦ ?_, fun hf ↦ ?_⟩
  · rw [ofFloat, if_pos h]
  · obtain ⟨hnan, htrunc⟩ := Binary64.trunc?_of_isInfinite h
    rw [ofFloat, hnan, if_neg Bool.false_ne_true, htrunc]
  · obtain ⟨hholds, hrefuses⟩ := ofFloat_of_isFinite ht hf
    refine ⟨fun hrange ↦ ?_, fun hrange ↦ ⟨fun hs ↦ ?_, fun hs ↦ ?_⟩⟩
    · have hexact := hholds (.inl hrange)
      rwa [min_eq_left hrange.2, max_eq_right hrange.1] at hexact
    · exact hrefuses (not_or.mpr ⟨hrange, hs⟩)
    · have hbounds : least ≤ greatest := by
        cases type <;> cases ht <;> decide
      have hnearest : max least (min x.integerPart greatest) = if x.integerPart < least then least else greatest := by
        split <;> omega
      rw [← hnearest]
      exact hholds (.inr hs)

/-- The greatest number below `2 ^ 64`. -/
theorem ofFloat_exact_or_nearest_below :
    ∃ v, ofFloat .uint64 ⟨0x43EFFFFFFFFFFFFF⟩ = .ok v ∧ v.type = .uint64 ∧ v.integer? = some 18446744073709549568 := by
  let x : Binary64 := ⟨0x43EFFFFFFFFFFFFF⟩
  have hf : x.isFinite = true := by decide
  have htrunc : x.trunc? = some 18446744073709549568 := by decide +kernel
  rw [Binary64.trunc?_of_isFinite hf, Option.some.injEq] at htrunc
  have hexact := ((@ofFloat_exact_or_nearest .uint64 _ _ rfl x).2.2 hf).1
  rw [htrunc] at hexact
  exact hexact (by decide)

/-- The number `2 ^ 63` is beyond the range of the signed type and is not refused, but held as another integer. -/
theorem ofFloat_passes_bound :
    (⟨0x43E0000000000000⟩ : Binary64).integerPart = 2 ^ 63 ∧
      ofFloat .int64 ⟨0x43E0000000000000⟩ = .ok (.int64 9223372036854775807) ∧
      (.int64 9223372036854775807 : MetricValue).integer? = some (2 ^ 63 - 1) := by
  have hf : (⟨0x43E0000000000000⟩ : Binary64).isFinite = true := by decide
  have htrunc : (⟨0x43E0000000000000⟩ : Binary64).trunc? = some (2 ^ 63) := by decide +kernel
  rw [Binary64.trunc?_of_isFinite hf] at htrunc
  exact ⟨Option.some.inj htrunc, by decide +kernel, rfl⟩

end MetricValue
end MetricRelay
