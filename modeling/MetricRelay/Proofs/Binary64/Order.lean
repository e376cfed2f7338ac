import Mathlib.Algebra.Ring.Nat
import Mathlib.Order.Monotone.Basic
import MetricRelay.Binary64.Basic

namespace MetricRelay.Binary64

variable {x y z : Binary64}

def unitsOf (magnitude : Nat) : Nat :=
  if magnitude / fractionSize = 0 then magnitude % fractionSize
  else (fractionSize + magnitude % fractionSize) * Nat.pow 2 (magnitude / fractionSize - 1)

theorem units_eq (x : Binary64) : x.units = unitsOf x.magnitudeBits := rfl

theorem unitsOf_le_succ (magnitude : Nat) : unitsOf magnitude ≤ unitsOf (magnitude + 1) := by
  have hsize : 0 < fractionSize := by decide
  have hfraction : magnitude % fractionSize < fractionSize := Nat.mod_lt _ hsize
  have hsplit := Nat.div_add_mod magnitude fractionSize
  unfold unitsOf
  generalize magnitude % fractionSize = fraction at hfraction hsplit ⊢
  generalize magnitude / fractionSize = exponent at hsplit ⊢
  by_cases hf : fraction + 1 < fractionSize
  · -- the fraction has room for one more, and the exponent stays
    have hnext : magnitude + 1 = fraction + 1 + fractionSize * exponent := by omega
    have hdiv : (magnitude + 1) / fractionSize = exponent := by
      rw [hnext, Nat.add_mul_div_left _ _ hsize, Nat.div_eq_of_lt hf, Nat.zero_add]
    have hmod : (magnitude + 1) % fractionSize = fraction + 1 := by
      rw [hnext, Nat.add_mul_mod_self_left, Nat.mod_eq_of_lt hf]
    rw [hdiv, hmod]
    split
    · exact Nat.le_succ fraction
    · exact Nat.mul_le_mul_right _ (by omega)
  · have hnext : magnitude + 1 = fractionSize * (exponent + 1) := by
      rw [Nat.mul_succ]
      omega
    have hdiv : (magnitude + 1) / fractionSize = exponent + 1 := by rw [hnext, Nat.mul_div_cancel_left _ hsize]
    have hmod : (magnitude + 1) % fractionSize = 0 := by rw [hnext, Nat.mul_mod_right]
    rw [hdiv, hmod, if_neg (Nat.succ_ne_zero exponent), Nat.add_sub_cancel, Nat.add_zero]
    cases exponent with
    | zero =>
      rw [if_pos rfl]
      exact hfraction.le.trans (Nat.le_of_eq (Nat.mul_one fractionSize).symm)
    | succ exponent =>
      have hpow : Nat.pow 2 (exponent + 1) = 2 * Nat.pow 2 exponent := Nat.pow_succ'
      rw [if_neg (Nat.succ_ne_zero exponent), Nat.add_sub_cancel, hpow, ← Nat.mul_assoc]
      exact Nat.mul_le_mul_right _ (by omega)

theorem unitsOf_mono : Monotone unitsOf := monotone_nat_of_le_succ unitsOf_le_succ

theorem units_mono (h : x.magnitudeBits ≤ y.magnitudeBits) : x.units ≤ y.units := unitsOf_mono h

theorem exists_unitsPerOne_eq : ∃ exponent, unitsPerOne = Nat.pow 2 exponent := by
  unfold unitsPerOne
  exact ⟨_, Eq.refl _⟩

theorem unitsPerOne_pos : 0 < unitsPerOne := by
  obtain ⟨exponent, hone⟩ := exists_unitsPerOne_eq
  rw [hone]
  exact Nat.pow_pos Nat.two_pos

/-- A magnitude that is not integral has a fraction, for which there is room below `2⁵³` alone. -/
theorem units_lt_of_fraction (h : x.units % unitsPerOne ≠ 0) : x.units / unitsPerOne < 2 ^ 53 := by
  have hfraction : x.fraction < fractionSize := Nat.mod_lt _ (by decide)
  have hsize : fractionSize + fractionSize = 2 ^ 53 := by decide
  rw [Nat.div_lt_iff_lt_mul unitsPerOne_pos]
  unfold units at h ⊢
  split at h
  · next he =>
    rw [if_pos he]
    have hone : 2 ^ 53 * 1 ≤ 2 ^ 53 * unitsPerOne := Nat.mul_le_mul_left _ unitsPerOne_pos
    omega
  · next he =>
    rw [if_neg he]
    obtain ⟨exponent, hone⟩ := exists_unitsPerOne_eq
    have hexponent : x.exponentField - 1 < exponent := by
      by_contra hlarge
      have hdvd : unitsPerOne ∣ Nat.pow 2 (x.exponentField - 1) := by
        rw [hone]
        exact Nat.pow_dvd_pow 2 (Nat.le_of_not_lt hlarge)
      exact h (Nat.mod_eq_zero_of_dvd (Nat.dvd_mul_left_of_dvd hdvd _))
    have hpow : Nat.pow 2 (x.exponentField - 1) ≤ unitsPerOne := by
      rw [hone]
      exact Nat.pow_le_pow_right Nat.two_pos hexponent.le
    exact Nat.mul_lt_mul_of_lt_of_le (by omega) hpow unitsPerOne_pos

theorem isFinite_iff : x.isFinite = true ↔ x.isNaN = false ∧ x.isInfinite = false := by
  simp only [isFinite, isNaN, isInfinite, decide_eq_true_eq, decide_eq_false_iff_not]
  omega

theorem not_isInfinite_of_isNaN (h : x.isNaN = true) : x.isInfinite = false := by
  simp only [isNaN, isInfinite, decide_eq_true_eq, decide_eq_false_iff_not] at h ⊢
  omega

theorem toNat_bits (x : Binary64) : x.bits.toNat = x.magnitudeBits + if x.isNegative then signBit else 0 := by
  have hlt := x.bits.toNat_lt
  unfold magnitudeBits isNegative signBit
  simp only [decide_eq_true_eq]
  split <;> omega

theorem eq_of_totalRank (h : x.totalRank = y.totalRank) : x = y := by
  have hx := x.toNat_bits
  have hy := y.toNat_bits
  unfold totalRank at h
  have hbits : x.bits.toNat = y.bits.toNat := by
    rw [hx, hy]
    cases hxn : x.isNegative <;> cases hyn : y.isNegative <;> simp only [hxn, hyn, if_true, if_false,
      Bool.false_eq_true] at h ⊢ <;> omega
  cases x
  cases y
  exact congrArg Binary64.mk (UInt64.toNat_inj.mp hbits)

theorem totalLE_refl (x : Binary64) : x.totalLE x := decide_eq_true (Int.le_refl _)

theorem totalLE_trans (hxy : x.totalLE y) (hyz : y.totalLE z) : x.totalLE z :=
  decide_eq_true (Int.le_trans (of_decide_eq_true hxy) (of_decide_eq_true hyz))

theorem totalLE_total (x y : Binary64) : x.totalLE y || y.totalLE x := by
  simpa [totalLE] using Int.le_total x.totalRank y.totalRank

theorem eq_of_totalLE (hxy : x.totalLE y) (hyx : y.totalLE x) : x = y :=
  eq_of_totalRank (Int.le_antisymm (of_decide_eq_true hxy) (of_decide_eq_true hyx))

theorem isZero_of_not_lt_zero (hn : x.isNegative = true) (hnan : x.isNaN = false) (h : x.lt zero = false) :
    x.magnitudeBits = 0 := by
  have hzero : zero.isNaN = false ∧ zero.rank = 0 := by decide
  by_contra hm
  have hlt : x.lt zero = true := by
    rw [lt, hnan, hzero.1, hzero.2, rank, hn]
    simp only [Bool.not_false, Bool.true_and, if_true, decide_eq_true_eq]
    omega
  rw [h] at hlt
  cases hlt

theorem rank_le_of_not_lt (hx : x.isNaN = false) (hy : y.isNaN = false) (h : x.lt y = false) : y.rank ≤ x.rank := by
  rw [lt, hx, hy] at h
  exact Int.not_lt.mp (of_decide_eq_false h)

theorem units_of_magnitudeBits_eq_zero (h : x.magnitudeBits = 0) : x.units = 0 := by
  rw [units_eq, h]
  rfl

end MetricRelay.Binary64
