import Mathlib.Algebra.Ring.Nat
import Mathlib.Order.Monotone.Basic
import MetricRelay.Retry.Backoff

namespace MetricRelay

namespace Backoff

variable {b : Backoff}

theorem power_eq (count : Nat) : power count = min (2 ^ count) (UInt32.size - 1) := by
  have hsize : UInt32.size - 1 ≤ 2 ^ 32 := by decide
  unfold power
  rcases Nat.le_total count 32 with h | h
  · rw [Nat.min_eq_left h]
    rfl
  · have hlarge : 2 ^ 32 ≤ 2 ^ count := Nat.pow_le_pow_right Nat.two_pos h
    rw [Nat.min_eq_right h, Nat.min_eq_right (hsize.trans hlarge)]
    exact Nat.min_eq_right hsize

theorem power_of_le {count : Nat} (h : count ≤ 31) : power count = 2 ^ count := by
  have hpow : 2 ^ count ≤ 2 ^ 31 := Nat.pow_le_pow_right Nat.two_pos h
  have hsize : 2 ^ 31 ≤ UInt32.size - 1 := by decide
  rw [power_eq, Nat.min_eq_left (hpow.trans hsize)]

theorem power_mono : Monotone power := by
  intro m n h
  rw [power_eq, power_eq]
  have hpow : 2 ^ m ≤ 2 ^ n := Nat.pow_le_pow_right Nat.two_pos h
  omega

theorem clamp_mem (hle : b.least ≤ b.greatest) (duration : Nat) :
    b.least ≤ b.clamp duration ∧ b.clamp duration ≤ b.greatest :=
  ⟨le_max_left _ _, max_le hle (min_le_left _ _)⟩

theorem duration_mem (hle : b.least ≤ b.greatest) (draw : Nat → Nat) (count : Nat) :
    b.least ≤ b.duration draw count ∧ b.duration draw count ≤ b.greatest := by
  rw [duration]
  split
  · exact ⟨le_rfl, hle⟩
  · exact clamp_mem hle _

/-- The limit on all durations does not show, since the greatest duration of the caller is within it. -/
theorem duration_eq (hle : b.least ≤ b.greatest) (hmax : b.greatest ≤ maxDuration) (hj : b.isJittered = false)
    (draw : Nat → Nat) (count : Nat) : b.duration draw count = min b.greatest (b.least * power count) := by
  have hone : 1 ≤ power count := power_mono (Nat.zero_le count)
  have hleast : b.least ≤ b.least * power count := Nat.le_mul_of_pos_right _ hone
  rw [duration, hj]
  split
  · next hzero =>
    subst hzero
    have hpower : power 0 = 1 := rfl
    rw [hpower, Nat.mul_one, Nat.min_eq_right hle]
  · simp only [Bool.false_eq_true, if_false, clamp, doubled]
    omega

end Backoff

structure DurationWords where
  seconds : UInt64
  nanos : UInt32

namespace DurationWords

def nanoseconds (d : DurationWords) : Nat := d.seconds.toNat * 1000000000 + d.nanos.toNat

def greatest : DurationWords := ⟨0xFFFFFFFFFFFFFFFF, 999999999⟩

/-- The product in words, or the greatest duration where it has too many seconds. -/
def times (d : DurationWords) (factor : UInt32) : DurationWords :=
  let nanos := d.nanos.toUInt64 * factor.toUInt64
  let carried := nanos / 1000000000
  if d.seconds.toNat * factor.toNat + carried.toNat < UInt64.size then
    ⟨d.seconds * factor.toUInt64 + carried, (nanos % 1000000000).toUInt32⟩
  else greatest

def power : Nat → UInt32
  | 0 => 1
  | count + 1 => if power count < 0x80000000 then 2 * power count else 0xFFFFFFFF

theorem toNat_power (count : Nat) : (power count).toNat = Backoff.power count := by
  have hsize : UInt32.size = 4294967296 := rfl
  rw [Backoff.power_eq]
  induction count with
  | zero => rfl
  | succ count ih =>
    have hlt : power count < 0x80000000 ↔ (power count).toNat < 2147483648 := UInt32.lt_iff_toNat_lt
    rw [power, Nat.pow_succ]
    split
    · next h =>
      have hdouble : (2 * power count).toNat = 2 * (power count).toNat % 4294967296 := UInt32.toNat_mul _ _
      have hroom := hlt.mp h
      omega
    · next h =>
      have hlast : (0xFFFFFFFF : UInt32).toNat = 4294967295 := rfl
      have hfull := mt hlt.mpr h
      omega

/-- The carry of the nanoseconds decides whether all seconds have room. -/
theorem min_carried {size : Nat} (hsize : 0 < size) (seconds nanos : Nat) :
    min (seconds * 1000000000 + nanos) ((size - 1) * 1000000000 + 999999999) =
      if seconds + nanos / 1000000000 < size then (seconds + nanos / 1000000000) * 1000000000 + nanos % 1000000000
      else (size - 1) * 1000000000 + 999999999 := by
  split <;> omega

theorem toNat_nanos_mul {nanos : UInt32} (h : nanos.toNat < 1000000000) (factor : UInt32) :
    (nanos.toUInt64 * factor.toUInt64).toNat = nanos.toNat * factor.toNat := by
  have hproduct : nanos.toNat * factor.toNat < 1000000000 * 2 ^ 32 := Nat.mul_lt_mul_of_lt_of_lt h factor.toNat_lt
  rw [UInt64.toNat_mul, UInt32.toNat_toUInt64, UInt32.toNat_toUInt64]
  exact Nat.mod_eq_of_lt (hproduct.trans (by decide))

/-- No word wraps: the product of the nanoseconds has room, and the seconds are compared before they are taken. -/
theorem nanoseconds_times {d : DurationWords} (hd : d.nanos.toNat < 1000000000) (factor : UInt32) :
    (d.times factor).nanoseconds = min (d.nanoseconds * factor.toNat) maxDuration := by
  have hnanos := toNat_nanos_mul hd factor
  have hcarried : (d.nanos.toUInt64 * factor.toUInt64 / 1000000000).toNat =
      d.nanos.toNat * factor.toNat / 1000000000 := by
    rw [UInt64.toNat_div, hnanos]
    rfl
  have hrest : (d.nanos.toUInt64 * factor.toUInt64 % 1000000000).toUInt32.toNat =
      d.nanos.toNat * factor.toNat % 1000000000 := by
    have hlt : d.nanos.toNat * factor.toNat % 1000000000 < 1000000000 := Nat.mod_lt _ (by decide)
    rw [UInt64.toNat_toUInt32, UInt64.toNat_mod, hnanos]
    exact Nat.mod_eq_of_lt (hlt.trans (by decide))
  have hsplit : d.nanoseconds * factor.toNat =
      d.seconds.toNat * factor.toNat * 1000000000 + d.nanos.toNat * factor.toNat := by
    rw [nanoseconds, Nat.add_mul, Nat.mul_right_comm]
  have hmax : maxDuration = (UInt64.size - 1) * 1000000000 + 999999999 := rfl
  rw [hsplit, hmax, min_carried (by decide), times, hcarried]
  split
  · next h =>
    have hseconds : (d.seconds * factor.toUInt64 + d.nanos.toUInt64 * factor.toUInt64 / 1000000000).toNat =
        d.seconds.toNat * factor.toNat + d.nanos.toNat * factor.toNat / 1000000000 := by
      rw [UInt64.toNat_add, UInt64.toNat_mul, hcarried, UInt32.toNat_toUInt64, Nat.mod_add_mod]
      exact Nat.mod_eq_of_lt h
    rw [nanoseconds, hrest, hseconds]
  · have hlast : (0xFFFFFFFFFFFFFFFF : UInt64).toNat = UInt64.size - 1 := rfl
    have hbelow : (999999999 : UInt32).toNat = 999999999 := rfl
    rw [nanoseconds, greatest, hlast, hbelow]

end DurationWords

namespace Backoff

variable {b : Backoff}

/-- The duration lies between the bounds, whatever the draw. Without one it never decreases and doubles with each error,
as exact numbers up to the greatest duration while a power of two has room in 32 bits. In words the product is the one
computed here, and power and product are exact as long as there is room for them. -/
theorem duration_doubles (hle : b.least ≤ b.greatest) (hmax : b.greatest ≤ maxDuration) (draw : Nat → Nat) :
    (∀ count, b.least ≤ b.duration draw count ∧ b.duration draw count ≤ b.greatest) ∧
    (b.isJittered = false →
      Monotone (b.duration draw) ∧
      (∀ count ≤ 31, b.duration draw count = min b.greatest (b.least * 2 ^ count)) ∧
      ∀ count ≥ 32, b.duration draw count = min b.greatest (b.least * (2 ^ 32 - 1))) ∧
    ∀ d : DurationWords, d.nanos.toNat < 1000000000 → d.nanoseconds = b.least → ∀ count,
      (d.times (DurationWords.power count)).nanoseconds = b.doubled count ∧
      (count ≤ 31 → (DurationWords.power count).toNat = 2 ^ count ∧
        (d.times (DurationWords.power count)).nanoseconds = min (b.least * 2 ^ count) maxDuration) := by
  refine ⟨duration_mem hle draw, fun hj ↦ ⟨?_, ?_, ?_⟩, fun d hd hleast count ↦ ?_⟩
  · intro m n h
    rw [duration_eq hle hmax hj, duration_eq hle hmax hj]
    have hmul : b.least * power m ≤ b.least * power n := Nat.mul_le_mul_left _ (power_mono h)
    omega
  · intro count hcount
    rw [duration_eq hle hmax hj, power_of_le hcount]
  · intro count hcount
    have hlarge : 2 ^ 32 ≤ 2 ^ count := Nat.pow_le_pow_right Nat.two_pos hcount
    have hpower : power count = 2 ^ 32 - 1 := by
      rw [power_eq]
      exact Nat.min_eq_right ((Nat.sub_le _ _).trans hlarge)
    rw [duration_eq hle hmax hj, hpower]
  · have hpower := DurationWords.toNat_power count
    have htimes := DurationWords.nanoseconds_times hd (DurationWords.power count)
    rw [hleast, hpower] at htimes
    refine ⟨htimes, fun hcount ↦ ?_⟩
    rw [power_of_le hcount] at hpower htimes
    exact ⟨hpower, htimes⟩

/-- A third of the greatest duration there is: the second doubling has no room. -/
theorem duration_doubles_saturated :
    let b : Backoff := { least := maxDuration / 3, greatest := maxDuration }
    b.duration id 1 = maxDuration / 3 * 2 ∧ b.duration id 2 = maxDuration ∧ b.duration id 4294967295 = maxDuration := by
  intro b
  have hle : b.least ≤ b.greatest := Nat.div_le_self maxDuration 3
  have hj : b.isJittered = false := by decide +kernel
  obtain ⟨-, hplain, -⟩ := duration_doubles hle le_rfl id
  obtain ⟨-, hexact, hlarge⟩ := hplain hj
  have hmost := hlarge 4294967295 (by decide)
  refine ⟨(hexact 1 (by decide)).trans ?_, (hexact 2 (by decide)).trans ?_, hmost.trans ?_⟩ <;> decide +kernel

end Backoff
end MetricRelay
