import MetricRelay.Binary64.Basic

namespace MetricRelay

structure Decimal where
  digits : Nat
  exponent : Int
deriving DecidableEq, Repr, Inhabited

/-- Which of two equally near grid points is taken. -/
inductive TieRule
  | toEven
  | up
deriving DecidableEq, Repr

namespace Decimal

def normalize (d : Decimal) : Decimal :=
  if d.digits ≠ 0 ∧ d.digits % 10 = 0 then normalize ⟨d.digits / 10, d.exponent + 1⟩ else d
termination_by d.digits
decreasing_by omega

end Decimal

namespace Binary64

/-- The reals that round to a number, in quarters of `2⁻¹⁰⁷⁴`. -/
structure RoundingInterval where
  low : Nat
  center : Nat
  high : Nat
  closed : Bool

/-- Halfway to the neighbour on either side; the neighbour below a power of two is twice as near. -/
def roundingInterval (x : Binary64) : RoundingInterval :=
  let gap := Nat.pow 2 (x.exponentField - 1)
  let below := if x.fraction = 0 ∧ 1 < x.exponentField then gap else 2 * gap
  ⟨4 * x.units - below, 4 * x.units, 4 * x.units + 2 * gap, x.fraction % 2 = 0⟩

def gridPoint? (tie : TieRule) (interval : RoundingInterval) (exponent : Int) : Option Decimal :=
  let scale := Nat.pow 10 (-exponent).toNat
  let step := 4 * unitsPerOne * Nat.pow 10 exponent.toNat
  let center := interval.center * scale
  let inside (n : Nat) : Bool :=
    if interval.closed then interval.low * scale ≤ n * step && n * step ≤ interval.high * scale
    else interval.low * scale < n * step && n * step < interval.high * scale
  let n := center / step
  let belowCenter := center - n * step
  let aboveCenter := (n + 1) * step - center
  match n ≠ 0 && inside n, inside (n + 1) with
  | false, false => none
  | true, false => some ⟨n, exponent⟩
  | false, true => some ⟨n + 1, exponent⟩
  | true, true =>
    if belowCenter < aboveCenter then some ⟨n, exponent⟩
    else if aboveCenter < belowCenter then some ⟨n + 1, exponent⟩
    else match tie with
      | .up => some ⟨n + 1, exponent⟩
      | .toEven => some ⟨n + n % 2, exponent⟩

def firstGridPoint (tie : TieRule) (interval : RoundingInterval) (count : Nat) (exponent : Int) : Option Decimal :=
  match count with
  | 0 => none
  | count + 1 =>
    match gridPoint? tie interval exponent with
    | some d => some d
    | none => firstGridPoint tie interval count (exponent - 1)

/-- The fewest digits that read back as the magnitude of `x`, which is finite and not zero; of these the nearest.
Twenty grids below the leading digit of the number are more than the seventeen that always suffice. -/
def shortest (tie : TieRule) (x : Binary64) : Decimal :=
  let leading : Int := ((x.units.log2 : Int) - 1074) * 30103 / 100000
  ((firstGridPoint tie x.roundingInterval 21 (leading + 1)).getD ⟨x.units, 0⟩).normalize

end Binary64
end MetricRelay
