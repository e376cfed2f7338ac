namespace MetricRelay

/-- A number of the 64-bit binary interchange format, by its bit pattern. -/
structure Binary64 where
  bits : UInt64
deriving DecidableEq, Repr, Inhabited

def divNearestEven (num den : Nat) : Nat :=
  let quotient := num / den
  let rest := num % den
  if 2 * rest < den then quotient
  else if den < 2 * rest then quotient + 1
  else quotient + quotient % 2

namespace Binary64

def infinityBits : Nat := 0x7FF0000000000000

def signBit : Nat := 0x8000000000000000

def fractionSize : Nat := 0x10000000000000

def ofMagnitude (negative : Bool) (magnitude : Nat) : Binary64 :=
  ⟨UInt64.ofNat (magnitude + if negative then signBit else 0)⟩

def zero : Binary64 := ⟨0⟩

def infinity (negative : Bool) : Binary64 := ofMagnitude negative infinityBits

def nan : Binary64 := ⟨0x7FF8000000000000⟩

def isNegative (x : Binary64) : Bool := signBit ≤ x.bits.toNat

def magnitudeBits (x : Binary64) : Nat := x.bits.toNat % signBit

def exponentField (x : Binary64) : Nat := x.magnitudeBits / fractionSize

def fraction (x : Binary64) : Nat := x.magnitudeBits % fractionSize

def isNaN (x : Binary64) : Bool := infinityBits < x.magnitudeBits

def isInfinite (x : Binary64) : Bool := x.magnitudeBits = infinityBits

def isFinite (x : Binary64) : Bool := x.magnitudeBits < infinityBits

def isZero (x : Binary64) : Bool := x.magnitudeBits = 0

/-- The magnitude of a finite number as a multiple of `2⁻¹⁰⁷⁴`. -/
def units (x : Binary64) : Nat :=
  if x.exponentField = 0 then x.fraction
  else (fractionSize + x.fraction) * Nat.pow 2 (x.exponentField - 1)

def signedUnits (x : Binary64) : Int :=
  if x.isNegative then -(x.units : Int) else x.units

def unitsPerOne : Nat := Nat.pow 2 1074

/-- The number nearest to `num / den` units, ties to even, infinite when that is out of range. -/
def ofRatio (negative : Bool) (num den : Nat) : Binary64 :=
  let scale := (num / den).log2 - 52
  ofMagnitude negative (min (scale * fractionSize + divNearestEven num (den * Nat.pow 2 scale)) infinityBits)

def ofNat (n : Nat) : Binary64 := ofRatio false (n * unitsPerOne) 1

def ofInt : Int → Binary64
  | .ofNat n => ofNat n
  | .negSucc n => ofRatio true ((n + 1) * unitsPerOne) 1

/-- The number nearest to `± digits · 10 ^ exponent`. Exponents far outside the range are settled by the number of
digits alone, so that the powers computed stay small. -/
def ofDecimal (negative : Bool) (digits : Nat) (exponent : Int) : Binary64 :=
  if digits = 0 then ofMagnitude negative 0
  else
    let size : Int := (digits.log2 * 3) / 10
    if 400 < exponent + size then infinity negative
    else if exponent + size < -800 - size then ofMagnitude negative 0
    else ofRatio negative (digits * Nat.pow 10 exponent.toNat * unitsPerOne) (Nat.pow 10 (-exponent).toNat)

def neg (x : Binary64) : Binary64 := ofMagnitude (!x.isNegative) x.magnitudeBits

def abs (x : Binary64) : Binary64 := ofMagnitude false x.magnitudeBits

def mul (x y : Binary64) : Binary64 :=
  let negative := x.isNegative != y.isNegative
  if x.isNaN || y.isNaN then nan
  else if x.isInfinite || y.isInfinite then
    if x.isZero || y.isZero then nan else infinity negative
  else ofRatio negative (x.units * y.units) unitsPerOne

def div (x y : Binary64) : Binary64 :=
  let negative := x.isNegative != y.isNegative
  if x.isNaN || y.isNaN then nan
  else if x.isInfinite then if y.isInfinite then nan else infinity negative
  else if y.isInfinite then ofMagnitude negative 0
  else if y.isZero then if x.isZero then nan else infinity negative
  else ofRatio negative (x.units * unitsPerOne) y.units

/-- The place in the total order: negative numbers in front, by falling magnitude, then the others; the two zeros are
told apart, and numbers that are not a number lie outside the infinities. -/
def totalRank (x : Binary64) : Int :=
  if x.isNegative then -(x.magnitudeBits : Int) - 1 else x.magnitudeBits

def totalLE (x y : Binary64) : Bool := x.totalRank ≤ y.totalRank

/-- The numeric position, the same for both zeros. -/
def rank (x : Binary64) : Int :=
  if x.isNegative then -(x.magnitudeBits : Int) else x.magnitudeBits

def lt (x y : Binary64) : Bool := !x.isNaN && !y.isNaN && x.rank < y.rank

def numEq (x y : Binary64) : Bool := !x.isNaN && !y.isNaN && x.rank = y.rank

def trunc? (x : Binary64) : Option Int :=
  if x.isFinite then some (x.signedUnits.tdiv unitsPerOne) else none

def roundAway (x : Binary64) : Int :=
  let n : Int := ((2 * x.units + unitsPerOne) / (2 * unitsPerOne) : Nat)
  if x.isNegative then -n else n

end Binary64
end MetricRelay
