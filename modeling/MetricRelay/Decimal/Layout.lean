import MetricRelay.Decimal.Shortest

namespace MetricRelay

namespace Decimal

def digitChars (n : Nat) : List Char := Nat.toDigits 10 n

/-- `digits` with the decimal point after `point` digits, zeros standing in where digits are missing. The point is
left out behind the last digit. -/
def placePoint (digits : List Char) (point : Int) : List Char :=
  if point ≤ 0 then '0' :: '.' :: (List.replicate (-point).toNat '0' ++ digits)
  else
    let whole := point.toNat
    if digits.length ≤ whole then digits ++ List.replicate (whole - digits.length) '0'
    else digits.take whole ++ '.' :: digits.drop whole

def positional (d : Decimal) : List Char :=
  let digits := digitChars d.digits
  placePoint digits (digits.length + d.exponent)

/-- One digit in front of the point, then the exponent, with the given sign where it is not negative. -/
def scientific (plus : List Char) (d : Decimal) : List Char :=
  let digits := digitChars d.digits
  let exponent : Int := d.exponent + digits.length - 1
  placePoint digits 1 ++ 'e' :: ((if 0 ≤ exponent then plus else []) ++ (toString exponent).toList)

def ranged (least greatest : Int) (plus : List Char) (d : Decimal) : List Char :=
  let digits := digitChars d.digits
  let point : Int := digits.length + d.exponent
  if least ≤ point ∧ point ≤ greatest then
    placePoint digits point ++ if digits.length ≤ point then ['.', '0'] else []
  else d.scientific plus

end Decimal

namespace Binary64

def signed (x : Binary64) (text : List Char) : String :=
  String.ofList (if x.isNegative then '-' :: text else text)

def nonFinite (x : Binary64) : String :=
  if x.isNaN then "NaN" else x.signed ['i', 'n', 'f']

/-- Positional notation at every size; of two equally short and equally near decimals the greater magnitude. -/
def plain (x : Binary64) : String :=
  if !x.isFinite then x.nonFinite
  else if x.isZero then x.signed ['0']
  else x.signed (x.shortest .up).positional

def scientific (x : Binary64) : String :=
  if !x.isFinite then x.nonFinite
  else if x.isZero then x.signed ['0', 'e', '0']
  else x.signed ((x.shortest .up).scientific [])

def jsonLeastPoint : Int := -4

def logLeastPoint : Int := -3

def greatestPoint : Int := 16

/-- The text of a JSON number that reads back as a float: `1.0`, `1e+16`, `1e-7`; nothing for what is not finite. -/
def json? (x : Binary64) : Option String :=
  if !x.isFinite then none
  else if x.isZero then some (x.signed ['0', '.', '0'])
  else some (x.signed ((x.shortest .toEven).ranged jsonLeastPoint greatestPoint ['+']))

def log (x : Binary64) : String :=
  if !x.isFinite then x.nonFinite
  else if x.isZero then x.signed ['0', '.', '0']
  else x.signed ((x.shortest .up).ranged logLeastPoint greatestPoint [])

end Binary64
end MetricRelay
