import MetricRelay.Binary64.Basic

namespace MetricRelay.Decimal

def digitValue (c : Char) : Nat := c.toNat - '0'.toNat

def value (digits : List Char) : Nat := digits.foldl (fun n c ↦ 10 * n + digitValue c) 0

def natural? (text : List Char) : Option Nat :=
  if text ≠ [] ∧ text.all Char.isDigit then some (value text) else none

def integer? : List Char → Option Int
  | '+' :: digits => (natural? digits).map Int.ofNat
  | '-' :: digits => (natural? digits).map fun n ↦ -(n : Int)
  | digits => (natural? digits).map Int.ofNat

def unsigned? (bound : Nat) : List Char → Option Nat
  | '+' :: digits => (natural? digits).filter (· < bound)
  | digits => (natural? digits).filter (· < bound)

def int64? (text : List Char) : Option Int64 :=
  match integer? text with
  | some n => if Int64.minValue.toInt ≤ n ∧ n ≤ Int64.maxValue.toInt then some (Int64.ofInt n) else none
  | none => none

def exponentPart? : List Char → Option Int
  | [] => some 0
  | c :: rest => if c = 'e' ∨ c = 'E' then integer? rest else none

/-- Reads digits with an optional fraction and exponent; one digit has to stand on some side of the point. -/
def unsignedFloat? (negative : Bool) (text : List Char) : Option Binary64 :=
  let whole := text.takeWhile Char.isDigit
  let rest := text.dropWhile Char.isDigit
  let fraction := match rest with
    | '.' :: rest => rest.takeWhile Char.isDigit
    | _ => []
  let rest := match rest with
    | '.' :: rest => rest.dropWhile Char.isDigit
    | _ => rest
  if whole = [] ∧ fraction = [] then none
  else (exponentPart? rest).map fun exponent ↦
    Binary64.ofDecimal negative (value (whole ++ fraction)) (exponent - fraction.length)

/-- Reads a floating-point literal, or one of the words `inf`, `infinity` and `nan` in any case. -/
def float? (text : List Char) : Option Binary64 :=
  let negative := text.head? = some '-'
  let body := match text with
    | '-' :: rest => rest
    | '+' :: rest => rest
    | _ => text
  let word := body.map Char.toLower
  if word = "inf".toList ∨ word = "infinity".toList then some (Binary64.infinity negative)
  else if word = "nan".toList then some Binary64.nan
  else unsignedFloat? negative body

end MetricRelay.Decimal
