import MetricRelay.Decimal.Reading
import MetricRelay.Json.Value

namespace MetricRelay.Json

def maxDepth : Nat := 127

def isSpace (c : Char) : Bool := c = ' ' || c = '\n' || c = '\t' || c = '\r'

def skipSpace (s : List Char) : List Char := s.dropWhile isSpace

def hexValue? (c : Char) : Option Nat :=
  if c.isDigit then some (c.toNat - 48)
  else if 'a' ≤ c ∧ c ≤ 'f' then some (c.toNat - 87)
  else if 'A' ≤ c ∧ c ≤ 'F' then some (c.toNat - 55)
  else none

def unit? : List Char → Option (Nat × List Char)
  | a :: b :: c :: d :: rest => do
    some ((((← hexValue? a) * 16 + (← hexValue? b)) * 16 + (← hexValue? c)) * 16 + (← hexValue? d), rest)
  | _ => none

/-- The character an escape stands for, the backslash being read already. Surrogates have to come in pairs. -/
def escape? : List Char → Option (Char × List Char)
  | '"' :: rest => some ('"', rest)
  | '\\' :: rest => some ('\\', rest)
  | '/' :: rest => some ('/', rest)
  | 'b' :: rest => some ('\x08', rest)
  | 'f' :: rest => some ('\x0c', rest)
  | 'n' :: rest => some ('\n', rest)
  | 'r' :: rest => some ('\r', rest)
  | 't' :: rest => some ('\t', rest)
  | 'u' :: rest => do
    let (high, rest) ← unit? rest
    if 0xDC00 ≤ high ∧ high ≤ 0xDFFF then none
    else if 0xD800 ≤ high ∧ high < 0xDC00 then
      match rest with
      | '\\' :: 'u' :: rest =>
        let (low, rest) ← unit? rest
        if 0xDC00 ≤ low ∧ low ≤ 0xDFFF then
          some (Char.ofNat (0x10000 + (high - 0xD800) * 1024 + (low - 0xDC00)), rest)
        else none
      | _ => none
    else some (Char.ofNat high, rest)
  | _ => none

def stringRest? : Nat → List Char → Option (List Char × List Char)
  | 0, _ => none
  | _ + 1, [] => none
  | _ + 1, '"' :: rest => some ([], rest)
  | fuel + 1, '\\' :: rest => do
    let (c, rest) ← escape? rest
    let (value, rest) ← stringRest? fuel rest
    some (c :: value, rest)
  | fuel + 1, c :: rest =>
    if c.toNat < 32 then none
    else (stringRest? fuel rest).map fun (value, rest) ↦ (c :: value, rest)

def string? (s : List Char) : Option (String × List Char) :=
  (stringRest? (s.length + 1) s).map fun (value, rest) ↦ (String.ofList value, rest)

def maxPower : Nat := 308

/-- Scales a significand by a power of ten, one correctly rounded step at a time; nothing if that overflows. -/
def scale? (x : Binary64) (exponent : Int) : Option Binary64 :=
  let power (n : Nat) := Binary64.ofNat (Nat.pow 10 n)
  if 0 ≤ exponent then
    if exponent ≤ maxPower then
      let scaled := x.mul (power exponent.toNat)
      if scaled.isInfinite then none else some scaled
    else if x.isZero then some x
    else none
  else
    let down := (-exponent).toNat
    if down ≤ maxPower then some (x.div (power down))
    else if x.isZero then some x
    else
      let once := x.div (power maxPower)
      if down - maxPower ≤ maxPower then some (once.div (power (down - maxPower)))
      else some .zero

def significand : Nat → List Char → Nat × Nat
  | n, [] => (n, 0)
  | n, c :: rest =>
    let next := 10 * n + Decimal.digitValue c
    if next < UInt64.size then significand next rest else (n, rest.length + 1)

/-- Builds the float from its digits. Digits that do not fit count by their place alone. -/
def float? (negative : Bool) (whole fraction : List Char) (exponent : Int) : Option Binary64 := do
  let (n, cutWhole) := significand 0 whole
  let (n, cutFraction) := significand n fraction
  let x ← scale? (.ofNat n) (exponent + cutWhole - (fraction.length - cutFraction : Nat))
  return if negative then x.neg else x

def exponent? (s : List Char) : Option (Int × List Char) :=
  let (negative, s) := match s with
    | '-' :: rest => (true, rest)
    | '+' :: rest => (false, rest)
    | s => (false, s)
  match s.takeWhile Char.isDigit with
  | [] => none
  | digits =>
    let n : Int := Decimal.value digits
    some (if negative then -n else n, s.dropWhile Char.isDigit)

def fraction? : List Char → Option (List Char × List Char)
  | '.' :: rest =>
    match rest.takeWhile Char.isDigit with
    | [] => none
    | digits => some (digits, rest.dropWhile Char.isDigit)
  | rest => some ([], rest)

def marked? : List Char → Option (Option Int × List Char)
  | c :: rest =>
    if c = 'e' ∨ c = 'E' then (exponent? rest).map fun (n, rest) ↦ (some n, rest) else some (none, c :: rest)
  | [] => some (none, [])

def number? (negative : Bool) (s : List Char) : Option (JsonNumber × List Char) := do
  let whole := s.takeWhile Char.isDigit
  if whole = [] ∨ whole.head? = some '0' ∧ whole ≠ ['0'] then none
  let (fraction, rest) ← fraction? (s.dropWhile Char.isDigit)
  let (exponent, rest) ← marked? rest
  let n := Decimal.value whole
  if fraction = [] ∧ exponent = none ∧ n < UInt64.size then
    if !negative then some (.unsigned (UInt64.ofNat n), rest)
    else if 0 < n ∧ Int64.minValue.toInt ≤ -n then some (.negative (Int64.ofInt (-(n : Int))), rest)
    else some (.float (Binary64.ofNat n).neg, rest)
  else
    let x ← float? negative whole fraction (exponent.getD 0)
    some (.float x, rest)

abbrev NumeralReader := List Char → Option (JsonNumber × List Char)

def numeral? : NumeralReader
  | '-' :: rest => number? true rest
  | s => number? false s

def word? (word s : List Char) : Option (List Char) := if word.isPrefixOf s then some (s.drop word.length) else none

mutual

/-- Reads a value, white space in front of it. The first number bounds the number of steps, the second the depth. -/
def value? (numeral? : NumeralReader) : Nat → Nat → List Char → Option (Json × List Char)
  | 0, _, _ => none
  | fuel + 1, depth, s =>
    match skipSpace s with
    | 'n' :: rest => (word? "ull".toList rest).map fun rest ↦ (null, rest)
    | 't' :: rest => (word? "rue".toList rest).map fun rest ↦ (bool true, rest)
    | 'f' :: rest => (word? "alse".toList rest).map fun rest ↦ (bool false, rest)
    | '"' :: rest => (string? rest).map fun (s, rest) ↦ (string s, rest)
    | '[' :: rest =>
      match depth, skipSpace rest with
      | 0, _ => none
      | _ + 1, ']' :: rest => some (array [], rest)
      | depth + 1, rest => (items? numeral? fuel depth rest).map fun (items, rest) ↦ (array items, rest)
    | '\x7b' :: rest =>
      match depth, skipSpace rest with
      | 0, _ => none
      | _ + 1, '\x7d' :: rest => some (object [], rest)
      | depth + 1, rest => (members? numeral? fuel depth rest).map fun (members, rest) ↦ (object members, rest)
    | s => (numeral? s).map fun (n, rest) ↦ (number n, rest)

def items? (numeral? : NumeralReader) : Nat → Nat → List Char → Option (List Json × List Char)
  | 0, _, _ => none
  | fuel + 1, depth, s =>
    match value? numeral? fuel depth s with
    | none => none
    | some (item, rest) =>
      match skipSpace rest with
      | ']' :: rest => some ([item], rest)
      | ',' :: rest => (items? numeral? fuel depth rest).map fun (items, rest) ↦ (item :: items, rest)
      | _ => none

def members? (numeral? : NumeralReader) : Nat → Nat → List Char → Option (List (String × Json) × List Char)
  | 0, _, _ => none
  | fuel + 1, depth, s =>
    match skipSpace s with
    | '"' :: rest =>
      match string? rest with
      | none => none
      | some (name, rest) =>
        match skipSpace rest with
        | ':' :: rest =>
          match value? numeral? fuel depth rest with
          | none => none
          | some (value, rest) =>
            match skipSpace rest with
            | '\x7d' :: rest => some ([(name, value)], rest)
            | ',' :: rest =>
              (members? numeral? fuel depth rest).map fun (members, rest) ↦ ((name, value) :: members, rest)
            | _ => none
        | _ => none
    | _ => none

end

def readWith? (numeral? : NumeralReader) (text : String) : Option Json :=
  match value? numeral? (2 * text.length + 2) maxDepth text.toList with
  | some (json, rest) => if skipSpace rest = [] then some json else none
  | none => none

def read? (text : String) : Option Json := readWith? numeral? text

end MetricRelay.Json
