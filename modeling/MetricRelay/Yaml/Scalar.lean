import MetricRelay.Config.Value
import MetricRelay.Decimal.Reading
import MetricRelay.Json.Reader
import MetricRelay.Text.Blank

namespace MetricRelay.Yaml

open Config (Value)

def digits? (base : Nat) (text : List Char) : Option Nat :=
  if text = [] then none
  else text.foldlM (fun n c ↦ do
    let digit ← Json.hexValue? c
    if digit < base then some (base * n + digit) else none) 0

def marked? : List Char → Option Nat
  | '0' :: 'x' :: rest => digits? 16 rest
  | '0' :: 'o' :: rest => digits? 8 rest
  | '0' :: 'b' :: rest => digits? 2 rest
  | _ => none

def decimal? (text : List Char) : Option Nat :=
  if text.head? = some '0' ∧ 1 < text.length then none else digits? 10 text

def integer? : List Char → Option Value
  | '-' :: rest =>
    match (marked? rest).or (decimal? rest) with
    | some n => if n ≤ Nat.pow 2 127 then some (.integer (-n)) else none
    | none => none
  | '+' :: rest => natural? rest
  | text => natural? text
where
  natural? (text : List Char) : Option Value :=
    (((marked? text).or (decimal? text)).filter (· < Nat.pow 2 128)).map .natural

def isZeroPadded (text : List Char) : Bool :=
  let digits := match text with
    | '-' :: rest => rest
    | '+' :: rest => rest
    | _ => text
  1 < digits.length && digits.head? = some '0' && digits.all Char.isDigit

def float? (text : List Char) : Option Binary64 :=
  let unsigned := match text with
    | '+' :: rest => rest
    | _ => text
  if [".inf", ".Inf", ".INF"].contains (String.ofList unsigned) then some (.infinity false)
  else if ["-.inf", "-.Inf", "-.INF"].contains (String.ofList text) then some (.infinity true)
  else if [".nan", ".NaN", ".NAN"].contains (String.ofList text) then some .nan
  else if isZeroPadded text || unsigned ≠ text && (unsigned.head? = some '+' || unsigned.head? = some '-') then none
  else (Decimal.float? unsigned).filter Binary64.isFinite

def plainValue (text : List Char) : Value :=
  match String.ofList text with
  | "" | "~" | "null" | "Null" | "NULL" => .null
  | "true" | "True" | "TRUE" => .bool true
  | "false" | "False" | "FALSE" => .bool false
  | whole =>
    match integer? text with
    | some value => value
    | none =>
      match float? text with
      | some x => .float x
      | none => .text whole

def isLineSpace (c : Char) : Bool := c = ' ' || c = '\t'

def isSpace (c : Char) : Bool := isLineSpace c || c = '\n'

/-- What stands for white space inside a quoted scalar: itself on one line, a space for one line end, and one line feed
less than there are line ends otherwise. -/
def folded (space : List Char) : List Char :=
  match space.count '\n' with
  | 0 => space
  | 1 => [' ']
  | count + 1 => List.replicate count '\n'

def hexCharacter? : Nat → Nat → List Char → Option (Char × List Char)
  | 0, n, rest => if n.isValidChar then some (Char.ofNat n, rest) else none
  | _ + 1, _, [] => none
  | count + 1, n, c :: rest => do hexCharacter? count (16 * n + (← Json.hexValue? c)) rest

def escape? : List Char → Option (Char × List Char)
  | [] => none
  | c :: rest =>
    match c with
    | '0' => some ('\x00', rest)
    | 'a' => some ('\x07', rest)
    | 'b' => some ('\x08', rest)
    | 't' => some ('\t', rest)
    | '\t' => some ('\t', rest)
    | 'n' => some ('\n', rest)
    | 'v' => some ('\x0b', rest)
    | 'f' => some ('\x0c', rest)
    | 'r' => some ('\r', rest)
    | 'e' => some ('\x1b', rest)
    | ' ' => some (' ', rest)
    | '"' => some ('"', rest)
    | '/' => some ('/', rest)
    | '\\' => some ('\\', rest)
    | 'N' => some (Char.ofNat 0x85, rest)
    | '_' => some (Char.ofNat 0xA0, rest)
    | 'L' => some (Char.ofNat 0x2028, rest)
    | 'P' => some (Char.ofNat 0x2029, rest)
    | 'x' => hexCharacter? 2 0 rest
    | 'u' => hexCharacter? 4 0 rest
    | 'U' => hexCharacter? 8 0 rest
    | _ => none

def doubleQuoted? : Nat → List Char → Option (List Char × List Char)
  | 0, _ => none
  | _ + 1, [] => none
  | _ + 1, '"' :: rest => some ([], rest)
  | fuel + 1, '\\' :: '\n' :: rest => doubleQuoted? fuel (rest.dropWhile isSpace)
  | fuel + 1, '\\' :: rest => do
    let (c, rest) ← escape? rest
    let (text, rest) ← doubleQuoted? fuel rest
    return (c :: text, rest)
  | fuel + 1, c :: rest =>
    if isSpace c then
      (doubleQuoted? fuel (rest.dropWhile isSpace)).map fun (text, after) ↦
        (folded (c :: rest.takeWhile isSpace) ++ text, after)
    else (doubleQuoted? fuel rest).map fun (text, rest) ↦ (c :: text, rest)

def singleQuoted? : Nat → List Char → Option (List Char × List Char)
  | 0, _ => none
  | _ + 1, [] => none
  | fuel + 1, '\'' :: '\'' :: rest => (singleQuoted? fuel rest).map fun (text, rest) ↦ ('\'' :: text, rest)
  | _ + 1, '\'' :: rest => some ([], rest)
  | fuel + 1, c :: rest =>
    if isSpace c then
      (singleQuoted? fuel (rest.dropWhile isSpace)).map fun (text, after) ↦
        (folded (c :: rest.takeWhile isSpace) ++ text, after)
    else (singleQuoted? fuel rest).map fun (text, rest) ↦ (c :: text, rest)

inductive Chomping
  | strip
  | clip
  | keep
deriving DecidableEq, Repr

/-- How a block scalar is laid out: kept line by line or folded, the treatment of its end, and its indentation where
the header gives one. -/
structure BlockStyle where
  folds : Bool
  chomping : Chomping := .clip
  indent : Option Nat := none

def BlockStyle.read (style : BlockStyle) : List Char → BlockStyle × List Char
  | '-' :: rest => BlockStyle.read { style with chomping := .strip } rest
  | '+' :: rest => BlockStyle.read { style with chomping := .keep } rest
  | c :: rest =>
    if c.isDigit && c ≠ '0' then BlockStyle.read { style with indent := some (Decimal.digitValue c) } rest
    else (style, c :: rest)
  | [] => (style, [])

def startsBlank (line : List Char) : Bool := line.head?.any isLineSpace

/-- Joins lines, each with the number of empty lines in front of it; `blank` says whether the line before starts with
white space. Two lines that do not are folded into one. -/
def joinLines (folds : Bool) (blank : Bool) : List (Nat × List Char) → List Char
  | [] => []
  | (empty, line) :: rest =>
    let breaks :=
      if folds && !blank && !startsBlank line then if empty = 0 then [' '] else List.replicate empty '\n'
      else List.replicate (empty + 1) '\n'
    breaks ++ line ++ joinLines folds (startsBlank line) rest

def BlockStyle.text (style : BlockStyle) (lines : List (Nat × List Char)) (trailing : Nat) : List Char :=
  match lines with
  | [] => if style.chomping = .keep then List.replicate trailing '\n' else []
  | (empty, line) :: rest =>
    let body := List.replicate empty '\n' ++ line ++ joinLines style.folds (startsBlank line) rest
    match style.chomping with
    | .strip => body
    | .clip => body ++ ['\n']
    | .keep => body ++ List.replicate (trailing + 1) '\n'

end MetricRelay.Yaml
