import MetricRelay.Config.Value
import MetricRelay.Decimal.Reading
import MetricRelay.Json.Reader
import MetricRelay.Text.Blank

namespace MetricRelay.Config.Inline

def isSpace (c : Char) : Bool := c = ' ' || c = '\t' || c = '\n' || c = '\x0c' || c = '\r'

def skipSpace (s : List Char) : List Char := s.dropWhile isSpace

def isSeparator (c : Char) : Bool := c = ',' || c = '[' || c = ']' || c = '\x7b' || c = '\x7d'

def hexDigits? : Nat → Nat → List Char → Option (Nat × List Char)
  | 0, n, rest => some (n, rest)
  | _ + 1, _, [] => none
  | count + 1, n, c :: rest => do hexDigits? count (16 * n + (← Json.hexValue? c)) rest

def character? (n : Nat) : Option Char := if n.isValidChar then some (Char.ofNat n) else none

def escape? : List Char → Option (Char × List Char)
  | '"' :: rest => some ('"', rest)
  | '\\' :: rest => some ('\\', rest)
  | 'b' :: rest => some ('\x08', rest)
  | 'f' :: rest => some ('\x0c', rest)
  | 'n' :: rest => some ('\n', rest)
  | 'r' :: rest => some ('\r', rest)
  | 't' :: rest => some ('\t', rest)
  | 'u' :: rest => do
    let (n, rest) ← hexDigits? 4 0 rest
    return (← character? n, rest)
  | 'U' :: rest => do
    let (n, rest) ← hexDigits? 8 0 rest
    return (← character? n, rest)
  | _ => none

def isPlainInQuotes (c : Char) : Bool := c = '\t' || (32 ≤ c.toNat && c.toNat ≠ 127)

def quotedRest? : Nat → List Char → Option (List Char × List Char)
  | 0, _ => none
  | _ + 1, [] => none
  | _ + 1, '"' :: rest => some ([], rest)
  | fuel + 1, '\\' :: rest => do
    let (c, rest) ← escape? rest
    let (value, rest) ← quotedRest? fuel rest
    return (c :: value, rest)
  | fuel + 1, c :: rest =>
    if isPlainInQuotes c then (quotedRest? fuel rest).map fun (value, rest) ↦ (c :: value, rest) else none

def quoted? (s : List Char) : Option (String × List Char) :=
  (quotedRest? (s.length + 1) s).map fun (value, rest) ↦ (String.ofList value, rest)

/-- The value of a bare word: a float needs a point, an integer has to fit 64 bits. -/
def bare (word : List Char) : Value :=
  match if word.contains '.' then Decimal.float? word else none with
  | some x => .float x
  | none =>
    match Decimal.unsigned? UInt64.size word with
    | some n => .natural n
    | none =>
      match Decimal.int64? word with
      | some n => .integer n.toInt
      | none => .text (String.ofList word)

def key? : List Char → Option (String × List Char)
  | '"' :: rest => quoted? rest
  | s =>
    let isKeyChar (c : Char) : Bool := !isSeparator c && c ≠ '='
    match s.takeWhile isKeyChar with
    | [] => none
    | key => some (String.ofList (Text.trim key), s.dropWhile isKeyChar)

mutual

/-- Reads a value and the white space around it. The first argument bounds the number of steps. -/
def value? : Nat → List Char → Option (Value × List Char)
  | 0, _ => none
  | fuel + 1, s =>
    let s := skipSpace s
    let read : Option (Value × List Char) := match Json.word? "true".toList s, Json.word? "false".toList s, s with
      | some rest, _, _ => some (.bool true, rest)
      | _, some rest, _ => some (.bool false, rest)
      | _, _, '\x7b' :: rest => (entries? fuel rest).map fun (entries, rest) ↦ (.table entries, rest)
      | _, _, '[' :: rest => (items? fuel rest).map fun (items, rest) ↦ (.list items, rest)
      | _, _, '"' :: rest => (quoted? rest).map fun (s, rest) ↦ (.text s, rest)
      | _, _, '\'' :: rest =>
        match rest with
        | c :: '\'' :: rest => some (.text (String.singleton c), rest)
        | _ => none
      | _, _, s =>
        some (bare (Text.trim (s.takeWhile fun c ↦ !isSeparator c)), s.dropWhile fun c ↦ !isSeparator c)
    read.map fun (value, rest) ↦ (value, skipSpace rest)

def items? : Nat → List Char → Option (List Value × List Char)
  | 0, _ => none
  | _ + 1, ']' :: rest => some ([], rest)
  | fuel + 1, s =>
    match value? fuel s with
    | none => none
    | some (item, rest) =>
      match rest with
      | ']' :: rest => some ([item], rest)
      | ',' :: rest => (items? fuel rest).map fun (items, rest) ↦ (item :: items, rest)
      | _ => none

def entries? : Nat → List Char → Option (Table × List Char)
  | 0, _ => none
  | _ + 1, '\x7d' :: rest => some ([], rest)
  | fuel + 1, s =>
    match key? (skipSpace s) with
    | none => none
    | some (key, rest) =>
      match skipSpace rest with
      | '=' :: rest =>
        match value? fuel rest with
        | none => none
        | some (value, rest) =>
          match rest with
          | '\x7d' :: rest => some ([(key, value)], rest)
          | ',' :: rest =>
            (entries? fuel rest).map fun (entries, rest) ↦
              (if (Entries.get? key entries).isSome then entries else (key, value) :: entries, rest)
          | _ => none
      | _ => none

end

/-- The value a text stands for. A text that is not a value as a whole stands for itself. -/
def read (text : String) : Value :=
  match value? (2 * text.length + 2) text.toList with
  | some (value, []) => value
  | _ => .text text

end MetricRelay.Config.Inline
