import MetricRelay.Decimal.Reading
import MetricRelay.Regex.Property
import MetricRelay.Text.Cut

namespace MetricRelay.Regex

structure Flags where
  ignoreCase : Bool := false
  multiLine : Bool := false
  dotAll : Bool := false
  unicode : Bool := true
  crlf : Bool := false
  spaced : Bool := false

def skipSpaced (inComment : Bool) : List Char → List Char
  | [] => []
  | c :: rest =>
    if inComment then skipSpaced (c ≠ '\n') rest
    else if c = '#' then skipSpaced true rest
    else if Text.isBlank c then skipSpaced false rest
    else c :: rest

namespace Flags

def skip (flags : Flags) (s : List Char) : List Char := if flags.spaced then skipSpaced false s else s

def swapCase (c : Char) : Char := if c.isUpper then c.toLower else c.toUpper

def foldSet (flags : Flags) (set : CharSet) : CharSet :=
  if !flags.ignoreCase then set
  else if flags.unicode then .folded set
  else .union set (.test fun c ↦ set.contains (swapCase c))

def literal (flags : Flags) (c : Char) : Expr := .chars (flags.foldSet (.single c))

def beyondAscii : Char := Char.ofNat 0x80

/-- Outside Unicode mode a set has to stay within ASCII, since it could match part of a character otherwise. -/
def admits (flags : Flags) (set : CharSet) : Bool := flags.unicode || !set.contains beyondAscii

def dot (flags : Flags) : Option Expr :=
  let lineBreaks := if flags.crlf then .union (.single '\n') (.single '\r') else .single '\n'
  if !flags.unicode then none
  else if flags.dotAll then some (.chars .all)
  else some (.chars (.complement lineBreaks))

def set? (flags : Flags) (flag : Char) (value : Bool) : Option Flags :=
  match flag with
  | 'i' => some { flags with ignoreCase := value }
  | 'm' => some { flags with multiLine := value }
  | 's' => some { flags with dotAll := value }
  | 'u' => some { flags with unicode := value }
  | 'R' => some { flags with crlf := value }
  | 'x' => some { flags with spaced := value }
  | 'U' => some flags
  | _ => none

def read? (flags : Flags) (value : Bool) (seen : List Char) (dangling : Bool) :
    List Char → Option (Flags × Bool × List Char)
  | [] => none
  | c :: rest =>
    if c = ':' ∨ c = ')' then
      if dangling then none else some (flags, seen.isEmpty, c :: rest)
    else if c = '-' then
      if value then read? flags false seen true rest else none
    else if seen.contains c then none
    else do
      let flags ← flags.set? c value
      read? flags value (c :: seen) false rest

end Flags

inductive Atom
  | char (c : Char)
  | set (s : CharSet)
  | look (l : Look)

def charOf? (n : Nat) : Option Char :=
  if n < 0xD800 ∨ 0xDFFF < n ∧ n < 0x110000 then some (Char.ofNat n) else none

def hexDigits? (digits : List Char) : Option Nat :=
  if digits ≠ [] ∧ digits.all (fun c ↦ c.isDigit || 'a' ≤ c && c ≤ 'f' || 'A' ≤ c && c ≤ 'F') then
    some (Unicode.hexValue digits)
  else none

def hexEscape? (flags : Flags) (count : Nat) (s : List Char) : Option (Atom × List Char) :=
  match flags.skip s with
  | '\x7b' :: rest => do
    let (digits, rest) ← Text.cut? '\x7d' rest
    let digits := if flags.spaced then digits.filter (fun c ↦ !Text.isBlank c) else digits
    let c ← (← hexDigits? digits) |> charOf?
    some (.char c, rest)
  | s => do
    let digits := s.take count
    if digits.length < count then none
    let c ← (← hexDigits? digits) |> charOf?
    if count = 2 ∧ !flags.unicode ∧ 0x7F < c.toNat then none
    some (.char c, s.drop count)

def propertySet? (text : List Char) : Option CharSet :=
  match Text.cutAt? ['!', '='] text with
  | some (property, value) => (valuedSet? property value).map .complement
  | none =>
    match (Text.cut? ':' text).or (Text.cut? '=' text) with
    | some (property, value) => valuedSet? property value
    | none => namedSet? text

def property? (flags : Flags) (negated : Bool) (s : List Char) : Option (Atom × List Char) := do
  if !flags.unicode then none
  let (set, rest) ← match flags.skip s with
    | '\x7b' :: rest => do
      let (text, rest) ← Text.cut? '\x7d' rest
      some (← propertySet? text, rest)
    | '\\' :: _ => none
    | c :: rest => do some (← namedSet? [c], rest)
    | [] => none
  let set := flags.foldSet set
  return (.set (if negated then .complement set else set), rest)

def wordLook? (unicode : Bool) : String → Option Look
  | "start" => some (.wordStart unicode)
  | "end" => some (.wordEnd unicode)
  | "start-half" => some (.wordStartHalf unicode)
  | "end-half" => some (.wordEndHalf unicode)
  | _ => none

/-- Reads what follows a `\b`: nothing, or the kind of boundary between braces. Braces that hold no word are left for
a repetition. -/
def boundary? (flags : Flags) (s : List Char) : Option (Atom × List Char) :=
  let isNameChar (c : Char) := c.isAlpha || c = '-'
  match s with
  | '\x7b' :: rest =>
    match flags.skip rest with
    | [] => none
    | c :: rest =>
      if isNameChar c then
        let name := (c :: rest).takeWhile isNameChar
        match (c :: rest).dropWhile isNameChar with
        | '\x7d' :: rest => (wordLook? flags.unicode (String.ofList name)).map fun l ↦ (.look l, rest)
        | _ => none
      else some (.look (.boundary flags.unicode), s)
  | _ => some (.look (.boundary flags.unicode), s)

def escape? (flags : Flags) : List Char → Option (Atom × List Char)
  | [] => none
  | c :: rest =>
    let short (name : Char) (negated : Bool) : Option (Atom × List Char) := do
      let set ← shortSet? flags.unicode name
      if negated ∧ !flags.unicode then none
      some (.set (if negated then .complement set else set), rest)
    match c with
    | 'x' => hexEscape? flags 2 rest
    | 'u' => hexEscape? flags 4 rest
    | 'U' => hexEscape? flags 8 rest
    | 'p' => property? flags false rest
    | 'P' => property? flags true rest
    | 'd' => short 'd' false
    | 's' => short 's' false
    | 'w' => short 'w' false
    | 'D' => short 'd' true
    | 'S' => short 's' true
    | 'W' => short 'w' true
    | 'a' => some (.char '\x07', rest)
    | 'f' => some (.char '\x0c', rest)
    | 't' => some (.char '\t', rest)
    | 'n' => some (.char '\n', rest)
    | 'r' => some (.char '\r', rest)
    | 'v' => some (.char '\x0b', rest)
    | 'A' => some (.look .textStart, rest)
    | 'z' => some (.look .textEnd, rest)
    | 'b' => boundary? flags rest
    | 'B' => some (.look (.noBoundary flags.unicode), rest)
    | '<' => some (.look (.wordStart flags.unicode), rest)
    | '>' => some (.look (.wordEnd flags.unicode), rest)
    | c => if c.isAlphanum ∨ 128 ≤ c.toNat then none else some (.char c, rest)

def posix? (s : List Char) : Option (CharSet × List Char) := do
  let rest ← Text.dropStart? [':'] s
  let negated := rest.head? = some '^'
  let rest := if negated then rest.drop 1 else rest
  let (name, rest) ← Text.cut? ':' rest
  let rest ← Text.dropStart? [']'] rest
  let set ← posixSet? (String.ofList name)
  some (if negated then .complement set else set, rest)

def classItem? (flags : Flags) : List Char → Option (Atom × List Char)
  | [] => none
  | '\\' :: rest => escape? flags rest
  | c :: rest => if !flags.unicode ∧ 128 ≤ c.toNat then none else some (.char c, rest)

/-- Reads an item or a range of characters. A sign in front of a bracket or of another sign makes no range. -/
def classRange? (flags : Flags) (s : List Char) : Option (CharSet × List Char) := do
  let (first, rest) ← classItem? flags s
  let alone : Option CharSet := match first with
    | .char c => some (.single c)
    | .set set => some set
    | .look _ => none
  match flags.skip rest with
  | '-' :: rest' =>
    let next := (flags.skip rest').head?
    if next = some ']' ∨ next = some '-' then return (← alone, '-' :: rest')
    let (last, rest) ← classItem? flags (flags.skip rest')
    match first, last with
    | .char low, .char high => if low ≤ high then some (.range low high, rest) else none
    | _, _ => none
  | [] => none
  | rest => return (← alone, rest)

def classOperator? : List Char → Option ((CharSet → CharSet → CharSet) × List Char)
  | '&' :: '&' :: rest => some (.inter, rest)
  | '-' :: '-' :: rest => some (.diff, rest)
  | '~' :: '~' :: rest => some (.symDiff, rest)
  | _ => none

def leadingSigns (flags : Flags) : Nat → List Char → Bool × List Char
  | 0, s => (false, s)
  | fuel + 1, s =>
    match flags.skip s with
    | '-' :: rest => (true, (leadingSigns flags fuel rest).2)
    | s => (false, s)

mutual

def class? : Nat → Flags → List Char → Option (CharSet × List Char)
  | 0, _, _ => none
  | fuel + 1, flags, s =>
    let s := flags.skip s
    let negated := s.head? = some '^'
    let s := if negated then s.drop 1 else s
    let (sign, s) := leadingSigns flags s.length s
    let start : CharSet := if sign then .single '-' else .none
    let (start, s) := match s with
      | ']' :: rest => if sign then (start, s) else (.single ']', rest)
      | _ => (start, s)
    match classItems? fuel flags none start s with
    | none => none
    | some (set, rest) =>
      let set := flags.foldSet set
      some (if negated then .complement set else set, rest)

/-- Reads the items up to the closing bracket, `items` being those since the last operator and `left` the class in
front of it. -/
def classItems? : Nat → Flags → Option (CharSet → CharSet) → CharSet → List Char → Option (CharSet × List Char)
  | 0, _, _, _, _ => none
  | fuel + 1, flags, left, items, s =>
    let s := flags.skip s
    match s with
    | [] => none
    | ']' :: rest =>
      some ((left.getD id) items, rest)
    | '[' :: rest =>
      match posix? rest with
      | some (set, rest) => classItems? fuel flags left (.union items set) rest
      | none =>
        match class? fuel flags rest with
        | some (set, rest) => classItems? fuel flags left (.union items set) rest
        | none => none
    | _ =>
      match classOperator? s with
      | some (operator, rest) =>
        let set := flags.foldSet ((left.getD id) items)
        classItems? fuel flags (some fun right ↦ operator set (flags.foldSet right)) .none rest
      | none =>
        match classRange? flags s with
        | some (set, rest) => classItems? fuel flags left (.union items set) rest
        | none => none

end

def repetitionBound : Nat := UInt32.size

def count? (flags : Flags) (s : List Char) : Option (Option Nat × List Char) :=
  let s := s.dropWhile Text.isBlank
  let isDigit (c : Char) := c.isDigit || flags.spaced && Text.isBlank c
  let digits := (s.takeWhile isDigit).filter Char.isDigit
  let rest := (s.dropWhile isDigit).dropWhile Text.isBlank
  if digits = [] then some (none, rest)
  else (Decimal.unsigned? repetitionBound digits).map fun n ↦ (some n, rest)

def bounds? (flags : Flags) (s : List Char) : Option (Nat × Option Nat × List Char) := do
  let (least, rest) ← count? flags (flags.skip s)
  let least ← least
  match rest with
  | '\x7d' :: rest => some (least, some least, rest)
  | ',' :: rest =>
    match flags.skip rest with
    | '\x7d' :: rest => some (least, none, rest)
    | rest =>
      let (most, rest) ← count? flags rest
      let most ← most
      match rest with
      | '\x7d' :: rest => if least ≤ most then some (least, some most, rest) else none
      | _ => none
  | _ => none

def skipLazy : List Char → List Char
  | '?' :: rest => rest
  | rest => rest

def isNameStart (c : Char) : Bool := c = '_' || Unicode.isAlphabetic c

def isNameChar (c : Char) : Bool :=
  c = '_' || c = '.' || c = '[' || c = ']' || Unicode.isAlphabetic c ||
    match Unicode.Category.of c with
    | .decimalNumber | .letterNumber | .otherNumber => true
    | _ => false

def groupName? (names : List (List Char)) (s : List Char) : Option (List Char × List Char) := do
  let (name, rest) ← Text.cut? '>' s
  match name with
  | [] => none
  | c :: others =>
    if isNameStart c ∧ others.all isNameChar ∧ !names.contains name then some (name, rest) else none

/-- The items of a branch, last first. A change of flags leaves no expression, and none can be repeated. -/
abbrev Items := List (Option Expr)

def Items.expr (items : Items) : Expr := items.foldl (fun e item ↦ .seq (item.getD .empty) e) .empty

def Items.repeatLast? (least : Nat) (most : Option Nat) : Items → Option Items
  | some e :: others => some (some (.loop e least most) :: others)
  | _ => none

def maxNesting : Nat := 250

inductive GroupStart
  | inner (flags : Flags) (names : List (List Char))
  | setFlags (flags : Flags)

def groupStart? (flags : Flags) (names : List (List Char)) (s : List Char) : Option (GroupStart × List Char) :=
  match flags.skip s with
  | '?' :: '=' :: _ => none
  | '?' :: '!' :: _ => none
  | '?' :: '<' :: '=' :: _ => none
  | '?' :: '<' :: '!' :: _ => none
  | '?' :: 'P' :: '<' :: rest => (groupName? names rest).map fun (name, rest) ↦ (.inner flags (name :: names), rest)
  | '?' :: '<' :: rest => (groupName? names rest).map fun (name, rest) ↦ (.inner flags (name :: names), rest)
  | '?' :: rest =>
    match flags.read? true [] false rest with
    | some (changed, none', ')' :: rest) => if none' then none else some (.setFlags changed, rest)
    | some (changed, _, ':' :: rest) => some (.inner changed names, rest)
    | _ => none
  | rest => some (.inner flags names, rest)

/-- Reads alternatives up to the end of the pattern or an unread closing parenthesis. `branches` are the alternatives
read so far. The first argument bounds the number of steps, the second the depth. -/
def expr? : Nat → Nat → Flags → List (List Char) → Option Expr → Items → List Char →
    Option (Expr × List (List Char) × List Char)
  | 0, _, _, _, _, _, _ => none
  | fuel + 1, depth, flags, names, branches, items, s =>
    let join : Expr := match branches with
      | some e => .alt e items.expr
      | none => items.expr
    let s := flags.skip s
    match s with
    | [] => some (join, names, [])
    | ')' :: _ => some (join, names, s)
    | '|' :: rest => expr? fuel depth flags names (some join) [] rest
    | '*' :: rest => (items.repeatLast? 0 none).bind fun items ↦
        expr? fuel depth flags names branches items (skipLazy rest)
    | '+' :: rest => (items.repeatLast? 1 none).bind fun items ↦
        expr? fuel depth flags names branches items (skipLazy rest)
    | '?' :: rest => (items.repeatLast? 0 (some 1)).bind fun items ↦
        expr? fuel depth flags names branches items (skipLazy rest)
    | '\x7b' :: rest =>
      match bounds? flags rest with
      | some (least, most, rest) => (items.repeatLast? least most).bind fun items ↦
          expr? fuel depth flags names branches items (skipLazy (flags.skip rest))
      | none => none
    | '(' :: rest =>
      match depth, groupStart? flags names rest with
      | depth + 1, some (.inner inner names, rest) =>
        match expr? fuel depth inner names none [] rest with
        | some (e, names, ')' :: rest) => expr? fuel (depth + 1) flags names branches (some e :: items) rest
        | _ => none
      | _, some (.setFlags changed, rest) => expr? fuel depth changed names branches (none :: items) rest
      | _, _ => none
    | '[' :: rest =>
      match class? (rest.length + 1) flags rest with
      | some (set, rest) =>
        if flags.admits set then expr? fuel depth flags names branches (some (.chars set) :: items) rest else none
      | none => none
    | '.' :: rest => flags.dot.bind fun e ↦ expr? fuel depth flags names branches (some e :: items) rest
    | '^' :: rest =>
      let e := if flags.multiLine then .look (.lineStart flags.crlf) else .look .textStart
      expr? fuel depth flags names branches (some e :: items) rest
    | '$' :: rest =>
      let e := if flags.multiLine then .look (.lineEnd flags.crlf) else .look .textEnd
      expr? fuel depth flags names branches (some e :: items) rest
    | '\\' :: rest =>
      match escape? flags rest with
      | some (.char c, rest) => expr? fuel depth flags names branches (some (flags.literal c) :: items) rest
      | some (.set set, rest) => expr? fuel depth flags names branches (some (.chars set) :: items) rest
      | some (.look l, rest) => expr? fuel depth flags names branches (some (.look l) :: items) rest
      | none => none
    | c :: rest => expr? fuel depth flags names branches (some (flags.literal c) :: items) rest

def maxWeight : Nat := 400000

def Expr.read? (pattern : String) : Option Expr :=
  match expr? (pattern.length + 1) maxNesting {} [] none [] pattern.toList with
  | some (e, _, []) => if e.weight ≤ maxWeight then some e else none
  | _ => none

end MetricRelay.Regex
