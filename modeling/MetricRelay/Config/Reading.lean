import MetricRelay.Config.Value
import MetricRelay.Text.Blank

namespace MetricRelay.Config

inductive Mismatch
  | wrongType (path : List String) (expected actual : String)
  | missing (field : String)
  | refused (path : List String) (reason : String)
deriving DecidableEq, Repr

namespace Mismatch

def mapPath (f : List String → List String) : Mismatch → Mismatch
  | wrongType path expected actual => wrongType (f path) expected actual
  | missing field => missing field
  | refused path reason => refused (f path) reason

/-- The mismatch as seen from one level above. -/
def below (segment : String) (m : Mismatch) : Mismatch := m.mapPath (segment :: ·)

end Mismatch

abbrev Reader (α : Type) := Value → Except Mismatch α

namespace Reader

variable {α : Type}

def wrongType (expected : String) (value : Value) : Except Mismatch α := .error (.wrongType [] expected value.describe)

def outOfRange (expected : String) (value : Value) : Except Mismatch α :=
  .error (.refused [] s!"invalid value {value.describe}, expected {expected}")

def text : Reader String
  | .text s => .ok s
  | value => wrongType "a string" value

def bool : Reader Bool
  | .bool b => .ok b
  | value => wrongType "a boolean" value

def unsigned (typeName : String) : Reader UInt64
  | .natural n => if n < UInt64.size then .ok (UInt64.ofNat n) else wrongType typeName (.natural n)
  | .integer n =>
    if n < Int64.minValue.toInt then wrongType typeName (.integer n)
    else if n < 0 then outOfRange typeName (.integer n)
    else .ok (UInt64.ofNat n.toNat)
  | value => wrongType typeName value

def int64 : Reader Int64
  | .natural n =>
    if n ≤ Int64.maxValue.toInt then .ok (Int64.ofNat n)
    else if n < UInt64.size then outOfRange "i64" (.natural n)
    else wrongType "i64" (.natural n)
  | .integer n => if n < Int64.minValue.toInt then wrongType "i64" (.integer n) else .ok (Int64.ofInt n)
  | value => wrongType "i64" value

def float : Reader Binary64
  | .float x => .ok x
  | .natural n => if n < UInt64.size then .ok (.ofNat n) else wrongType "f64" (.natural n)
  | .integer n => if n < Int64.minValue.toInt then wrongType "f64" (.integer n) else .ok (.ofInt n)
  | value => wrongType "f64" value

def items (item : Reader α) (index : Nat) : List Value → Except Mismatch (List α)
  | [] => .ok []
  | value :: rest => do
    let first ← (item value).mapError (.below (toString index))
    return first :: (← items item (index + 1) rest)

def listOf (item : Reader α) : Reader (List α)
  | .list values => items item 0 values
  | value => wrongType "a sequence" value

def optional (read : Reader α) : Reader (Option α)
  | .null => .ok none
  | value => (read value).map some

mutual

/-- Any value that a JSON document can hold. A float that is not finite reads as an absent value. -/
def document : Reader Value
  | .natural n => if n < UInt64.size then .ok (.natural n) else wrongType "any valid JSON value" (.natural n)
  | .integer n => if n < Int64.minValue.toInt then wrongType "any valid JSON value" (.integer n) else .ok (.integer n)
  | .float x => .ok (if x.isFinite then .float x else .null)
  | .list values => (documents 0 values).map .list
  | .table entries => (documentEntries entries).map .table
  | .null => .ok .null
  | .bool b => .ok (.bool b)
  | .text s => .ok (.text s)

def documents (index : Nat) : List Value → Except Mismatch (List Value)
  | [] => .ok []
  | value :: rest => do
    let first ← (document value).mapError (.below (toString index))
    return first :: (← documents (index + 1) rest)

def documentEntries : List (String × Value) → Except Mismatch (List (String × Value))
  | [] => .ok []
  | (key, value) :: rest => do
    let first ← (document value).mapError (.below key)
    return (key, first) :: (← documentEntries rest)

end

/-- One of several named choices: its name, or a table with that name in front and nothing under it. -/
def choice (typeName : String) (choices : List (String × α)) : Reader α
  | .text name => pick name
  | .table entries =>
    match entries.mergeSort (fun a b ↦ a.1 ≤ b.1) with
    | [] => .error (.wrongType [] "enum" "map")
    | (name, value) :: _ => do
      let chosen ← pick name
      match value with
      | .null => .ok chosen
      | value => (wrongType "unit" value).mapError (.below name)
  | value => wrongType ("enum " ++ typeName) value
where
  pick (name : String) : Except Mismatch α :=
    match choices.find? (·.1 = name) with
    | some (_, chosen) => .ok chosen
    | none =>
      let names := " or ".intercalate (choices.map fun c ↦ "`" ++ c.1 ++ "`")
      .error (.refused [] s!"unknown variant: found `{name}`, expected {names}")

def boolOfNumber? (x : Binary64) : Option Bool :=
  if x.numEq (.ofNat 1) then some true
  else if x.numEq .zero then some false
  else none

def boolOfText? (s : String) : Option Bool :=
  match String.ofList ((Text.trim s.toList).map Char.toLower) with
  | "true" | "1" => some true
  | "false" | "0" => some false
  | _ => none

/-- The boolean that a boolean, a number or a text stands for. -/
def lenient? : Value → Option Bool
  | .bool b => some b
  | .natural n => boolOfNumber? (.ofNat n)
  | .integer n => boolOfNumber? (.ofInt n)
  | .float x => boolOfNumber? x
  | .text s => boolOfText? s
  | _ => none

def lenientBool : Reader Bool
  | value =>
    match lenient? value with
    | some b => .ok b
    | none =>
      match value with
      | .null | .list _ | .table _ =>
        .error (.refused [] "data did not match any variant of untagged enum BoolLike")
      | _ => .error (.refused [] "expected a boolean, `true`/`false` as a string, or `1`/`0`")

/-- A text; a blank one reads as nothing. -/
def nonBlank : Reader (Option String)
  | value => (optional text value).map (Option.filter fun s ↦ !(Text.trim s.toList).isEmpty)

def field? (table : Table) (name : String) (read : Reader α) : Except Mismatch (Option α) :=
  match Entries.get? name table with
  | some value => (read value).map some |>.mapError (.below name)
  | none => .ok none

def item? (items : List Value) (index : Nat) (read : Reader α) : Except Mismatch (Option α) :=
  match items[index]? with
  | some value => (read value).map some |>.mapError (.below (toString index))
  | none => .ok none

end Reader

end MetricRelay.Config
