import MetricRelay.Config.Inline
import MetricRelay.Config.Reading
import MetricRelay.Text.Cut
import MetricRelay.Text.Quoted
import MetricRelay.Unicode.Upper
import MetricRelay.Yaml.Reader

namespace MetricRelay.Config

inductive ConfigError
  | emptyPrefix
  | missingField (field : String) (names : List String)
  | wrongType (path : List String) (expected actual : String)
  | refused (path : List String) (reason : String)
  | unreadable
deriving DecidableEq, Repr

def ConfigError.message : ConfigError → String
  | emptyPrefix => "Environment variable prefix must not be empty."
  | missingField field names =>
    s!"Missing field '{field}' in configuration. Try setting `" ++ "` or `".intercalate (field :: names) ++ "`."
  | wrongType path expected actual =>
    "Expected value for field '" ++ ".".intercalate path ++
      s!"' to be '{expected}', got '{actual}' instead."
  | refused _ _ => "Failed to query configuration."
  | unreadable => "Failed to query configuration."

def ConfigError.chain (e : ConfigError) (place : String) : List String :=
  e.message :: match e with
    | refused [] reason => [s!"{reason} in {place}"]
    | refused path reason =>
      [reason ++ " for key " ++ Text.quote (".".intercalate ("default" :: path)) ++ s!" in {place}"]
    | _ => []

inductive Format
  | yaml
  | json
deriving DecidableEq, Repr

def Format.read? : Format → String → Option Table
  | yaml, text => Yaml.readTable? text
  | json, text =>
    match (Json.read? text).map Value.ofJson with
    | some (.table entries) => some entries
    | _ => none

/-- Where settings come from. A file that cannot be read, or whose text is not a table, is an error if it is required
and adds nothing otherwise; `none` stands for the text of a missing file. -/
inductive Source
  | file (format : Format) (required : Bool) (text : Option String)
  | environment (start : String) (bindings : List (String × String))
deriving DecidableEq, Repr

def variableStart (start : String) : List Char :=
  let upper := Unicode.upper start.toList
  if start.toList.getLast? = some '_' then upper else upper ++ ['_']

def segments (key : String) : List String := (Text.split '.' key.toList).map String.ofList

/-- The segments of the setting a variable sets: what follows the common beginning, whose case does not count, in lower
case and cut at dots. Variables with an empty segment set nothing. -/
def variableSegments? (start name : List Char) : Option (List String) :=
  if start.length ≤ name.length ∧ (name.take start.length).map Char.toLower = start.map Char.toLower then
    let pieces := (Text.split '.' (Text.trim (name.drop start.length))).map fun piece ↦
      String.ofList (piece.map Char.toLower)
    if pieces.contains "" then none else some pieces
  else none

def environmentTable (start : List Char) (bindings : List (String × String)) : Table :=
  bindings.foldl (fun table (name, text) ↦
    match variableSegments? start name.toList with
    | some segments => Value.overlayEntries .replace table (Value.nested segments (Inline.read text)).entries
    | none => table) []

/-- The settings of all sources, and the beginnings of environment variables that were looked for. -/
structure Configuration where
  root : Table := []
  starts : List String := []
deriving Repr, Inhabited

namespace Configuration

def overlay (c : Configuration) (table : Table) : Configuration :=
  { c with root := Value.overlayEntries .append c.root table }

def add (c : Configuration) : Source → Except ConfigError Configuration
  | .file format required text =>
    match text.bind format.read? with
    | some table => .ok (c.overlay table)
    | none => if required then .error .unreadable else .ok c
  | .environment start bindings =>
    if start = "" then .error .emptyPrefix
    else
      let begins := variableStart start
      let c := c.overlay (environmentTable begins bindings)
      .ok { c with starts := c.starts.insert (String.ofList begins) }

def ofSources (sources : List Source) : Except ConfigError Configuration :=
  sources.foldlM add {}

def variableName (start field : String) : String :=
  start ++ String.ofList (Unicode.upper (field.toList.map fun c ↦ if c = '.' then '_' else c))

def explain (c : Configuration) : Mismatch → ConfigError
  | .wrongType path expected actual => .wrongType path expected actual
  | .missing field => .missingField field (c.starts.map fun start ↦ variableName start field)
  | .refused path reason => .refused path reason

variable {α : Type}

/-- Reads the value under a key. The path of a mismatch inside the value stands in front of the key. -/
def readAt (c : Configuration) (read : Reader α) (key : String) : Except Mismatch α :=
  match Value.find? (segments key) (.table c.root) with
  | none => .error (.missing key)
  | some value => (read value).mapError fun m ↦ m.mapPath (· ++ (segments key).filter (· ≠ ""))

/-- The form of a key without nesting. -/
def flatKey (key : String) : String := String.ofList (key.toList.map fun c ↦ if c = '.' then '_' else c)

def get (c : Configuration) (read : Reader α) (key : String) : Except ConfigError α :=
  (match c.readAt read key with
    | .error (.missing _) => c.readAt read (flatKey key)
    | result => result).mapError c.explain

def getD (c : Configuration) (read : Reader α) (key : String) (default : α) : α :=
  match c.get read key with
  | .ok a => a
  | .error _ => default

def get? (c : Configuration) (read : Reader α) (key : String) : Except ConfigError (Option α) :=
  match c.get read key with
  | .ok a => .ok (some a)
  | .error (.missingField _ _) => .ok none
  | .error e => .error e

def whole (c : Configuration) (read : Reader α) : Except ConfigError α :=
  (read (.table c.root)).mapError c.explain

end Configuration
end MetricRelay.Config
