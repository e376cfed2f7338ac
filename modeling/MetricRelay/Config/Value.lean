import MetricRelay.Json.Value
import MetricRelay.OrderedMap
import MetricRelay.Text.Quoted

namespace MetricRelay.Config

/-- A setting or a tree of settings. An integer is `natural` where its text has no minus sign. -/
inductive Value
  | null
  | bool (b : Bool)
  | natural (n : Nat)
  | integer (n : Int)
  | float (x : Binary64)
  | text (s : String)
  | list (items : List Value)
  | table (entries : List (String × Value))
deriving Repr, Inhabited

inductive ListRule
  | append
  | replace
deriving DecidableEq, Repr

def ListRule.join : ListRule → List Value → List Value → List Value
  | append, earlier, later => earlier ++ later
  | replace, _, later => later

abbrev Table := List (String × Value)

namespace Value

def entries : Value → Table
  | table entries => entries
  | _ => []

mutual

/-- Lays the second value over the first. -/
def overlay (rule : ListRule) (earlier : Value) : Value → Value
  | table later =>
    match earlier with
    | table entries => table (overlayEntries rule entries later)
    | _ => table later
  | list later =>
    match earlier with
    | list items => list (rule.join items later)
    | _ => list later
  | later => later

def overlayEntries (rule : ListRule) (earlier : Table) : Table → Table
  | [] => earlier
  | (key, value) :: rest =>
    overlayEntries rule
      (Entries.upsert key (fun present ↦ match present with
        | some present => overlay rule present value
        | none => value) earlier)
      rest

end

/-- The value that the segments of a key lead to. An empty segment ends the search. -/
def find? : List String → Value → Option Value
  | [], value => some value
  | segment :: rest, value =>
    if segment = "" then some value
    else match value with
      | table entries => (Entries.get? segment entries).bind (find? rest)
      | _ => none

def nested (segments : List String) (value : Value) : Value :=
  segments.foldr (fun segment inner ↦ table [(segment, inner)]) value

def describe : Value → String
  | null => "unit"
  | bool b => s!"bool {b}"
  | natural n => if n < UInt64.size then s!"unsigned int `{n}`" else s!"integer `{n}` as u128"
  | integer n => if Int64.minValue.toInt ≤ n then s!"signed int `{n}`" else s!"integer `{n}` as i128"
  | float x => s!"float `{x.plain}`"
  | text s => "string " ++ Text.quote s
  | list _ => "sequence"
  | table _ => "map"

mutual

def ofJson : Json → Value
  | .null => null
  | .bool b => bool b
  | .number (.unsigned n) => natural n.toNat
  | .number (.negative n) => integer n.toInt
  | .number (.float x) => float x
  | .string s => text s
  | .array items => list (ofJsonItems items)
  | .object members => table (ofJsonMembers [] members)

def ofJsonItems : List Json → List Value
  | [] => []
  | item :: rest => ofJson item :: ofJsonItems rest

def ofJsonMembers (entries : Table) : List (String × Json) → Table
  | [] => entries
  | (name, value) :: rest => ofJsonMembers (Entries.upsert name (fun _ ↦ ofJson value) entries) rest

end

end Value
end MetricRelay.Config
