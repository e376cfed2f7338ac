import MetricRelay.Json.Value
import MetricRelay.Log.Directive
import MetricRelay.Unicode.Case

namespace MetricRelay.Log

structure Stamp where
  time : String
  file : String
  line : Nat
deriving DecidableEq, Repr

inductive Layout
  | sections
  | json
deriving DecidableEq, Repr, Inhabited

/-- A setting of `true` or `1`, whatever the case and the blanks around it, chooses JSON. -/
def Layout.ofSetting (setting : Option String) : Layout :=
  match setting.map fun s ↦ Unicode.lower (Text.trim s.toList) with
  | some text => if text = "true".toList || text = "1".toList then .json else .sections
  | none => .sections

namespace FieldValue

def shown : FieldValue → String
  | text s => s
  | int n => toString n.toInt
  | uint n => toString n.toNat
  | bool b => if b then "true" else "false"
  | float x => x.log

def json : FieldValue → Json
  | text s => .string s
  | int n => .number (if n < 0 then .negative n else .unsigned n.toUInt64)
  | uint n => .number (.unsigned n)
  | bool b => .bool b
  | float x => if x.isFinite then .number (.float x) else .null

end FieldValue

namespace Event

def application : String := "HARVESTER"

def fieldSection (fields : List Field) : String :=
  if fields = [] then ""
  else " | " ++ ",".intercalate (fields.map fun field ↦ field.name ++ ":" ++ field.value.shown)

def messageSection : Option String → String
  | none => ""
  | some "" => ""
  | some message => " | " ++ message

def sections (stamp : Stamp) (e : Event) : String :=
  stamp.time ++ " | " ++ application ++ " | " ++ e.level.text ++ " | (" ++ stamp.file ++ ":" ++ toString stamp.line ++
    ")" ++ fieldSection e.fields ++ messageSection e.message

def json (stamp : Stamp) (e : Event) : Json :=
  .object ([("timestamp", .string stamp.time), ("level", .string e.level.text)] ++
    (e.message.map fun message ↦ ("message", Json.string message)).toList ++
    (e.fields.map fun field ↦ (field.name, field.value.json)) ++
    [("target", .string e.origin.path), ("filename", .string stamp.file),
      ("line_number", .number (.unsigned (UInt64.ofNat stamp.line)))])

end Event

structure Logging where
  layout : Layout
  directives : Directives
deriving DecidableEq, Repr

namespace Logging

def usualLevel : Threshold := some .info

def ofEnvironment (directives layout : Option String) (default : Option Threshold) : Logging :=
  ⟨Layout.ofSetting layout, Directives.ofText (directives.getD "") (default.getD usualLevel)⟩

/-- What is written for an event, a JSON document or `time | application | level | (file:line) | name:value | message`
with the line break; nothing for one that the directives leave out. -/
def entry? (l : Logging) (stamp : Stamp) (e : Event) : Option String :=
  if l.directives.admits e then
    some ((match l.layout with
      | .sections => e.sections stamp
      | .json => (e.json stamp).text) ++ "\n")
  else none

end Logging
end MetricRelay.Log
