import MetricRelay.Log.Event
import MetricRelay.Text.Blank
import MetricRelay.Text.Cut
import MetricRelay.Unicode.Category

namespace MetricRelay.Log

/-- The least severe level that passes; none lets nothing pass. -/
abbrev Threshold := Option Level

namespace Threshold

def passes (threshold : Threshold) (level : Level) : Bool := threshold.any (·.covers level)

def digits? (text : List Char) : Option Nat :=
  if text = [] || !text.all Char.isDigit then none
  else some (text.foldl (fun n c ↦ 10 * n + (c.toNat - 48)) 0)

def numbered : List (String × Threshold) :=
  [("off", none), ("error", some .error), ("warn", some .warn), ("info", some .info), ("debug", some .debug),
    ("trace", some .trace)]

def ofText? (text : String) : Option Threshold :=
  let number := match text.toList with
    | '+' :: digits => digits? digits
    | digits => digits? digits
  match number.bind (numbered[·]?) with
  | some (_, threshold) => some threshold
  | none => (numbered.find? fun entry ↦ entry.1 = text.map Char.toLower).map Prod.snd

end Threshold

inductive DirectiveError
  | invalid
  | invalidLevel
deriving DecidableEq, Repr

def DirectiveError.message : DirectiveError → String
  | invalid => "invalid filter directive"
  | invalidLevel => "error parsing level filter: expected one of \"off\", \"error\", \"warn\", \"info\", \"debug\", " ++
      "\"trace\", or a number 0-5"

structure FieldPattern where
  name : String
  value : Option String
deriving DecidableEq, Repr

structure Directive where
  threshold : Threshold := some .trace
  target : Option String := none
  span : Option String := none
  fields : List FieldPattern := []
deriving DecidableEq, Repr

namespace Directive

inductive Part
  | start
  | name (began : Nat)
  | span (began : Nat)
  | field (began : Nat)
  | fields
  | target
  | level (began : Nat)

def isNameStart (c : Char) : Bool := c = '-' || c = ':' || c = '_' || Unicode.isAlphanumeric c

def FieldPattern.ofText (text : List Char) : FieldPattern :=
  match Text.split '=' text with
  | name :: value :: _ => ⟨String.ofList name, some (String.ofList value)⟩
  | name => ⟨String.ofList name.flatten, none⟩

def addField (d : Directive) (text : String) : Except DirectiveError Directive :=
  if text = "" then .error .invalid else .ok { d with fields := d.fields ++ [FieldPattern.ofText text.toList] }

def readLevel (d : Directive) (text : String) : Except DirectiveError Directive :=
  if text = "" then .ok { d with threshold := some .trace }
  else match Threshold.ofText? text with
    | some threshold => .ok { d with threshold }
    | none => .error .invalidLevel

def readName (d : Directive) (text : String) : Directive :=
  match Threshold.ofText? text with
  | some threshold => { d with threshold }
  | none => { d with target := some text }

def step (cut : Nat → Nat → Except DirectiveError String) (read : Part × Directive) (found : Nat × Char) :
    Except DirectiveError (Part × Directive) :=
  let (place, c) := found
  let (part, d) := read
  match part with
  | .start =>
    if c = '[' then .ok (.span (place + 1), d)
    else if isNameStart c then .ok (.name place, d)
    else .error .invalid
  | .name began =>
    if c = '=' then do return (.level (place + 1), { d with target := some (← cut began place) })
    else if c = '[' then do return (.span (place + 1), { d with target := some (← cut began place) })
    else .ok (.name began, d)
  | .span began =>
    if c = ']' then do return (.target, { d with span := some (← cut began place) })
    else if c = '\x7b' then do
      let name ← cut began place
      return (.field (place + 1), { d with span := if name = "" then none else some name })
    else .ok (.span began, d)
  | .field began =>
    if c = '\x7d' then do return (.fields, ← d.addField (← cut began place))
    else .ok (.field began, d)
  | .fields => if c = ']' then .ok (.target, d) else .error .invalid
  | .target => if c = '=' then .ok (.level (place + 1), d) else .error .invalid
  | .level began => .ok (.level began, d)

def places : Nat → List Char → List (Nat × Char)
  | _, [] => []
  | n, c :: rest => (n, c) :: places (n + c.utf8Size) rest

def cutBytes (bytes : ByteArray) (first last : Nat) : Except DirectiveError String :=
  match String.fromUTF8? (bytes.extract first last) with
  | some text => .ok text
  | none => .error .invalid

/-- Reads a directive. Places are found in the text without the blanks around it, but what lies between them is cut out
of the text with those blanks. -/
def read (text : String) : Except DirectiveError Directive := do
  let bytes := text.toUTF8
  let (part, d) ← (places 0 (Text.trim text.toList)).foldlM (step (cutBytes bytes)) (.start, {})
  match part with
  | .name began => return d.readName (← cutBytes bytes began bytes.size)
  | .level began => d.readLevel (← cutBytes bytes began bytes.size)
  | .target => return d
  | _ => .error .invalid

end Directive

structure Rule where
  threshold : Threshold
  target : Option String := none
  fields : List String := []
deriving DecidableEq, Repr

namespace Rule

/-- The rule of a directive that asks for no span and for no value. -/
def ofDirective? (d : Directive) : Option Rule :=
  if d.span.isSome || d.fields.any (·.value.isSome) then none
  else some ⟨d.threshold, d.target, d.fields.map FieldPattern.name⟩

def applies (r : Rule) (e : Event) : Bool :=
  let names := e.fields.map Field.name ++ (e.message.map fun _ ↦ "message").toList
  r.target.all (fun t ↦ t.toList.isPrefixOf e.origin.path.toList) && r.fields.all names.contains

def targetSize (r : Rule) : Nat := (r.target.map fun t ↦ t.utf8ByteSize + 1).getD 0

/-- How specific rules are: by the length of the target, the number of fields, and then by text. -/
def order (a b : Rule) : Ordering :=
  (((compare a.targetSize b.targetSize).then (compare a.fields.length b.fields.length)).then
    (compare (a.target.getD "") (b.target.getD ""))).then (compareOfLessAndEq a.fields b.fields)

end Rule

structure Directives where
  rules : List Rule
deriving DecidableEq, Repr

namespace Directives

def insert (rule : Rule) : List Rule → List Rule
  | [] => [rule]
  | r :: rest =>
    match rule.order r with
    | .eq => rule :: rest
    | .gt => rule :: r :: rest
    | .lt => r :: insert rule rest

def pieces (text : String) : List (String × Except DirectiveError Directive) :=
  ((Text.split ',' text.toList).filter (· ≠ [])).map fun piece ↦
    (String.ofList piece, Directive.read (String.ofList piece))

def ofText (text : String) (default : Threshold) : Directives :=
  let found := (pieces text).filterMap fun piece ↦ piece.2.toOption
  let rules := (found.filterMap Rule.ofDirective?).foldl (fun rules rule ↦ insert rule rules) []
  ⟨if found = [] then [⟨default, none, []⟩] else rules⟩

def complaints (text : String) : List String :=
  (pieces text).filterMap fun (piece, read) ↦ match read with
    | .ok _ => none
    | .error e => some ("ignoring `" ++ piece ++ "`: " ++ e.message)

def admits (d : Directives) (e : Event) : Bool :=
  match d.rules.find? (·.applies e) with
  | some rule => rule.threshold.passes e.level
  | none => false

end Directives
end MetricRelay.Log
