import MetricRelay.Json.Reader
import MetricRelay.Regex.Reader
import MetricRelay.Text.Cut

namespace MetricRelay

inductive FilterAction
  | allow
  | deny
deriving DecidableEq, Repr, Inhabited

namespace FilterAction

def text : FilterAction → String
  | allow => "allow"
  | deny => "deny"

def ofText? (text : String) : Option FilterAction :=
  match String.ofList (text.toList.map Char.toLower) with
  | "allow" => some allow
  | "deny" => some deny
  | _ => none

end FilterAction

/-- A rule. `accepts` is the meaning of its pattern. -/
structure FilterRule where
  action : FilterAction
  pattern : String
  enabled : Bool
  accepts : String → Bool

namespace FilterRule

def ofPattern? (action : FilterAction) (pattern : String) : Option FilterRule :=
  (Regex.Expr.read? pattern).map fun e ↦ ⟨action, pattern, true, fun name ↦ e.matches name.toList⟩

def applies (rule : FilterRule) (name : String) : Bool := rule.enabled && rule.accepts name

end FilterRule

/-- Why a table of rules is refused; rules are counted from zero. -/
inductive FilterError
  | unreadable (path : String)
  | notJson
  | incompleteRule (index : Nat)
  | invalidAction (index : Nat) (action : String)
  | invalidPattern (index : Nat) (pattern : String)
deriving DecidableEq, Repr

def FilterError.message : FilterError → String
  | unreadable path => "failed to read metric filter file '" ++ path ++ "'"
  | notJson => "metric filter rules are not valid JSON"
  | incompleteRule index =>
    "metric filter rule " ++ toString index ++ " must have at least an action and a pattern"
  | invalidAction index action =>
    "metric filter rule " ++ toString index ++ " has invalid action '" ++ action ++
      "' (expected 'allow' or 'deny')"
  | invalidPattern index pattern =>
    "metric filter rule " ++ toString index ++ " has invalid pattern '" ++ pattern ++ "'"

def FilterError.chain (e : FilterError) : List String :=
  e.message :: match e with
    | unreadable _ => ["No such file or directory (os error 2)"]
    | _ => []

/-- What stands in front of the first marker of encoded tags. -/
def beforeTags : List Char → List Char
  | [] => []
  | c :: rest =>
    if "|ST[".toList.isPrefixOf (c :: rest) || "|MT[".toList.isPrefixOf (c :: rest) then []
    else c :: beforeTags rest

def bareName (name : String) : String := String.ofList (beforeTags name.toList)

structure MetricFilter where
  rules : List FilterRule

namespace MetricFilter

def isAllowed (filter : MetricFilter) (name : String) : Bool :=
  match filter.rules.find? (·.applies (bareName name)) with
  | some rule => rule.action = .allow
  | none => false

def disable (filter : MetricFilter) (places : List Nat) : MetricFilter :=
  ⟨filter.rules.mapIdx fun i rule ↦ if places.contains i then { rule with enabled := false } else rule⟩

def tableOfJson? : Json → Option (List (List String))
  | .array rows => rows.mapM fun
    | .array items => items.mapM fun
      | .string s => some s
      | _ => none
    | _ => none
  | _ => none

def ruleOfRow (index : Nat) : List String → Except FilterError FilterRule
  | action :: pattern :: _ =>
    match FilterAction.ofText? action with
    | none => .error (.invalidAction index action)
    | some action =>
      match FilterRule.ofPattern? action pattern with
      | some rule => .ok rule
      | none => .error (.invalidPattern index pattern)
  | _ => .error (.incompleteRule index)

def rulesOfRows : Nat → List (List String) → Except FilterError (List FilterRule)
  | _, [] => .ok []
  | index, row :: rest => do
    let rule ← ruleOfRow index row
    return rule :: (← rulesOfRows (index + 1) rest)

def ofJson (text : String) : Except FilterError MetricFilter :=
  match (Json.read? text).bind tableOfJson? with
  | none => .error .notJson
  | some rows => (rulesOfRows 0 rows).map MetricFilter.mk

end MetricFilter
end MetricRelay
