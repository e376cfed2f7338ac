import MetricRelay.Json.Reader

namespace MetricRelay.Submission

structure Account where
  error : String := ""
  received : UInt64 := 0
  filtered : UInt64 := 0
deriving DecidableEq, Repr, Inhabited

namespace Account

def text? : Json → Option String
  | .string s => some s
  | _ => none

def count? : Json → Option UInt64
  | .number (.unsigned n) => some n
  | _ => none

variable {α : Type}

def member? (members : List (String × Json)) (name : String) (read : Json → Option α) (default : α) : Option α :=
  match members.filter (·.1 = name) with
  | [] => some default
  | [(_, value)] => read value
  | _ => none

def item? (items : List Json) (place : Nat) (read : Json → Option α) (default : α) : Option α :=
  match items[place]? with
  | some value => read value
  | none => some default

/-- An object whose other members do not count, or a list of up to three items. -/
def ofJson? : Json → Option Account
  | .object members => do
    return ⟨← member? members "error" text? "", ← member? members "stats" count? 0,
      ← member? members "filtered" count? 0⟩
  | .array items =>
    if 3 < items.length then none
    else do return ⟨← item? items 0 text? "", ← item? items 1 count? 0, ← item? items 2 count? 0⟩
  | _ => none

def read? (body : List UInt8) : Option Account :=
  if body = [] then some {}
  else do ofJson? (← Json.read? (← String.fromUTF8? body.toByteArray))

end Account
end MetricRelay.Submission
