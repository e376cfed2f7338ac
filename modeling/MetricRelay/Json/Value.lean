import MetricRelay.Decimal.Layout

namespace MetricRelay

/-- A number keeps the form it was read in; negative integers are those below zero. -/
inductive JsonNumber
  | unsigned (n : UInt64)
  | negative (n : Int64)
  | float (x : Binary64)
deriving DecidableEq, Repr, Inhabited

/-- A document. Members stand in the order of the text, repeated names included. -/
inductive Json
  | null
  | bool (b : Bool)
  | number (n : JsonNumber)
  | string (s : String)
  | array (items : List Json)
  | object (members : List (String × Json))
deriving Repr, Inhabited

namespace Json

def hexDigit (n : Nat) : Char := if n < 10 then Char.ofNat (48 + n) else Char.ofNat (87 + n)

def escapeChar (c : Char) : List Char :=
  if c = '"' then ['\\', '"']
  else if c = '\\' then ['\\', '\\']
  else if c = '\x08' then ['\\', 'b']
  else if c = '\t' then ['\\', 't']
  else if c = '\n' then ['\\', 'n']
  else if c = '\x0c' then ['\\', 'f']
  else if c = '\r' then ['\\', 'r']
  else if c.toNat < 32 then ['\\', 'u', '0', '0', hexDigit (c.toNat / 16), hexDigit (c.toNat % 16)]
  else [c]

def quote (s : String) : List Char := '"' :: (s.toList.flatMap escapeChar ++ ['"'])

def numberText : JsonNumber → List Char
  | .unsigned n => (toString n.toNat).toList
  | .negative n => (toString n.toInt).toList
  | .float x => (x.json?.getD "null").toList

mutual

/-- Compact text; a float that is not finite is written as `null`. -/
def render : Json → List Char
  | null => ['n', 'u', 'l', 'l']
  | bool true => ['t', 'r', 'u', 'e']
  | bool false => ['f', 'a', 'l', 's', 'e']
  | number n => numberText n
  | string s => quote s
  | array items => '[' :: renderItems items
  | object members => '\x7b' :: renderMembers members

def renderItems : List Json → List Char
  | [] => [']']
  | [item] => render item ++ [']']
  | item :: rest => render item ++ ',' :: renderItems rest

def renderMembers : List (String × Json) → List Char
  | [] => ['\x7d']
  | [(name, value)] => quote name ++ ':' :: (render value ++ ['\x7d'])
  | (name, value) :: rest => quote name ++ ':' :: (render value ++ ',' :: renderMembers rest)

end

def text (j : Json) : String := String.ofList j.render

end Json
end MetricRelay
