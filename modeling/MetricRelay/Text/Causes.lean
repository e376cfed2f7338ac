import MetricRelay.Text.Cut

namespace MetricRelay.Text

def indentRest (width : Nat) (text : List Char) : List Char :=
  text.flatMap fun c ↦ if c = '\n' then '\n' :: List.replicate width ' ' else [c]

/-- A number with a colon behind it, in seven places. -/
def causeMark (n : Nat) : List Char :=
  let digits := (toString n).toList
  List.replicate (5 - digits.length) ' ' ++ digits ++ [':', ' ']

def causeLines : List String → List (List Char)
  | [cause] => [List.replicate 4 ' ' ++ indentRest 4 cause.toList]
  | several => several.zipIdx.map fun (cause, n) ↦ causeMark n ++ indentRest 7 cause.toList

/-- The text of an error that is given with its causes, the outermost first. -/
def withCauses : List String → String
  | [] => ""
  | [error] => error
  | error :: causes =>
    error ++ "\n\nCaused by:" ++ String.ofList ((causeLines causes).flatMap fun line ↦ '\n' :: line)

end MetricRelay.Text
