namespace MetricRelay

structure Invocation where
  config : String := "/etc/kube-harvester/config.yaml"
  once : Bool := false
deriving DecidableEq, Repr

namespace CommandLine

inductive Refusal
  | help
  | version
  | unknownArgument
  | conflict
  | invalidValue
  | tooManyValues
deriving DecidableEq, Repr

/-- What has been read. `pending` is the option that waits to be settled, with its value if that has come. -/
structure Progress where
  config : Option String := none
  once : Bool := false
  pending : Option (Option String) := none

namespace Progress

def setConfig (p : Progress) (value : String) : Except Refusal Progress :=
  if p.config.isSome then .error .conflict
  else if value = "" then .error .invalidValue
  else .ok { p with config := some value }

def settle (p : Progress) : Except Refusal Progress :=
  match p.pending with
  | none => .ok p
  | some none => .error .invalidValue
  | some (some value) => { p with pending := none }.setConfig value

def setOnce (p : Progress) : Except Refusal Progress := do
  let p ← p.settle
  if p.once then .error .conflict else .ok { p with once := true }

def ask (p : Progress) (what : Refusal) : Except Refusal Progress := do
  let _ ← p.settle
  .error what

def option (p : Progress) (attached : Option String) : Except Refusal Progress := do
  let p ← p.settle
  match attached with
  | some value => p.setConfig value
  | none => .ok { p with pending := some none }

end Progress

def longOption (p : Progress) (name : String) (attached : Option String) : Except Refusal Progress :=
  match name, attached with
  | "config", value => p.option value
  | "once", none => p.setOnce
  | "help", none => p.ask .help
  | "version", none => p.ask .version
  | "once", some _ => .error .tooManyValues
  | "help", some _ => .error .tooManyValues
  | "version", some _ => .error .tooManyValues
  | _, _ => .error .unknownArgument

def shortOption (p : Progress) : List Char → Except Refusal Progress
  | 'c' :: [] => p.option none
  | 'c' :: '=' :: value => p.option (some (String.ofList value))
  | 'c' :: value => p.option (some (String.ofList value))
  | 'h' :: _ => p.ask .help
  | 'V' :: _ => p.ask .version
  | _ => .error .unknownArgument

def argument (p : Progress) (arg : String) : Except Refusal Progress :=
  match arg.toList with
  | '-' :: '-' :: rest =>
    let name := rest.takeWhile (· ≠ '=')
    let attached := if name.length < rest.length then some (String.ofList (rest.drop (name.length + 1))) else none
    longOption p (String.ofList name) attached
  | '-' :: c :: rest => shortOption p (c :: rest)
  | _ => if p.pending = some none then .ok { p with pending := some (some arg) } else .error .unknownArgument

/-- Reads all arguments. Two dashes alone end the options, and nothing may follow them. -/
def read (p : Progress) : List String → Except Refusal Progress
  | [] => p.settle
  | ["--"] => p.settle
  | "--" :: _ => .error .unknownArgument
  | arg :: rest => do read (← argument p arg) rest

end CommandLine

def Invocation.ofArguments (args : List String) : Except CommandLine.Refusal Invocation :=
  (CommandLine.read {} args).map fun p ↦
    let defaults : Invocation := {}
    ⟨p.config.getD defaults.config, p.once⟩

end MetricRelay
