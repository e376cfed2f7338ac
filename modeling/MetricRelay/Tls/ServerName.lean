import MetricRelay.Text.Cut

namespace MetricRelay.Tls

inductive ServerName
  | dns (name : String)
  | ip
deriving DecidableEq, Repr

namespace ServerName

def maxLabelLength : Nat := 63

def maxNameLength : Nat := 253

def isLabelChar (c : Char) : Bool := c.isAlphanum || c = '_' || c = '-'

def isLabel (label : List Char) : Bool :=
  label ≠ [] && label.length ≤ maxLabelLength && label.all isLabelChar && label.head? ≠ some '-' &&
    label.getLast? ≠ some '-'

/-- Labels separated by dots, one more dot at the end allowed; the last label is not a number. -/
def isDomainName (name : List Char) : Bool :=
  let labels := Text.split '.' name
  let labels := if labels.getLast? = some [] then labels.dropLast else labels
  name.length ≤ maxNameLength && labels ≠ [] && labels.all isLabel &&
    !(labels.getLast?.any fun label ↦ label.all Char.isDigit)

def decimalValue (digits : List Char) : Nat := digits.foldl (fun n c ↦ 10 * n + (c.toNat - 48)) 0

def isOctet (digits : List Char) : Bool :=
  digits ≠ [] && digits.length ≤ 3 && digits.all Char.isDigit && (digits.length = 1 || digits.head? ≠ some '0') &&
    decimalValue digits < 256

def isAddress4 (text : List Char) : Bool :=
  let octets := Text.split '.' text
  octets.length = 4 && octets.all isOctet

def isHexGroup (digits : List Char) : Bool :=
  digits ≠ [] && digits.length ≤ 4 &&
    digits.all fun c ↦ c.isDigit || ('a' ≤ c && c ≤ 'f') || ('A' ≤ c && c ≤ 'F')

/-- How many groups of sixteen bits a part of an address has. The last of them may be an address of the older form, in
place of two groups, if `mixed` allows it. -/
def groupCount? (mixed : Bool) (text : List Char) : Option Nat :=
  if text = [] then some 0
  else
    let groups := Text.split ':' text
    let first := groups.dropLast
    let last := groups.getLast?.getD []
    if !first.all isHexGroup then none
    else if isHexGroup last then some groups.length
    else if mixed && isAddress4 last then some (groups.length + 1)
    else none

def isAddress6 (text : List Char) : Bool :=
  match Text.cutAt? "::".toList text with
  | none => groupCount? true text = some 8
  | some (before, behind) =>
    match groupCount? false before, groupCount? true behind with
    | some n, some m => n + m ≤ 7
    | _, _ => false

def ofText? (text : String) : Option ServerName :=
  let s := text.toList
  if isDomainName s then some (.dns text)
  else if isAddress4 s || isAddress6 s then some .ip
  else none

def refusal (text : String) : String := s!"Invalid TLS server name '{text}': invalid dns name"

end ServerName
end MetricRelay.Tls
