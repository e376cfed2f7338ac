import MetricRelay.Text.Base64
import MetricRelay.Text.Cut

namespace MetricRelay.Tls.Pem

inductive PemError
  | illegalStart
  | missingEnd
  | invalidBase64
deriving DecidableEq, Repr

def certificateLabel : String := "CERTIFICATE"

def knownLabels : List String :=
  [certificateLabel, "PUBLIC KEY", "RSA PRIVATE KEY", "PRIVATE KEY", "EC PRIVATE KEY", "X509 CRL",
    "CERTIFICATE REQUEST", "ECHCONFIG"]

def beginMark : List Char := "-----BEGIN ".toList

def dashes : List Char := "-----".toList

def endMark (label : List Char) : List Char := "-----END ".toList ++ label ++ dashes

def lines (text : List Char) : List (List Char) := Text.lines (text.map fun c ↦ if c = '\r' then '\n' else c)

/-- The label of a line that begins a section: it closes with five dashes, spaces among and behind them aside. -/
def label? (line : List Char) : Option (List Char) :=
  let closing := line.reverse.takeWhile fun c ↦ c = '-' || c = ' '
  if closing.count '-' = 5 then
    let close := (closing.reverse.dropWhile (· = ' ')).length
    some ((line.take (line.length - close)).drop beginMark.length)
  else none

def isSpace (c : Char) : Bool := c = ' ' || c = '\t' || c = '\n' || c = '\r'

/-- The sections of a text by label, decoded. `label` is that of the open section, `body` what has been read of it. -/
def sections (label : Option (List Char)) (body : List Char) :
    List (List Char) → Except PemError (List (String × List UInt8))
  | [] => if label.isSome then .error .missingEnd else .ok []
  | line :: rest =>
    if beginMark.isPrefixOf line then
      match label? line with
      | none => .error .illegalStart
      | some label => sections (some label) body rest
    else match label with
      | none => sections none body rest
      | some current =>
        if (endMark current).isPrefixOf line then
          if knownLabels.contains (String.ofList current) then
            match Text.Base64.decode? (body.filter (!isSpace ·)) with
            | none => .error .invalidBase64
            | some bytes => (sections none [] rest).map ((String.ofList current, bytes) :: ·)
          else sections none [] rest
        else sections (some current) (body ++ line) rest

def certificates (text : String) : Except PemError (List (List UInt8)) :=
  (sections none [] (lines text.toList)).map fun found ↦
    found.filterMap fun (label, bytes) ↦ if label = certificateLabel then some bytes else none

end MetricRelay.Tls.Pem
