import MetricRelay.Http.Uri

namespace MetricRelay.Http

def isMethod (method : String) : Bool :=
  method ≠ "" && method.toList.all fun c ↦
    c.isAlphanum || c = '!' || c = '#' || c = '$' || c = '%' || c = '&' || c = '\'' || c = '*' || c = '+' || c = '-' ||
      c = '.' || c = '^' || c = '_' || c.toNat = 96 || c = '|' || c = '~'

structure Request where
  method : String
  uri : Uri
  headers : List (String × String) := []
  body : List UInt8 := []
deriving DecidableEq, Repr

/-- A body that could not be read to its end is none. -/
structure Response where
  status : Nat
  body : Option (List UInt8) := some []
deriving DecidableEq, Repr

def Response.isOk (r : Response) : Bool := r.status = 200

inductive CertificateFlaw
  | badEncoding
  | expired
  | notValidYet
  | revoked
  | unknownIssuer
  | badSignature
  | notValidForName
  | custom (text : String)
  | unlisted (name : String)
deriving DecidableEq, Repr

inductive TlsFailure
  | certificate (flaw : CertificateFlaw)
  | unexpected (text : String)
deriving DecidableEq, Repr

inductive IoKind
  | connectionRefused
  | connectionReset
  | connectionAborted
  | notConnected
  | brokenPipe
  | hostUnreachable
  | networkUnreachable
  | networkDown
  | addressInUse
  | addressNotAvailable
  | timedOut
  | unexpectedEof
  | interrupted
  | wouldBlock
  | invalidData
  | invalidInput
  | notFound
  | permissionDenied
  | alreadyExists
  | writeZero
  | outOfMemory
  | unsupported
  | other
deriving DecidableEq, Repr

def IoKind.text : IoKind → String
  | connectionRefused => "connection refused"
  | connectionReset => "connection reset"
  | connectionAborted => "connection aborted"
  | notConnected => "not connected"
  | brokenPipe => "broken pipe"
  | hostUnreachable => "host unreachable"
  | networkUnreachable => "network unreachable"
  | networkDown => "network down"
  | addressInUse => "address in use"
  | addressNotAvailable => "address not available"
  | timedOut => "timed out"
  | unexpectedEof => "unexpected end of file"
  | interrupted => "operation interrupted"
  | wouldBlock => "operation would block"
  | invalidData => "invalid data"
  | invalidInput => "invalid input parameter"
  | notFound => "entity not found"
  | permissionDenied => "permission denied"
  | alreadyExists => "entity already exists"
  | writeZero => "write zero"
  | outOfMemory => "out of memory"
  | unsupported => "unsupported"
  | other => "other error"

/-- Why an exchange brought no response. An error of the client or of input and output may hide another one. -/
inductive Failure
  | timeout
  | client (text : String) (cause : Option Failure)
  | tls (failure : TlsFailure)
  | io (failure : Failure)
  | ioKind (kind : IoKind)
  | plain (text : String) (cause : Option Failure)
deriving Repr

abbrev Outcome := Except Failure Response

def isSuccess : Outcome → Bool
  | .ok response => response.isOk
  | .error _ => false

namespace CertificateFlaw

def text : CertificateFlaw → String
  | badEncoding => "certificate incorrectly encoded"
  | expired => "certificate expired (current time is after notAfter time)"
  | notValidYet => "certificate not valid yet (current time is before notBefore time)"
  | revoked => "certificate has been revoked"
  | unknownIssuer => "certificate chain is not issued by a known root certificate"
  | badSignature => "certificate is not signed correctly by the key of its alleged issuer"
  | notValidForName => "certificate is not valid for the broker's name"
  | custom text => "generic error: " ++ text
  | unlisted name => "generic unhandled error: " ++ name

end CertificateFlaw

def TlsFailure.text : TlsFailure → String
  | certificate flaw => "peer certificate is invalid: " ++ flaw.text
  | unexpected text => "unexpected error: " ++ text

namespace Failure

def chain : Failure → List String
  | timeout => ["request timed out"]
  | client text none => [text]
  | client text (some cause) => text :: cause.chain
  | tls failure => [failure.text]
  | io failure => failure.chain
  | ioKind kind => [kind.text]
  | plain text none => [text]
  | plain text (some cause) => text :: cause.chain

/-- What an attempt failed of, for a log: hidden errors come to light, unless they are the cause of a plain one. -/
def description : Failure → String
  | timeout => "Request timed out."
  | client _ (some cause) => cause.description
  | client text none => s!"Request failed due to a client error: {text}."
  | tls failure => s!"Request failed due to a TLS error: {failure.text}."
  | io failure => failure.description
  | ioKind kind => s!"Request failed: {kind.text}."
  | plain text _ => s!"Request failed: {text}."

end Failure

def faultText : Outcome → String
  | .ok response => s!"Broker responded with non-success status code {response.status}."
  | .error failure => failure.description

end MetricRelay.Http
