import MetricRelay.Compression.Gzip

namespace MetricRelay.Compression

inductive Scheme
  | none
  | gzip
deriving DecidableEq, Repr

namespace Scheme

def contentEncoding : Scheme → Option String
  | none => Option.none
  | gzip => some "gzip"

def encode : Scheme → List UInt8 → List UInt8
  | none => id
  | gzip => Gzip.encode

def decode? : Scheme → List UInt8 → Option (List UInt8)
  | none => some
  | gzip => Gzip.decode?

end Scheme

structure Payload where
  scheme : Scheme
  body : List UInt8
deriving DecidableEq, Repr

namespace Payload

/-- Bytes up to `threshold` of them stay as they are. -/
def encode (scheme : Scheme) (threshold : Nat) (bytes : List UInt8) : Payload :=
  let scheme := if threshold < bytes.length then scheme else .none
  ⟨scheme, scheme.encode bytes⟩

def contentEncoding (p : Payload) : Option String := p.scheme.contentEncoding

end Payload
end MetricRelay.Compression
