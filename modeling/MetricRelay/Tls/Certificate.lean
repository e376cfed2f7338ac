namespace MetricRelay.Tls

abbrev Bytes := List UInt8

namespace Der

def sizeLimit : Nat := 0xFFFF

def tagInteger : UInt8 := 0x02
def tagBoolean : UInt8 := 0x01
def tagBitString : UInt8 := 0x03
def tagOctetString : UInt8 := 0x04
def tagObjectIdentifier : UInt8 := 0x06
def tagSequence : UInt8 := 0x30
def tagVersion : UInt8 := 0xA0
def tagExtensions : UInt8 := 0xA3

def length? : Bytes → Option (Nat × Bytes)
  | [] => none
  | n :: rest =>
    if n < 0x80 then some (n.toNat, rest)
    else
      let count := n.toNat - 0x80
      if count = 0 ∨ 4 < count ∨ rest.length < count then none
      else
        let value := (rest.take count).foldl (fun value b ↦ 256 * value + b.toNat) 0
        let least := if count = 1 then 0x80 else Nat.pow 256 (count - 1)
        if value < least then none else some (value, rest.drop count)

def element? : Bytes → Option (UInt8 × Bytes × Bytes)
  | [] => none
  | tag :: rest => do
    if tag &&& 0x1F = 0x1F then none
    let (length, rest) ← length? rest
    if sizeLimit ≤ length ∨ rest.length < length then none
    else some (tag, rest.take length, rest.drop length)

def expect? (tag : UInt8) (bytes : Bytes) : Option (Bytes × Bytes) :=
  match element? bytes with
  | some (found, content, rest) => if found = tag then some (content, rest) else none
  | none => none

def boolean? (bytes : Bytes) : Option (Bool × Bytes) :=
  if bytes.head? ≠ some tagBoolean then some (false, bytes)
  else match expect? tagBoolean bytes with
    | some ([0xFF], rest) => some (true, rest)
    | some ([0x00], rest) => some (false, rest)
    | _ => none

def all? (tag : UInt8) : Nat → Bytes → Option (List Bytes)
  | 0, _ => none
  | fuel + 1, bytes => do
    let (content, rest) ← expect? tag bytes
    if rest = [] then some [content] else return content :: (← all? tag fuel rest)

end Der

namespace Certificate

open Der

/-- The standard extensions that count, by the last part of their identifier, and whether their value is a sequence. -/
def knownExtensions : List (UInt8 × Bool) :=
  [(15, false), (17, true), (19, true), (30, true), (31, true), (37, true)]

def standardArc : Bytes := [0x55, 0x1D]

def known? : Bytes → Option (UInt8 × Bool)
  | [a, b, number] => if [a, b] = standardArc then knownExtensions.find? (·.1 = number) else none
  | _ => none

def extension? (met : List UInt8) (content : Bytes) : Option (List UInt8) := do
  let (id, rest) ← expect? tagObjectIdentifier content
  let (critical, rest) ← boolean? rest
  let (value, rest) ← expect? tagOctetString rest
  if rest ≠ [] then none
  match known? id with
  | none => if critical then none else some met
  | some (number, isSequence) =>
    if met.contains number then none
    else if isSequence then
      let (_, rest) ← expect? tagSequence value
      if rest = [] then some (number :: met) else none
    else some (number :: met)

def extensionsValid (bytes : Bytes) : Bool :=
  if bytes = [] then true
  else
    let found : Option (List UInt8) := do
      let (tagged, rest) ← expect? tagExtensions bytes
      if rest ≠ [] then none
      let (list, rest) ← expect? tagSequence tagged
      if rest ≠ [] then none
      if list = [] then some []
      else (← all? tagSequence (list.length + 1) list).foldlM extension? []
    found.isSome

def signed? (bytes : Bytes) : Option (Bytes × Bytes) := do
  let (whole, rest) ← expect? tagSequence bytes
  if rest ≠ [] then none
  let (signed, rest) ← expect? tagSequence whole
  let (algorithm, rest) ← expect? tagSequence rest
  let (signature, rest) ← expect? tagBitString rest
  match signature with
  | 0 :: _ => if rest = [] then some (signed, algorithm) else none
  | _ => none

def names? (bytes : Bytes) : Option Bytes := do
  let (_, rest) ← expect? tagSequence bytes
  let (_, rest) ← expect? tagSequence rest
  let (_, rest) ← expect? tagSequence rest
  let (_, rest) ← expect? tagSequence rest
  return rest

def isVersionThree (bytes : Bytes) : Bool :=
  (expect? tagVersion bytes).any fun (content, _) ↦ content = [0x02, 0x01, 0x02]

def versionThreeValid (signed algorithm : Bytes) : Bool :=
  let rest : Option Bytes := do
    let (_, rest) ← expect? tagVersion signed
    let (_, rest) ← expect? tagInteger rest
    let (inner, rest) ← expect? tagSequence rest
    if inner ≠ algorithm then none
    names? rest
  rest.any extensionsValid

/-- A certificate of version one has neither a version nor extensions. -/
def versionOneValid (signed : Bytes) : Bool :=
  let rest : Option Bytes := do
    let (_, rest) ← expect? tagInteger signed
    let (_, rest) ← expect? tagSequence rest
    names? rest
  rest.any (· = [])

/-- Whether the certificate can be used as a trust anchor. -/
def isTrustAnchor (bytes : Bytes) : Bool :=
  match signed? bytes with
  | none => false
  | some (signed, algorithm) =>
    if isVersionThree signed then versionThreeValid signed algorithm else versionOneValid signed

end Certificate
end MetricRelay.Tls
