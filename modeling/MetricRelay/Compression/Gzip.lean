import MetricRelay.Compression.Deflate

namespace MetricRelay.Compression.Gzip

/-- The polynomial of the checksum, its highest power left out and the others in opposite order. -/
def polynomial : UInt32 := 0xEDB88320

def checksumBit (sum : UInt32) : UInt32 := if sum % 2 = 1 then (sum >>> 1) ^^^ polynomial else sum >>> 1

def checksumByte (sum : UInt32) (b : UInt8) : UInt32 :=
  (List.range 8).foldl (fun sum _ ↦ checksumBit sum) (sum ^^^ b.toUInt32)

/-- The remainder of the bytes, taken as a polynomial over two elements. -/
def checksum (bytes : List UInt8) : UInt32 := ~~~(bytes.foldl checksumByte 0xFFFFFFFF)

def word (n : UInt32) : List UInt8 := [n.toUInt8, (n >>> 8).toUInt8, (n >>> 16).toUInt8, (n >>> 24).toUInt8]

def header : List UInt8 := [0x1F, 0x8B, 8, 0, 0, 0, 0, 0, 0, 255]

def encode (bytes : List UInt8) : List UInt8 :=
  header ++ Deflate.encode bytes ++ word (checksum bytes) ++ word (UInt32.ofNat bytes.length)

def decode? (bytes : List UInt8) : Option (List UInt8) := do
  if !header.isPrefixOf bytes then none
  let (content, rest) ← Deflate.decode? (bytes.drop header.length)
  if rest = word (checksum content) ++ word (UInt32.ofNat content.length) then some content else none

end MetricRelay.Compression.Gzip
