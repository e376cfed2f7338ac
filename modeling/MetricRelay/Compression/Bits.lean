namespace MetricRelay.Compression

/-- Full bytes, and the bits of the next one. -/
structure BitWriter where
  bytes : Array UInt8 := #[]
  pending : Nat := 0
  count : Nat := 0

namespace BitWriter

def settle (w : BitWriter) : Nat → BitWriter
  | 0 => w
  | fuel + 1 =>
    if w.count < 8 then w
    else settle ⟨w.bytes.push (UInt8.ofNat w.pending), w.pending / 256, w.count - 8⟩ fuel

def push (w : BitWriter) (width value : Nat) : BitWriter :=
  settle { w with pending := w.pending + (value % (1 <<< width)) <<< w.count, count := w.count + width }
    (w.count + width)

def mirrored : Nat → Nat → Nat
  | 0, _ => 0
  | width + 1, value => (value % 2) <<< width + mirrored width (value / 2)

/-- Writes the lowest bits of a value, the highest of them first. -/
def pushMirrored (w : BitWriter) (width value : Nat) : BitWriter := w.push width (mirrored width value)

/-- All bytes; the bits of the last one that were not written are zero. -/
def finish (w : BitWriter) : List UInt8 :=
  (if w.count = 0 then w.bytes else w.bytes.push (UInt8.ofNat w.pending)).toList

end BitWriter

structure BitReader where
  bytes : List UInt8
  pending : Nat := 0
  count : Nat := 0

namespace BitReader

def bit? (r : BitReader) : Option (Nat × BitReader) :=
  if 0 < r.count then some (r.pending % 2, { r with pending := r.pending / 2, count := r.count - 1 })
  else match r.bytes with
    | [] => none
    | b :: rest => some (b.toNat % 2, ⟨rest, b.toNat / 2, 7⟩)

def take? (r : BitReader) : Nat → Option (Nat × BitReader)
  | 0 => some (0, r)
  | width + 1 => do
    let (low, r) ← r.bit?
    let (high, r) ← r.take? width
    return (low + 2 * high, r)

def takeMirrored? (r : BitReader) (value : Nat) : Nat → Option (Nat × BitReader)
  | 0 => some (value, r)
  | width + 1 => do
    let (low, r) ← r.bit?
    r.takeMirrored? (2 * value + low) width

end BitReader
end MetricRelay.Compression
