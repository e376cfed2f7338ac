import MetricRelay.Compression.Bits
import MetricRelay.Compression.Repeats

namespace MetricRelay.Compression.Deflate

/-- Ranges of lengths or distances: the least value, and how many further bits tell one from another. -/
abbrev RangeTable := List (Nat × Nat)

def lengthRanges : RangeTable := [
  (3, 0), (4, 0), (5, 0), (6, 0), (7, 0), (8, 0), (9, 0), (10, 0), (11, 1), (13, 1), (15, 1), (17, 1), (19, 2), (23, 2),
  (27, 2), (31, 2), (35, 3), (43, 3), (51, 3), (59, 3), (67, 4), (83, 4), (99, 4), (115, 4), (131, 5), (163, 5),
  (195, 5), (227, 5), (258, 0)]

def distanceRanges : RangeTable := [
  (1, 0), (2, 0), (3, 0), (4, 0), (5, 1), (7, 1), (9, 2), (13, 2), (17, 3), (25, 3), (33, 4), (49, 4), (65, 5),
  (97, 5), (129, 6), (193, 6), (257, 7), (385, 7), (513, 8), (769, 8), (1025, 9), (1537, 9), (2049, 10), (3073, 10),
  (4097, 11), (6145, 11), (8193, 12), (12289, 12), (16385, 13), (24577, 13)]

def findRange (ranges : RangeTable) (value : Nat) : Nat × Nat × Nat :=
  let number := (ranges.takeWhile fun range ↦ range.1 ≤ value).length - 1
  let (least, width) := ranges[number]?.getD (0, 0)
  (number, width, value - least)

def endOfBlock : Nat := 256

/-- Symbols: bytes, the end of the block, ranges of lengths. -/
def pushSymbol (w : BitWriter) (symbol : Nat) : BitWriter :=
  if symbol < 144 then w.pushMirrored 8 (0x30 + symbol)
  else if symbol < 256 then w.pushMirrored 9 (0x190 + (symbol - 144))
  else if symbol < 280 then w.pushMirrored 7 (symbol - 256)
  else w.pushMirrored 8 (0xC0 + (symbol - 280))

def pushPiece (w : BitWriter) : Piece → BitWriter
  | .byte b => pushSymbol w b.toNat
  | .copy length distance =>
    let (number, width, rest) := findRange lengthRanges length
    let w := (pushSymbol w (endOfBlock + 1 + number)).push width rest
    let (number, width, rest) := findRange distanceRanges distance
    (w.pushMirrored 5 number).push width rest

def encode (bytes : List UInt8) : List UInt8 :=
  let w := (({} : BitWriter).push 1 1).push 2 1
  (pushSymbol ((Piece.cut bytes).foldl pushPiece w) endOfBlock).finish

def symbol? (r : BitReader) : Option (Nat × BitReader) := do
  let (seven, r) ← r.takeMirrored? 0 7
  if seven < 24 then return (256 + seven, r)
  let (eight, r) ← r.takeMirrored? seven 1
  if eight < 0xC0 then return (eight - 0x30, r)
  if eight < 0xC8 then return (280 + (eight - 0xC0), r)
  let (nine, r) ← r.takeMirrored? eight 1
  return (144 + (nine - 0x190), r)

def value? (ranges : RangeTable) (number : Nat) (r : BitReader) : Option (Nat × BitReader) := do
  let (least, width) ← ranges[number]?
  let (rest, r) ← r.take? width
  return (least + rest, r)

def joinFrom (r : BitReader) (data : Array UInt8) : Nat → Option (Array UInt8 × BitReader)
  | 0 => none
  | fuel + 1 =>
    match symbol? r with
    | none => none
    | some (symbol, r) =>
      if symbol < endOfBlock then joinFrom r (data.push (UInt8.ofNat symbol)) fuel
      else if symbol = endOfBlock then some (data, r)
      else
        let copy := do
          let (length, r) ← value? lengthRanges (symbol - (endOfBlock + 1)) r
          let (number, r) ← r.takeMirrored? 0 5
          let (distance, r) ← value? distanceRanges number r
          if data.size < distance then none else some (length, distance, r)
        match copy with
        | none => none
        | some (length, distance, r) => joinFrom r (Piece.append distance data length) fuel

def decode? (bytes : List UInt8) : Option (List UInt8 × List UInt8) := do
  let (last, r) ← ({ bytes } : BitReader).take? 1
  let (kind, r) ← r.take? 2
  if last ≠ 1 || kind ≠ 1 then none
  let (data, r) ← joinFrom r #[] (8 * bytes.length)
  return (data.toList, r.bytes)

end MetricRelay.Compression.Deflate
