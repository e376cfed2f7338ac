import Std.Data.HashMap

namespace MetricRelay.Compression

inductive Piece
  | byte (b : UInt8)
  | copy (length distance : Nat)
deriving DecidableEq, Repr

namespace Piece

def minLength : Nat := 3

def maxLength : Nat := 258

def maxDistance : Nat := 32768

def commonLength (data : Array UInt8) (earlier later : Nat) : Nat → Nat
  | 0 => 0
  | limit + 1 =>
    if data[earlier]?.isSome && data[earlier]? = data[later]? then
      commonLength data (earlier + 1) (later + 1) limit + 1
    else 0

def key? : List UInt8 → Option UInt32
  | a :: b :: c :: _ => some (a.toUInt32 * 65536 + b.toUInt32 * 256 + c.toUInt32)
  | _ => none

/-- The cut from a place on. `places` holds where three bytes were met last, `covered` how many bytes belong to a copy
that has been written. -/
def cutFrom (data : Array UInt8) (place covered : Nat) (places : Std.HashMap UInt32 Nat) (written : Array Piece) :
    List UInt8 → Array Piece
  | [] => written
  | b :: rest =>
    let key := key? (b :: rest)
    let earlier := key.bind (places[·]?)
    let places := match key with
      | some key => places.insert key place
      | none => places
    match covered with
    | covered + 1 => cutFrom data (place + 1) covered places written rest
    | 0 =>
      let length := match earlier with
        | some earlier => if place ≤ earlier + maxDistance then commonLength data earlier place maxLength else 0
        | none => 0
      if minLength ≤ length then
        cutFrom data (place + 1) (length - 1) places (written.push (.copy length (place - earlier.getD 0))) rest
      else cutFrom data (place + 1) 0 places (written.push (.byte b)) rest

def cut (bytes : List UInt8) : List Piece := (cutFrom bytes.toArray 0 0 ∅ #[] bytes).toList

def append (distance : Nat) (data : Array UInt8) : Nat → Array UInt8
  | 0 => data
  | length + 1 => append distance (data.push (data[data.size - distance]?.getD 0)) length

end Piece
end MetricRelay.Compression
