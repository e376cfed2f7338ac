import MetricRelay.Text.Cut

namespace MetricRelay.Unicode

/-- Ranges with both ends included. -/
abbrev Ranges := Array (Nat × Nat)

def hexDigit (c : Char) : Nat :=
  if c.isDigit then c.toNat - 48 else if c.isUpper then c.toNat - 55 else c.toNat - 87

def hexValue (digits : List Char) : Nat := digits.foldl (fun n c ↦ 16 * n + hexDigit c) 0

def words (table : List String) : List (List Char) := table.flatMap fun line ↦ Text.split ' ' line.toList

namespace Ranges

def ofWord (word : List Char) : Nat × Nat :=
  match Text.cut? '-' word with
  | some (low, high) => (hexValue low, hexValue high)
  | none => (hexValue word, hexValue word)

def ofTable (table : List String) : Ranges := ((words table).map ofWord).toArray

def contains (ranges : Ranges) (n : Nat) : Bool := ranges.any fun (low, high) ↦ low ≤ n && n ≤ high

end Ranges
end MetricRelay.Unicode
