import MetricRelay.Json.Value

namespace MetricRelay

inductive MetricType
  | int32
  | uint32
  | int64
  | uint64
  | float64
  | text
  | histogram
  | cumulativeHistogram
deriving DecidableEq, Repr, Inhabited

namespace MetricType

def code : MetricType → String
  | int32 => "i"
  | uint32 => "I"
  | int64 => "l"
  | uint64 => "L"
  | float64 => "n"
  | text => "s"
  | histogram => "h"
  | cumulativeHistogram => "H"

def ofCode? : String → Option MetricType
  | "i" => some int32
  | "I" => some uint32
  | "l" => some int64
  | "L" => some uint64
  | "n" => some float64
  | "s" => some text
  | "h" => some histogram
  | "H" => some cumulativeHistogram
  | _ => none

theorem ofCode?_code (t : MetricType) : ofCode? t.code = some t := by cases t <;> rfl

def carriesTimestamp : MetricType → Bool
  | histogram => false
  | cumulativeHistogram => false
  | _ => true

end MetricType

inductive ValueError
  | unknownType (code : String)
  | notANumber
  | notFinite (value : Binary64)
  | outOfRange (type : MetricType) (value : Binary64)
  | typeMismatch (type : MetricType)
deriving DecidableEq, Repr

def ValueError.message : ValueError → String
  | unknownType code => "unknown metric type code '" ++ code ++ "'"
  | notANumber => "value is NaN"
  | notFinite value => "value " ++ value.plain ++ " is not finite"
  | outOfRange type value => "value " ++ value.plain ++ " is out of range for metric type '" ++ type.code ++ "'"
  | typeMismatch type => "metric type '" ++ type.code ++ "' cannot hold a numeric value"

/-- Entries of both kinds of histogram are texts of the form `H[bound]=count`. -/
inductive MetricValue
  | int32 (n : Int32)
  | uint32 (n : UInt32)
  | int64 (n : Int64)
  | uint64 (n : UInt64)
  | float64 (x : Binary64)
  | text (s : String)
  | histogram (entries : List String)
  | cumulativeHistogram (entries : List String)
deriving DecidableEq, Repr, Inhabited

namespace MetricValue

def type : MetricValue → MetricType
  | int32 _ => .int32
  | uint32 _ => .uint32
  | int64 _ => .int64
  | uint64 _ => .uint64
  | float64 _ => .float64
  | text _ => .text
  | histogram _ => .histogram
  | cumulativeHistogram _ => .cumulativeHistogram

/-- The value of the given type that holds the integer part of a finite number. The 64-bit types take the nearest of
their values where that part lies outside them, except that an unsigned one refuses negative numbers. -/
def ofFloat (type : MetricType) (x : Binary64) : Except ValueError MetricValue :=
  if x.isNaN then .error .notANumber
  else match x.trunc? with
    | none => .error (.notFinite x)
    | some n =>
      match type with
      | .float64 => .ok (.float64 x)
      | .int32 =>
        if Int32.minValue.toInt ≤ n ∧ n ≤ Int32.maxValue.toInt then .ok (.int32 (Int32.ofInt n))
        else .error (.outOfRange type x)
      | .uint32 =>
        if 0 ≤ n ∧ n < UInt32.size then .ok (.uint32 (UInt32.ofNat n.toNat)) else .error (.outOfRange type x)
      | .int64 => .ok (.int64 (Int64.ofInt (max Int64.minValue.toInt (min n Int64.maxValue.toInt))))
      | .uint64 =>
        if 0 ≤ n then .ok (.uint64 (UInt64.ofNat (min n.toNat (UInt64.size - 1))))
        else .error (.outOfRange type x)
      | .text => .error (.typeMismatch type)
      | .histogram => .error (.typeMismatch type)
      | .cumulativeHistogram => .error (.typeMismatch type)

def validate : MetricValue → Except ValueError Unit
  | float64 x => if x.isNaN then .error .notANumber else if x.isInfinite then .error (.notFinite x) else .ok ()
  | _ => .ok ()

def jsonOfInt (n : Int) : Json :=
  .number (if 0 ≤ n then .unsigned (UInt64.ofNat n.toNat) else .negative (Int64.ofInt n))

def json : MetricValue → Json
  | int32 n => jsonOfInt n.toInt
  | uint32 n => jsonOfInt n.toNat
  | int64 n => jsonOfInt n.toInt
  | uint64 n => .number (.unsigned n)
  | float64 x => .number (.float x)
  | text s => .string s
  | histogram entries => .array (entries.map .string)
  | cumulativeHistogram entries => .array (entries.map .string)

end MetricValue

/-- A value at a time, in milliseconds. -/
structure Sample where
  value : MetricValue
  timestamp : Option UInt64
deriving DecidableEq, Repr, Inhabited

namespace Sample

def of (value : MetricValue) (timestamp : Option UInt64) : Sample :=
  ⟨value, if value.type.carriesTimestamp then timestamp else none⟩

def json (s : Sample) : Json :=
  .object ([("_type", .string s.value.type.code), ("_value", s.value.json)] ++
    match s.timestamp with
    | some t => [("_ts", .number (.unsigned t))]
    | none => [])

end Sample
end MetricRelay
