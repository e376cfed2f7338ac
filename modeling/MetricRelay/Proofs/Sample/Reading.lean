import MetricRelay.OrderedMap
import MetricRelay.Sample.Value

namespace MetricRelay

def JsonNumber.toInt? : JsonNumber → Option Int
  | unsigned n => some n.toNat
  | negative n => some n.toInt
  | float _ => none

namespace MetricValue

def intBetween? (least greatest : Int) : Json → Option Int
  | .number n => n.toInt?.filter fun n ↦ least ≤ n ∧ n ≤ greatest
  | _ => none

def text? : Json → Option String
  | .string s => some s
  | _ => none

def texts? : Json → Option (List String)
  | .array items => items.mapM text?
  | _ => none

def ofJson? (type : MetricType) (json : Json) : Option MetricValue :=
  match type with
  | .int32 => (intBetween? Int32.minValue.toInt Int32.maxValue.toInt json).map fun n ↦ .int32 (Int32.ofInt n)
  | .uint32 => (intBetween? 0 (UInt32.size - 1 : Nat) json).map fun n ↦ .uint32 (UInt32.ofNat n.toNat)
  | .int64 => (intBetween? Int64.minValue.toInt Int64.maxValue.toInt json).map fun n ↦ .int64 (Int64.ofInt n)
  | .uint64 => (intBetween? 0 (UInt64.size - 1 : Nat) json).map fun n ↦ .uint64 (UInt64.ofNat n.toNat)
  | .float64 =>
    match json with
    | .number (.float x) => some (.float64 x)
    | _ => none
  | .text => (text? json).map .text
  | .histogram => (texts? json).map .histogram
  | .cumulativeHistogram => (texts? json).map .cumulativeHistogram

theorem intBetween?_jsonOfInt {n least greatest : Int} (hleast : least ≤ n) (hgreatest : n ≤ greatest)
    (hlow : Int64.minValue.toInt ≤ n) (hhigh : n ≤ (UInt64.size - 1 : Nat)) :
    intBetween? least greatest (jsonOfInt n) = some n := by
  have hmin : Int64.minValue.toInt = -9223372036854775808 := by decide
  have hsize : UInt64.size = 18446744073709551616 := rfl
  have hread : (if 0 ≤ n then JsonNumber.unsigned (UInt64.ofNat n.toNat) else .negative (Int64.ofInt n)).toInt? =
      some n := by
    split
    · rw [JsonNumber.toInt?, UInt64.toNat_ofNat', Nat.mod_eq_of_lt (by omega)]
      exact congrArg some (Int.toNat_of_nonneg ‹_›)
    · rw [JsonNumber.toInt?, Int64.toInt_ofInt_of_le (by omega) (by omega)]
  rw [jsonOfInt, intBetween?, hread, Option.filter_some, if_pos (decide_eq_true ⟨hleast, hgreatest⟩)]

theorem texts?_map_string (entries : List String) : texts? (.array (entries.map .string)) = some entries := by
  rw [texts?]
  induction entries with
  | nil => rfl
  | cons entry entries ih => rw [List.map_cons, List.mapM_cons, ih]; rfl

/-- Read by the code of its type, the document of a value stands for that value. -/
theorem ofJson?_json (v : MetricValue) : ofJson? v.type v.json = some v := by
  have hmin : Int64.minValue.toInt = -9223372036854775808 := by decide
  have hsize : UInt64.size = 18446744073709551616 := rfl
  have hmax : Int64.maxValue.toInt = 9223372036854775807 := by decide
  have hmin32 : Int32.minValue.toInt = -2147483648 := by decide
  have hmax32 : Int32.maxValue.toInt = 2147483647 := by decide
  have hsize32 : UInt32.size = 4294967296 := rfl
  cases v with
  | int32 n =>
    have hleast := n.minValue_le_toInt
    have hgreatest := n.toInt_le
    rw [json, type, ofJson?, intBetween?_jsonOfInt hleast hgreatest (by omega) (by omega), Option.map_some,
      Int32.ofInt_toInt]
  | uint32 n =>
    have hsize := n.toNat_lt_size
    rw [json, type, ofJson?, intBetween?_jsonOfInt (by omega) (by omega) (by omega) (by omega), Option.map_some,
      Int.toNat_natCast, UInt32.ofNat_toNat]
  | int64 n =>
    have hleast := n.minValue_le_toInt
    have hgreatest := n.toInt_le
    rw [json, type, ofJson?, intBetween?_jsonOfInt hleast hgreatest hleast (by omega), Option.map_some,
      Int64.ofInt_toInt]
  | uint64 n =>
    have hsize := n.toNat_lt_size
    have hrange : 0 ≤ (n.toNat : Int) ∧ (n.toNat : Int) ≤ (UInt64.size - 1 : Nat) := ⟨by omega, by omega⟩
    rw [json, type, ofJson?, intBetween?, JsonNumber.toInt?, Option.filter_some, if_pos (decide_eq_true hrange),
      Option.map_some, Int.toNat_natCast, UInt64.ofNat_toNat]
  | float64 x => rfl
  | text s => rfl
  | histogram entries => rw [json, type, ofJson?, texts?_map_string]; rfl
  | cumulativeHistogram entries => rw [json, type, ofJson?, texts?_map_string]; rfl

end MetricValue

def Sample.ofJson? : Json → Option Sample
  | .object members => do
    let type ← MetricType.ofCode? (← MetricValue.text? (← Entries.get? "_type" members))
    let value ← MetricValue.ofJson? type (← Entries.get? "_value" members)
    match Entries.get? "_ts" members with
    | none => some ⟨value, none⟩
    | some (.number (.unsigned t)) => some ⟨value, some t⟩
    | some _ => none
  | _ => none

theorem Sample.ofJson?_json (s : Sample) : ofJson? s.json = some s := by
  obtain ⟨value, timestamp⟩ := s
  cases timestamp with
  | none => simp [json, ofJson?, Entries.get?, MetricValue.text?, MetricType.ofCode?_code, MetricValue.ofJson?_json]
  | some t => simp [json, ofJson?, Entries.get?, MetricValue.text?, MetricType.ofCode?_code, MetricValue.ofJson?_json]

end MetricRelay
