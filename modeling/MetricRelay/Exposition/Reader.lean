import MetricRelay.Decimal.Reading
import MetricRelay.Exposition.Family
import MetricRelay.OrderedMap
import MetricRelay.Text.Cut

namespace MetricRelay.Exposition

inductive LineError
  | malformedSample (text : String)
  | malformedMetadata (text : String)
  | unknownType (kind : String)
  | invalidValue (value : String)
  | invalidTimestamp (timestamp : String)
  | invalidBucket (family : String)
  | invalidQuantile (family : String)
  | unexpectedSample (name : String) (kind : MetricKind)
deriving DecidableEq, Repr

/-- The first line that is wrong, counted from one. -/
structure ReadError where
  line : Nat
  cause : LineError
deriving DecidableEq, Repr

def LineError.message : LineError → String
  | malformedSample text => "malformed sample '" ++ text ++ "'"
  | malformedMetadata text => "malformed metadata '" ++ text ++ "'"
  | unknownType kind => "unknown metric type '" ++ kind ++ "'"
  | invalidValue value => "invalid sample value '" ++ value ++ "'"
  | invalidTimestamp timestamp => "invalid timestamp '" ++ timestamp ++ "'"
  | invalidBucket family => "histogram bucket for '" ++ family ++ "' has a missing or invalid 'le' label"
  | invalidQuantile family => "summary sample for '" ++ family ++ "' has a missing or invalid 'quantile' label"
  | unexpectedSample name kind => "unexpected sample '" ++ name ++ "' for " ++ kind.text ++ " family"

def ReadError.message (e : ReadError) : String := "line " ++ toString e.line ++ ": " ++ e.cause.message

/-- What is known about a family while lines are being read. `groups` says at which place of `metrics` the summary or
histogram of some labels stands. -/
structure FamilyState where
  help : Option String := none
  kind : MetricKind := .untyped
  metrics : Array Metric := #[]
  groups : OrderedMap (List Label) Nat := .empty
deriving Inhabited

abbrev Families := OrderedMap String FamilyState

inductive SampleRole
  | scalar
  | quantile
  | bucket
  | sum
  | count
deriving DecidableEq, Repr

def quantileLabel : String := "quantile"

def boundLabel : String := "le"

namespace FamilyState

def emptyData (family : FamilyState) : MetricData :=
  match family.kind with
  | .summary => .summary .zero .zero []
  | _ => .histogram .zero .zero []

def openSeries (family : FamilyState) (labels : List Label) : FamilyState × Nat :=
  match family.groups.get? labels with
  | some place => (family, place)
  | none =>
    let place := family.metrics.size
    ({ family with
        groups := family.groups.insert labels place
        metrics := family.metrics.push ⟨labels, none, family.emptyData⟩ }, place)

/-- Changes the data of the series with the given labels; the latest timestamp given stays. -/
def updateSeries (family : FamilyState) (labels : List Label) (timestamp : Option Int64)
    (change : MetricData → MetricData) : FamilyState :=
  let (family, place) := family.openSeries labels
  { family with
      metrics := family.metrics.modify place fun metric ↦
        { metric with timestamp := timestamp.or metric.timestamp, data := change metric.data } }

def addScalar (family : FamilyState) (labels : List Label) (timestamp : Option Int64) (value : Binary64) :
    FamilyState :=
  { family with metrics := family.metrics.push ⟨labels, timestamp, .scalar value⟩ }

end FamilyState

def takeLabel? (name : String) : List Label → Option (String × List Label)
  | [] => none
  | (n, value) :: rest =>
    if n = name then some (value, rest)
    else (takeLabel? name rest).map fun (found, others) ↦ (found, (n, value) :: others)

def takeNumber? (name : String) (labels : List Label) : Option (Binary64 × List Label) :=
  match takeLabel? name labels with
  | some (text, others) =>
    match Decimal.float? text.toList with
    | some number => if number.isNaN then none else some (number, others)
    | none => none
  | none => none

def sortLabels (labels : List Label) : List Label := labels.mergeSort fun a b ↦ decide (a.1 ≤ b.1)

def childSuffixes : List (String × SampleRole) :=
  [("_bucket", .bucket), ("_sum", .sum), ("_count", .count)]

def stripSuffix? (suffix name : String) : Option String :=
  (Text.dropEnd? suffix.toList name.toList).map String.ofList

/-- A child of this role belongs to families of this kind. -/
def MetricKind.takesChild : MetricKind → SampleRole → Bool
  | .histogram, _ => true
  | .summary, .sum => true
  | .summary, .count => true
  | _, _ => false

namespace Families

def parent? (families : Families) (name : String) (suffix : String × SampleRole) : Option (String × SampleRole) :=
  match stripSuffix? suffix.1 name with
  | some base =>
    match families.get? base with
    | some family => if family.kind.takesChild suffix.2 then some (base, suffix.2) else none
    | none => none
  | none => none

/-- The family a sample name belongs to and the part it plays there. A family of that very name comes first. -/
def resolve (families : Families) (name : String) : Except LineError (String × SampleRole) :=
  match families.get? name with
  | some family =>
    match family.kind with
    | .summary => .ok (name, .quantile)
    | .histogram => .error (.unexpectedSample name .histogram)
    | _ => .ok (name, .scalar)
  | none => .ok ((childSuffixes.findSome? (families.parent? name)).getD (name, .scalar))

def change (families : Families) (name : String) (f : FamilyState → FamilyState) : Families :=
  families.upsert name fun family ↦ f (family.getD {})

def addSample (families : Families) (name : String) (labels : List Label) (timestamp : Option Int64)
    (value : Binary64) : Except LineError Families := do
  let (family, role) ← families.resolve name
  let labels := sortLabels labels
  match role with
  | .scalar => return families.change family (·.addScalar labels timestamp value)
  | .sum => return families.change family (·.updateSeries labels timestamp (·.withSum value))
  | .count => return families.change family (·.updateSeries labels timestamp (·.withCount value))
  | .quantile =>
    match takeNumber? quantileLabel labels with
    | some (quantile, labels) =>
      return families.change family (·.updateSeries labels timestamp (·.addQuantile ⟨quantile, value⟩))
    | none => throw (.invalidQuantile family)
  | .bucket =>
    match takeNumber? boundLabel labels with
    | some (bound, labels) =>
      return families.change family (·.updateSeries labels timestamp (·.addBucket ⟨bound, value⟩))
    | none => throw (.invalidBucket family)

def readSample (families : Families) (text : List Char) : Except LineError Families := do
  let some sample := SampleLine.read? text | throw (.malformedSample (String.ofList text))
  let some value := Decimal.float? sample.value.toList | throw (.invalidValue sample.value)
  let timestamp ← match sample.timestamp with
    | none => pure none
    | some stamp =>
      match Decimal.int64? stamp.toList with
      | some n => pure (some n)
      | none => throw (.invalidTimestamp stamp)
  families.addSample sample.name sample.labels timestamp value

def readComment (families : Families) (text : List Char) : Except LineError Families :=
  match Metadata.read? text with
  | some (.help name help) =>
    let help := String.ofList (unescapeHelp help.toList)
    .ok (families.change name fun family ↦ { family with help := some help })
  | some (.kind name kind) =>
    match MetricKind.ofText? kind with
    | some kind => .ok (families.change name fun family ↦ { family with kind })
    | none => .error (.unknownType kind)
  | none =>
    if looksLikeMetadata text then .error (.malformedMetadata (String.ofList text)) else .ok families

def readLine (families : Families) (line : List Char) : Except LineError Families :=
  match Text.trim line with
  | [] => .ok families
  | '#' :: rest => families.readComment ('#' :: rest)
  | text => families.readSample text

def readLines (families : Families) : Nat → List (List Char) → Except ReadError Families
  | _, [] => .ok families
  | number, line :: others =>
    match families.readLine line with
    | .ok families => families.readLines (number + 1) others
    | .error cause => .error ⟨number, cause⟩

def toList (families : Families) : List Family :=
  families.entries.map fun (name, family) ↦ ⟨name, family.help, family.kind, family.metrics.toList⟩

end Families

def read (text : String) : Except ReadError (List Family) :=
  (Families.readLines .empty 1 (Text.lines text.toList)).map Families.toList

end MetricRelay.Exposition
