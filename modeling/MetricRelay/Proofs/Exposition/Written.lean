import Mathlib.Data.List.Forall2
import MetricRelay.Exposition.Reader
import MetricRelay.Proofs.Text.Scanning

namespace MetricRelay.Exposition

open Text (isBlank)

def IsName (start more : Char → Bool) : List Char → Prop
  | [] => False
  | c :: rest => start c ∧ ∀ d ∈ rest, more d

def IsMetricName (name : String) : Prop := IsName isMetricNameStart isMetricNameChar name.toList

def IsLabelName (name : String) : Prop := IsName isLabelNameStart isLabelNameChar name.toList

instance (start more : Char → Bool) : (s : List Char) → Decidable (IsName start more s)
  | [] => .isFalse id
  | c :: rest =>
    decidable_of_iff (start c = true ∧ rest.all more = true) (and_congr_right fun _ ↦ List.all_eq_true)

instance (name : String) : Decidable (IsMetricName name) :=
  inferInstanceAs (Decidable (IsName isMetricNameStart isMetricNameChar name.toList))

instance (name : String) : Decidable (IsLabelName name) :=
  inferInstanceAs (Decidable (IsName isLabelNameStart isLabelNameChar name.toList))

def escapeLabel (c : Char) : List Char :=
  if c = '\\' then ['\\', '\\']
  else if c = '"' then ['\\', '"']
  else if c = '\n' then ['\\', 'n']
  else [c]

def escapeHelp (c : Char) : List Char :=
  if c = '\\' then ['\\', '\\'] else if c = '\n' then ['\\', 'n'] else [c]

def writeLabel (label : Label) : List Char :=
  label.1.toList ++ '=' :: '"' :: (label.2.toList.flatMap escapeLabel ++ ['"'])

def writeLabels : List Label → List Char
  | [] => []
  | label :: rest => '{' :: (writeLabel label ++ rest.flatMap (fun l ↦ ',' :: writeLabel l) ++ ['}'])

def writeTimestamp : Option Int64 → List Char
  | none => []
  | some t => ' ' :: (toString t).toList

def writeSample (name : String) (labels : List Label) (numeral : String) (timestamp : Option Int64) : List Char :=
  name.toList ++ writeLabels labels ++ ' ' :: (numeral.toList ++ writeTimestamp timestamp)

def writeComment (word name : String) (tail : List Char) : List Char :=
  '#' :: ' ' :: (word.toList ++ ' ' :: (name.toList ++ tail))

def writeHelp (name help : String) : List Char :=
  writeComment "HELP" name (if help = "" then [] else ' ' :: help.toList.flatMap escapeHelp)

def writeKind (name : String) (kind : MetricKind) : List Char := writeComment "TYPE" name (' ' :: kind.text.toList)

/-- The numeral reads as `x`. -/
def Spells (numeral : String) (x : Binary64) : Prop := Decimal.float? numeral.toList = some x

def IsSample (name : String) (labels : List Label) (value : Binary64) (timestamp : Option Int64)
    (line : List Char) : Prop :=
  ∃ numeral written, Spells numeral value ∧ written.Perm labels ∧ line = writeSample name written numeral timestamp

/-- The line is a sample that carries a number in a label of its own, beside the labels of its series. -/
def IsChild (name : String) (labels : List Label) (timestamp : Option Int64) (label : String)
    (position value : Binary64) (line : List Char) : Prop :=
  ∃ numeral, Spells numeral position ∧ IsSample name ((label, numeral) :: labels) value timestamp line

inductive IsSeries (name : String) (labels : List Label) (timestamp : Option Int64) :
    MetricData → List (List Char) → Prop
  | scalar {value : Binary64} {line : List Char} :
    IsSample name labels value timestamp line → IsSeries name labels timestamp (.scalar value) [line]
  | summary {count sum : Binary64} {quantiles : List Quantile} {lines : List (List Char)} {sumLine countLine : List Char} :
    List.Forall₂ (fun q ↦ IsChild name labels timestamp quantileLabel q.quantile q.value) quantiles lines →
    IsSample (name ++ "_sum") labels sum timestamp sumLine →
    IsSample (name ++ "_count") labels count timestamp countLine →
    IsSeries name labels timestamp (.summary count sum quantiles) (lines ++ [sumLine, countLine])
  | histogram {count sum : Binary64} {buckets : List Bucket} {lines : List (List Char)} {sumLine countLine : List Char} :
    List.Forall₂ (fun b ↦ IsChild (name ++ "_bucket") labels timestamp boundLabel b.upperBound b.cumulativeCount)
      buckets lines →
    IsSample (name ++ "_sum") labels sum timestamp sumLine →
    IsSample (name ++ "_count") labels count timestamp countLine →
    IsSeries name labels timestamp (.histogram count sum buckets) (lines ++ [sumLine, countLine])

def headLines (f : Family) : List (List Char) := (f.help.map (writeHelp f.name)).toList ++ [writeKind f.name f.kind]

def IsFamily (f : Family) (lines : List (List Char)) : Prop :=
  ∃ parts, List.Forall₂ (fun m ↦ IsSeries f.name m.labels m.timestamp m.data) f.metrics parts ∧
    lines = headLines f ++ parts.flatten

def IsExposition (families : List Family) (lines : List (List Char)) : Prop :=
  ∃ parts, List.Forall₂ IsFamily families parts ∧ lines = parts.flatten

/-- The first word of a comment, whatever number of hash signs it starts with. -/
def firstWord (comment : List Char) : List Char :=
  ((comment.dropWhile (· = '#')).dropWhile isBlank).takeWhile fun c ↦ !isBlank c

def IsPadding (s : List Char) : Prop := ∀ c ∈ s, isBlank c ∧ c ≠ '\n'

/-- A line that says nothing: white space alone, or a comment that describes no family. -/
inductive IsFiller : List Char → Prop
  | blank {line : List Char} : IsPadding line → IsFiller line
  | comment {left rest : List Char} : IsPadding left → '\n' ∉ rest →
    firstWord rest ≠ "HELP".toList → firstWord rest ≠ "TYPE".toList → IsFiller (left ++ '#' :: rest)

/-- The second list holds the lines of the first, in their order and perhaps with white space around them, and fillers
anywhere between. -/
inductive Interspersed : List (List Char) → List (List Char) → Prop
  | nil : Interspersed [] []
  | filler {line : List Char} {lines others : List (List Char)} :
    IsFiller line → Interspersed lines others → Interspersed lines (line :: others)
  | line {left right : List Char} {line : List Char} {lines others : List (List Char)} :
    IsPadding left → IsPadding right → Interspersed lines others →
    Interspersed (line :: lines) ((left ++ line ++ right) :: others)

def MetricKind.IsGrouped (kind : MetricKind) : Prop := kind = .summary ∨ kind = .histogram

/-- The data is what series of this kind hold, and the labels and positions do not clash with it. -/
def MetricKind.Admits (kind : MetricKind) (labels : List Label) : MetricData → Prop
  | .scalar _ => ¬kind.IsGrouped
  | .summary _ _ quantiles =>
    kind = .summary ∧ quantileLabel ∉ labels.map Prod.fst ∧ ∀ q ∈ quantiles, q.quantile.isNaN = false
  | .histogram _ _ buckets =>
    kind = .histogram ∧ boundLabel ∉ labels.map Prod.fst ∧ ∀ b ∈ buckets, b.upperBound.isNaN = false

structure Metric.WellFormed (kind : MetricKind) (m : Metric) : Prop where
  labelNames : ∀ l ∈ m.labels, IsLabelName l.1
  sorted : m.labels.Pairwise fun a b ↦ a.1 < b.1
  admitted : kind.Admits m.labels m.data

structure Family.WellFormed (f : Family) : Prop where
  name : IsMetricName f.name
  help : ∀ help, f.help = some help → Text.IsTrimmed help.toList
  metrics : ∀ m ∈ f.metrics, m.WellFormed f.kind
  distinct : f.kind.IsGrouped → (f.metrics.map Metric.labels).Nodup

/-- Families that can stand in one exposition: no name is given twice, or is that of a child of another family. -/
structure WellFormed (families : List Family) : Prop where
  family : ∀ f ∈ families, f.WellFormed
  distinct : (families.map Family.name).Nodup
  noChild : ∀ f ∈ families, f.kind.IsGrouped → ∀ g ∈ families, ∀ suffix ∈ childSuffixes, g.name ≠ f.name ++ suffix.1

end MetricRelay.Exposition
