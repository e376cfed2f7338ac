import MetricRelay.Exposition.Reader
import MetricRelay.Translation.Histogram
import MetricRelay.Writer

namespace MetricRelay.Translation

open Exposition (Family Metric MetricData ReadError)

inductive HistogramMode
  | cumulative
  | buckets
deriving DecidableEq, Repr, Inhabited

structure Options where
  histogramMode : HistogramMode := .cumulative
  timestamp : UInt64 := 0
  dynamic : Bool := false

structure Summary where
  families : Nat := 0
  samples : Nat := 0
  written : Nat := 0
  skipped : Nat := 0
  rejected : Nat := 0
  cancelled : Bool := false
deriving DecidableEq, Repr, Inhabited

inductive TranslateError
  | unreadable (cause : ReadError)
  | noMetrics (families : Nat)
deriving DecidableEq, Repr

def TranslateError.message : TranslateError → String
  | unreadable _ => "failed to parse exposition"
  | noMetrics families => "no metrics found (" ++ toString families ++ " families)"

inductive Emission
  | number (name : String) (type : MetricType) (value : Binary64) (tags : TagList)
  | entries (name : String) (entries : List String) (tags : TagList)

/-- Tags of a series: those given for the source, and a tag for each label. A label with an empty value is none. -/
def seriesTags (base : TagList) (metric : Metric) : TagList :=
  .ofTags (base.tags ++ (metric.labels.filter fun label ↦ label.2 ≠ "").map fun label ↦ ⟨label.1, label.2⟩)

/-- The timestamp of the samples of a series: its own unless it lies before 1970, else the one of the run. -/
def seriesTimestamp (options : Options) (metric : Metric) : UInt64 :=
  match metric.timestamp with
  | some t => if 0 ≤ t.toInt then UInt64.ofNat t.toInt.toNat else options.timestamp
  | none => options.timestamp

def boundText (bound : Binary64) : String :=
  if bound.isInfinite && !bound.isNegative then "+Inf" else formatFloat bound

def emissions (mode : HistogramMode) (name : String) (tags : TagList) : MetricData → List Emission
  | .scalar value => [.number name .float64 value tags]
  | .summary count sum quantiles =>
    [.number (name ++ "_count") .uint64 count tags, .number (name ++ "_sum") .float64 sum tags] ++
      quantiles.map fun q ↦ .number name .float64 q.value (tags.insert ⟨"quantile", formatFloat q.quantile⟩)
  | .histogram count sum buckets =>
    [.number (name ++ "_count") .uint64 count tags, .number (name ++ "_sum") .float64 sum tags] ++
      (if Binary64.zero.lt count then [.number (name ++ "_avg") .float64 (sum.div count) tags] else []) ++
      match mode with
      | .cumulative =>
        match reduceHistogram buckets (toCount count) with
        | [] => []
        | entries => [.entries name entries tags]
      | .buckets => buckets.map fun b ↦
          .number name .uint64 b.cumulativeCount (tags.insert ⟨"bucket", boundText b.upperBound⟩)

structure Progress where
  ledger : Ledger
  summary : Summary

namespace Progress

def reject (p : Progress) (name message reason : String) : Progress :=
  { ledger := p.ledger.note [⟨.debug, .translation, message, [.ofText "metric_name" name, .ofText "error" reason]⟩]
    summary := { p.summary with samples := p.summary.samples + 1, rejected := p.summary.rejected + 1 } }

def write (writer : MetricWriter) (p : Progress) (point : Point) : Progress :=
  match writer.write p.ledger point with
  | (.ok true, ledger) =>
    ⟨ledger, { p.summary with samples := p.summary.samples + 1, written := p.summary.written + 1 }⟩
  | (.ok false, ledger) =>
    ⟨ledger, { p.summary with samples := p.summary.samples + 1, skipped := p.summary.skipped + 1 }⟩
  | (.error e, ledger) => { p with ledger }.reject point.name "Skipping invalid sample." e.message

/-- Carries out one emission. Entries have no timestamp. -/
def emit (writer : MetricWriter) (options : Options) (timestamp : UInt64) (p : Progress) : Emission → Progress
  | .number name type value tags =>
    match MetricValue.ofFloat type value with
    | .ok value =>
      p.write writer { Point.of name value tags (some timestamp) with dynamic := options.dynamic }
    | .error e => p.reject name "Skipping sample with invalid value." e.message
  | .entries name entries tags =>
    p.write writer { Point.of name (.cumulativeHistogram entries) tags none with dynamic := options.dynamic }

def series (writer : MetricWriter) (options : Options) (base : TagList) (name : String) (p : Progress)
    (metric : Metric) : Progress :=
  (emissions options.histogramMode name (seriesTags base metric) metric.data).foldl
    (emit writer options (seriesTimestamp options metric)) p

def family (writer : MetricWriter) (options : Options) (base : TagList) (p : Progress) (f : Family) : Progress :=
  f.metrics.foldl (series writer options base f.name) p

def families (writer : MetricWriter) (options : Options) (base : TagList) (cancelled : Nat → Bool) :
    Nat → Progress → List Family → Progress
  | _, p, [] => p
  | place, p, f :: rest =>
    if cancelled place then
      { ledger := p.ledger.note [⟨.debug, .translation, "Translation cancelled.", []⟩]
        summary := { p.summary with cancelled := true } }
    else families writer options base cancelled (place + 1) (p.family writer options base f) rest

end Progress

structure Outcome where
  result : Except TranslateError Summary
  counted : Option Nat
  ledger : Ledger

/-- Translates a text into the batch of a ledger. `cancelled` is the cancellation signal as it would be seen in front
of each family. -/
def translate (writer : MetricWriter) (options : Options) (base : TagList) (cancelled : Nat → Bool) (text : String)
    (ledger : Ledger) : Outcome :=
  match Exposition.read text with
  | .error e => ⟨.error (.unreadable e), none, ledger⟩
  | .ok families =>
    let p := Progress.families writer options base cancelled 0 ⟨ledger, { families := families.length }⟩ families
    let result :=
      if p.summary.samples = 0 ∧ !p.summary.cancelled then .error (.noMetrics families.length) else .ok p.summary
    ⟨result, some p.summary.written, p.ledger⟩

end MetricRelay.Translation
