import MetricRelay.Binary64.Basic
import MetricRelay.Exposition.Line

namespace MetricRelay.Exposition

inductive MetricKind
  | counter
  | gauge
  | summary
  | histogram
  | untyped
deriving DecidableEq, Repr, Inhabited

namespace MetricKind

def text : MetricKind → String
  | counter => "counter"
  | gauge => "gauge"
  | summary => "summary"
  | histogram => "histogram"
  | untyped => "untyped"

def ofText? : String → Option MetricKind
  | "counter" => some counter
  | "gauge" => some gauge
  | "summary" => some summary
  | "histogram" => some histogram
  | "untyped" => some untyped
  | "unknown" => some untyped
  | _ => none

end MetricKind

structure Quantile where
  quantile : Binary64
  value : Binary64
deriving DecidableEq, Repr

structure Bucket where
  upperBound : Binary64
  cumulativeCount : Binary64
deriving DecidableEq, Repr

/-- What one series holds. Quantiles and buckets stand in the order of their lines. -/
inductive MetricData
  | scalar (value : Binary64)
  | summary (count sum : Binary64) (quantiles : List Quantile)
  | histogram (count sum : Binary64) (buckets : List Bucket)
deriving DecidableEq, Repr, Inhabited

namespace MetricData

def withCount (count : Binary64) : MetricData → MetricData
  | scalar value => scalar value
  | summary _ sum quantiles => summary count sum quantiles
  | histogram _ sum buckets => histogram count sum buckets

def withSum (sum : Binary64) : MetricData → MetricData
  | scalar value => scalar value
  | summary count _ quantiles => summary count sum quantiles
  | histogram count _ buckets => histogram count sum buckets

def addQuantile (quantile : Quantile) : MetricData → MetricData
  | summary count sum quantiles => summary count sum (quantiles ++ [quantile])
  | data => data

def addBucket (bucket : Bucket) : MetricData → MetricData
  | histogram count sum buckets => histogram count sum (buckets ++ [bucket])
  | data => data

end MetricData

/-- One series: labels sorted by name, the timestamp its lines gave, if any, and its data. -/
structure Metric where
  labels : List Label
  timestamp : Option Int64
  data : MetricData
deriving DecidableEq, Repr, Inhabited

structure Family where
  name : String
  help : Option String
  kind : MetricKind
  metrics : List Metric
deriving DecidableEq, Repr

end MetricRelay.Exposition
