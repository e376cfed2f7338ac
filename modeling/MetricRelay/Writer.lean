import MetricRelay.Filter.Basic
import MetricRelay.Sample.Batch
import MetricRelay.Stats
import MetricRelay.Tag.Name

namespace MetricRelay

structure Ledger where
  batch : Batch := .empty
  stats : Stats := {}
  log : Array Log.Event := #[]
deriving Inhabited

namespace Ledger

def note (l : Ledger) (events : List Log.Event) : Ledger := { l with log := l.log ++ events.toArray }

def insert (l : Ledger) (name : String) (sample : Sample) : Ledger :=
  { l.note (l.batch.insertEvents name) with batch := (l.batch.put name sample).2 }

end Ledger

/-- A data point before it has a tagged name. `dynamic` tells that its endpoint was discovered and not configured. -/
structure Point where
  name : String
  type : MetricType
  value : MetricValue
  streamTags : TagList := .empty
  measurementTags : TagList := .empty
  timestamp : Option UInt64 := none
  dynamic : Bool := false

def Point.of (name : String) (value : MetricValue) (streamTags : TagList) (timestamp : Option UInt64) : Point :=
  { name, type := value.type, value, streamTags, timestamp }

inductive WriteError
  | emptyName
  | invalidValue (name : String) (cause : ValueError)
  | typeMismatch (name : String) (declared actual : MetricType)
deriving DecidableEq, Repr

def WriteError.message : WriteError → String
  | emptyName => "metric name must not be empty"
  | invalidValue name _ => "invalid value for metric '" ++ name ++ "'"
  | typeMismatch name declared actual =>
    "metric '" ++ name ++ "' declared as type '" ++ declared.code ++ "' but value is of type '" ++ actual.code ++ "'"

structure MetricWriter where
  encoder : TagEncoder
  filter : MetricFilter
  defaultTags : TagList := .empty
  filterDynamic : Bool := false

namespace MetricWriter

/-- The checks in front of the filter, in the order in which they are reported. -/
def check (p : Point) : Except WriteError Unit :=
  if p.name = "" then .error .emptyName
  else match p.value.validate with
    | .error cause => .error (.invalidValue p.name cause)
    | .ok () => if p.value.type = p.type then .ok () else .error (.typeMismatch p.name p.type p.value.type)

def denies (w : MetricWriter) (p : Point) : Bool := (!p.dynamic || w.filterDynamic) && !w.filter.isAllowed p.name

def streamTags (w : MetricWriter) (p : Point) : TagList :=
  if w.defaultTags.isEmpty then p.streamTags else w.defaultTags.merged p.streamTags

def write (w : MetricWriter) (l : Ledger) (p : Point) : Except WriteError Bool × Ledger :=
  match check p with
  | .error e => (.error e, l)
  | .ok () =>
    if w.denies p then
      let denied : Log.Event := ⟨.trace, .writing, "Metric rejected by filter.", [.ofText "metric_name" p.name]⟩
      (.ok false, { l.note [denied] with stats := l.stats.addFiltered 1 })
    else
      let tags := w.streamTags p
      let noted := l.note (w.encoder.taggedNameEvents p.name tags p.measurementTags)
      match w.encoder.taggedName? p.name tags p.measurementTags with
      | none => (.ok false, noted)
      | some name => (.ok true, noted.insert name (.of p.value p.timestamp))

end MetricWriter
end MetricRelay
