import MetricRelay.Config.Layers
import MetricRelay.Filter.Builtin
import MetricRelay.Tag.Name
import MetricRelay.Translation.Basic

namespace MetricRelay.Config

open Reader (field? item?)

structure SubmissionSettings where
  url : Option String := none
  dryRun : Bool := false
  compression : Bool := true
  compressionThreshold : UInt64 := 1024
  traceDirectory : Option String := none
  deadlineSeconds : UInt64 := 50
  brokerCaFile : Option String := none
  brokerServerName : Option String := none
deriving DecidableEq, Repr, Inhabited

def SubmissionSettings.read : Reader SubmissionSettings
  | .table table => do
    -- in the order of the names, as in all tables below: the first of several faults is the one reported
    let defaults : SubmissionSettings := {}
    let brokerCaFile ← field? table "broker_ca_file" .nonBlank
    let brokerServerName ← field? table "broker_server_name" .nonBlank
    let compression ← field? table "compression" .lenientBool
    let compressionThreshold ← field? table "compression_threshold_bytes" (.unsigned "usize")
    let dryRun ← field? table "dry_run" .lenientBool
    let url ← field? table "submission_url" .nonBlank
    let deadlineSeconds ← field? table "submit_deadline_secs" (.unsigned "u64")
    let traceDirectory ← field? table "trace_dir" .nonBlank
    return {
      url := url.join
      dryRun := dryRun.getD defaults.dryRun
      compression := compression.getD defaults.compression
      compressionThreshold := compressionThreshold.getD defaults.compressionThreshold
      traceDirectory := traceDirectory.join
      deadlineSeconds := deadlineSeconds.getD defaults.deadlineSeconds
      brokerCaFile := brokerCaFile.join
      brokerServerName := brokerServerName.join }
  | value => Reader.wrongType "struct SubmissionConfiguration" value

structure EncoderSettings where
  base64 : Bool := false
  policy : TagLimitPolicy := .truncate
  defaultStreamTags : String := ""
deriving DecidableEq, Repr, Inhabited

namespace EncoderSettings

def policies : List (String × TagLimitPolicy) := [("truncate", .truncate), ("drop_metric", .dropMetric)]

def read : Reader EncoderSettings
  | .table table => do
    let base64 ← field? table "base64_tags" .lenientBool
    let tags ← field? table "default_streamtags" .text
    let policy ← field? table "tag_limit_policy" (.choice "TagLimitPolicy" policies)
    return ⟨base64.getD false, policy.getD .truncate, tags.getD ""⟩
  | value => Reader.wrongType "struct EncoderConfiguration" value

def encoder (s : EncoderSettings) : TagEncoder := ⟨s.base64, s.policy⟩

def streamTags (s : EncoderSettings) : TagList := .ofDelimited s.defaultStreamTags

end EncoderSettings

structure FilterSettings where
  rulesFile : Option String := none
  clusterVersion : String := ""
  filterDynamic : Bool := false
deriving DecidableEq, Repr, Inhabited

namespace FilterSettings

def read : Reader FilterSettings
  | .table table => do
    let version ← field? table "cluster_api_version" .text
    let dynamic ← field? table "filter_dynamic" .lenientBool
    let rules ← field? table "metric_filters_file" (.optional .text)
    return ⟨rules.join, version.getD "", dynamic.getD false⟩
  | value => Reader.wrongType "struct MetricFilterConfiguration" value

/-- The filter: the rules of the file, or the built-in ones for the version if no file is named. `fileText` gives the
text of a file. -/
def build (s : FilterSettings) (fileText : String → Option String) : Except FilterError MetricFilter :=
  match s.rulesFile with
  | none => .ok (MetricFilter.forVersion s.clusterVersion)
  | some "" => .ok (MetricFilter.forVersion s.clusterVersion)
  | some path =>
    match fileText path with
    | none => .error (.unreadable path)
    | some text => MetricFilter.ofJson text

end FilterSettings

structure EndpointSettings where
  id : String
  url : String
  tags : String := ""
  dynamic : Bool := false
deriving DecidableEq, Repr, Inhabited

namespace EndpointSettings

def required {α : Type} (name : String) : Option α → Except Mismatch α
  | some a => .ok a
  | none => .error (.missing name)

def requiredItem {α : Type} (index : Nat) : Option α → Except Mismatch α
  | some a => .ok a
  | none => .error (.refused [] s!"invalid length {index}, expected struct EndpointConfiguration with 4 elements")

/-- Reads a table, or a list with the fields in the order of their declaration. -/
def read : Reader EndpointSettings
  | .table table => do
    let dynamic ← field? table "dynamic" .lenientBool
    let id ← field? table "id" .text
    let tags ← field? table "tags" .text
    let url ← field? table "url" .text
    return ⟨← required "id" id, ← required "url" url, tags.getD "", dynamic.getD false⟩
  | .list items => do
    let id ← requiredItem 0 (← item? items 0 .text)
    let url ← requiredItem 1 (← item? items 1 .text)
    let tags ← item? items 2 .text
    let dynamic ← item? items 3 .lenientBool
    return ⟨id, url, tags.getD "", dynamic.getD false⟩
  | value => Reader.wrongType "struct EndpointConfiguration" value

end EndpointSettings

structure CollectorSettings where
  intervalSeconds : UInt64 := 60
  endpoints : List EndpointSettings := []
  clusterName : String := ""
  histogramMode : Translation.HistogramMode := .cumulative
deriving Repr, Inhabited

namespace CollectorSettings

def histogramModes : List (String × Translation.HistogramMode) := [("cumulative", .cumulative), ("buckets", .buckets)]

def read : Reader CollectorSettings
  | .table table => do
    let name ← field? table "cluster_name" .text
    let interval ← field? table "collection_interval_secs" (.unsigned "u64")
    let endpoints ← field? table "endpoints" (.listOf EndpointSettings.read)
    let mode ← field? table "histogram_mode" (.choice "HistogramMode" histogramModes)
    return ⟨interval.getD 60, endpoints.getD [], name.getD "", mode.getD .cumulative⟩
  | value => Reader.wrongType "struct CollectorConfiguration" value

def interval (s : CollectorSettings) : Nat := max s.intervalSeconds.toNat 1

end CollectorSettings
end MetricRelay.Config
