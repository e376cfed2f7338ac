import MetricRelay.Program
import Std.Time.Format

namespace MetricRelay.CommandLine

def variableNames : List String :=
  [Program.directivesVariable, Program.layoutVariable] ++
    (["base64_tags", "broker_ca_file", "broker_server_name", "cluster_api_version", "cluster_name",
      "collection_interval_secs", "compression", "compression_threshold_bytes", "default_streamtags", "dry_run",
      "endpoints", "filter_dynamic", "histogram_mode", "metric_filters_file", "submission_url",
      "submit_deadline_secs", "tag_limit_policy", "trace_dir"].map
        (Config.Configuration.variableName (Program.variableStart ++ "_")))

def environment : IO (List (String × String)) :=
  variableNames.filterMapM fun name ↦ do
    return (← IO.getEnv name).map (name, ·)

def text? (path : String) : IO (Option String) := do
  try
    return some (← IO.FS.readFile path)
  catch _ => return none

def files (invocation : Invocation) (bindings : List (String × String)) : IO (List (String × String)) := do
  let config ← text? invocation.config
  let sources := [.file .yaml false config, .environment Program.variableStart bindings]
  let rules := match Config.Configuration.ofSources sources with
    | .ok c => (c.getD (.optional .text) "metric_filters_file" none).toList
    | .error _ => []
  let named ← rules.filterMapM fun path ↦ do
    return (← text? path).map (path, ·)
  return (config.map (invocation.config, ·)).toList ++ named

def certificates : IO (Option String) := do
  match ← IO.getEnv "SSL_CERT_FILE" with
  | some path => text? path
  | none => text? "/etc/ssl/certs/ca-certificates.crt"

def processId : IO Nat := do
  let status ← text? "/proc/self/stat"
  return (((status.getD "").takeWhile Char.isDigit).toNat?).getD 0

def stamp : IO Log.Stamp := do
  return ⟨(← Std.Time.DateTime.now).format "uuuu-MM-dd HH:mm:ss 'UTC'", "relay", 0⟩

def write (logging : Log.Logging) (events : List Log.Event) : IO Unit := do
  let output ← IO.getStdout
  for entry in logging.entries (← stamp) events do
    output.putStr entry
  output.flush

/-- Ticks on and on. -/
partial def tickOn (logging : Log.Logging) (t : Timetable) (n : Nat) (c : Clock) : IO Unit := do
  let ticked := t.complete (t.tick { c with log := [] } n)
  write logging ticked.log
  IO.sleep (UInt32.ofNat (t.runner.interval / Text.nanosPerMillisecond))
  tickOn logging t (n + 1) ticked

end MetricRelay.CommandLine

open MetricRelay CommandLine

def main (arguments : List String) : IO UInt32 := do
  let bindings ← environment
  let found ← match Invocation.ofArguments arguments with
    | .ok invocation => files invocation bindings
    | .error _ => pure []
  let launch : Launch := {
    arguments
    environment := bindings
    fileText := fun path ↦ (found.find? (·.1 = path)).map Prod.snd
    certificates := ← certificates
    processId := ← processId
    connection := Http.unreachable }
  match Program.run launch with
  | .ended result =>
    (← IO.getStderr).putStr result.errors
    write result.logging result.log
    return UInt32.ofNat result.code
  | .endless begun timetable clock =>
    (← IO.getStderr).putStr begun.errors
    write begun.logging (begun.log ++ clock.log)
    tickOn begun.logging timetable 0 clock
    return 0
