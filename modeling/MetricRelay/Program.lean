import MetricRelay.Collection.Endpoint
import MetricRelay.CommandLine
import MetricRelay.Cycle.Timetable
import MetricRelay.Log.Entry

namespace MetricRelay

open Config Log Tls

/-- What the program finds around it. `interruptedAt` is a moment from the first cycle on, in nanoseconds. -/
structure Launch where
  arguments : List String
  environment : List (String × String)
  fileText : String → Option String
  certificates : Option String
  processId : Nat
  connection : Http.Failure
  interruptedAt : Option Nat := none

structure Exit where
  code : Nat
  logging : Logging
  log : List Event := []
  errors : String := ""

/-- How the program goes: to its end, or on and on. In the latter case there is what it has done so far. -/
inductive Course
  | ended (exit : Exit)
  | endless (begun : Exit) (timetable : Timetable) (clock : Clock)

inductive StartError
  | environment (cause : ConfigError)
  | encoderSettings (cause : ConfigError)
  | filterSettings (cause : ConfigError)
  | submissionSettings (cause : ConfigError)
  | collectorSettings (cause : ConfigError)
  | filter (cause : FilterError)
  | submitter (cause : SubmitterError)
  | client (cause : TlsError)
  | endpoints (cause : EndpointError)

def StartError.chain (place : String) : StartError → List String
  | environment cause => "Failed to load environment configuration." :: cause.chain place
  | encoderSettings cause => "Failed to load encoder configuration." :: cause.chain place
  | filterSettings cause => "Failed to load metric filter configuration." :: cause.chain place
  | submissionSettings cause => "Failed to load submission configuration." :: cause.chain place
  | collectorSettings cause => "Failed to load collector configuration." :: cause.chain place
  | filter cause => "Failed to build metric filter." :: cause.chain
  | submitter cause => "Failed to create submitter." :: cause.chain
  | client cause => ["Failed to build scrape client.", cause.message]
  | endpoints cause => "Failed to create collectors." :: cause.chain

structure Settings where
  encoder : EncoderSettings
  filter : FilterSettings
  submission : SubmissionSettings
  collector : CollectorSettings
  rules : MetricFilter

namespace Program

def version : String := "0.1.0"

def variableStart : String := "HARVEST"

def directivesVariable : String := "HARVEST_LOG_LEVEL"

def layoutVariable : String := "HARVEST_LOG_FORMAT_JSON"

def event (level : Level) (message : String) (fields : List Field) : Event := ⟨level, .program, message, fields⟩

def fatal (message : String) : String := "FATAL: " ++ message ++ "\n"

def environmentText? (launch : Launch) (name : String) : Option String :=
  (launch.environment.find? (·.1 = name)).map Prod.snd

def startEvent (launch : Launch) (config : String) : Event :=
  event .info "Harvester starting..."
    [.ofText "version" version, .ofText "config" config, .ofNat "process_id" launch.processId]

def sources (launch : Launch) (config : String) : List Source :=
  [.file .yaml false (launch.fileText config), .environment variableStart launch.environment]

def sourceEvents (launch : Launch) (config : String) : List Event :=
  match launch.fileText config with
  | some _ => []
  | none => [⟨.debug, .configuration, "Unable to read YAML configuration file. Ignoring.",
      [.ofText "error" "No such file or directory (os error 2)", .ofText "file_path" config]⟩]

def readSettings (launch : Launch) (config : String) : Except StartError Settings := do
  let c ← (Configuration.ofSources (sources launch config)).mapError .environment
  let encoder ← (c.whole EncoderSettings.read).mapError .encoderSettings
  let filter ← (c.whole FilterSettings.read).mapError .filterSettings
  let submission ← (c.whole SubmissionSettings.read).mapError .submissionSettings
  let collector ← (c.whole CollectorSettings.read).mapError .collectorSettings
  let rules ← (filter.build launch.fileText).mapError .filter
  return { encoder, filter, submission, collector, rules }

def loadedEvent (s : Settings) : Event :=
  event .info "Loaded metric filter." [.ofNat "rules" s.rules.rules.length]

def makeEndpoints (s : Settings) (tls : TlsState) : Except StartError (List Endpoint) := do
  let submitter ← (Submitter.ofSettings s.submission).mapError .submitter
  let _ ← (ClientTls.build {} tls).mapError .client
  let writer : MetricWriter := ⟨s.encoder.encoder, s.rules, s.encoder.streamTags, s.filter.filterDynamic⟩
  (Endpoint.listOfSettings s.collector writer submitter).mapError .endpoints

def endpointEvents (endpoints : List Endpoint) : List Event :=
  if endpoints.isEmpty then [event .warn "No endpoints configured. Nothing will be collected." []] else []

/-- A collection from an endpoint to which no connection can be made. It takes no time and submits nothing. -/
def collectionOf (launch : Launch) (e : Endpoint) : ScriptedCollection :=
  let failing : Http.Reply := { outcome := .error launch.connection }
  match e.collect? { replies := fun _ ↦ failing, scraped := failing } 0 0 {} {} with
  | some c => {
      log := c.log
      ending := match c.result with
        | .ok () => .succeeded
        | .error fault => .failed fault.chain }
  | none => {}

def timetable (launch : Launch) (s : Settings) (endpoints : List Endpoint) : Timetable where
  runner := {
    collectors := endpoints.map Endpoint.id
    interval := s.collector.interval * Text.nanosPerSecond }
  script collector _ := (endpoints[collector]?.map (collectionOf launch)).getD {}
  cancelledAt := launch.interruptedAt

def clock (endpoints : List Endpoint) : Clock := { runs := endpoints.map fun _ ↦ 0 }

def collectEvents? (launch : Launch) (once : Bool) (s : Settings) (endpoints : List Endpoint) :
    Option (List Event) :=
  let t := timetable launch s endpoints
  if once then some ({ t with cancelledAt := none }.cycle (clock endpoints)).log
  else launch.interruptedAt.map fun moment ↦
    let ticked := t.tickUntil moment (clock endpoints)
    (t.stop { ticked with
      log := ticked.log ++ [event .info "Received shutdown signal. Stopping..." []] }).log

def prepare (launch : Launch) (config : String) (tls : TlsState) :
    List Event × Except StartError (Settings × List Endpoint) :=
  let started := startEvent launch config :: sourceEvents launch config
  match readSettings launch config with
  | .error e => (started, .error e)
  | .ok s =>
    let loaded := started ++ [loadedEvent s]
    match makeEndpoints s tls with
    | .error e => (loaded, .error e)
    | .ok endpoints => (loaded ++ endpointEvents endpoints, .ok (s, endpoints))

def failureEvent (config : String) (e : StartError) : Event :=
  event .error (Text.withCauses (e.chain s!"{config} YAML file")) []

def complaints (launch : Launch) : String :=
  String.join ((Directives.complaints ((environmentText? launch directivesVariable).getD "")).map (· ++ "\n"))

def refusalCode : CommandLine.Refusal → Nat
  | .help => 0
  | .version => 0
  | _ => 2

def run (launch : Launch) : Course :=
  let logging :=
    Logging.ofEnvironment (environmentText? launch directivesVariable) (environmentText? launch layoutVariable) none
  match Invocation.ofArguments launch.arguments with
  | .error refusal => .ended { code := refusalCode refusal, logging }
  | .ok invocation =>
    let errors := complaints launch
    match TlsState.start {} launch.certificates with
    | .error e => .ended { code := 1, logging, errors := errors ++ fatal s!"failed to initialize TLS: {e.message}" }
    | .ok (tls, events) =>
      let (log, prepared) := prepare launch invocation.config tls
      let log := events ++ log
      match prepared with
      | .error e => .ended { code := 1, logging, log := log ++ [failureEvent invocation.config e], errors }
      | .ok (s, endpoints) => match collectEvents? launch invocation.once s endpoints with
        | some collected =>
          .ended { code := 0, logging, log := log ++ collected ++ [event .info "Harvester stopped." []], errors }
        | none =>
          let t := timetable launch s endpoints
          .endless { code := 0, logging, log, errors } t (t.start (clock endpoints))

end Program

def Log.Logging.entries (l : Logging) (stamp : Stamp) (events : List Event) : List String :=
  events.filterMap (l.entry? stamp)

end MetricRelay
