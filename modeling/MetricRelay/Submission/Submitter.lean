import MetricRelay.Compression.Payload
import MetricRelay.Config.Settings
import MetricRelay.Http.Status
import MetricRelay.Sample.Batch
import MetricRelay.Stats
import MetricRelay.Submission.Account
import MetricRelay.Submission.Round
import MetricRelay.Tls.Trust

namespace MetricRelay

open Http Submission

inductive SubmitterError
  | invalidUrl (url : String) (cause : UriError)
  | invalidServerName (name : String)
deriving DecidableEq, Repr

def SubmitterError.chain : SubmitterError → List String
  | invalidUrl url cause => [s!"Invalid submission URL '{url}'.", cause.message]
  | invalidServerName name => [Tls.ServerName.refusal name]

inductive SubmitError
  | missingEndpoint
  | output (reason : String)
  | client (cause : Tls.TlsError)
  | transport (cause : Failure)
  | status (code : Nat)
  | unreadableBody
  | undecodableBody
  | cancelled
deriving Repr

def SubmitError.message : SubmitError → String
  | missingEndpoint => "no submission URL configured and dry-run mode disabled"
  | output _ => "failed to write payload to stdout"
  | client _ => "failed to build HTTP client"
  | transport _ => "failed to send request"
  | status code => s!"broker responded with status {statusText code}"
  | unreadableBody => "failed to read response body"
  | undecodableBody => "failed to decode response"
  | cancelled => "submission cancelled"

def SubmitError.chain (e : SubmitError) : List String :=
  e.message :: match e with
    | output reason => [reason]
    | client cause => [cause.message]
    | transport cause => cause.chain
    | _ => []

structure Submitter where
  endpoint : Option Uri
  dryRun : Bool
  scheme : Compression.Scheme
  threshold : Nat
  traceDirectory : Option String
  deadline : Nat
  caFile : Option String
  serverName : Option Tls.ServerName
  backoff : Backoff

structure SubmitterState where
  traced : Nat := 0
  hasClient : Bool := false
  stats : Stats := {}
deriving Inhabited

/-- What surrounds a submission. `traceFailure` tells why a file cannot be written and `outputFailure` why the output
cannot, `time` is how file names show the present, and `cancelledAt` is a moment from the start of the submission on. -/
structure Surroundings where
  tls : Tls.TlsState := .started
  fileText : String → Option String := fun _ ↦ none
  traceFailure : String → Option String := fun _ ↦ none
  outputFailure : Option String := none
  time : String := ""
  replies : Nat → Reply
  cancelledAt : Option Nat := none

structure SubmissionResult where
  result : Except SubmitError Unit
  state : SubmitterState
  requests : List Request := []
  output : String := ""
  traces : List (String × String) := []
  log : List Log.Event := []

namespace Submitter

def retryLimit : Nat := 10

def requestTimeout : Nat := 60 * Text.nanosPerSecond

def leastBackoff : Nat := 50 * Text.nanosPerMillisecond

def greatestBackoff : Nat := Text.nanosPerSecond

def userAgent : String := "kube-harvester/0.1.0"

def ofSettings (s : Config.SubmissionSettings) : Except SubmitterError Submitter := do
  let endpoint ← match s.url with
    | none => pure none
    | some url => match Uri.read url with
      | .ok uri => pure (some uri)
      | .error e => throw (.invalidUrl url e)
  let serverName ← match s.brokerServerName with
    | none => pure none
    | some name => match Tls.ServerName.ofText? name with
      | some serverName => pure (some serverName)
      | none => throw (.invalidServerName name)
  return {
    endpoint, serverName
    dryRun := s.dryRun
    scheme := if s.compression then .gzip else .none
    threshold := s.compressionThreshold.toNat
    traceDirectory := s.traceDirectory
    deadline := s.deadlineSeconds.toNat * Text.nanosPerSecond
    caFile := s.brokerCaFile
    backoff := { least := leastBackoff, greatest := greatestBackoff } }

def request (endpoint : Uri) (payload : Compression.Payload) : Request where
  method := "PUT"
  uri := endpoint
  headers := [("content-type", "application/json"), ("user-agent", userAgent),
      ("content-length", toString payload.body.length)] ++
    (payload.contentEncoding.map ("content-encoding", ·)).toList
  body := payload.body

def plan (s : Submitter) (endpoint : Uri) : RoundPlan where
  policy := { backoff := s.backoff, maxAttempts := retryLimit }
  client := { timeout := requestTimeout, serverName := s.serverName }
  uri := endpoint
  deadline := s.deadline

def joinPath (directory name : String) : String :=
  if directory.endsWith "/" then directory ++ name else directory ++ "/" ++ name

/-- Writes a copy of a payload, if there is a directory for that. Failing to is only logged. -/
def trace (s : Submitter) (around : Surroundings) (state : SubmitterState) (payload : String) :
    SubmitterState × List (String × String) × List Log.Event :=
  match s.traceDirectory with
  | none => (state, [], [])
  | some directory =>
    let name := s!"{around.time}_{state.traced}.json"
    let path := joinPath directory name
    let state := { state with traced := state.traced + 1 }
    match around.traceFailure path with
    | none => (state, [(path, payload)], [])
    | some reason => (state, [],
        [⟨.error, .submission, "Failed to write trace file.", [.ofText "path" path, .ofText "error" reason]⟩])

/-- The client, built by the first submission that needs it. -/
def prepare (s : Submitter) (around : Surroundings) (state : SubmitterState) :
    Except Tls.TlsError (SubmitterState × List Log.Event) :=
  if state.hasClient then .ok (state, [])
  else
    let choices : Tls.ClientTls := { caFile := s.caFile.map fun path ↦ (path, around.fileText path) }
    (choices.build around.tls).map fun (_, events) ↦ ({ state with hasClient := true }, events)

def roundEvents (endpoint : Uri) (deadline : Nat) (round : Round) : List Log.Event :=
  round.steps.map (RetryPolicy.Step.event endpoint.sanitized) ++
    match round.ending with
    | .expired => [⟨.warn, .submission, "Submission exceeded its deadline. Starting over.",
        [.ofText "url" endpoint.text, .ofText "deadline" (Text.duration deadline)]⟩]
    | _ => []

def accountOf (outcome : Outcome) : Except SubmitError Account :=
  match outcome with
  | .error failure => .error (.transport failure)
  | .ok response =>
    if !response.isOk then .error (.status response.status)
    else match response.body with
      | none => .error .unreadableBody
      | some body => match Account.read? body with
        | none => .error .undecodableBody
        | some account => .ok account

def accountOfRounds (rounds : List Round) : Except SubmitError Account :=
  match rounds.getLast?.map Round.ending with
  | some (.answered outcome) => accountOf outcome
  | _ => .error .cancelled

def accountEvents (endpoint : Uri) (sent : Nat) (account : Account) (rawBytes wireBytes : Nat) : List Log.Event :=
  (if account.error = "" then []
    else [⟨.warn, .submission, "Broker reported an error for submitted batch.",
      [.ofText "url" endpoint.text, .ofText "error" account.error]⟩]) ++
  [⟨.debug, .submission, "Submitted batch.", [.ofText "url" endpoint.text, .ofNat "sent" sent,
    .ofNat "received" account.received.toNat, .ofNat "filtered" account.filtered.toNat,
    .ofNat "raw_bytes" rawBytes, .ofNat "wire_bytes" wireBytes]⟩]

def recordOf (sent : Nat) (account : Account) (rawBytes wireBytes : Nat) : SubmissionRecord where
  sent := UInt64.ofNat sent
  received := account.received
  brokerFiltered := account.filtered
  rawBytes := UInt64.ofNat rawBytes
  wireBytes := UInt64.ofNat wireBytes

def conclude (s : Submitter) (endpoint : Uri) (sent : Nat) (bytes : List UInt8) (state : SubmitterState)
    (rounds : List Round) : SubmissionResult :=
  let payload := Compression.Payload.encode s.scheme s.threshold bytes
  let requests := rounds.flatMap fun round ↦ List.replicate round.begun (request endpoint payload)
  let log := rounds.flatMap (roundEvents endpoint s.deadline)
  match accountOfRounds rounds with
  | .error e => { result := .error e, state, requests, log }
  | .ok account =>
    { result := .ok ()
      state := { state with
        stats := state.stats.record (recordOf sent account bytes.length payload.body.length) }
      requests
      log := log ++ accountEvents endpoint sent account bytes.length payload.body.length }

def send? (s : Submitter) (around : Surroundings) (limit : Nat) (endpoint : Uri) (sent : Nat) (bytes : List UInt8)
    (state : SubmitterState) : Option SubmissionResult :=
  match s.prepare around state with
  | .error e => some { result := .error (.client e), state }
  | .ok (state, events) =>
    ((s.plan endpoint).rounds? around.replies around.cancelledAt limit 0 0).map fun rounds ↦
      let result := s.conclude endpoint sent bytes state rounds
      { result with log := events ++ result.log }

def print (around : Surroundings) (payload : String) (state : SubmitterState) : SubmissionResult :=
  match around.outputFailure with
  | none => { result := .ok (), state, output := payload ++ "\n" }
  | some reason => { result := .error (.output reason), state }

/-- Submits a batch. A submission that is neither answered nor cancelled in `limit` rounds has no result. -/
def submit? (s : Submitter) (around : Surroundings) (limit : Nat) (batch : Batch) (state : SubmitterState) :
    Option SubmissionResult :=
  if batch.isEmpty then
    some { result := .ok (), state, log := [⟨.debug, .submission, "Skipping submission of empty batch.", []⟩] }
  else
    let payload := batch.payload
    let (state, traces, events) := s.trace around state payload
    let result : Option SubmissionResult := match s.endpoint with
      | none =>
        some (if s.dryRun then print around payload state else { result := .error .missingEndpoint, state })
      | some endpoint => s.send? around limit endpoint batch.size payload.toUTF8.toList state
    result.map fun r ↦ { r with traces := traces ++ r.traces, log := events ++ r.log }

end Submitter
end MetricRelay
