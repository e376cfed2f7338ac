import MetricRelay.Cycle.Lease
import MetricRelay.Submission.Submitter
import MetricRelay.Translation.Basic

namespace MetricRelay

open Http Submission Translation

structure EndpointError where
  id : String
  url : String
  cause : UriError
deriving DecidableEq, Repr

def EndpointError.chain (e : EndpointError) : List String :=
  [s!"Invalid URL '{e.url}' for endpoint '{e.id}'.", e.cause.message]

inductive CollectionFault
  | transport (cause : Failure)
  | status (code : Nat)
  | unreadableBody
  | undecodableBody
  | translation (cause : TranslateError)
  | submission (cause : SubmitError)

structure CollectionError where
  id : String
  url : String
  fault : CollectionFault

namespace CollectionError

def message (e : CollectionError) : String :=
  match e.fault with
  | .transport _ => s!"Failed to scrape '{e.url}'."
  | .status code => s!"Endpoint '{e.url}' responded with status {statusText code}."
  | .unreadableBody => s!"Failed to read scrape response from '{e.url}'."
  | .undecodableBody => s!"Response from '{e.url}' is not valid UTF-8."
  | .translation _ => s!"Failed to translate metrics from '{e.url}'."
  | .submission _ => s!"Failed to submit metrics from '{e.id}'."

def chain (e : CollectionError) : List String :=
  e.message :: match e.fault with
    | .transport cause => cause.chain
    | .translation (.unreadable cause) => [(TranslateError.unreadable cause).message, cause.message]
    | .translation cause => [cause.message]
    | .submission cause => cause.chain
    | _ => []

end CollectionError

structure Endpoint where
  id : String
  url : Uri
  baseTags : TagList
  dynamic : Bool
  histogramMode : HistogramMode
  writer : MetricWriter
  submitter : Submitter

/-- What surrounds a collection, in nanoseconds from its start: the reply to the scrape, and the moments from the start
of the translation at which it turns to each family. -/
structure CollectionSurroundings extends Surroundings where
  scraped : Reply
  pace : Nat → Nat := fun _ ↦ 0

structure Collection where
  result : Except CollectionError Unit
  lease : Lease := {}
  state : SubmitterState
  requests : List Request := []
  submission : Option (Batch × SubmissionResult) := none
  log : List Log.Event := []

namespace Endpoint

def scrapeTimeout : Nat := 30 * Text.nanosPerSecond

def accepted : String := "text/plain;version=0.0.4"

/-- The tags of an endpoint are its own and that of its cluster, if that has a name. -/
def baseTagsOf (clusterName : String) (s : Config.EndpointSettings) : TagList :=
  let tags := TagList.ofDelimited s.tags
  if clusterName = "" then tags else tags.insert ⟨"cluster", clusterName⟩

def ofSettings (collector : Config.CollectorSettings) (writer : MetricWriter) (submitter : Submitter)
    (s : Config.EndpointSettings) : Except EndpointError Endpoint :=
  match Uri.read s.url with
  | .error cause => .error ⟨s.id, s.url, cause⟩
  | .ok url => .ok {
      id := s.id
      url
      baseTags := baseTagsOf collector.clusterName s
      dynamic := s.dynamic
      histogramMode := collector.histogramMode
      writer
      submitter }

def listOfSettings (collector : Config.CollectorSettings) (writer : MetricWriter) (submitter : Submitter) :
    Except EndpointError (List Endpoint) :=
  collector.endpoints.mapM (ofSettings collector writer submitter)

def request (e : Endpoint) : Request where
  method := "GET"
  uri := e.url
  headers := [("accept", accepted)]

def options (e : Endpoint) (timestamp : UInt64) : Options where
  histogramMode := e.histogramMode
  timestamp
  dynamic := e.dynamic

def error (e : Endpoint) (fault : CollectionFault) : CollectionError := ⟨e.id, e.url.text, fault⟩

def event (e : Endpoint) (level : Log.Level) (message : String) (fields : List Log.Field) : Log.Event :=
  ⟨level, .collection, message, .ofText "source" e.id :: fields⟩

def scrapeEnd (e : Endpoint) (around : CollectionSurroundings) : Nat × Http.Outcome :=
  ({ timeout := scrapeTimeout } : Client).reply e.url around.scraped

/-- The text that an answer brings. Only a success of status 200 brings one. -/
def textOf (outcome : Http.Outcome) : Except CollectionFault String :=
  match outcome with
  | .error failure => .error (.transport failure)
  | .ok response =>
    if !response.isOk then .error (.status response.status)
    else match response.body with
      | none => .error .unreadableBody
      | some body => match String.fromUTF8? body.toByteArray with
        | none => .error .undecodableBody
        | some text => .ok text

def translatedEvent (e : Endpoint) (s : Summary) : Log.Event :=
  e.event .debug "Translated metrics." [.ofNat "families" s.families, .ofNat "samples" s.samples,
    .ofNat "written" s.written, .ofNat "skipped" s.skipped, .ofNat "rejected" s.rejected]

def deliver? (e : Endpoint) (around : CollectionSurroundings) (limit : Nat) (moment : Nat) (batch : Batch)
    (state : SubmitterState) : Option Collection :=
  let rest : Surroundings := { around with cancelledAt := around.cancelledAt.map (· - moment) }
  (e.submitter.submit? rest limit batch state).map fun submitted ↦
    let (result, events) : Except CollectionError Unit × List Log.Event := match submitted.result with
      | .ok () => (.ok (), [])
      | .error .cancelled => (.ok (), [e.event .debug "Submission cancelled." []])
      | .error cause => (.error (e.error (.submission cause)), [])
    { result
      state := submitted.state
      requests := submitted.requests
      submission := some (batch, submitted)
      log := submitted.log ++ events }

def translateAndDeliver? (e : Endpoint) (around : CollectionSurroundings) (limit : Nat) (timestamp : UInt64)
    (moment : Nat) (text : String) (state : SubmitterState) : Option Collection :=
  let cancelled (place : Nat) : Bool := around.cancelledAt.any (· ≤ moment + around.pace place)
  let outcome := translate e.writer (e.options timestamp) e.baseTags cancelled text { stats := state.stats }
  let state := { state with stats := outcome.ledger.stats }
  let log := outcome.ledger.log.toList
  match outcome.result with
  | .error cause => some { result := .error (e.error (.translation cause)), state, log }
  | .ok summary =>
    if summary.cancelled then
      some { result := .ok (), state, log := log ++ [e.event .debug "Translation cancelled." []] }
    else
      (e.deliver? around limit (moment + around.pace summary.families) outcome.ledger.batch state).map fun c ↦
        { c with log := log ++ e.translatedEvent summary :: c.log }

/-- A collection that has the lease. A cancellation goes before whatever happens at its moment. -/
def collectLeased? (e : Endpoint) (around : CollectionSurroundings) (limit : Nat) (timestamp : UInt64)
    (state : SubmitterState) : Option Collection :=
  let (ended, outcome) := e.scrapeEnd around
  let requests := if around.cancelledAt = some 0 then [] else [e.request]
  if around.cancelledAt.any (· ≤ ended) then
    some { result := .ok (), state, requests, log := [e.event .debug "Scrape cancelled." []] }
  else match textOf outcome with
    | .error fault => some { result := .error (e.error fault), state, requests }
    | .ok text => (e.translateAndDeliver? around limit timestamp ended text state).map fun c ↦
        { c with requests := requests ++ c.requests }

/-- Collects from an endpoint. While the lease is held by another collection, nothing is done. There is no result if the
submission does not come to an end in `limit` rounds. -/
def collect? (e : Endpoint) (around : CollectionSurroundings) (limit : Nat) (timestamp : UInt64) (lease : Lease)
    (state : SubmitterState) : Option Collection :=
  match lease.acquire? with
  | none => some {
      result := .ok ()
      lease
      state
      log := [e.event .warn "Previous collection still running. Skipping." []] }
  | some taken => (e.collectLeased? around limit timestamp state).map fun c ↦ { c with lease := taken.release }

end Endpoint
end MetricRelay
