import MetricRelay.Binary64.Basic

namespace MetricRelay.Log

inductive Level
  | trace
  | debug
  | info
  | warn
  | error
deriving DecidableEq, Repr, Inhabited

namespace Level

def rank : Level → Nat
  | trace => 0
  | debug => 1
  | info => 2
  | warn => 3
  | error => 4

def covers (least level : Level) : Bool := least.rank ≤ level.rank

def text : Level → String
  | trace => "TRACE"
  | debug => "DEBUG"
  | info => "INFO"
  | warn => "WARN"
  | error => "ERROR"

end Level

inductive Origin
  | program
  | cycles
  | configuration
  | certificates
  | tlsSetup
  | tags
  | batches
  | writing
  | translation
  | collection
  | submission
  | retries
  | other (path : String)
deriving DecidableEq, Repr

def Origin.path : Origin → String
  | program => "kube_harvester"
  | cycles => "kube_harvester::orchestrator"
  | configuration => "harvest_config"
  | certificates => "harvest_tls"
  | tlsSetup => "harvest_app::tls"
  | tags => "harvest_context::encoder"
  | batches => "harvest_core::data_model::batch"
  | writing => "harvest_components::common::writer"
  | translation => "harvest_components::sources::prometheus::translator"
  | collection => "harvest_components::sources::prometheus"
  | submission => "harvest_components::destinations::submission"
  | retries => "harvest_io::net::util::retry::lifecycle::http"
  | other path => path

/-- A field keeps the type it was recorded with, since the two log formats write types differently. -/
inductive FieldValue
  | text (s : String)
  | int (n : Int64)
  | uint (n : UInt64)
  | bool (b : Bool)
  | float (x : Binary64)
deriving DecidableEq, Repr

structure Field where
  name : String
  value : FieldValue
deriving DecidableEq, Repr

structure Event where
  level : Level
  origin : Origin
  message : Option String
  fields : List Field
deriving DecidableEq, Repr

def Field.ofText (name value : String) : Field := ⟨name, .text value⟩

def Field.ofNat (name : String) (n : Nat) : Field := ⟨name, .uint (UInt64.ofNat n)⟩

end MetricRelay.Log
