import MetricRelay.Log.Event
import MetricRelay.Tls.Certificate
import MetricRelay.Tls.Pem

namespace MetricRelay.Tls

open Log (Event Field)

inductive TlsError
  | caFileMissing (path : String)
  | caFileMalformed (path : String)
  | caFileUseless (path : String) (rejected : Nat)
  | rootsMissing
  | providerPresent
  | providerNotStarted
  | rootsPresent
  | platformStoreFailed
  | platformStoreUseless
deriving DecidableEq, Repr

def TlsError.message : TlsError → String
  | caFileMissing path => s!"Failed to open CA file '{path}'."
  | caFileMalformed path => s!"Failed to parse CA file '{path}'."
  | caFileUseless path rejected => s!"No usable certificates found in CA file '{path}' ({rejected} rejected)."
  | rootsMissing => "Default TLS root certificate store not initialized."
  | providerPresent => "Default TLS cryptography provider already initialized."
  | providerNotStarted => "Failed to initialize TLS cryptography provider."
  | rootsPresent => "Default TLS root certificate store already initialized."
  | platformStoreFailed => "Failed to load certificates from platform's native certificate store:"
  | platformStoreUseless =>
    "Failed to add any certificates from environment to the default root certificate store."

structure RootStore where
  size : Nat
deriving DecidableEq, Repr

def countUsable (certificates : List Bytes) : Nat × Nat :=
  let usable := certificates.countP Certificate.isTrustAnchor
  (usable, certificates.length - usable)

/-- Loads every usable certificate of a file; `none` stands for the text of a missing file. -/
def loadCaFile (path : String) (text : Option String) : Except TlsError (RootStore × List Event) :=
  match text with
  | none => .error (.caFileMissing path)
  | some text =>
    match Pem.certificates text with
    | .error _ => .error (.caFileMalformed path)
    | .ok certificates =>
      let (added, failed) := countUsable certificates
      if added = 0 then .error (.caFileUseless path failed)
      else .ok (⟨added⟩, [⟨.debug, .certificates, "Loaded CA certificates.",
        [.ofNat "added" added, .ofNat "failed" failed, .ofText "ca_file" path]⟩])

structure TlsState where
  provider : Bool := false
  roots : Option RootStore := none
deriving DecidableEq, Repr

namespace TlsState

def started : TlsState := ⟨true, some ⟨1⟩⟩

def startProvider (s : TlsState) : Except TlsError TlsState :=
  if s.provider then .error .providerPresent else .ok { s with provider := true }

def distinct : List Bytes → List Bytes
  | [] => []
  | c :: rest => if rest.contains c then distinct rest else c :: distinct rest

def loadRoots (s : TlsState) (store : Option String) : Except TlsError (TlsState × List Event) :=
  if s.roots.isSome then .error .rootsPresent
  else match store.map Pem.certificates with
    | some (.ok certificates) =>
      let (added, failed) := countUsable (distinct certificates)
      if added = 0 then .error .platformStoreUseless
      else .ok ({ s with roots := some ⟨added⟩ },
        [⟨.debug, .certificates, "Initialized default root certificate store.",
          [.ofNat "added" added, .ofNat "failed" failed]⟩])
    | _ => .error .platformStoreFailed

/-- Starts the provider and loads the platform's store. A store that cannot be loaded is only warned about. -/
def start (s : TlsState) (store : Option String) : Except TlsError (TlsState × List Event) :=
  match s.startProvider with
  | .error _ => .error .providerNotStarted
  | .ok s =>
    match s.loadRoots store with
    | .ok result => .ok result
    | .error e => .ok (s, [⟨.warn, .tlsSetup,
        "Failed to load platform root certificates. Only explicitly configured CA bundles will be usable.",
        [.ofText "error" e.message]⟩])

end TlsState

/-- The choices for a client: a file of certificates goes before a given store, and that before the platform's. -/
structure ClientTls where
  caFile : Option (String × Option String) := none
  store : Option RootStore := none
  maxSessions : Nat := 8

namespace ClientTls

structure Built where
  roots : RootStore
  sendsName : Bool := true
  showsCertificate : Bool := false
deriving DecidableEq, Repr

def build (c : ClientTls) (s : TlsState) : Except TlsError (Built × List Event) :=
  match c.caFile, c.store, s.roots with
  | some (path, text), _, _ => (loadCaFile path text).map fun (roots, events) ↦ ({ roots }, events)
  | none, some roots, _ => .ok ({ roots }, [])
  | none, none, some roots => .ok ({ roots }, [])
  | none, none, none => .error .rootsMissing

end ClientTls
end MetricRelay.Tls
