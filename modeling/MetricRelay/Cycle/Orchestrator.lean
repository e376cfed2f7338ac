import MetricRelay.Cycle.Lease
import MetricRelay.Log.Event
import MetricRelay.NodeConditions
import MetricRelay.Stats
import MetricRelay.Text.Causes

namespace MetricRelay

inductive CollectionEnd
  | succeeded
  | failed (chain : List String)
  | crashed (reason : String)
deriving DecidableEq, Repr

structure CycleReport where
  succeeded : Nat := 0
  failed : Nat := 0
  stats : Stats := {}
deriving DecidableEq, Repr, Inhabited

def CycleReport.count (r : CycleReport) : CollectionEnd → CycleReport
  | .succeeded => { r with succeeded := r.succeeded + 1 }
  | _ => { r with failed := r.failed + 1 }

inductive CycleStage
  | refused
  /-- The collectors whose collection goes on, and the count of the others. -/
  | collecting (pending : List Nat) (counted : CycleReport)
  /-- The statistics are taken out, and the lease is still held. -/
  | reported (report : CycleReport)
  | returned (report : CycleReport)
deriving DecidableEq, Repr

namespace CycleStage

def isActive : CycleStage → Bool
  | collecting _ _ => true
  | reported _ => true
  | _ => false

def isPending (collector : Nat) : CycleStage → Bool
  | collecting pending _ => pending.contains collector
  | _ => false

def report? : CycleStage → Option CycleReport
  | returned report => some report
  | _ => none

end CycleStage

/-- One thing that happens. Calls and collectors go by their place. -/
inductive CycleAction
  | call
  | change (call collector : Nat) (amount : Stats)
  | observe (call collector : Nat) (node condition status : String)
  | finish (call collector : Nat) (ending : CollectionEnd)
  | report (call : Nat)
  | release (call : Nat)
deriving DecidableEq, Repr

structure CycleState where
  lease : Lease := {}
  stats : Stats := {}
  conditions : NodeConditions := .empty
  calls : List CycleStage := []

structure Orchestrator where
  collectors : List String

namespace Orchestrator

def isCollecting (s : CycleState) (call collector : Nat) : Bool := s.calls[call]?.any (·.isPending collector)

/-- What an action makes of a state, none if it cannot happen there. -/
def step? (o : Orchestrator) (s : CycleState) : CycleAction → Option CycleState
  | .call =>
    match s.lease.acquire? with
    | none => some { s with calls := s.calls ++ [.refused] }
    | some taken =>
      some { s with lease := taken, calls := s.calls ++ [.collecting (List.range o.collectors.length) {}] }
  | .change call collector amount =>
    if isCollecting s call collector then some { s with stats := s.stats.add amount } else none
  | .observe call collector node condition status =>
    if isCollecting s call collector then some { s with conditions := s.conditions.update node condition status }
    else none
  | .finish call collector ending =>
    match s.calls[call]? with
    | some (.collecting pending counted) =>
      if pending.contains collector then
        some { s with calls := s.calls.set call (.collecting (pending.erase collector) (counted.count ending)) }
      else none
    | _ => none
  | .report call =>
    match s.calls[call]? with
    | some (.collecting [] counted) =>
      some { s with stats := {}, calls := s.calls.set call (.reported { counted with stats := s.stats }) }
    | _ => none
  | .release call =>
    match s.calls[call]? with
    | some (.reported report) =>
      some { s with lease := s.lease.release, calls := s.calls.set call (.returned report) }
    | _ => none

def run? (o : Orchestrator) (s : CycleState) (actions : List CycleAction) : Option CycleState :=
  actions.foldlM o.step? s

def event (level : Log.Level) (message : String) (fields : List Log.Field) : Log.Event :=
  ⟨level, .cycles, message, fields⟩

def reportEvent (s : CycleState) (counted : CycleReport) : Log.Event :=
  event .info "Collection cycle complete." [.ofNat "succeeded" counted.succeeded, .ofNat "failed" counted.failed,
    ⟨"sent", .uint s.stats.sent⟩, ⟨"received", .uint s.stats.received⟩, ⟨"filtered", .uint s.stats.filtered⟩,
    ⟨"broker_filtered", .uint s.stats.brokerFiltered⟩, ⟨"sent_bytes", .uint s.stats.sentBytes⟩,
    ⟨"sent_bytes_wire", .uint s.stats.sentBytesWire⟩, .ofNat "tracked_node_conditions" s.conditions.size]

def events (o : Orchestrator) (s : CycleState) : CycleAction → List Log.Event
  | .call =>
    if s.lease.held then [event .warn "Previous collection cycle still running. Skipping." []] else []
  | .finish _ collector (.failed chain) =>
    [event .error "Collection failed." [.ofText "source" (o.collectors[collector]?.getD ""),
      .ofText "error" (Text.withCauses chain)]]
  | .finish _ _ (.crashed reason) => [event .error "Collection task failed." [.ofText "error" reason]]
  | .report call =>
    match s.calls[call]? with
    | some (.collecting _ counted) => [reportEvent s counted]
    | _ => []
  | _ => []

end Orchestrator
end MetricRelay
