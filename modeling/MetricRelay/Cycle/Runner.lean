import MetricRelay.Cycle.Orchestrator
import MetricRelay.Text.Duration

namespace MetricRelay

inductive RunnerPhase
  | idle
  | ticking
  | draining
deriving DecidableEq, Repr, Inhabited

inductive RunnerAction
  | start
  | tick
  /-- A call that a tick has arranged is made. -/
  | enter
  | stop
  | leave
  | cycle (action : CycleAction)
deriving DecidableEq, Repr

/-- `waiting` counts the calls that are arranged, and `started` are those that the runner has made since its start. -/
structure RunnerState where
  cycles : CycleState := {}
  phase : RunnerPhase := .idle
  waiting : Nat := 0
  started : List Nat := []

/-- The orchestrator of a runner, and the nanoseconds between two ticks. -/
structure Runner extends Orchestrator where
  interval : Nat

namespace Runner

def isActive (s : CycleState) (call : Nat) : Bool := s.calls[call]?.any CycleStage.isActive

def inFlight (s : RunnerState) : Nat := s.waiting + s.started.countP (isActive s.cycles)

def step? (r : Runner) (s : RunnerState) : RunnerAction → Option RunnerState
  | .start => if s.phase = .idle then some { s with phase := .ticking, started := [] } else none
  | .tick => if s.phase = .ticking then some { s with waiting := s.waiting + 1 } else none
  | .enter =>
    match s.waiting with
    | 0 => none
    | waiting + 1 => (r.toOrchestrator.step? s.cycles .call).map fun cycles ↦
        { s with cycles, waiting, started := s.started ++ [s.cycles.calls.length] }
  | .stop => if s.phase = .ticking then some { s with phase := .draining } else none
  | .leave => if s.phase = .draining ∧ inFlight s = 0 then some { s with phase := .idle } else none
  | .cycle action => (r.toOrchestrator.step? s.cycles action).map fun cycles ↦ { s with cycles }

def run? (r : Runner) (s : RunnerState) (actions : List RunnerAction) : Option RunnerState :=
  actions.foldlM r.step? s

def events (r : Runner) (s : RunnerState) : RunnerAction → List Log.Event
  | .start => [Orchestrator.event .info "Starting collection cycles."
      [.ofNat "collectors" r.collectors.length, .ofText "interval" (Text.duration r.interval)]]
  | .tick => []
  | .enter => r.toOrchestrator.events s.cycles .call
  | .stop => [Orchestrator.event .debug "Waiting for in-flight collection cycles."
      [.ofNat "in_flight" (inFlight s)]]
  | .leave => []
  | .cycle action => r.toOrchestrator.events s.cycles action

end Runner
end MetricRelay
