import MetricRelay.Cycle.Runner

namespace MetricRelay

/-- A collection as it would go if it were not cancelled: after `delay` it changes the statistics and the conditions,
and ends. A cancelled one ends then without having done anything. -/
structure ScriptedCollection where
  delay : Nat := 0
  amounts : List Stats := []
  observations : List (String × String × String) := []
  log : List Log.Event := []
  ending : CollectionEnd := .succeeded

structure Timetable where
  runner : Runner
  script : (collector n : Nat) → ScriptedCollection
  cancelledAt : Option Nat := none

/-- How far time has come. `due` are the ends of the collections of the active cycle, which began at `began`, and `runs`
counts the collections of each collector so far. Of two things at one moment, that which was arranged first happens
first: a collection is arranged when its cycle begins, a tick at the tick before it, a cancellation before all else. -/
structure Clock where
  state : RunnerState := {}
  runs : List Nat
  began : Nat := 0
  call : Nat := 0
  due : List (Nat × Nat) := []
  log : List Log.Event := []

namespace Timetable

def perform (t : Timetable) (c : Clock) (action : RunnerAction) : Clock :=
  match t.runner.step? c.state action with
  | none => c
  | some state => { c with state, log := c.log ++ t.runner.events c.state action }

def performAll (t : Timetable) (c : Clock) (actions : List RunnerAction) : Clock := actions.foldl t.perform c

def conclude (t : Timetable) (c : Clock) : Clock :=
  if c.due.isEmpty then t.performAll c [.cycle (.report c.call), .cycle (.release c.call)] else c

def present (t : Timetable) (c : Clock) (collector : Nat) : ScriptedCollection :=
  t.script collector (c.runs[collector]?.getD 0)

/-- Lets collections begin whose cycle has just been called for, unless the call was refused. -/
def beginCollections (t : Timetable) (moment call : Nat) (c : Clock) : Clock :=
  if Runner.isActive c.state.cycles call then
    let ends := (List.range t.runner.collectors.length).map fun i ↦ (moment + (t.present c i).delay, i)
    t.conclude { c with
      began := moment
      call
      due := ends.mergeSort fun a b ↦ a.1 ≤ b.1
      runs := c.runs.map (· + 1) }
  else c

def callCycle (t : Timetable) (actions : List RunnerAction) (moment : Nat) (c : Clock) : Clock :=
  t.beginCollections moment c.state.cycles.calls.length (t.performAll c actions)

def begun (t : Timetable) (c : Clock) (collector : Nat) : ScriptedCollection :=
  t.script collector ((c.runs[collector]?.getD 0) - 1)

def finish (t : Timetable) (c : Clock) (moment collector : Nat) : Clock :=
  if t.cancelledAt.any (· ≤ moment) then t.perform c (.cycle (.finish c.call collector .succeeded))
  else
    let s := t.begun c collector
    t.performAll { c with log := c.log ++ s.log } <|
      (s.amounts.map fun amount ↦ .cycle (.change c.call collector amount)) ++
      (s.observations.map fun (node, condition, status) ↦
        .cycle (.observe c.call collector node condition status)) ++
      [.cycle (.finish c.call collector s.ending)]

def finishDue (t : Timetable) (reached : Nat → Bool) : List (Nat × Nat) → Clock → Clock
  | [], c => { c with due := [] }
  | (moment, collector) :: rest, c =>
    if reached moment then t.finishDue reached rest (t.finish c moment collector)
    else { c with due := (moment, collector) :: rest }

/-- Lets time pass. The last collection ends the cycle with it. -/
def advance (t : Timetable) (reached : Nat → Bool) (c : Clock) : Clock :=
  if c.due.isEmpty then c else t.conclude (t.finishDue reached c.due c)

def callAt (t : Timetable) (actions : List RunnerAction) (c : Clock) (arranged moment : Nat) : Clock :=
  t.callCycle actions moment <|
    t.advance (fun m ↦ m < moment || (m = moment && c.began < arranged)) c

def complete (t : Timetable) (c : Clock) : Clock := t.advance (fun _ ↦ true) c

def cycle (t : Timetable) (c : Clock) : Clock :=
  t.complete (t.callCycle [.cycle .call] 0 c)

def overlap (t : Timetable) (after : Nat) (c : Clock) : Clock :=
  t.complete (t.callAt [.cycle .call] (t.callCycle [.cycle .call] 0 c) 0 after)

def tickCount (t : Timetable) (moment : Nat) : Nat :=
  (moment + t.runner.interval - 1) / t.runner.interval

def start (t : Timetable) (c : Clock) : Clock := t.perform { c with began := 0 } .start

def tick (t : Timetable) (c : Clock) (n : Nat) : Clock :=
  t.callAt [.tick, .enter] c ((n - 1) * t.runner.interval) (n * t.runner.interval)

def tickUntil (t : Timetable) (moment : Nat) (c : Clock) : Clock :=
  t.advance (· < moment) ((List.range (t.tickCount moment)).foldl t.tick (t.start c))

def stop (t : Timetable) (c : Clock) : Clock :=
  t.perform (t.complete (t.perform c .stop)) .leave

def run (t : Timetable) (moment : Nat) (c : Clock) : Clock := t.stop (t.tickUntil moment c)

end Timetable
end MetricRelay
