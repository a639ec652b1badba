import Warden.Engine.Lifecycle
import Warden.Timers

namespace Warden

/-!
# The engine in time

An engine together with what the host has reported and with the timers and sweeps that move it while
time goes by.

* `Reports` — what the host has reported.
* `Service` — the whole; it counts time from its start and knows the time of day at the start.
* `Service.call` — one step of the engine, unless it has stopped.
* `Service.advance` — time goes by: what becomes due happens in the order of its time.
-/

/-! ### Reports -/

/-- What the host has reported. -/
structure Reports where
  capabilities : CapabilityTable
  /-- The last text that each app showed. -/
  texts : AppTable String

/-- No reports yet. -/
def Reports.empty : Reports := ⟨.empty, .empty⟩

/-! ### The service -/

/-- An engine in time. -/
structure Service where
  engine : Engine
  timers : Timers
  reports : Reports
  /-- The package of the protected app. -/
  package : String
  /-- The milliseconds since the start. -/
  elapsed : Nat
  /-- The time of day at the start, moved along with every jump of the clock. -/
  origin : Nat
  /-- The milliseconds by which the clock moves on while the engine takes a step. -/
  lag : Nat
  /-- The milliseconds between two sweeps. -/
  sweepEvery : Nat
  nextSweep : Nat
  running : Bool

namespace Service

/-- A service that starts at a time of day. The first sweep comes one interval later. -/
def start (engine : Engine) (package : String) (origin : Nat) : Service :=
  let every := max engine.sweepInterval.millis 1
  { engine, timers := .empty, reports := .empty, package, elapsed := 0, origin, lag := 0
    sweepEvery := every, nextSweep := every, running := true }

/-- The time of day once the clock has moved on by some milliseconds. -/
def timeOfDay (s : Service) (lag : Nat) : Nat := (s.origin + s.elapsed + lag) % Number.wordCount

/-- What the engine sees. -/
def host (s : Service) : Host where
  clock := ⟨s.timeOfDay 0, s.timeOfDay s.lag⟩
  capability := s.reports.capabilities.get?
  screenText := s.reports.texts.get?
  targeting := Navigation.targeting s.package
  nextTimer := s.timers.next

/-- The service after a step of its engine. -/
def after (s : Service) (o : Outcome Engine α) : Outcome Service α where
  state := { s with
    engine := o.state
    timers := (o.effects.filterMap Effect.timer?).foldl (·.perform s.elapsed ·) s.timers }
  answer := o.answer
  effects := o.effects

/-- One step of the engine; there is none once it has stopped. -/
def call (s : Service) (step : Engine → Host → Outcome Engine α) : Option (Outcome Service α) :=
  if s.running then some (s.after (step s.engine s.host)) else none

/-- Stops the engine for good. -/
def stop (s : Service) : Option (Outcome Service Unit) :=
  (s.call fun e _ => e.shutdown).map fun o => { o with state := { o.state with running := false } }

/-! ### Time -/

/-- What happens by itself. -/
inductive Event where
  | timer (t : PendingTimer)
  | sweep

/-- What happens first until `limit`, if anything does. -/
def next? (s : Service) (limit : Nat) : Option Event :=
  if !s.running then none
  else
    match s.timers.firstDue? limit with
    -- At the same moment a timer goes before a sweep.
    | some t => if s.nextSweep < t.due then some .sweep else some (.timer t)
    | none => if s.nextSweep ≤ limit then some .sweep else none

/-- The service at a later time. -/
def atTime (s : Service) (time : Nat) : Service := { s with elapsed := max s.elapsed time }

/-- Lets an event happen. -/
def happen (s : Service) : Event → Outcome Service Unit
  | .timer t =>
    let s := { s.atTime t.due with timers := s.timers.remove t.id }
    s.after (s.engine.timer s.host t.event)
  | .sweep =>
    let s := s.atTime s.nextSweep
    -- The distance counts from the moment of this sweep, which may be later than it was due.
    let s := { s with nextSweep := s.elapsed + s.sweepEvery }
    (s.after (s.engine.sweep s.host)).map fun _ => ()

/-- Lets at most `fuel` events happen that are due until `limit`. -/
def run (limit : Nat) : Nat → Service → Outcome Service Unit
  | 0, s => .answering s ()
  | fuel + 1, s =>
    match s.next? limit with
    | none => .answering s ()
    | some event => (s.happen event).bind fun _ s => run limit fuel s

/-- How many events can be due within a span: each timer starts a row of events one second apart,
and sweeps keep their distance. -/
def mostEvents (s : Service) (span : Nat) : Nat :=
  s.timers.pending.length * (span / 1000 + 2) + span / s.sweepEvery + 2

/-- Time goes by. -/
def advance (s : Service) (span : Nat) : Outcome Service Unit :=
  let limit := s.elapsed + span
  -- After the last event there is still time left until the limit.
  (run limit (s.mostEvents span) s).bind fun _ s => .answering (s.atTime limit) ()

/-- The service once its clock has been set to a time of day. -/
def withClock (s : Service) (now : Nat) : Service := { s with origin := now - s.elapsed }

/-- The clock jumps ahead, but no time goes by. -/
def jump (s : Service) (span : Nat) : Service := { s with origin := s.origin + span }

end Service

end Warden
