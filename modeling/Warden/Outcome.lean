import Warden.Audit.Entry
import Warden.Persisted
import Warden.Surface
import Warden.Timer

namespace Warden

/-!
# Outcomes of steps

Every part of the engine moves by steps. A step answers, leaves a new state behind and asks for
effects outside; it performs none of them itself.

* `Effect` — something to be done outside, in the order of the list.
* `Outcome σ α` — the new state, the answer and the effects of a step.
* `Clock`, `Host` — what a step can see of the outside.
-/

/-- Something a step asks for. -/
inductive Effect where
  | surface (action : Surface.Action)
  | timer (call : Timer.Call)
  /-- The state that outlives a restart has changed. -/
  | save (state : Persisted)
  | record (record : Audit.Record)
  deriving DecidableEq

/-- What a step leaves behind. -/
structure Outcome (σ α : Type) where
  state : σ
  answer : α
  effects : List Effect := []

namespace Outcome

/-- A step that only answers. -/
def answering (state : σ) (answer : α) : Outcome σ α := ⟨state, answer, []⟩

/-- The step after which another one is taken. -/
def bind (o : Outcome σ α) (next : α → σ → Outcome σ β) : Outcome σ β :=
  let p := next o.answer o.state
  ⟨p.state, p.answer, o.effects ++ p.effects⟩

/-- The step of a part as a step of the whole. -/
def within (o : Outcome σ α) (put : σ → τ) : Outcome τ α := ⟨put o.state, o.answer, o.effects⟩

/-- The same step with further effects. -/
def also (o : Outcome σ α) (effects : List Effect) : Outcome σ α :=
  { o with effects := o.effects ++ effects }

/-- The same step with another answer. -/
def map (f : α → β) (o : Outcome σ α) : Outcome σ β := ⟨o.state, f o.answer, o.effects⟩

end Outcome

/-- What a step sees of the time of day, in milliseconds. No step reads the clock more often than
twice, and between its readings the clock may move. -/
structure Clock where
  first : Nat
  second : Nat
  deriving DecidableEq

/-- A clock that stands still shows the same time twice. -/
instance : Coe Nat Clock := ⟨fun time => ⟨time, time⟩⟩

/-- What a step sees of the outside. -/
structure Host where
  clock : Clock
  /-- Whether a capability is active; `none` if nobody can tell. -/
  capability : Capability → Option Bool
  /-- The text on the screen of an app, if it can be read. -/
  screenText : String → Option String
  /-- Whether a settings page is about the protected app. -/
  targeting : Navigation → Targeting
  /-- The number that the next timer gets. -/
  nextTimer : TimerId

namespace Host

/-- The time of the first reading of the clock. -/
abbrev now (h : Host) : Nat := h.clock.first

/-- The outside by the time of the second reading of the clock. -/
def later (h : Host) : Host := { h with clock := h.clock.second }

end Host

namespace Effect

/-- The action on the screen that an effect is. -/
def surface? : Effect → Option Surface.Action
  | .surface a => some a
  | _ => none

/-- Why an effect sends a user home. -/
def home? (x : Effect) : Option HomeReason := x.surface?.bind Surface.Action.home?

/-- The call to the timers that an effect is. -/
def timer? : Effect → Option Timer.Call
  | .timer c => some c
  | _ => none

/-- The event that an effect writes to the audit log. -/
def record? : Effect → Option Audit.Record
  | .record r => some r
  | _ => none

/-- The state that an effect saves. -/
def save? : Effect → Option Persisted
  | .save p => some p
  | _ => none

end Effect

end Warden
