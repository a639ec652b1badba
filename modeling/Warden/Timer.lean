import Warden.Duration

namespace Warden

/-!
# Timers

A countdown and a grace period end by timers. A timer carries an event that is delivered once its
delay is over; several deliveries may be under way at once, so an event names the generation of
the phase it was set for.

* `TimerEvent` — what a timer delivers.
* `Timer.Call` — what is asked of whoever runs the timers.
-/

/-- What a timer delivers. -/
inductive TimerEvent where
  /-- One second of the countdown of an app is over. -/
  | tick (app : String) (generation : Nat)
  /-- The grace period of an app is over. -/
  | grace (app : String) (generation : Nat)
  deriving DecidableEq

/-- The app an event is about. -/
def TimerEvent.app : TimerEvent → String
  | .tick app _ => app
  | .grace app _ => app

/-- The generation an event was set for. -/
def TimerEvent.generation : TimerEvent → Nat
  | .tick _ g => g
  | .grace _ g => g

/-- The number of a timer. Numbers are given out in turn by a counter that has no upper end, where
one of 64 bits would come round after `2 ^ 64` timers. -/
abbrev TimerId := Nat

/-- What is asked of whoever runs the timers. -/
inductive Timer.Call where
  | schedule (id : TimerId) (delay : Duration) (event : TimerEvent)
  | cancel (id : TimerId)
  | cancelAll
  deriving DecidableEq

end Warden
