import Warden.Timer

namespace Warden

/-!
# Pending timers

The timers that were set and have neither delivered their events nor been cancelled.

* `Timers` — they in the order in which they were set, with the number of the last one.
* `Timers.perform now call` — what a call at the time `now` makes of them.
* `Timers.firstDue? limit` — the timer that is over first, if one is until `limit`.
-/

/-- A timer, and when it is over. -/
structure PendingTimer where
  id : TimerId
  due : Nat
  event : TimerEvent
  deriving DecidableEq

/-- The pending timers. -/
structure Timers where
  /-- The number that was given out last; a natural number, so no two timers share one. -/
  last : TimerId
  pending : List PendingTimer

namespace Timers

/-- No timer has been set. -/
def empty : Timers := ⟨0, []⟩

/-- The number of the next timer. -/
def next (t : Timers) : TimerId := t.last + 1

/-- The timers without one of them. -/
def remove (t : Timers) (id : TimerId) : Timers :=
  { t with pending := t.pending.filter (·.id != id) }

/-- The timers after a call. -/
def perform (t : Timers) (now : Nat) : Timer.Call → Timers
  | .schedule id delay event => ⟨id, t.pending ++ [⟨id, now + delay.millis, event⟩]⟩
  | .cancel id => t.remove id
  | .cancelAll => { t with pending := [] }

/-- The timer of a list that is over first; of two, the one set first. -/
def earliest : List PendingTimer → Option PendingTimer
  | [] => none
  | a :: rest =>
    match earliest rest with
    | none => some a
    | some b => if b.due < a.due then some b else some a

/-- The timer that is over first, if one is until `limit`. -/
def firstDue? (t : Timers) (limit : Nat) : Option PendingTimer :=
  (earliest t.pending).filter (·.due ≤ limit)

end Timers

end Warden
