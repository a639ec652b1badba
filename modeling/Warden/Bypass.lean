import Warden.Outcome

namespace Warden

/-!
# The bypass window

Passing a challenge opens a window of time in which no settings page is blocked. Only the time of
the challenge is stored. Reading a window that has run out closes it for good.

The same part keeps what the host last said about each capability: a page that guards a capability
which is not active yet is still needed to set it up.

* `WindowState` — what reading the window shows.
* `Bypass.poll`, `Bypass.peek` — reading it, with and without closing what has run out.
* `Bypass.gate` — whether tamper attempts are to be blocked.
* `Bypass.confirm` — whether a capability is active.
-/

/-- What reading the window shows. -/
inductive WindowState where
  | inactive
  | active (remaining : Nat)
  /-- The window had run out and was closed by this reading. -/
  | justExpired
  deriving DecidableEq

/-- The milliseconds left of an open window. -/
def WindowState.remaining : WindowState → Nat
  | .active r => r
  | _ => 0

/-- Whether the window is open. -/
def WindowState.isActive : WindowState → Bool
  | .active _ => true
  | _ => false

/-- The bypass window, the stored knowledge about capabilities, and the switch of tamper
protection. -/
structure Bypass where
  stored : Persisted
  /-- The length of the window in milliseconds. -/
  duration : Nat
  enabled : Bool

namespace Bypass

/-- The window over a stored state. -/
def start (stored : Persisted) (duration : Duration) (enabled : Bool) : Bypass :=
  ⟨stored, duration.word, enabled⟩

/-- A new length, against which an open window is measured anew. -/
def setDuration (b : Bypass) (duration : Duration) : Bypass := { b with duration := duration.word }

/-- Stores a new state. -/
def store (b : Bypass) (stored : Persisted) (answer : α) : Outcome Bypass α :=
  ⟨{ b with stored }, answer, [.save stored]⟩

/-- Opens the window at the time of a completed challenge. -/
def complete (b : Bypass) (now : Nat) : Outcome Bypass Unit :=
  b.store { b.stored with completion := some now } ()

/-- What is left of the window. -/
def peek (b : Bypass) (now : Nat) : Nat :=
  match b.stored.completion with
  | none => 0
  | some last => b.duration - (now - last)

/-- Reads the window, and closes it if it has run out. -/
def poll (b : Bypass) (now : Nat) : Outcome Bypass WindowState :=
  match b.stored.completion with
  | none => ⟨b, .inactive, []⟩
  | some last =>
    if now - last < b.duration then ⟨b, .active (b.duration - (now - last)), []⟩
    else b.store { b.stored with completion := none } .justExpired

/-- Closes the window, and whether it was there. -/
def clear (b : Bypass) : Outcome Bypass Bool :=
  if b.stored.completion.isSome then b.store { b.stored with completion := none } true
  else ⟨b, false, []⟩

/-- Switches tamper protection. Switching it off closes the window. -/
def setEnabled (b : Bypass) (on : Bool) : Outcome Bypass Unit :=
  let b := { b with enabled := on }
  if on then ⟨b, (), []⟩
  else
    let o := b.clear
    ⟨o.state, (), o.effects⟩

/-- Whether tamper attempts are to be blocked. -/
def gate (b : Bypass) (now : Nat) : Outcome Bypass Bool :=
  let o := b.poll now
  -- The window is read even if protection is off, so one that has run out is closed in any case.
  ⟨o.state, !o.answer.isActive && o.state.enabled, o.effects⟩

/-- Whether a capability is active, after `report`; a report that failed counts as no. What is new
is stored. -/
def confirm (b : Bypass) (c : Capability) (report : Option Bool) : Outcome Bypass Bool :=
  let active := report.getD false
  if b.stored.capabilities.get? c = some active then ⟨b, active, []⟩
  else b.store { b.stored with capabilities := b.stored.capabilities.set c active } active

end Bypass

end Warden
