import Warden.Engine.Basic

namespace Warden.Engine

/-!
# The bypass window of the engine

The engine passes on to the window, and tells the audit log when it opens and when it closes.

* `complete`, `poll`, `clearBypass` — opening, reading and closing.
* `gate` — whether tamper attempts are to be blocked; it takes a second look at the clock.
-/

/-- A challenge was completed. -/
def complete (e : Engine) (host : Host) : Outcome Engine Unit :=
  ((e.bypass.complete host.now).within fun bypass => { e with bypass }).also
    [.record ⟨.bypassGranted, "", none⟩]

/-- What the log hears about a reading of the window. -/
def expiryRecord : WindowState → List Effect
  | .justExpired => [.record ⟨.bypassExpired, "", none⟩]
  | _ => []

/-- Reads the window. -/
def poll (e : Engine) (host : Host) : Outcome Engine WindowState :=
  let o := (e.bypass.poll host.now).within fun bypass => { e with bypass }
  o.also (expiryRecord o.answer)

/-- Whether the window is open. -/
def withinBypass (e : Engine) (host : Host) : Outcome Engine Bool :=
  (e.poll host).map WindowState.isActive

/-- What is left of the window. -/
def remainingBypass (e : Engine) (host : Host) : Outcome Engine Nat :=
  (e.poll host).map WindowState.remaining

/-- Closes the window early. -/
def clearBypass (e : Engine) : Outcome Engine Unit :=
  let o := e.bypass.clear.within fun bypass => { e with bypass }
  (o.also (if o.answer then [.record ⟨.bypassCleared, "", some "admin"⟩] else [])).map fun _ => ()

/-- Whether tamper attempts are to be blocked. The log hears of a window that has run out by the
first reading of the clock; by the second one, the window may have run out all the same. -/
def gate (e : Engine) (host : Host) : Outcome Engine Bool :=
  (e.poll host).bind fun _ e =>
    (e.bypass.gate host.later.now).within fun bypass => { e with bypass }

/-- Whether a capability is active. -/
def confirm (e : Engine) (host : Host) (c : Capability) : Outcome Engine Bool :=
  (e.bypass.confirm c (host.capability c)).within fun bypass => { e with bypass }

/-- What is known about the capabilities. -/
def capabilities (e : Engine) : CapabilityTable := e.bypass.stored.capabilities

end Warden.Engine
