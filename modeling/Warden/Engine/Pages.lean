import Warden.Engine.Window

namespace Warden.Engine

/-!
# Settings pages and the engine

A page that is a tamper attempt is covered by a notice, its user is sent home, and the log hears
about it.

* `navigate` — a page enters or leaves the foreground.
* `setTamper` — the switch of tamper protection.
-/

/-- What follows an attempt. -/
def blocking (clearRecents : Bool) (n : Navigation) (c : Category) : List Effect :=
  [.surface (.show (.tamper c) c.message), .surface (.goHome (.tamper c))] ++
    (if clearRecents then [.surface (.clearRecents n)] else []) ++
    [.record ⟨.tamperBlocked, c.name, some n.source.label⟩]

/-- What follows a decision. -/
def afterDecision (clearRecents : Bool) (n : Navigation) : Tamper.Decision → List Effect
  | .trigger attempt => blocking clearRecents n attempt.category
  | _ => []

/-- A settings page enters or leaves the foreground. A window that has run out is closed before the
page is looked at, and then the clock is read again. -/
def navigate (e : Engine) (host : Host) (n : Navigation) : Outcome Engine Tamper.Decision :=
  if e.stopped then .answering e .ignored
  else
    -- The log hears of a window that has run out before it hears of an attempt.
    (e.poll host).bind fun _ e =>
      let o := (e.tamper.decide e.bypass host.later n).within fun (tamper, bypass) =>
        { e with tamper, bypass }
      o.also (afterDecision e.clearRecents n o.answer)

/-- Whether an attempt of a category has been answered and its page is still there. -/
def isTriggered (e : Engine) (c : Category) : Bool := e.tamper.isTriggered c

/-- Switches tamper protection. Switching it off forgets the attempts. -/
def setTamper (e : Engine) (on : Bool) : Outcome Engine Unit :=
  let was := e.bypass.enabled
  let o := (e.bypass.setEnabled on).within fun bypass => { e with bypass }
  if on then o
  else
    { o with state := { o.state with tamper := o.state.tamper.reset } }.also
      (if was then [.record ⟨.protectionDisabled, "tamper", none⟩] else [])

end Warden.Engine
