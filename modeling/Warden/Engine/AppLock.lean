import Warden.Engine.Basic

namespace Warden

/-!
# App lock

A protected app that comes to the foreground is blocked by a prompt for the PIN unless it has an
open session.

* `LockDecision` — the answer to an app in the foreground.
* `Engine.foreground`, `Engine.grant` — an app comes up, and its PIN was entered.
* `Engine.protect`, `Engine.unprotect`, `Engine.setProtected`, `Engine.setAppLock` — what is locked.
-/

/-- The answer to an app that comes to the foreground or leaves it. -/
inductive LockDecision where
  /-- The app is protected and has an open session. -/
  | allow
  /-- The app is protected and locked, and its prompt is shown. -/
  | block
  | notProtected
  /-- The app left the foreground, or app lock is off. -/
  | ignored
  deriving DecidableEq

/-- The name of a decision. -/
def LockDecision.name : LockDecision → String
  | .allow => "allow"
  | .block => "block"
  | .notProtected => "not_protected"
  | .ignored => "ignored"

namespace Engine

/-- What a prompt says. -/
def lockMessage : String := "Enter your PIN to open this app."

/-! ### Protected apps -/

/-- Whether an app is protected. -/
def isProtected (e : Engine) (app : String) : Bool := e.protectedApps.contains app

/-- Protects an app. -/
def protect (e : Engine) (app : String) : Engine :=
  { e with protectedApps := e.protectedApps.insert app }

/-- Protects an app no longer, and ends its session. -/
def unprotect (e : Engine) (app : String) : Engine :=
  if e.isProtected app then
    { e with
      protectedApps := e.protectedApps.erase app
      sessions := (e.sessions.revoke app).1 }
  else e

/-- Protects exactly some apps, and ends the sessions of all others. -/
def setProtected (e : Engine) (apps : AppSet) : Engine :=
  { e with protectedApps := apps, sessions := (e.sessions.retain apps.contains).1 }

/-- Switches app lock. Switching it off ends all sessions and takes the pending prompt away. -/
def setAppLock (e : Engine) (on : Bool) : Outcome Engine Unit :=
  let e := { e with appLockEnabled := on }
  if on then .answering e ()
  else
    -- The prompt can no longer be answered, so it must not stay on the screen.
    let e' := { e with sessions := e.sessions.clear.1, pendingLock := none }
    match e.pendingLock with
    | none => .answering e' ()
    | some app => ⟨e', (), [.surface (.hide (.appLock app))]⟩

/-! ### Apps in the foreground -/

/-- An app comes to the foreground or leaves it. -/
def foreground (e : Engine) (host : Host) (app : String) (foregrounded : Bool) :
    Outcome Engine LockDecision :=
  if e.stopped || !e.appLockEnabled || !foregrounded then .answering e .ignored
  else if !e.isProtected app then .answering e .notProtected
  else
    let (sessions, unlocked) := e.sessions.check app host.now
    let e := { e with sessions }
    if unlocked then .answering e .allow
    else
      ⟨{ e with pendingLock := some app }, .block,
        [.surface (.show (.appLock app) lockMessage)]⟩

/-- An app is still seen in the foreground. -/
def touch (e : Engine) (host : Host) (app : String) : Engine :=
  if e.stopped then e else { e with sessions := e.sessions.touch app host.now }

/-- The right PIN was entered for an app. -/
def grant (e : Engine) (host : Host) (app : String) : Outcome Engine Unit :=
  if e.stopped then .answering e ()
  else
    let e := { e with sessions := e.sessions.grant app host.now }
    if e.pendingLock = some app then
      ⟨{ e with pendingLock := none }, (), [.surface (.hide (.appLock app))]⟩
    else .answering e ()

/-- Whether an app is unlocked, which keeps its session alive. -/
def isUnlocked (e : Engine) (host : Host) (app : String) : Outcome Engine Bool :=
  let (sessions, unlocked) := e.sessions.check app host.now
  .answering { e with sessions } unlocked

/-- Ends the session of an app, and whether there was an entry. -/
def revoke (e : Engine) (app : String) : Outcome Engine Bool :=
  let (sessions, had) := e.sessions.revoke app
  .answering { e with sessions } had

/-- The screen goes off. -/
def screenOff (e : Engine) : Engine :=
  if e.relockOnScreenOff then { e with sessions := e.sessions.clear.1 } else e

/-- Removes the sessions that are over, and how many there were. -/
def sweep (e : Engine) (host : Host) : Outcome Engine Nat :=
  let (sessions, removed) := e.sessions.sweep host.now
  .answering { e with sessions } removed

end Engine

end Warden
