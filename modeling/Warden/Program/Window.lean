import Warden.Bypass
import Warden.Program.Basic

namespace Warden.Program

/-!
# Commands on the bypass window

The window of an engine that does not run: what is stored of it is read, and can be closed.

* `windowStatus` — whether the window is open, and for how long.
* `clearWindow` — closes it, unless an engine runs.
-/

variable {m : Type → Type} [Monad m] [Disk m]

/-- The stored window. -/
def storedWindow (l : Loaded) : ExceptT Failure m Bypass := do
  match Duration.parse l.config.tamper.bypassDuration with
  | .error f => throw (.duration f)
  | .ok duration =>
    let stored ← (StateFile.load l.paths.stateDir).adapt Failure.io
    return .start stored duration l.config.tamper.enabled

/-- What is said about a window at a time. -/
def windowText (b : Bypass) (now : Nat) : String :=
  if !b.enabled then "Tamper protection is disabled"
  else if 0 < b.peek now then
    "Bypass window open: " ++ toString ((b.peek now + 999) / 1000) ++ "s remaining"
  else "Bypass window closed"

/-- Whether the window is open, and for how long. -/
def windowStatus (o : Occasion) (l : Loaded) : ExceptT Failure m (List String) := do
  return [windowText (← storedWindow l) o.now]

/-- Makes sure that no engine runs. The lock is free again afterwards. -/
def checkStopped (o : Occasion) (l : Loaded) : ExceptT Failure m Unit := do
  let lock := l.paths.instanceLock
  (InstanceLock.prepare lock).adapt Failure.io
  if ← (InstanceLock.acquire lock o.process).adapt Failure.io then
    liftM (Disk.unlock lock : m Unit)
  else throw .engineRuns

/-- Closes the stored window. -/
def clearWindow (o : Occasion) (l : Loaded) : ExceptT Failure m (List String) := do
  -- A running engine would not notice, and would write its own state again.
  checkStopped o l
  let cleared := (← storedWindow l).clear
  if cleared.answer then
    liftM (StateFile.save l.paths.stateDir cleared.state.stored : m Unit)
    if l.config.audit.enabled then
      (Audit.report l.paths.stateDir ⟨⟨.bypassCleared, "", none⟩, "cli"⟩ o.time).adapt Failure.io
    return ["Bypass window cleared"]
  else return ["No bypass window to clear"]

end Warden.Program
