import Warden.Program.Basic
import Warden.Wire.Dispatch

namespace Warden.Program

/-!
# Running the engine

An engine serves the host: it reads requests line by line, and writes messages. Only one engine runs
at a time.

* `Serving` — a running engine, with what it needs to act on the disk.
* `openService` — takes the lock, and starts the engine over what is stored.
* `Serving.readLine`, `Serving.advance`, `Serving.reload`, `Serving.close` — what happens to it,
  with the messages that come of it.
* `serve` — the whole life of an engine whose input comes all at once.
-/

/-- A running engine. -/
structure Serving where
  service : Service
  stateDir : String
  /-- Whether events are recorded. -/
  audited : Bool
  lock : String

variable {m : Type → Type} [Monad m] [Disk m]

/-- Does to the disk what an effect asks for. Nobody hears of it if that fails. All entries of one
step carry the same time. -/
def carryOut (s : Serving) (time : String) : Effect → m Unit
  | .save p => StateFile.save s.stateDir p
  | .record r => do
    if s.audited then
      let _ ← (Audit.report s.stateDir ⟨r, "engine"⟩ time).run
    return ()
  | _ => return ()

/-- Takes the lock for the engine. -/
def takeLock (o : Occasion) (lock : String) : ExceptT Failure m Unit := do
  (InstanceLock.prepare lock).adapt Failure.io
  if !(← (InstanceLock.acquire lock o.process).adapt Failure.io) then
    throw (.alreadyRuns lock (← liftM (InstanceLock.holder? lock : m (Option Nat))))

/-- The stored state for an engine. -/
def storedState (stateDir : String) : ExceptT Failure m Persisted :=
  (StateFile.load stateDir).adapt fun f =>
    .io { f with purpose := some "Failed to load engine state" }

/-- Starts an engine for the app of a package. The lock is free again if that fails. -/
def openService (o : Occasion) (l : Loaded) (package : String) : ExceptT Failure m Serving := do
  let lock := l.paths.instanceLock
  takeLock o lock
  let start : ExceptT Failure m Serving := do
    match l.config.settings with
    | .error f => throw (.settings f)
    | .ok settings =>
      let stored ← storedState l.paths.stateDir
      return ⟨.start (.start settings stored) package o.now, l.paths.stateDir,
        l.config.audit.enabled, lock⟩
  -- Whatever keeps the engine from starting, the next one has to find the lock free.
  tryCatch start fun f => do
    liftM (Disk.unlock lock : m Unit)
    throw f

namespace Serving

/-- Carries out the effects of a step, and gives the messages that it sends by itself. -/
def settle (s : Serving) (time : String) (step : Outcome Service α) :
    m (Serving × List Wire.Message) := do
  step.effects.forM (carryOut s time)
  return ({ s with service := step.state }, Wire.messagesOf step.effects)

/-- Reads a line of input. -/
def readLine (s : Serving) (time line : String) :
    m (Serving × Wire.Flow × List Wire.Message) := do
  let (service, handled) := Wire.handleLine s.service line
  let s := { s with service }
  match handled with
  | none => return (s, .stop, [])
  | some h =>
    h.effects.forM (carryOut s time)
    return (s, h.flow, h.messages)

/-- Lets time go by. -/
def advance (s : Serving) (time : String) (span : Nat) : m (Serving × List Wire.Message) :=
  s.settle time (s.service.advance span)

/-- Puts new settings in force. -/
def reload (s : Serving) (time : String) (settings : Settings) :
    m (Serving × List Wire.Message) :=
  match s.service.call fun e _ => e.reload settings with
  | none => return (s, [])
  | some step => s.settle time step

/-- Stops the engine, unless it has stopped, and frees the lock. -/
def close (s : Serving) (time : String) : m (List Wire.Message) := do
  let messages ←
    match s.service.stop with
    | none => pure []
    | some step => do
      let (_, messages) ← s.settle time step
      pure messages
  Disk.unlock s.lock
  return messages

/-- Reads lines until the host asks for the end. -/
def readLines (s : Serving) (time : String) :
    List String → m (Serving × List Wire.Message)
  | [] => return (s, [])
  | line :: rest => do
    match ← s.readLine time line with
    | (s, .stop, messages) => return (s, messages)
    | (s, .proceed, messages) =>
      let (s, more) ← s.readLines time rest
      return (s, messages ++ more)

end Serving

/-- The life of an engine whose input comes all at once, with the lines that it writes. -/
def serve (o : Occasion) (l : Loaded) (package : String) (input : List String) :
    ExceptT Failure m (List String) := do
  let s ← openService o l package
  let (s, messages) ← liftM (s.readLines o.time input : m (Serving × List Wire.Message))
  let last ← liftM (s.close o.time : m (List Wire.Message))
  return (messages ++ last).map Wire.Message.line

end Warden.Program
