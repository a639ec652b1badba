import Warden.Config.Key
import Warden.Settings

namespace Warden.Config

/-!
# What an engine can run with

Not every configuration makes sense: durations have to be durations, and some must not be zero.

* `Invalid` — why a configuration makes no sense.
* `validate` — the first reason, if there is one.
* `settings` — the values that an engine runs with.
* `set` — an edit by key, which is only kept if the result makes sense.
-/

/-- Why a configuration makes no sense. -/
inductive Invalid where
  | badDuration (key : Key) (fault : Duration.Fault)
  | zero (key : Key)
  deriving DecidableEq

/-- The wording of an invalid configuration. -/
def Invalid.message : Invalid → String
  | .badDuration k f => k.name ++ ": " ++ f.message
  | .zero k => k.name ++ " must be greater than zero"

/-- The wording of an engine that cannot start. -/
def Invalid.engineMessage (i : Invalid) : String :=
  "invalid engine configuration: " ++ i.message

/-- The duration under a key. -/
def duration (c : Config) (k : Key) : Except Invalid Duration :=
  (Duration.parse (c.get k)).mapError (.badDuration k)

/-- Checks that the duration under a key is one, and not zero. -/
def checkPositive (c : Config) (k : Key) : Except Invalid Unit := do
  if (← c.duration k).millis = 0 then throw (.zero k)

/-- Checks that a configuration makes sense. Any list of keywords does: that its regular expression
can be built, whose size is limited, is not checked here. -/
def validate (c : Config) : Except Invalid Unit := do
  c.checkPositive .sessionTimeout
  c.checkPositive .sweepInterval
  let _ ← c.duration .bypassDuration
  let _ ← c.duration .gracePeriod
  if c.keyword.countdown = 0 then throw (.zero .countdown)

/-- The values that an engine runs with. -/
def settings (c : Config) : Except Invalid Settings := do
  let sessionTimeout ← c.duration .sessionTimeout
  let sweepInterval ← c.duration .sweepInterval
  let bypassDuration ← c.duration .bypassDuration
  let gracePeriod ← c.duration .gracePeriod
  return {
    appLockEnabled := c.lock.enabled
    protectedApps := .ofList c.lock.protectedApps
    sessionTimeout
    sweepInterval
    relockOnScreenOff := c.lock.relockOnScreenOff
    tamperEnabled := c.tamper.enabled
    bypassDuration
    failClosed := Category.inOrder c.tamper.failClosed
    clearRecents := c.tamper.clearRecents
    keywordEnabled := c.keyword.enabled
    keywords := c.keyword.keywords
    countdown := c.keyword.countdown
    gracePeriod }

/-! ### Edits -/

/-- Why an edit is refused. -/
inductive EditFault where
  | unknownKey (name : String)
  | mismatch (fault : Mismatch)
  | invalid (fault : Invalid)
  deriving DecidableEq

/-- The wording of a refused edit. -/
def EditFault.message : EditFault → String
  | .unknownKey name => "Unknown config key: " ++ name
  | .mismatch f => f.message
  | .invalid f => f.message

/-- The key with a name, as an edit needs it. -/
def keyOf (name : String) : Except EditFault Key :=
  match Key.ofName? name with
  | some k => .ok k
  | none => .error (.unknownKey name)

/-- The configuration after an edit. -/
def edit (c : Config) (k : Key) (s : String) : Except EditFault Config := do
  -- The whole result is checked, so an edit also fails for a fault that was there before.
  let edited ← (c.assign k s).mapError .mismatch
  edited.validate.mapError .invalid
  return edited

/-- The configuration after an edit under a name. -/
def set (c : Config) (name s : String) : Except EditFault Config := do c.edit (← keyOf name) s

/-- The value under a name as text. -/
def value (c : Config) (name : String) : Except EditFault String := do
  return c.get (← keyOf name)

end Warden.Config
