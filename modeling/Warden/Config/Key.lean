import Warden.Config.Basic
import Warden.Duration

namespace Warden.Config

/-!
# Dotted keys

Every value of the configuration has a key, under which it is read and written as one line.

* `Key` — the keys, with their names.
* `get` — the value of a key as text.
* `assign` — puts a text in place of a value, if the text is of the right kind.
-/

/-- A key of the configuration. -/
inductive Key where
  | lockEnabled
  | protectedApps
  | sessionTimeout
  | sweepInterval
  | relockOnScreenOff
  | tamperEnabled
  | bypassDuration
  | failClosed
  | clearRecents
  | keywordEnabled
  | keywords
  | countdown
  | gracePeriod
  | auditEnabled
  | logLevel
  deriving DecidableEq

namespace Key

/-- All keys, in the order of the sections. -/
def all : List Key :=
  [.lockEnabled, .protectedApps, .sessionTimeout, .sweepInterval, .relockOnScreenOff,
    .tamperEnabled, .bypassDuration, .failClosed, .clearRecents,
    .keywordEnabled, .keywords, .countdown, .gracePeriod,
    .auditEnabled, .logLevel]

/-- The name of a key: its section, a dot, and its name there. -/
def name : Key → String
  | .lockEnabled => "lock.enabled"
  | .protectedApps => "lock.protected_apps"
  | .sessionTimeout => "lock.session_timeout"
  | .sweepInterval => "lock.sweep_interval"
  | .relockOnScreenOff => "lock.relock_on_screen_off"
  | .tamperEnabled => "tamper.enabled"
  | .bypassDuration => "tamper.bypass_duration"
  | .failClosed => "tamper.fail_closed"
  | .clearRecents => "tamper.clear_recents"
  | .keywordEnabled => "keyword.enabled"
  | .keywords => "keyword.keywords"
  | .countdown => "keyword.countdown_secs"
  | .gracePeriod => "keyword.grace_period"
  | .auditEnabled => "audit.enabled"
  | .logLevel => "logging.level"

/-- The key with a name. -/
def ofName? (name : String) : Option Key := (all.map fun k => (k.name, k)).lookup name

/-- A key is found by its name. -/
@[simp] theorem ofName?_name (k : Key) : ofName? k.name = some k := by cases k <;> decide

end Key

/-! ### Values as text -/

/-- A truth value as text. -/
def boolText : Bool → String
  | true => "true"
  | false => "false"

/-- The truth value that a text is. -/
def bool? (s : String) : Option Bool :=
  if s = "true" then some true else if s = "false" then some false else none

/-- Items in one line. -/
def joined (items : List String) : String := ",".intercalate items

/-- The value of a key as text. -/
def get (c : Config) : Key → String
  | .lockEnabled => boolText c.lock.enabled
  | .protectedApps => joined c.lock.protectedApps
  | .sessionTimeout => c.lock.sessionTimeout
  | .sweepInterval => c.lock.sweepInterval
  | .relockOnScreenOff => boolText c.lock.relockOnScreenOff
  | .tamperEnabled => boolText c.tamper.enabled
  | .bypassDuration => c.tamper.bypassDuration
  | .failClosed => joined (c.tamper.failClosed.map Category.name)
  | .clearRecents => boolText c.tamper.clearRecents
  | .keywordEnabled => boolText c.keyword.enabled
  | .keywords => joined c.keyword.keywords
  | .countdown => toString c.keyword.countdown
  | .gracePeriod => c.keyword.gracePeriod
  | .auditEnabled => boolText c.audit.enabled
  | .logLevel => c.logging.level

/-- Why a text is no value for a key. -/
inductive Mismatch where
  | notBoolean
  | notNumber (fault : Number.Fault)
  | notCategory (item : Category.Unknown)
  deriving DecidableEq

/-- The wording of a mismatch. -/
def Mismatch.message : Mismatch → String
  | .notBoolean => "provided string was not `true` or `false`"
  | .notNumber f => f.message
  | .notCategory u => u.message

/-- The truth value that a text has to be. -/
def readBool (s : String) : Except Mismatch Bool :=
  match bool? s with
  | some b => .ok b
  | none => .error .notBoolean

/-- The number that a text has to be. -/
def readWord32 (s : String) : Except Mismatch Nat :=
  (Number.readUnsigned Number.word32 s.toList).mapError .notNumber

/-- The categories that a text has to list. -/
def readCategories (s : String) : Except Mismatch (List Category) :=
  (Category.parseList s).mapError .notCategory

/-- The configuration with a text in place of the value of a key. -/
def assign (c : Config) (k : Key) (s : String) : Except Mismatch Config :=
  match k with
  | .lockEnabled => do return { c with lock := { c.lock with enabled := ← readBool s } }
  | .protectedApps => .ok { c with lock := { c.lock with protectedApps := Text.items s } }
  | .sessionTimeout => .ok { c with lock := { c.lock with sessionTimeout := s } }
  | .sweepInterval => .ok { c with lock := { c.lock with sweepInterval := s } }
  | .relockOnScreenOff => do
    return { c with lock := { c.lock with relockOnScreenOff := ← readBool s } }
  | .tamperEnabled => do return { c with tamper := { c.tamper with enabled := ← readBool s } }
  | .bypassDuration => .ok { c with tamper := { c.tamper with bypassDuration := s } }
  | .failClosed => do
    return { c with tamper := { c.tamper with failClosed := ← readCategories s } }
  | .clearRecents => do
    return { c with tamper := { c.tamper with clearRecents := ← readBool s } }
  | .keywordEnabled => do
    return { c with keyword := { c.keyword with enabled := ← readBool s } }
  | .keywords => .ok { c with keyword := { c.keyword with keywords := Text.items s } }
  | .countdown => do
    return { c with keyword := { c.keyword with countdown := ← readWord32 s } }
  | .gracePeriod => .ok { c with keyword := { c.keyword with gracePeriod := s } }
  | .auditEnabled => do return { c with audit := { c.audit with enabled := ← readBool s } }
  | .logLevel => .ok { c with logging := { c.logging with level := s } }

end Warden.Config
