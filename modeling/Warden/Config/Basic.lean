import Warden.Category

namespace Warden

/-!
# The configuration

What a user can set, in the words in which it is written. Durations stay texts until somebody needs
them.

* `Config` — five sections, with the values of a new installation as defaults.
* `Config.toJson` — the configuration as a document.
-/

namespace Config

/-- How apps are locked. -/
structure LockSection where
  enabled : Bool := true
  /-- The apps that require a challenge. -/
  protectedApps : List String := []
  /-- Idle time after which an unlocked app locks again. -/
  sessionTimeout : String := "30s"
  sweepInterval : String := "60s"
  relockOnScreenOff : Bool := true
  deriving DecidableEq

/-- How settings pages are guarded. -/
structure TamperSection where
  enabled : Bool := true
  /-- How long a passed challenge opens the pages. -/
  bypassDuration : String := "5m"
  /-- The categories that count as targeted if in doubt. -/
  failClosed : List Category := Category.all
  clearRecents : Bool := true
  deriving DecidableEq

/-- How keywords are watched for. -/
structure KeywordSection where
  enabled : Bool := true
  keywords : List String := []
  /-- The length of a countdown in seconds. -/
  countdown : Nat := 15
  gracePeriod : String := "15s"
  deriving DecidableEq

/-- Whether events are recorded. -/
structure AuditSection where
  enabled : Bool := true
  deriving DecidableEq

/-- How much the program tells. -/
structure LoggingSection where
  level : String := "info"
  deriving DecidableEq

end Config

/-- What a user can set. -/
structure Config where
  lock : Config.LockSection := {}
  tamper : Config.TamperSection := {}
  keyword : Config.KeywordSection := {}
  audit : Config.AuditSection := {}
  logging : Config.LoggingSection := {}
  deriving DecidableEq

namespace Config

/-- A list of texts as a document. -/
def textsToJson (ss : List String) : Json := .array (ss.map .text)

/-- The configuration as a document. -/
def toJson (c : Config) : Json :=
  .record [
    ("lock", .record [
      ("enabled", .bool c.lock.enabled),
      ("protected_apps", textsToJson c.lock.protectedApps),
      ("session_timeout", .text c.lock.sessionTimeout),
      ("sweep_interval", .text c.lock.sweepInterval),
      ("relock_on_screen_off", .bool c.lock.relockOnScreenOff)]),
    ("tamper", .record [
      ("enabled", .bool c.tamper.enabled),
      ("bypass_duration", .text c.tamper.bypassDuration),
      ("fail_closed", .array (c.tamper.failClosed.map Category.toJson)),
      ("clear_recents", .bool c.tamper.clearRecents)]),
    ("keyword", .record [
      ("enabled", .bool c.keyword.enabled),
      ("keywords", textsToJson c.keyword.keywords),
      ("countdown_secs", .natural c.keyword.countdown),
      ("grace_period", .text c.keyword.gracePeriod)]),
    ("audit", .record [("enabled", .bool c.audit.enabled)]),
    ("logging", .record [("level", .text c.logging.level)])]

end Config

end Warden
