import Warden.Config.Basic
import Warden.Toml.Decoding
import Warden.Toml.Reader
import Warden.Toml.Writer

namespace Warden.Config

/-!
# The configuration as a TOML document

* `ofText?` — the configuration that a text is. What is left out has its default, and what is
  unknown does not count.
* `text` — the written form of a configuration.
* `template` — the written form of the defaults, with comments for people.
-/

/-! ### Reading -/

/-- The section on app locks. -/
def LockSection.ofToml? (v : Toml) : Option LockSection := do
  let fields ← v.fields?
    ["enabled", "protected_apps", "session_timeout", "sweep_interval", "relock_on_screen_off"]
  let d : LockSection := {}
  return {
    enabled := ← Toml.field Toml.boolean? d.enabled "enabled" fields
    protectedApps :=
      ← Toml.field (Toml.list? Toml.string?) d.protectedApps "protected_apps" fields
    sessionTimeout := ← Toml.field Toml.string? d.sessionTimeout "session_timeout" fields
    sweepInterval := ← Toml.field Toml.string? d.sweepInterval "sweep_interval" fields
    relockOnScreenOff :=
      ← Toml.field Toml.boolean? d.relockOnScreenOff "relock_on_screen_off" fields }

/-- The section on settings pages. -/
def TamperSection.ofToml? (v : Toml) : Option TamperSection := do
  let fields ← v.fields? ["enabled", "bypass_duration", "fail_closed", "clear_recents"]
  let d : TamperSection := {}
  return {
    enabled := ← Toml.field Toml.boolean? d.enabled "enabled" fields
    bypassDuration := ← Toml.field Toml.string? d.bypassDuration "bypass_duration" fields
    failClosed :=
      ← Toml.field (Toml.list? (Toml.choice? Category.choices)) d.failClosed "fail_closed" fields
    clearRecents := ← Toml.field Toml.boolean? d.clearRecents "clear_recents" fields }

/-- The section on keywords. -/
def KeywordSection.ofToml? (v : Toml) : Option KeywordSection := do
  let fields ← v.fields? ["enabled", "keywords", "countdown_secs", "grace_period"]
  let d : KeywordSection := {}
  return {
    enabled := ← Toml.field Toml.boolean? d.enabled "enabled" fields
    keywords := ← Toml.field (Toml.list? Toml.string?) d.keywords "keywords" fields
    countdown := ← Toml.field Toml.word32? d.countdown "countdown_secs" fields
    gracePeriod := ← Toml.field Toml.string? d.gracePeriod "grace_period" fields }

/-- The section on recorded events. -/
def AuditSection.ofToml? (v : Toml) : Option AuditSection := do
  let fields ← v.fields? ["enabled"]
  let d : AuditSection := {}
  return { enabled := ← Toml.field Toml.boolean? d.enabled "enabled" fields }

/-- The section on what the program tells. -/
def LoggingSection.ofToml? (v : Toml) : Option LoggingSection := do
  let fields ← v.fields? ["level"]
  let d : LoggingSection := {}
  return { level := ← Toml.field Toml.string? d.level "level" fields }

/-- The configuration in a document. -/
def ofToml? (v : Toml) : Option Config := do
  let fields ← v.fields? ["lock", "tamper", "keyword", "audit", "logging"]
  return {
    lock := ← Toml.field LockSection.ofToml? {} "lock" fields
    tamper := ← Toml.field TamperSection.ofToml? {} "tamper" fields
    keyword := ← Toml.field KeywordSection.ofToml? {} "keyword" fields
    audit := ← Toml.field AuditSection.ofToml? {} "audit" fields
    logging := ← Toml.field LoggingSection.ofToml? {} "logging" fields }

/-- The configuration that a text is. -/
def ofText? (s : String) : Option Config := (Toml.ofText s).bind ofToml?

/-! ### Writing -/

/-- The sections of a configuration. -/
def sections (c : Config) : List Toml.Section := [
  ⟨"lock", [
    ("enabled", .boolean c.lock.enabled),
    ("protected_apps", .strings c.lock.protectedApps),
    ("session_timeout", .string c.lock.sessionTimeout),
    ("sweep_interval", .string c.lock.sweepInterval),
    ("relock_on_screen_off", .boolean c.lock.relockOnScreenOff)]⟩,
  ⟨"tamper", [
    ("enabled", .boolean c.tamper.enabled),
    ("bypass_duration", .string c.tamper.bypassDuration),
    ("fail_closed", .strings (c.tamper.failClosed.map Category.name)),
    ("clear_recents", .boolean c.tamper.clearRecents)]⟩,
  ⟨"keyword", [
    ("enabled", .boolean c.keyword.enabled),
    ("keywords", .strings c.keyword.keywords),
    ("countdown_secs", .natural c.keyword.countdown),
    ("grace_period", .string c.keyword.gracePeriod)]⟩,
  ⟨"audit", [("enabled", .boolean c.audit.enabled)]⟩,
  ⟨"logging", [("level", .string c.logging.level)]⟩]

/-- The written form of a configuration. -/
def text (c : Config) : String := Toml.documentText c.sections

/-! ### The template -/

/-- The lines of the first configuration. -/
def templateLines : List String := [
  "# PinGuard Configuration",
  "# Auto-created on first run. Edit as needed; a running engine picks up",
  "# every change except lock.sweep_interval without a restart.",
  "#",
  "# Durations: \"<n>ms\", \"<n>s\", \"<n>m\" or \"<n>h\".",
  "",
  "[lock]",
  "enabled = true",
  "# protected_apps = [\"com.example.mail\", \"com.example.bank\"]",
  "protected_apps = []",
  "session_timeout = \"30s\"         # idle time before an unlocked app locks again",
  "sweep_interval = \"60s\"",
  "relock_on_screen_off = true",
  "",
  "[tamper]",
  "enabled = true",
  "bypass_duration = \"5m\"          # settings stay reachable this long after a passed challenge",
  "# Categories treated as targeted when the platform cannot tell which app",
  "# a settings page is for. Removing one lets unclassified accesses through.",
  "fail_closed = [\"accessibility_settings\", \"device_admin_settings\", " ++
    "\"app_info\", \"overlay_permission\"]",
  "clear_recents = true",
  "",
  "[keyword]",
  "enabled = true",
  "# keywords = [\"casino\", \"poker\"]",
  "keywords = []",
  "countdown_secs = 15",
  "grace_period = \"15s\"",
  "",
  "[audit]",
  "enabled = true",
  "",
  "[logging]",
  "level = \"info\""]

/-- The first configuration, with comments for people. -/
def template : String := String.join (templateLines.map (· ++ "\n"))

end Warden.Config
