import Warden.Json.Decoding

namespace Warden.Audit

/-!
# Entries of the audit log

What the log can say, and the JSON object in which a line says it.

* `Action` — the kinds of events.
* `Record` — an event as a part of the program reports it.
* `Entry` — an event in the log, with its time and the link to the line before.
-/

/-! ### Events -/

/-- A kind of event. -/
inductive Action where
  | tamperBlocked
  /-- A challenge was passed, and the bypass window opened. -/
  | bypassGranted
  /-- The bypass window was closed early. -/
  | bypassCleared
  /-- The bypass window ran out. -/
  | bypassExpired
  /-- A countdown ran out, and the user was sent home. -/
  | countdownExpired
  /-- A user took the one deferral of a countdown. -/
  | graceGranted
  /-- Tamper protection was switched off. -/
  | protectionDisabled
  /-- The line before is no entry, and a new chain starts. -/
  | chainRecovery
  deriving DecidableEq

namespace Action

/-- All kinds of events. -/
def all : List Action :=
  [.tamperBlocked, .bypassGranted, .bypassCleared, .bypassExpired, .countdownExpired,
    .graceGranted, .protectionDisabled, .chainRecovery]

/-- The name of a kind of event. -/
def name : Action → String
  | .tamperBlocked => "tamper_blocked"
  | .bypassGranted => "bypass_granted"
  | .bypassCleared => "bypass_cleared"
  | .bypassExpired => "bypass_expired"
  | .countdownExpired => "countdown_expired"
  | .graceGranted => "grace_granted"
  | .protectionDisabled => "protection_disabled"
  | .chainRecovery => "chain_recovery"

/-- The kinds of events by their names. -/
def choices : List (String × Action) := all.map fun a => (a.name, a)

/-- The kind of event with a name. -/
def ofName? (name : String) : Option Action := choices.lookup name

/-- The JSON form of a kind of event. -/
def toJson (a : Action) : Json := .text a.name

/-- The kind of event a document names. -/
def ofJson (mode : Json.Mode) : Json → Except Json.Fault Action := Json.readChoice mode choices

end Action

/-- An event: its kind, the category or app it is about, and more about it. -/
structure Record where
  action : Action
  subject : String := ""
  detail : Option String := none
  deriving DecidableEq

/-! ### Entries -/

/-- An event in the log. -/
structure Entry where
  time : String
  action : Action
  subject : String
  /-- The fingerprint of the line before. -/
  previous : String
  /-- The part of the program that reported the event. -/
  source : String
  detail : Option String
  deriving DecidableEq

namespace Entry

/-- The JSON form of an entry. -/
def toJson (e : Entry) : Json :=
  .record ([("ts", .text e.time), ("action", e.action.toJson), ("subject", .text e.subject),
    ("prev_entry_sha256", .text e.previous), ("source", .text e.source)] ++
    Json.member? "detail" Json.text e.detail)

/-- The fields of an entry. -/
def shape : Json.Shape where
  what := "struct AuditEntry"
  fields := [
    .needed "ts" Json.readText,
    .needed "action" (Action.ofJson .inPlace),
    .spared "subject" Json.readText,
    .needed "prev_entry_sha256" Json.readText,
    .needed "source" Json.readText,
    .spared "detail" (Json.readOptional Json.readText)]

/-- The entry a document holds. -/
def ofJson (j : Json) : Except Json.Fault Entry := do
  let m ← shape.read .inPlace j
  return {
    time := ← m.get "ts" Json.readText
    action := ← m.get "action" (Action.ofJson .inPlace)
    subject := (← m.get? "subject" Json.readText).getD ""
    previous := ← m.get "prev_entry_sha256" Json.readText
    source := ← m.get "source" Json.readText
    detail := (← m.get? "detail" (Json.readOptional Json.readText)).join }

/-- The line of an entry. -/
def line (e : Entry) : String := e.toJson.compact

/-- The entry in a line. -/
def ofLine? (s : String) : Option Entry := (Json.decode ofJson s).toOption

end Entry

end Warden.Audit
