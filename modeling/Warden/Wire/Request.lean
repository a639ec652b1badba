import Warden.Navigation

namespace Warden.Wire

/-!
# Requests

What the host sends: one JSON object per line, with the kind of the request in its tag `type`. A
request with an `id` asks for a reply.

* `Command` — what is asked for.
* `Request` — a command and its number.
* `Request.ofText` — the request in a line.
-/

/-! ### Commands -/

/-- What the host reports or asks for. -/
inductive Command where
  /-- An app comes to the foreground or leaves it. -/
  | foreground (app : String) (foregrounded : Bool)
  | settings (navigation : Navigation)
  /-- An app shows a text. -/
  | content (app text : String)
  /-- The state of a capability, whenever it changes. -/
  | capability (capability : Capability) (active : Bool)
  /-- An app is still seen in the foreground. -/
  | touch (app : String)
  | screenOff
  /-- The right PIN was entered. -/
  | unlock (app : String)
  | isUnlocked (app : String)
  | challengeCompleted
  | bypassWindow
  | defer (app : String)
  | query
  | shutdown
  deriving DecidableEq

/-- A command, and the number that its reply is to carry. -/
structure Request where
  id : Option Nat
  command : Command
  deriving DecidableEq

/-! ### Reading -/

/-- The names of the commands. -/
def commandNames : List String :=
  ["foreground", "settings", "content", "capability", "touch", "screen_off", "unlock",
    "is_unlocked", "challenge_completed", "bypass_window", "defer", "query", "shutdown"]

/-- The field that names an app. -/
def appField : Json.Field := .needed "app_id" Json.readText

/-- The fields of a command about one app. -/
def appShape (name : String) : Json.Shape := ⟨"struct variant Inbound::" ++ name, [appField]⟩

/-- The fields of a foreground change. -/
def foregroundShape : Json.Shape :=
  ⟨"struct variant Inbound::Foreground", [appField, .spared "foregrounded" Json.readFlag]⟩

/-- The fields of a settings page. -/
def settingsShape : Json.Shape where
  what := "struct variant Inbound::Settings"
  fields := [
    .needed "category" (Category.ofJson .fromCopy),
    .needed "source" (Source.ofJson .fromCopy),
    .spared "foregrounded" Json.readFlag,
    .spared "target_package" (Json.readOptional Json.readText),
    .spared "detail" (Json.readOptional Json.readText)]

/-- The fields of a text. -/
def contentShape : Json.Shape :=
  ⟨"struct variant Inbound::Content", [appField, .needed "text" Json.readText]⟩

/-- The fields of a capability. -/
def capabilityShape : Json.Shape :=
  ⟨"struct variant Inbound::Capability",
    [.needed "capability" (Capability.ofJson .fromCopy), .needed "active" Json.readFlag]⟩

/-- The app that the members of a command name. -/
def readApp (name : String) (body : Json) : Except Json.Fault String := do
  let m ← (appShape name).read .fromCopy body
  m.get "app_id" Json.readText

/-- The command with a name and further members. -/
def readCommand (name : String) (body : Json) : Except Json.Fault Command :=
  match name with
  | "foreground" => do
    let m ← foregroundShape.read .fromCopy body
    return .foreground (← m.get "app_id" Json.readText)
      ((← m.get? "foregrounded" Json.readFlag).getD true)
  | "settings" => do
    let m ← settingsShape.read .fromCopy body
    return .settings {
      category := ← m.get "category" (Category.ofJson .fromCopy)
      foregrounded := (← m.get? "foregrounded" Json.readFlag).getD true
      source := ← m.get "source" (Source.ofJson .fromCopy)
      targetPackage := (← m.get? "target_package" (Json.readOptional Json.readText)).join
      detail := (← m.get? "detail" (Json.readOptional Json.readText)).join }
  | "content" => do
    let m ← contentShape.read .fromCopy body
    return .content (← m.get "app_id" Json.readText) (← m.get "text" Json.readText)
  | "capability" => do
    let m ← capabilityShape.read .fromCopy body
    return .capability (← m.get "capability" (Capability.ofJson .fromCopy))
      (← m.get "active" Json.readFlag)
  | "touch" => return .touch (← readApp "Touch" body)
  | "screen_off" => return .screenOff
  | "unlock" => return .unlock (← readApp "Unlock" body)
  | "is_unlocked" => return .isUnlocked (← readApp "IsUnlocked" body)
  | "challenge_completed" => return .challengeCompleted
  | "bypass_window" => return .bypassWindow
  | "defer" => return .defer (← readApp "Defer" body)
  | "query" => return .query
  | _ => return .shutdown

/-- The number of a request, and a copy of its other members. -/
def splitId (id : Option (Option Nat)) (others : List (Json.Literal × Json)) :
    List (Json.Literal × Json) → Except Json.Fault (Option Nat × List (Json.Literal × Json))
  | [] => .ok (id.join, others.reverse)
  | (k, v) :: rest => do
    let key ← k.value
    if key = "id" then
      if id.isSome then throw (.duplicateField "id")
      splitId (some (← Json.readOptional Json.readWord64 v)) others rest
    else
      Json.copyable (Json.maxDepth - 1) v
      splitId id ((k, v) :: others) rest

/-- The request a document holds. -/
def Request.ofJson : Json → Except Json.Fault Request
  | .object ms => do
    let (id, others) ← splitId none [] ms
    let (name, members) ← Json.splitTag .fromCopy "type" commandNames none [] others
    return ⟨id, ← readCommand name (.object members)⟩
  | j => .error (Json.mismatch j "struct Request")

/-- The request in a line. -/
def Request.ofText (s : String) : Except Json.Fault Request := Json.decode ofJson s

end Warden.Wire
