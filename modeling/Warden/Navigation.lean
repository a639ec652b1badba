import Warden.Category

namespace Warden

/-!
# Navigation to settings pages

A settings page that enters or leaves the foreground, as one of several observers reports it, and
the question whether it is about the protected app.

* `Source`, `Navigation` — the report, with its JSON form.
* `Targeting` — whether a report is about the protected app.
* `Navigation.targeting package` — the answer from the package or the text in the report.
-/

/-! ### Reports -/

/-- The observer a report comes from. -/
inductive Source where
  /-- A periodic poll of the usage history. -/
  | usageHistory
  /-- The live stream of accessibility events. -/
  | accessibilityEvents
  /-- An intent or deep link into a settings page. -/
  | intent
  deriving DecidableEq

namespace Source

/-- All observers, in their order. -/
def all : List Source := [.usageHistory, .accessibilityEvents, .intent]

/-- The name of an observer. -/
def name : Source → String
  | .usageHistory => "usage_history"
  | .accessibilityEvents => "accessibility_events"
  | .intent => "intent"

/-- The name under which an observer appears in the audit log. -/
def label : Source → String
  | .usageHistory => "UsageHistory"
  | .accessibilityEvents => "AccessibilityEvents"
  | .intent => "Intent"

/-- The observers by their names. -/
def choices : List (String × Source) := all.map fun s => (s.name, s)

/-- The JSON form of an observer. -/
def toJson (s : Source) : Json := .text s.name

/-- The observer a document names. -/
def ofJson (mode : Json.Mode) : Json → Except Json.Fault Source := Json.readChoice mode choices

end Source

/-- A settings page entering or leaving the foreground. -/
structure Navigation where
  category : Category
  foregrounded : Bool
  source : Source
  /-- The package the page is about, if the platform tells. -/
  targetPackage : Option String := none
  /-- A window title or the name of an activity. -/
  detail : Option String := none
  deriving DecidableEq

namespace Navigation

/-- A page that enters the foreground. -/
def entering (category : Category) (source : Source) : Navigation :=
  { category, foregrounded := true, source }

/-- A page that leaves the foreground. -/
def leaving (category : Category) (source : Source) : Navigation :=
  { category, foregrounded := false, source }

/-- The same report about a given package. -/
def withTarget (n : Navigation) (package : String) : Navigation :=
  { n with targetPackage := some package }

/-- The JSON form of a report. -/
def toJson (n : Navigation) : Json :=
  .record ([("category", n.category.toJson), ("foregrounded", .bool n.foregrounded),
    ("source", n.source.toJson)] ++ Json.member? "target_package" Json.text n.targetPackage ++
    Json.member? "detail" Json.text n.detail)

/-- The fields of a report. -/
def shape : Json.Shape where
  what := "struct SettingsNavigation"
  fields := [
    .needed "category" (Category.ofJson .inPlace),
    .needed "foregrounded" Json.readFlag,
    .needed "source" (Source.ofJson .inPlace),
    .spared "target_package" (Json.readOptional Json.readText),
    .spared "detail" (Json.readOptional Json.readText)]

/-- The report a document holds. -/
def ofJson (j : Json) : Except Json.Fault Navigation := do
  let m ← shape.read .inPlace j
  return {
    category := ← m.get "category" (Category.ofJson .inPlace)
    foregrounded := ← m.get "foregrounded" Json.readFlag
    source := ← m.get "source" (Source.ofJson .inPlace)
    targetPackage := (← m.get? "target_package" (Json.readOptional Json.readText)).join
    detail := (← m.get? "detail" (Json.readOptional Json.readText)).join }

end Navigation

/-! ### Targets -/

/-- Whether a page is about the protected app. -/
inductive Targeting where
  | targeted
  | notTargeted
  /-- The platform did not tell enough to decide. -/
  | unknown
  deriving DecidableEq

/-- Whether `part` occurs in `whole`. -/
def occursIn (part : List Char) : List Char → Bool
  | [] => part.isEmpty
  | c :: cs => part.isPrefixOf (c :: cs) || occursIn part cs

/-- Trusts the package in a report if there is one, and otherwise looks for the name of the
protected package in its text. -/
def Navigation.targeting (package : String) (n : Navigation) : Targeting :=
  match n.targetPackage with
  | some p => if p = package then .targeted else .notTargeted
  | none =>
    match n.detail with
    | some d => if occursIn package.toList d.toList then .targeted else .unknown
    | none => .unknown

end Warden
