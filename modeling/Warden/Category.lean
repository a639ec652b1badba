import Warden.Json.Decoding
import Warden.Text.Items

namespace Warden

/-!
# Capabilities and categories

Two closed vocabularies. A capability is a system permission that the protection rests on; a
category is a settings page on which somebody could tamper with it.

* `Capability`, `Category` — the two, each in its fixed order, with names and JSON forms.
* `Category.guarded?` — the capability that can be revoked on a page of the category.
* `Category.message` — what a user reads when such a page is blocked.
* `Category.parseList` — the categories that a line lists, or the first item that is none.
* `CapabilityTable` — what is known about each capability.
-/

/-! ### Capabilities -/

/-- A system capability whose revocation would weaken enforcement. -/
inductive Capability where
  /-- The accessibility service that observes foreground changes. -/
  | accessibility
  /-- The device administrator that blocks uninstallation. -/
  | deviceAdmin
  /-- The permission to draw blocking surfaces over other apps. -/
  | overlay
  deriving DecidableEq

namespace Capability

/-- All capabilities, in their order. -/
def all : List Capability := [.accessibility, .deviceAdmin, .overlay]

/-- The name of a capability. -/
def name : Capability → String
  | .accessibility => "accessibility"
  | .deviceAdmin => "device_admin"
  | .overlay => "overlay"

/-- The capabilities by their names. -/
def choices : List (String × Capability) := all.map fun c => (c.name, c)

/-- The JSON form of a capability. -/
def toJson (c : Capability) : Json := .text c.name

/-- The capability a document names. -/
def ofJson (mode : Json.Mode) : Json → Except Json.Fault Capability :=
  Json.readChoice mode choices

end Capability

/-! ### Categories -/

/-- The settings page that a tamper attempt goes through. -/
inductive Category where
  | accessibilitySettings
  | deviceAdminSettings
  /-- The page of one app, where it can be stopped and uninstalled. -/
  | appInfo
  | overlayPermission
  deriving DecidableEq

namespace Category

/-- All categories, in their order. -/
def all : List Category :=
  [.accessibilitySettings, .deviceAdminSettings, .appInfo, .overlayPermission]

/-- The name of a category. -/
def name : Category → String
  | .accessibilitySettings => "accessibility_settings"
  | .deviceAdminSettings => "device_admin_settings"
  | .appInfo => "app_info"
  | .overlayPermission => "overlay_permission"

/-- The capability that can be revoked on such a page. While it is not active yet, the page cannot
be abused. -/
def guarded? : Category → Option Capability
  | .accessibilitySettings => some .accessibility
  | .deviceAdminSettings => some .deviceAdmin
  | .appInfo => none
  | .overlayPermission => some .overlay

/-- What the blocking surface says. -/
def message : Category → String
  | .accessibilitySettings => "Accessibility settings are locked while app protection is on."
  | .deviceAdminSettings => "Device admin settings are locked while app protection is on."
  | .appInfo => "This app cannot be stopped or uninstalled while protection is on."
  | .overlayPermission => "Overlay permission cannot be changed while app protection is on."

/-- The categories by their names. -/
def choices : List (String × Category) := all.map fun c => (c.name, c)

/-- The category with a name. -/
def ofName? (name : String) : Option Category := choices.lookup name

/-- The JSON form of a category. -/
def toJson (c : Category) : Json := .text c.name

/-- The category a document names. -/
def ofJson (mode : Json.Mode) : Json → Except Json.Fault Category :=
  Json.readChoice mode choices

/-- The categories of a list in their order, each once. -/
def inOrder (cs : List Category) : List Category := all.filter cs.contains

/-- An item of a list that is no category. -/
structure Unknown where
  item : String
  deriving DecidableEq

/-- The wording of an unknown category. -/
def Unknown.message (u : Unknown) : String := "unknown tamper category " ++ Text.quoted u.item

/-- The category that an item names. -/
def ofItem (item : String) : Except Unknown Category :=
  match ofName? item with
  | some c => .ok c
  | none => .error ⟨item⟩

/-- The categories of a list written in one line. -/
def parseList (s : String) : Except Unknown (List Category) := (Text.items s).mapM ofItem

/-- Every category is in the list of all. -/
theorem mem_all (c : Category) : c ∈ all := by cases c <;> decide

/-- Putting categories in order loses none and adds none. -/
@[simp] theorem mem_inOrder {c : Category} {cs : List Category} : c ∈ inOrder cs ↔ c ∈ cs := by
  simp [inOrder, mem_all]

/-- A category is found by its name. -/
@[simp] theorem ofName?_name (c : Category) : ofName? c.name = some c := by cases c <;> decide

end Category

/-! ### What is known about the capabilities -/

/-- For each capability whether it is active, as far as that is known. -/
structure CapabilityTable where
  accessibility : Option Bool := none
  deviceAdmin : Option Bool := none
  overlay : Option Bool := none
  deriving DecidableEq

namespace CapabilityTable

/-- The table that knows nothing. -/
def empty : CapabilityTable := {}

/-- What is known about a capability. -/
def get? (t : CapabilityTable) : Capability → Option Bool
  | .accessibility => t.accessibility
  | .deviceAdmin => t.deviceAdmin
  | .overlay => t.overlay

/-- The table after learning about a capability. -/
def set (t : CapabilityTable) (c : Capability) (active : Bool) : CapabilityTable :=
  match c with
  | .accessibility => { t with accessibility := some active }
  | .deviceAdmin => { t with deviceAdmin := some active }
  | .overlay => { t with overlay := some active }

/-- What is heard of a capability is known of it, and of no other one. -/
@[simp] theorem get?_set (t : CapabilityTable) (c d : Capability) (b : Bool) :
    (t.set c b).get? d = if d = c then some b else t.get? d := by
  cases c <;> cases d <;> rfl

/-- The capabilities the table knows about, in their order. -/
def toList (t : CapabilityTable) : List (Capability × Bool) :=
  Capability.all.filterMap fun c => (t.get? c).map fun b => (c, b)

/-- The table that learns from a list, item by item. -/
def ofList (items : List (Capability × Bool)) : CapabilityTable :=
  items.foldl (fun t i => t.set i.1 i.2) empty

/-- A table is determined by what it knows. -/
theorem ofList_toList (t : CapabilityTable) : ofList t.toList = t := by
  obtain ⟨a, d, o⟩ := t
  cases a <;> cases d <;> cases o <;> rfl

end CapabilityTable

end Warden
