import Warden.Category
import Warden.Duration

namespace Warden

/-!
# Settings of the engine

The values that the engine runs with.

* `Settings` — all of them, with the values of a new installation as defaults.
* `AppSet` — a set of apps in the order of their names.
-/

/-! ### Sets of apps -/

/-- A list of apps with a new one in its place by name; a name that is there stays single. -/
def insertApp (app : String) : List String → List String
  | [] => [app]
  | a :: rest =>
    if app < a then app :: a :: rest
    else if app = a then a :: rest
    else a :: insertApp app rest

/-- A new app is in the list, and all that were there. -/
theorem mem_insertApp {a app : String} {apps : List String} :
    a ∈ insertApp app apps ↔ a = app ∨ a ∈ apps := by
  induction apps with
  | nil => simp [insertApp]
  | cons b rest ih =>
    simp only [insertApp]
    split
    · simp
    · split
      next h => subst h; simp
      · simp only [List.mem_cons, ih]; exact or_left_comm

/-- A new app takes its place by name. -/
theorem pairwise_insertApp {app : String} {apps : List String} (h : apps.Pairwise (· < ·)) :
    (insertApp app apps).Pairwise (· < ·) := by
  induction apps with
  | nil => simp [insertApp]
  | cons b rest ih =>
    obtain ⟨hb, hrest⟩ := List.pairwise_cons.1 h
    simp only [insertApp]
    split
    next hlt =>
      refine List.pairwise_cons.2 ⟨fun x hx => ?_, h⟩
      rcases List.mem_cons.1 hx with rfl | hx
      · exact hlt
      · exact String.lt_trans hlt (hb x hx)
    next hge =>
      split
      · exact h
      next hne =>
        refine List.pairwise_cons.2 ⟨fun x hx => ?_, ih hrest⟩
        -- What stands behind the first app is either the new one or was there before.
        rcases mem_insertApp.1 hx with rfl | hx
        · rcases Std.lt_trichotomy b x with hlt | heq | hlt
          · exact hlt
          · exact absurd heq.symm hne
          · exact absurd hlt hge
        · exact hb x hx

/-- Apps in the order of their names, each once. -/
structure AppSet where
  toList : List String
  sorted : toList.Pairwise (· < ·)
  deriving DecidableEq

namespace AppSet

/-- No apps. -/
def empty : AppSet := ⟨[], .nil⟩

/-- Whether an app is in the set. -/
def contains (s : AppSet) (app : String) : Bool := s.toList.contains app

/-- The set with one more app. -/
def insert (s : AppSet) (app : String) : AppSet :=
  ⟨insertApp app s.toList, pairwise_insertApp s.sorted⟩

/-- The set without an app. -/
def erase (s : AppSet) (app : String) : AppSet :=
  ⟨s.toList.filter (· != app), s.sorted.filter _⟩

/-- The set of the apps in a list. -/
def ofList (apps : List String) : AppSet := apps.foldl insert empty

@[simp] theorem contains_empty (a : String) : empty.contains a = false := rfl

/-- One more app is in the set. -/
@[simp] theorem contains_insert (s : AppSet) (a b : String) :
    (s.insert a).contains b = (b == a || s.contains b) := by
  rw [Bool.eq_iff_iff]
  simp [contains, insert, mem_insertApp]

/-- One app is not in it any more. -/
@[simp] theorem contains_erase (s : AppSet) (a b : String) :
    (s.erase a).contains b = (b != a && s.contains b) := by
  rw [Bool.eq_iff_iff]
  simp [contains, erase, and_comm]

/-- A set made from a list has exactly its items. -/
theorem contains_ofList (apps : List String) (a : String) :
    (ofList apps).contains a = apps.contains a := by
  have h (s : AppSet) : (apps.foldl insert s).contains a = (apps.contains a || s.contains a) := by
    induction apps generalizing s with
    | nil => simp
    | cons b rest ih =>
      rw [List.foldl_cons, ih, contains_insert, List.contains_cons]
      cases a == b <;> cases rest.contains a <;> rfl
  simp [ofList, h]

end AppSet

/-! ### Settings -/

/-- The values that the engine runs with. -/
structure Settings where
  appLockEnabled : Bool := true
  protectedApps : AppSet := .empty
  /-- How long an unlocked app stays so without being seen. -/
  sessionTimeout : Duration := .seconds 30
  /-- How often sessions that are over are removed. -/
  sweepInterval : Duration := .seconds 60
  relockOnScreenOff : Bool := true
  tamperEnabled : Bool := true
  /-- How long a passed challenge opens the settings pages. -/
  bypassDuration : Duration := .seconds 300
  /-- The categories of pages that count as targeted if in doubt. -/
  failClosed : List Category := Category.all
  clearRecents : Bool := true
  keywordEnabled : Bool := true
  keywords : List String := []
  /-- The length of a countdown in seconds. -/
  countdown : Nat := 15
  gracePeriod : Duration := .seconds 15
  deriving DecidableEq

end Warden
