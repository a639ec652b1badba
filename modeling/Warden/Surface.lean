import Warden.Navigation

namespace Warden

/-!
# What appears on the screen

Blocking overlays, the ways in which a user is sent home, and the actions by which both reach the
screen.

* `Overlay`, `HomeReason` — with their JSON forms; `Overlay.same` is the identity of an overlay.
* `Surface.Action` — one thing done to the screen.
* `Screen` — the overlays on the screen, front first, and what an action makes of them.
-/

/-! ### Overlays -/

/-- A surface that blocks the screen. -/
inductive Overlay where
  /-- The prompt for the PIN of a locked app. -/
  | appLock (app : String)
  /-- The notice that a settings page is blocked. -/
  | tamper (category : Category)
  /-- The countdown after restricted content. -/
  | keyword (app : String) (remaining : Nat)
  deriving DecidableEq

namespace Overlay

/-- Whether two overlays are the same one on the screen; the seconds left do not matter. -/
def same : Overlay → Overlay → Bool
  | .appLock a, .appLock b => a == b
  | .tamper a, .tamper b => a == b
  | .keyword a _, .keyword b _ => a == b
  | _, _ => false

/-- The JSON form of an overlay. -/
def toJson : Overlay → Json
  | .appLock app => .record [("kind", .text "app_lock"), ("app_id", .text app)]
  | .tamper category => .record [("kind", .text "tamper"), ("category", category.toJson)]
  | .keyword app remaining =>
    .record [("kind", .text "keyword"), ("app_id", .text app),
      ("remaining_secs", .natural remaining)]

/-- The kinds of overlays. -/
def kinds : List String := ["app_lock", "tamper", "keyword"]

/-- The fields of a prompt. -/
def appLockShape : Json.Shape :=
  ⟨"struct variant OverlayKind::AppLock", [.needed "app_id" Json.readText]⟩

/-- The fields of a notice. -/
def tamperShape : Json.Shape :=
  ⟨"struct variant OverlayKind::Tamper", [.needed "category" (Category.ofJson .fromCopy)]⟩

/-- The fields of a countdown. -/
def keywordShape : Json.Shape :=
  ⟨"struct variant OverlayKind::Keyword",
    [.needed "app_id" Json.readText, .needed "remaining_secs" Json.readWord32]⟩

/-- The overlay a document holds. -/
def ofJson (j : Json) : Except Json.Fault Overlay := do
  let (kind, body) ← Json.readTagged "kind" "internally tagged enum OverlayKind" kinds j
  match kind with
  | "app_lock" =>
    let m ← appLockShape.read .fromCopy body
    return .appLock (← m.get "app_id" Json.readText)
  | "tamper" =>
    let m ← tamperShape.read .fromCopy body
    return .tamper (← m.get "category" (Category.ofJson .fromCopy))
  | _ =>
    let m ← keywordShape.read .fromCopy body
    return .keyword (← m.get "app_id" Json.readText) (← m.get "remaining_secs" Json.readWord32)

end Overlay

/-! ### Going home -/

/-- Why a user is sent to the home screen. -/
inductive HomeReason where
  | tamper (category : Category)
  | countdownExpired (app : String)
  deriving DecidableEq

namespace HomeReason

/-- The JSON form of a reason. -/
def toJson : HomeReason → Json
  | .tamper category => .record [("reason", .text "tamper"), ("category", category.toJson)]
  | .countdownExpired app =>
    .record [("reason", .text "countdown_expired"), ("app_id", .text app)]

/-- The kinds of reasons. -/
def kinds : List String := ["tamper", "countdown_expired"]

/-- The fields of a tamper attempt. -/
def tamperShape : Json.Shape :=
  ⟨"struct variant NavigationReason::Tamper", [.needed "category" (Category.ofJson .fromCopy)]⟩

/-- The fields of a countdown that ran out. -/
def expiredShape : Json.Shape :=
  ⟨"struct variant NavigationReason::CountdownExpired", [.needed "app_id" Json.readText]⟩

/-- The reason a document holds. -/
def ofJson (j : Json) : Except Json.Fault HomeReason := do
  let (kind, body) ← Json.readTagged "reason" "internally tagged enum NavigationReason" kinds j
  match kind with
  | "tamper" =>
    let m ← tamperShape.read .fromCopy body
    return .tamper (← m.get "category" (Category.ofJson .fromCopy))
  | _ =>
    let m ← expiredShape.read .fromCopy body
    return .countdownExpired (← m.get "app_id" Json.readText)

end HomeReason

/-! ### Actions -/

/-- One thing done to the screen. -/
inductive Surface.Action where
  /-- Puts an overlay in front, in place of the same overlay if it is there. -/
  | show (overlay : Overlay) (message : String)
  /-- Renders an overlay anew if it is there. -/
  | update (overlay : Overlay)
  /-- Removes an overlay. -/
  | hide (overlay : Overlay)
  | goHome (reason : HomeReason)
  /-- Removes the settings page from the list of recent apps. -/
  | clearRecents (navigation : Navigation)
  deriving DecidableEq

/-- Why an action sends a user home. -/
def Surface.Action.home? : Surface.Action → Option HomeReason
  | .goHome reason => some reason
  | _ => none

/-! ### The screen -/

/-- The overlays on the screen, front first. -/
abbrev Screen := List Overlay

namespace Screen

/-- The screen without an overlay. -/
def without (s : Screen) (o : Overlay) : Screen := s.filter fun p => !p.same o

/-- The screen after an action. -/
def apply (s : Screen) : Surface.Action → Screen
  | .show o _ => o :: s.without o
  | .update o => s.map fun p => if p.same o then o else p
  | .hide o => s.without o
  | .goHome _ => s
  | .clearRecents _ => s

/-- The screen after several actions. -/
def applyAll (s : Screen) (actions : List Surface.Action) : Screen := actions.foldl apply s

end Screen

end Warden
