import Warden.Json.Writer
import Warden.Surface

namespace Warden.Wire

/-!
# Messages

What the host is sent: one JSON object per line, with the kind of the message in its tag `type`.

* `Message` — actions on the screen, replies and errors.
* `Message.line` — the line of a message, without its end.
-/

/-- What the host is told. -/
inductive Message where
  | showOverlay (overlay : Overlay) (text : String)
  | updateOverlay (overlay : Overlay)
  | hideOverlay (overlay : Overlay)
  | navigateHome (reason : HomeReason)
  | clearRecents (category : Category)
  /-- The answer to the request with a number. -/
  | reply (id : Nat) (result : Json)
  | error (id : Option Nat) (text : String)

namespace Message

/-- The message by which an action reaches the screen. -/
def ofAction : Surface.Action → Message
  | .show overlay text => .showOverlay overlay text
  | .update overlay => .updateOverlay overlay
  | .hide overlay => .hideOverlay overlay
  | .goHome reason => .navigateHome reason
  | .clearRecents navigation => .clearRecents navigation.category

/-- The name of a kind of message. -/
def tag : Message → String
  | .showOverlay .. => "show_overlay"
  | .updateOverlay .. => "update_overlay"
  | .hideOverlay .. => "hide_overlay"
  | .navigateHome .. => "navigate_home"
  | .clearRecents .. => "clear_recents"
  | .reply .. => "reply"
  | .error .. => "error"

/-- The members of a message behind its tag. -/
def members : Message → List (String × Json)
  | .showOverlay overlay text => [("overlay", overlay.toJson), ("message", .text text)]
  | .updateOverlay overlay => [("overlay", overlay.toJson)]
  | .hideOverlay overlay => [("overlay", overlay.toJson)]
  | .navigateHome reason => [("reason", reason.toJson)]
  | .clearRecents category => [("category", category.toJson)]
  | .reply id result => [("id", .natural id), ("result", result)]
  | .error id text => Json.member? "id" Json.natural id ++ [("message", .text text)]

/-- The JSON form of a message. -/
def toJson (m : Message) : Json := .record (("type", .text m.tag) :: m.members)

/-- The line of a message. -/
def line (m : Message) : String := m.toJson.compact

end Message

/-- The text that several messages make up, each on its line. -/
def written (ms : List Message) : String := String.join (ms.map fun m => m.line ++ "\n")

end Warden.Wire
