import Warden.Number.Shortest
import Warden.Number.Unsigned

namespace Warden

/-!
# JSON documents

A grammatical JSON document as a tree. Some documents are grammatical and still hold a literal
without a value, such as half of a surrogate pair or a number beyond all bounds; the tree keeps
such a literal, and it counts only where somebody asks for its value.

* `Json` — the tree. Objects keep their members in order, repeated names included.
* `Json.Literal`, `Json.Numeral` — strings and numbers.
* `Json.text`, `Json.natural`, `Json.record` — trees of ordinary values.
-/

namespace Json

/-- Why a string literal has no value: an escape names half of a surrogate pair. -/
inductive SurrogateFault where
  /-- A leading half that no escape follows. -/
  | unfinished
  /-- A trailing half without its leading half, or a leading half before something else. -/
  | lone
  deriving DecidableEq

/-- A string literal: its text, or why it has none. -/
inductive Literal where
  | text (cs : List Char)
  | broken (fault : SurrogateFault)
  deriving DecidableEq

/-- A number literal. Whole numbers of 64 bits are exact, all others are binary fractions. -/
inductive Numeral where
  | natural (n : Nat)
  /-- The number `-n`, with `n` positive. -/
  | negative (n : Nat)
  | real (x : Number.Binary64)
  | tooLarge
  deriving DecidableEq

end Json

/-- A grammatical JSON document. -/
inductive Json where
  | null
  | bool (b : Bool)
  | number (n : Json.Numeral)
  | string (s : Json.Literal)
  | array (items : List Json)
  | object (members : List (Json.Literal × Json))

namespace Json

/-- A string with a text. -/
def text (s : String) : Json := .string (.text s.toList)

/-- A natural number. -/
def natural (n : Nat) : Json := .number (.natural n)

/-- An object with members of the given names. -/
def record (members : List (String × Json)) : Json :=
  .object (members.map fun m => (.text m.1.toList, m.2))

/-- A member that is left out if it has no value. -/
def member? (name : String) (f : α → Json) : Option α → List (String × Json)
  | none => []
  | some a => [(name, f a)]

end Json

end Warden
