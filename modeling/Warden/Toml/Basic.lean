namespace Warden

/-!
# TOML documents

A document as a tree of values.

* `Toml` — the tree. A table keeps its entries in order, each key once.
* `Toml.isBlank`, `Toml.isPlain`, `Toml.newline?` — the characters of the format.
-/

/-- A value of a document. -/
inductive Toml where
  | string (s : String)
  | integer (n : Int)
  /-- A number with a fraction or an exponent, infinite or none at all; only its kind counts. -/
  | real
  /-- A date, a time of day or both; only its kind counts. -/
  | moment
  | boolean (b : Bool)
  | array (items : List Toml)
  | table (entries : List (String × Toml))

namespace Toml

/-- Whether a character may stand between the words of a line. -/
def isBlank (c : Char) : Bool := c = ' ' || c = '\t'

/-- Whether a character may stand for itself in comments and strings: all but controls. -/
def isPlain (c : Char) : Bool := c = '\t' || (32 ≤ c.toNat && c.toNat ≠ 127)

/-- What follows a line end at the start of a text. -/
def newline? : List Char → Option (List Char)
  | '\n' :: rest => some rest
  | '\r' :: '\n' :: rest => some rest
  | _ => none

/-- A text without the blanks at its start. -/
def skipBlanks (cs : List Char) : List Char := cs.dropWhile isBlank

end Toml

end Warden
