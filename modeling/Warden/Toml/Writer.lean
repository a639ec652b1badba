import Warden.Toml.Quoted

namespace Warden.Toml

/-!
# Writing a document

A document of sections with plain entries. Lists of two items or more go over several lines.

* `Entry` — the values that are written.
* `documentText` — sections, with an empty line between two of them.
-/

/-- A value that is written. -/
inductive Entry where
  | boolean (b : Bool)
  | natural (n : Nat)
  | string (s : String)
  | strings (ss : List String)

/-- An item of a list on a line of its own. -/
def itemLine (s : String) : List Char := "    ".toList ++ quote s ++ ",\n".toList

/-- The written form of a value. -/
def Entry.chars : Entry → List Char
  | .boolean true => "true".toList
  | .boolean false => "false".toList
  | .natural n => Nat.toDigits 10 n
  | .string s => quote s
  | .strings [] => "[]".toList
  | .strings [s] => '[' :: quote s ++ [']']
  | .strings ss => "[\n".toList ++ ss.flatMap itemLine ++ [']']

/-- A key with its value on a line. -/
def entryLine (e : String × Entry) : List Char :=
  e.1.toList ++ " = ".toList ++ e.2.chars ++ ['\n']

/-- A section with its name and its entries. -/
structure Section where
  name : String
  entries : List (String × Entry)

/-- A section with its header. -/
def Section.chars (s : Section) : List Char :=
  '[' :: s.name.toList ++ "]\n".toList ++ s.entries.flatMap entryLine

/-- The text of a document. -/
def documentText (sections : List Section) : String :=
  String.ofList (['\n'].intercalate (sections.map Section.chars))

end Warden.Toml
