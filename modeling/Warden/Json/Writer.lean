import Warden.Json.Basic

namespace Warden.Json

/-!
# JSON text

Two ways to write a document: on one line without blanks, and over several lines with an indent of
two blanks per level. Quotes, backslashes and control characters are escaped, nothing else is.

* `compact j` — one line.
* `pretty j` — one line per item and member; what is empty stays on its line.
-/

/-! ### Literals -/

/-- How one character is written inside a string literal. -/
def escapeChar (c : Char) : List Char :=
  if c = '"' then ['\\', '"']
  else if c = '\\' then ['\\', '\\']
  else if c = '\n' then ['\\', 'n']
  else if c = '\r' then ['\\', 'r']
  else if c = '\t' then ['\\', 't']
  else if c.toNat = 8 then ['\\', 'b']
  else if c.toNat = 12 then ['\\', 'f']
  else if c.toNat < 32 then
    ['\\', 'u', '0', '0', Nat.digitChar (c.toNat / 16), Nat.digitChar (c.toNat % 16)]
  else [c]

/-- A string literal with its quotes. -/
def Literal.chars : Literal → List Char
  | .text cs => '"' :: cs.flatMap escapeChar ++ ['"']
  | .broken .unfinished => "\"\\ud800\"".toList
  | .broken .lone => "\"\\udc00\"".toList

/-- A number literal. -/
def Numeral.chars : Numeral → List Char
  | .natural n => Nat.toDigits 10 n
  | .negative n => '-' :: Nat.toDigits 10 n
  | .real x => x.text.toList
  | .tooLarge => "1e999".toList

/-! ### One line -/

mutual

/-- A document on one line. -/
def compactChars : Json → List Char
  | .null => ['n', 'u', 'l', 'l']
  | .bool true => ['t', 'r', 'u', 'e']
  | .bool false => ['f', 'a', 'l', 's', 'e']
  | .number n => n.chars
  | .string s => s.chars
  | .array items => '[' :: compactItems items
  | .object members => '\x7b' :: compactMembers members

/-- The items of an array and its closing bracket. -/
def compactItems : List Json → List Char
  | [] => [']']
  | [j] => compactChars j ++ [']']
  | j :: rest => compactChars j ++ ',' :: compactItems rest

/-- The members of an object and its closing brace. -/
def compactMembers : List (Literal × Json) → List Char
  | [] => ['\x7d']
  | [(k, v)] => k.chars ++ ':' :: compactChars v ++ ['\x7d']
  | (k, v) :: rest => k.chars ++ ':' :: compactChars v ++ ',' :: compactMembers rest

end

/-- A document on one line. -/
def compact (j : Json) : String := String.ofList (compactChars j)

/-! ### Several lines -/

/-- A new line at a level of nesting. -/
def newLine (level : Nat) : List Char := '\n' :: List.replicate (2 * level) ' '

mutual

/-- A document over several lines, inside `level` others. -/
def prettyChars (level : Nat) : Json → List Char
  | .null => ['n', 'u', 'l', 'l']
  | .bool true => ['t', 'r', 'u', 'e']
  | .bool false => ['f', 'a', 'l', 's', 'e']
  | .number n => n.chars
  | .string s => s.chars
  | .array [] => ['[', ']']
  | .array (j :: rest) => '[' :: prettyItems level (j :: rest)
  | .object [] => ['\x7b', '\x7d']
  | .object (m :: rest) => '\x7b' :: prettyMembers level (m :: rest)

/-- The items of an array, each on its line, and the closing bracket. -/
def prettyItems (level : Nat) : List Json → List Char
  | [] => newLine level ++ [']']
  | [j] => newLine (level + 1) ++ prettyChars (level + 1) j ++ newLine level ++ [']']
  | j :: rest => newLine (level + 1) ++ prettyChars (level + 1) j ++ ',' :: prettyItems level rest

/-- The members of an object, each on its line, and the closing brace. -/
def prettyMembers (level : Nat) : List (Literal × Json) → List Char
  | [] => newLine level ++ ['\x7d']
  | [(k, v)] =>
    newLine (level + 1) ++ k.chars ++ ':' :: ' ' :: prettyChars (level + 1) v ++
      newLine level ++ ['\x7d']
  | (k, v) :: rest =>
    newLine (level + 1) ++ k.chars ++ ':' :: ' ' :: prettyChars (level + 1) v ++
      ',' :: prettyMembers level rest

end

/-- A document over several lines. -/
def pretty (j : Json) : String := String.ofList (prettyChars 0 j)

end Warden.Json
