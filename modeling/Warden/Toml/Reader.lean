import Warden.Toml.Quoted
import Warden.Toml.Scalar
import Warden.Toml.Tree

namespace Warden.Toml

/-!
# Reading a document

A document is a sequence of statements, one on a line: keys with values, and headers. Only arrays
and tables in braces go over several lines, and there line ends and comments may stand between any
two parts, except inside a dotted key.

* `readKey` — a dotted key.
* `readValue depth` — a value that is nested at most `depth` times.
* `Statement`, `readStatement` — one statement.
* `ofText` — a whole document, or `none` if the text is none.
-/

/-! ### Gaps -/

/-- What follows blanks, line ends and comments; the first argument tells whether the text starts
inside a comment. -/
def skipGap : Bool → List Char → Option (List Char)
  | _, [] => some []
  | _, '\n' :: rest => skipGap false rest
  | _, '\r' :: '\n' :: rest => skipGap false rest
  | true, c :: rest => if isPlain c then skipGap true rest else none
  | false, c :: rest =>
    if c = '#' then skipGap true rest
    else if isBlank c then skipGap false rest
    else some (c :: rest)

/-- What follows the blanks after a statement, where a line or a comment has to end it. -/
def endStatement (cs : List Char) : Option (List Char) :=
  let cs := skipBlanks cs
  if cs.isEmpty || cs.head? = some '#' || (newline? cs).isSome then some cs else none

/-! ### Keys -/

/-- Whether a character may be in a key without quotes. -/
def isKeyChar (c : Char) : Bool := c.isAlphanum || c = '_' || c = '-'

/-- One part of a key, and what follows it. -/
def readKeyPart (cs : List Char) : Option (String × List Char) :=
  match cs.takeWhile isKeyChar with
  | [] => readOneLine cs
  | word => some (String.ofList word, cs.dropWhile isKeyChar)

/-- A key of at most `fuel` parts with dots between them, and what follows the blanks behind it. -/
def readKeyParts : Nat → List Char → Option (List String × List Char)
  | 0, _ => none
  | fuel + 1, cs => do
    let (part, cs) ← readKeyPart cs
    match skipBlanks cs with
    | '.' :: rest =>
      let (parts, cs) ← readKeyParts fuel (skipBlanks rest)
      return (part :: parts, cs)
    | rest => return ([part], rest)

/-- How many parts a key may have. -/
def maxKeyParts : Nat := 80

/-- A key after blanks, and what follows the blanks behind it. -/
def readKey (cs : List Char) : Option (List String × List Char) :=
  readKeyParts maxKeyParts (skipBlanks cs)

/-! ### Values -/

/-- A way to read a value at the start of a text. -/
abbrev ValueReader := List Char → Option (Toml × List Char)

/-- A key and its value, and what follows them. What may stand between the key, the sign and the
value is for `skip` to say. -/
def readPair (skip : List Char → Option (List Char)) (value : ValueReader) (cs : List Char) :
    Option ((List String × Toml) × List Char) := do
  let (path, cs) ← readKey cs
  let cs ← skip (← after? '=' (← skip cs))
  let (v, cs) ← value cs
  return ((path, v), cs)

/-- Items between commas up to a closing bracket, and what follows it. A comma may stand behind the
last one. There are at most `fuel` items. -/
def readItems (item : List Char → Option (α × List Char)) (close : Char) :
    Nat → List Char → Option (List α × List Char)
  | 0, _ => none
  | fuel + 1, cs => do
    let cs ← skipGap false cs
    match after? close cs with
    | some rest => return ([], rest)
    | none =>
      let (a, cs) ← item cs
      let cs ← skipGap false cs
      match after? close cs with
      | some rest => return ([a], rest)
      | none =>
        let (as, cs) ← readItems item close fuel (← after? ',' cs)
        return (a :: as, cs)

/-- The table in braces with these entries. -/
def ofPairs (pairs : List (List String × Toml)) : Option Toml := do
  let es ← pairs.foldlM (fun es (path, v) => put path v es) []
  return .table (finishedEntries es)

/-- A value and what follows it. Arrays and tables in braces are nested at most `depth` times. -/
def readValue : Nat → ValueReader
  | depth, '[' :: rest =>
    match depth with
    | 0 => none
    | depth + 1 =>
      (readItems (readValue depth) ']' (rest.length + 1) rest).map fun (items, cs) =>
        (.array items, cs)
  | depth, '\x7b' :: rest =>
    match depth with
    | 0 => none
    | depth + 1 => do
      let (pairs, cs) ←
        readItems (readPair (skipGap false) (readValue depth)) '\x7d' (rest.length + 1) rest
      return (← ofPairs pairs, cs)
  | _, cs =>
    match readString cs with
    | some (s, rest) => some (.string s, rest)
    | none => readScalar cs

/-- How deep values may be nested. -/
def maxDepth : Nat := 80

/-! ### Statements -/

/-- One statement of a document. -/
inductive Statement where
  | assign (path : List String) (v : Toml)
  | table (path : List String)
  | row (path : List String)

/-- A statement at the start of a text, and what follows it. -/
def readStatement : List Char → Option (Statement × List Char)
  | '[' :: '[' :: rest => do
    let (path, cs) ← readKey rest
    return (.row path, ← after? ']' (← after? ']' cs))
  | '[' :: rest => do
    let (path, cs) ← readKey rest
    return (.table path, ← after? ']' cs)
  | cs =>
    (readPair (some ∘ skipBlanks) (readValue maxDepth) cs).map fun ((path, v), cs) =>
      (.assign path v, cs)

/-- At most `fuel` statements up to the end of a text. -/
def readStatements : Nat → List Char → Option (List Statement)
  | 0, _ => none
  | fuel + 1, cs => do
    match ← skipGap false cs with
    | [] => return []
    | cs =>
      let (s, cs) ← readStatement cs
      return s :: (← readStatements fuel (← endStatement cs))

/-! ### Documents -/

/-- A document under construction, with the path of the table that is open. -/
structure Draft where
  entries : Entries
  here : List String

/-- The draft after a statement. -/
def Draft.step (d : Draft) : Statement → Option Draft
  | .assign path v => (along (put path v) d.here d.entries).map fun es => ⟨es, d.here⟩
  | .table path => (openTable path d.entries).map fun es => ⟨es, path⟩
  | .row path => (openRow path d.entries).map fun es => ⟨es, path⟩

/-- A text without the mark of its byte order. -/
def dropMark : List Char → List Char
  | '\uFEFF' :: rest => rest
  | cs => cs

/-- The document that a text is. -/
def ofText (text : String) : Option Toml := do
  let cs := dropMark text.toList
  let statements ← readStatements (cs.length + 1) cs
  let draft ← statements.foldlM Draft.step ⟨[], []⟩
  return .table (finishedEntries draft.entries)

end Warden.Toml
