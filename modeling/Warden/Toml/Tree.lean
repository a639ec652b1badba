import Warden.Toml.Basic

namespace Warden.Toml

/-!
# Tables under construction

A document states its tables piece by piece, and each piece has to agree with those before it. Here
a table under construction remembers how it came to be, for that decides what may still be added.

* `Node`, `Origin` — a value that is finished, a table, or a row of tables.
* `put path v` — adds a value by a dotted key.
* `openTable path`, `openRow path` — what a header does.
* `Node.finished` — the value at the end.
-/

/-- How a table came to be. -/
inductive Origin where
  /-- A header names a table inside of it. -/
  | implied
  /-- A dotted key goes through it. -/
  | dotted
  /-- A header names it. -/
  | header
  deriving DecidableEq

/-- A value or a table under construction. -/
inductive Node where
  | value (v : Toml)
  | table (origin : Origin) (entries : List (String × Node))
  /-- A row of tables, of which only the last is still under construction. -/
  | row (tables : List (List (String × Node)))

/-- The entries of a table under construction. -/
abbrev Entries := List (String × Node)

/-- The entries with another node at a key that is there. -/
def replaceAt (key : String) (n : Node) (es : Entries) : Entries :=
  es.map fun e => if e.1 = key then (key, n) else e

/-- Adds a value below a table by a dotted key. Only a `free` table takes it as an entry of its own;
the last table of a row is not free, but lets dotted keys through. Tables that a header names are
closed for dotted keys from outside, and so is every finished value. -/
def putIn (free : Bool) (v : Toml) : List String → Entries → Option Entries
  | [], _ => none
  | [key], es => if free && (es.lookup key).isNone then some (es ++ [(key, .value v)]) else none
  | key :: path, es =>
    match es.lookup key with
    -- A table that is made on the way is free, whatever the one around it is.
    | none => (putIn true v path []).map fun sub => es ++ [(key, .table .dotted sub)]
    | some (.table .dotted sub) =>
      (putIn true v path sub).map fun sub => replaceAt key (.table .dotted sub) es
    -- A table that headers only imply is open too; from then on no header can name it.
    | some (.table .implied sub) =>
      (putIn true v path sub).map fun sub => replaceAt key (.table .dotted sub) es
    | some (.row tables) => do
      let last ← putIn false v path (← tables.getLast?)
      return replaceAt key (.row (tables.dropLast ++ [last])) es
    | some _ => none

/-- Adds a value to a table by a dotted key. -/
def put (path : List String) (v : Toml) (es : Entries) : Option Entries := putIn true v path es

/-- Changes the table that a path of headers leads to. Tables on the way that are not there are
made; of a row the last table counts. -/
def along (act : Entries → Option Entries) : List String → Entries → Option Entries
  | [], es => act es
  | key :: path, es =>
    match es.lookup key with
    | none => (along act path []).map fun sub => es ++ [(key, .table .implied sub)]
    | some (.table o sub) => (along act path sub).map fun sub => replaceAt key (.table o sub) es
    | some (.row tables) => do
      let last ← along act path (← tables.getLast?)
      return replaceAt key (.row (tables.dropLast ++ [last])) es
    | some (.value _) => none

/-- Names a table by a header: a new one, or one that so far was only implied. -/
def claimTable (key : String) (es : Entries) : Option Entries :=
  match es.lookup key with
  | none => some (es ++ [(key, .table .header [])])
  | some (.table .implied sub) => some (replaceAt key (.table .header sub) es)
  | some _ => none

/-- Names the next table of a row by a header. -/
def claimRow (key : String) (es : Entries) : Option Entries :=
  match es.lookup key with
  | none => some (es ++ [(key, .row [[]])])
  | some (.row tables) => some (replaceAt key (.row (tables ++ [[]])) es)
  | some _ => none

/-- Does something to the table that holds the last key of a path. -/
def atLast (act : String → Entries → Option Entries) (path : List String) (es : Entries) :
    Option Entries := do
  along (act (← path.getLast?)) path.dropLast es

/-- The header of a table. -/
def openTable (path : List String) (es : Entries) : Option Entries := atLast claimTable path es

/-- The header of a table in a row. -/
def openRow (path : List String) (es : Entries) : Option Entries := atLast claimRow path es

mutual

/-- The finished value of a node. -/
def Node.finished : Node → Toml
  | .value v => v
  | .table _ es => .table (finishedEntries es)
  | .row tables => .array (finishedRow tables)

/-- The finished values of entries. -/
def finishedEntries : List (String × Node) → List (String × Toml)
  | [] => []
  | (k, n) :: rest => (k, n.finished) :: finishedEntries rest

/-- The finished tables of a row. -/
def finishedRow : List (List (String × Node)) → List Toml
  | [] => []
  | es :: rest => .table (finishedEntries es) :: finishedRow rest

end

end Warden.Toml
