import Warden.Number.Unsigned
import Warden.Toml.Basic

namespace Warden.Toml

/-!
# Reading values out of a document

What a program expects at a place of a document, and what it takes there. A value of another kind is
no value.

* `boolean?`, `string?`, `word32?`, `list?`, `choice?` — values of one kind.
* `fields?` — the values of a record, by name or by position; `field` is one of them.
-/

/-- A truth value. -/
def boolean? : Toml → Option Bool
  | .boolean b => some b
  | _ => none

/-- A text. -/
def string? : Toml → Option String
  | .string s => some s
  | _ => none

/-- A natural number of 32 bits. -/
def word32? : Toml → Option Nat
  | .integer n => if 0 ≤ n ∧ n ≤ Number.word32 then some n.toNat else none
  | _ => none

/-- A list of values of one kind. -/
def list? (item : Toml → Option α) : Toml → Option (List α)
  | .array items => items.mapM item
  | _ => none

/-- One of several named values: its name, or a single key with nothing in it. -/
def choice? (choices : List (String × α)) : Toml → Option α
  | .string name => choices.lookup name
  | .table [(name, .table [])] => choices.lookup name
  | .table [(name, .array [])] => choices.lookup name
  | _ => none

/-- The values of a record. A list has them in the order of their names; a point in time has
none. -/
def fields? (names : List String) : Toml → Option (List (String × Toml))
  | .table entries => some entries
  | .array items => some (names.zip items)
  -- A point in time has a single field of a name that no record knows.
  | .moment => some []
  | _ => none

/-- The value of a field, which has a default. -/
def field (kind : Toml → Option α) (default : α) (name : String)
    (fields : List (String × Toml)) : Option α :=
  match fields.lookup name with
  | none => some default
  | some v => kind v

end Warden.Toml
