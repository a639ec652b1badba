import Warden.Json.Reader
import Warden.Json.Writer
import Warden.Text.Quoted

namespace Warden.Json

/-!
# Values of documents

Taking the value of an expected kind out of a document, and saying what is wrong if there is none.

* `Fault` — every way in which a document is not what was expected, and its wording.
* `Mode` — a value is decoded in place, or from a copy if the tag that tells its kind may stand
  behind it. The two differ in how many shapes they take for a choice.
* `readText`, `readFlag`, `readWord`, `readOptional`, `readChoice` — single values.
* `Shape` — a group of named values, as an object or as an array in the order of the fields.
* `readTagged` — a group whose kind is told by the member with a given name.
* `decode read s` — the value that a whole text stands for.
-/

/-! ### Faults -/

/-- What a value is, for messages. -/
inductive Found where
  | null
  | flag (b : Bool)
  | integer (i : Int)
  | real (x : Number.Binary64)
  | text (s : String)
  | sequence
  | map
  deriving DecidableEq

/-- The wording of what was found. -/
def Found.message : Found → String
  | .null => "null"
  | .flag b => "boolean `" ++ toString b ++ "`"
  | .integer i => "integer `" ++ toString i ++ "`"
  | .real x => "floating point `" ++ x.text ++ "`"
  | .text s => "string " ++ Text.quoted s
  | .sequence => "sequence"
  | .map => "map"

/-- Why a text or a document is not what was expected. -/
inductive Fault where
  /-- The text is not grammatical. -/
  | ungrammatical
  | expectedValue
  | trailingItems
  | nestedTooDeep
  | numberTooLarge
  | surrogate (fault : SurrogateFault)
  | invalidType (found : Found) (expected : String)
  | invalidValue (found : Found) (expected : String)
  | invalidLength (length : Nat) (expected : String)
  | missingField (name : String)
  | duplicateField (name : String)
  | unknownVariant (name : String) (known : List String)
  deriving DecidableEq

/-- The wording of the variants that would have been right. -/
def variantsMessage : List String → String
  | [] => "there are no variants"
  | [a] => "expected `" ++ a ++ "`"
  | [a, b] => "expected `" ++ a ++ "` or `" ++ b ++ "`"
  | names => "expected one of " ++ String.intercalate ", " (names.map fun n => "`" ++ n ++ "`")

/-- The wording of a fault. -/
def Fault.message : Fault → String
  | .ungrammatical => "syntax"
  | .expectedValue => "expected value"
  | .trailingItems => "trailing characters"
  | .nestedTooDeep => "recursion limit exceeded"
  | .numberTooLarge => "number out of range"
  | .surrogate .unfinished => "unexpected end of hex escape"
  | .surrogate .lone => "lone leading surrogate in hex escape"
  | .invalidType found expected => "invalid type: " ++ found.message ++ ", expected " ++ expected
  | .invalidValue found expected => "invalid value: " ++ found.message ++ ", expected " ++ expected
  | .invalidLength n expected => "invalid length " ++ toString n ++ ", expected " ++ expected
  | .missingField name => "missing field `" ++ name ++ "`"
  | .duplicateField name => "duplicate field `" ++ name ++ "`"
  | .unknownVariant name known => "unknown variant `" ++ name ++ "`, " ++ variantsMessage known

/-- The text of a string literal. -/
def Literal.value : Literal → Except Fault String
  | .text cs => .ok (String.ofList cs)
  | .broken f => .error (.surrogate f)

/-- What a document is; literals without a value are faults of their own. -/
def found : Json → Except Fault Found
  | .null => .ok .null
  | .bool b => .ok (.flag b)
  | .number (.natural n) => .ok (.integer n)
  | .number (.negative n) => .ok (.integer (-n))
  | .number (.real x) => .ok (.real x)
  | .number .tooLarge => .error .numberTooLarge
  | .string s => s.value.map .text
  | .array _ => .ok .sequence
  | .object _ => .ok .map

/-- The fault of a document that is of the wrong kind. -/
def mismatch (j : Json) (expected : String) : Fault :=
  match j.found with
  | .ok f => .invalidType f expected
  | .error e => e

/-! ### Copies -/

/-- Where a value is decoded from. -/
inductive Mode where
  | inPlace
  | fromCopy
  deriving DecidableEq

/-- How many arrays and objects may be open at once. -/
def maxDepth : Nat := 127

mutual

/-- Whether a document can be copied with room for `room` more levels of nesting: every literal has
a value, and no nesting is too deep. -/
def copyable (room : Nat) : Json → Except Fault Unit
  | .number .tooLarge => .error .numberTooLarge
  | .string (.broken f) => .error (.surrogate f)
  | .array items => if room = 0 then .error .nestedTooDeep else copyableItems (room - 1) items
  | .object ms => if room = 0 then .error .nestedTooDeep else copyableMembers (room - 1) ms
  | _ => .ok ()

/-- Whether all items can be copied; the first that cannot tells why. -/
def copyableItems (room : Nat) : List Json → Except Fault Unit
  | [] => .ok ()
  | j :: rest => do copyable room j; copyableItems room rest

/-- Whether all members can be copied; the first that cannot tells why. -/
def copyableMembers (room : Nat) : List (Literal × Json) → Except Fault Unit
  | [] => .ok ()
  | (k, v) :: rest => do
    let _ ← k.value
    copyable room v
    copyableMembers room rest

end

/-! ### Single values -/

/-- A string. -/
def readText : Json → Except Fault String
  | .string s => s.value
  | j => .error (mismatch j "a string")

/-- A boolean. -/
def readFlag : Json → Except Fault Bool
  | .bool b => .ok b
  | j => .error (mismatch j "a boolean")

/-- A natural number up to `bound`; `kind` is its name in messages. -/
def readWord (bound : Nat) (kind : String) : Json → Except Fault Nat
  | .number (.natural n) =>
    if n ≤ bound then .ok n else .error (.invalidValue (.integer n) kind)
  | .number (.negative n) => .error (.invalidValue (.integer (-n)) kind)
  | j => .error (mismatch j kind)

/-- A natural number of 64 bits. -/
def readWord64 : Json → Except Fault Nat := readWord Number.word64 "u64"

/-- A natural number of 32 bits. -/
def readWord32 : Json → Except Fault Nat := readWord Number.word32 "u32"

/-- A value that may be `null`. -/
def readOptional (read : Json → Except Fault α) : Json → Except Fault (Option α)
  | .null => .ok none
  | j => (read j).map some

/-- The value with a given name among named ones. -/
def pick (choices : List (String × α)) (name : String) : Except Fault α :=
  match choices.lookup name with
  | some a => .ok a
  | none => .error (.unknownVariant name (choices.map (·.1)))

/-- The empty value that may stand behind the name of a choice. -/
def readEmpty (mode : Mode) : Json → Except Fault Unit
  | .null => .ok ()
  | .object [] => if mode = .fromCopy then .ok () else .error (mismatch (.object []) "unit")
  | j => .error (mismatch j "unit")

/-- One of several named values, given by its name or as an object with its name alone. -/
def readChoice (mode : Mode) (choices : List (String × α)) : Json → Except Fault α
  | .string s => s.value.bind (pick choices)
  | .object [] =>
    match mode with
    | .inPlace => .error .expectedValue
    | .fromCopy => .error (.invalidValue .map "map with a single key")
  | .object ((k, v) :: rest) =>
    if mode = .fromCopy ∧ !rest.isEmpty then .error (.invalidValue .map "map with a single key")
    else do
      let a ← k.value.bind (pick choices)
      readEmpty mode v
      if rest.isEmpty then return a else throw .expectedValue
  | j =>
    match mode with
    | .inPlace => .error .expectedValue
    | .fromCopy => .error (mismatch j "string or map")

/-! ### Groups of named values -/

/-- A named value of a group: whether it must be there, and what is wrong with its value. -/
structure Field where
  name : String
  required : Bool
  check : Json → Except Fault Unit

/-- A field that must be there. -/
def Field.needed (name : String) (read : Json → Except Fault α) : Field :=
  ⟨name, true, fun j => (read j).map fun _ => ()⟩

/-- A field that may be left out. -/
def Field.spared (name : String) (read : Json → Except Fault α) : Field :=
  ⟨name, false, fun j => (read j).map fun _ => ()⟩

/-- A group of fields and its name in messages. -/
structure Shape where
  what : String
  fields : List Field

/-- The values of the fields of a group that are there. -/
abbrev Members := List (String × Json)

/-- The value of a field that may have been left out. -/
def Members.get? (m : Members) (name : String) (read : Json → Except Fault α) :
    Except Fault (Option α) :=
  match m.lookup name with
  | none => .ok none
  | some j => (read j).map some

/-- The value of a field that must be there. -/
def Members.get (m : Members) (name : String) (read : Json → Except Fault α) : Except Fault α :=
  match m.lookup name with
  | none => .error (.missingField name)
  | some j => read j

/-- The first required field that is not among the members. -/
def Shape.missing? (shape : Shape) (m : Members) : Option String :=
  (shape.fields.find? fun f => f.required && (m.lookup f.name).isNone).map (·.name)

/-- Collects the members of a group after those in `seen`, in the order of the text. Unknown ones
are passed over. -/
def Shape.ofMembers (shape : Shape) (seen : Members) :
    List (Literal × Json) → Except Fault Members
  | [] =>
    match shape.missing? seen with
    | some name => .error (.missingField name)
    | none => .ok seen
  | (k, v) :: rest => do
    let name ← k.value
    match shape.fields.find? (·.name == name) with
    -- Nobody asks for the value of an unknown member, so literals in it need none.
    | none => shape.ofMembers seen rest
    | some f =>
      if (seen.lookup name).isSome then throw (.duplicateField name)
      f.check v
      shape.ofMembers (seen ++ [(name, v)]) rest

/-- The wording of a number of elements. -/
def elements (n : Nat) : String :=
  toString n ++ (if n = 1 then " element" else " elements")

/-- Collects the members of a group from an array; `i` fields came before. -/
def Shape.ofItems (shape : Shape) (mode : Mode) :
    Nat → List Field → List Json → Except Fault Members
  | _, [], [] => .ok []
  | i, [], rest =>
    match mode with
    | .inPlace => .error .trailingItems
    | .fromCopy => .error (.invalidLength (i + rest.length) (elements i ++ " in sequence"))
  | i, f :: fs, [] =>
    if f.required then
      .error (.invalidLength i (shape.what ++ " with " ++ elements shape.fields.length))
    else shape.ofItems mode (i + 1) fs []
  | i, f :: fs, j :: js => do
    f.check j
    let rest ← shape.ofItems mode (i + 1) fs js
    return (f.name, j) :: rest

/-- The members of a group. -/
def Shape.read (shape : Shape) (mode : Mode) : Json → Except Fault Members
  | .object ms => shape.ofMembers [] ms
  | .array items => shape.ofItems mode 0 shape.fields items
  | j => .error (mismatch j shape.what)

/-! ### Tags -/

/-- The name in a tag. A copied tag may also be the position of the name in the list. -/
def readTag (mode : Mode) (names : List String) : Json → Except Fault String
  | .string s => s.value.bind fun name =>
      if names.contains name then .ok name else .error (.unknownVariant name names)
  | .number (.natural n) =>
    match mode with
    | .inPlace => .error (mismatch (.number (.natural n)) "variant identifier")
    | .fromCopy =>
      match names[n]? with
      | some name => .ok name
      | none =>
        .error (.invalidValue (.integer n)
          ("variant index 0 <= i < " ++ toString names.length))
  | j => .error (mismatch j "variant identifier")

/-- The tag of an object and its other members, which are copied. The tag itself is decoded in the
given mode. -/
def splitTag (mode : Mode) (tag : String) (names : List String) (seen : Option String)
    (others : List (Literal × Json)) :
    List (Literal × Json) → Except Fault (String × List (Literal × Json))
  | [] =>
    match seen with
    | none => .error (.missingField tag)
    | some name => .ok (name, others.reverse)
  | (k, v) :: rest => do
    let key ← k.value
    if key = tag then
      if seen.isSome then throw (.duplicateField tag)
      let name ← readTag mode names v
      splitTag mode tag names (some name) others rest
    else
      -- What the value means is not known before the tag is, so all of it has to be copied.
      copyable (maxDepth - 1) v
      splitTag mode tag names seen ((k, v) :: others) rest

/-- The tag of a document and a copy of the rest: an object without its tag, or an array without its
first item. -/
def readTagged (tag what : String) (names : List String) : Json → Except Fault (String × Json)
  | .object ms =>
    (splitTag .inPlace tag names none [] ms).map fun (name, others) => (name, .object others)
  | .array [] => .error (.missingField tag)
  | .array (t :: rest) => do
    let name ← readTag .inPlace names t
    copyableItems (maxDepth - 1) rest
    return (name, .array rest)
  | j => .error (mismatch j what)

/-! ### Texts -/

/-- The value of a text. A text that is not grammatical has no other fault. -/
def decode (read : Json → Except Fault α) (s : String) : Except Fault α :=
  match Json.read s.toList with
  | some j => read j
  | none => .error .ungrammatical

end Warden.Json
