import Warden.Json.Basic

namespace Warden.Json

/-!
# Reading JSON text

The grammar of JSON, by recursive descent over characters. A text is either grammatical, and then
has a tree, or it is not; values play no part here.

* `readLiteral`, `readNumeral` — a string after its opening quote, and a number.
* `readValue fuel cs` — one value at the start of `cs` and what follows it. The fuel bounds the
  number of nested steps; twice the length of the text is always enough.
* `read cs` — a whole text.
-/

/-! ### Strings -/

/-- A character of a string literal: itself, or a code unit that an escape names. -/
inductive StringUnit where
  | char (c : Char)
  | code (n : Nat)
  deriving DecidableEq

/-- The number four hexadecimal digits stand for. -/
def hexCode? (a b c d : Char) : Option Nat := do
  let ds ← [a, b, c, d].mapM Number.hexDigit?
  return ds.foldl (fun n d => 16 * n + d) 0

/-- The character that a one-letter escape stands for. -/
def shortEscape? : Char → Option Char
  | '"' => some '"'
  | '\\' => some '\\'
  | '/' => some '/'
  | 'b' => some '\x08'
  | 'f' => some '\x0c'
  | 'n' => some '\n'
  | 'r' => some '\r'
  | 't' => some '\t'
  | _ => none

/-- The units of a string literal after its opening quote, and what follows its closing one. -/
def scanString : List Char → Option (List StringUnit × List Char)
  | [] => none
  | '"' :: rest => some ([], rest)
  | '\\' :: 'u' :: a :: b :: c :: d :: rest =>
    match hexCode? a b c d, scanString rest with
    | some n, some (us, r) => some (.code n :: us, r)
    | _, _ => none
  | '\\' :: e :: rest =>
    match shortEscape? e, scanString rest with
    | some c, some (us, r) => some (.char c :: us, r)
    | _, _ => none
  | c :: rest =>
    if c.toNat < 32 ∨ c = '\\' then none
    else match scanString rest with
      | some (us, r) => some (.char c :: us, r)
      | none => none

/-- Whether a code unit is the leading half of a surrogate pair. -/
def isLeading (n : Nat) : Bool := 0xD800 ≤ n && n ≤ 0xDBFF

/-- Whether a code unit is the trailing half of a surrogate pair. -/
def isTrailing (n : Nat) : Bool := 0xDC00 ≤ n && n ≤ 0xDFFF

/-- The text of a string literal; its first unpaired surrogate leaves it without one. -/
def resolve : List StringUnit → Except SurrogateFault (List Char)
  | [] => .ok []
  | .char c :: us => (resolve us).map (c :: ·)
  | [.code n] =>
    if isTrailing n then .error .lone
    else if isLeading n then .error .unfinished
    else .ok [Char.ofNat n]
  | .code n :: .char c :: us =>
    if isTrailing n then .error .lone
    else if isLeading n then .error .unfinished
    else (resolve us).map fun cs => Char.ofNat n :: c :: cs
  | .code n :: .code m :: us =>
    if isTrailing n then .error .lone
    else if isLeading n then
      if isTrailing m then
        (resolve us).map (Char.ofNat ((n - 0xD800) * 0x400 + (m - 0xDC00) + 0x10000) :: ·)
      else .error .lone
    else (resolve (.code m :: us)).map (Char.ofNat n :: ·)

/-- A string literal after its opening quote, and what follows it. -/
def readLiteral (cs : List Char) : Option (Literal × List Char) :=
  (scanString cs).map fun (us, rest) =>
    match resolve us with
    | .ok text => (.text text, rest)
    | .error f => (.broken f, rest)

/-! ### Numbers -/

/-- Goes on reading digits after the number `n` as long as the result has 64 bits; the digits left
over are the second part. -/
def fitDigits : Nat → List Char → Nat × List Char
  | n, [] => (n, [])
  | n, c :: cs =>
    if 10 * n + Number.digitValue c ≤ Number.word64 then
      fitDigits (10 * n + Number.digitValue c) cs
    else (n, c :: cs)

/-- The value of digits without any bound. -/
def digitsValue (ds : List Char) : Nat := ds.foldl (fun n c => 10 * n + Number.digitValue c) 0

/-- The largest exponent that is read exactly. -/
def maxExponent : Nat := Nat.pow 2 31 - 1

/-- A number that is no whole number of 64 bits: the digits that fit, scaled by what is left over
and by its exponent. Digits that do not fit count as zeros. -/
def fraction (negative : Bool) (whole part : List Char) (exponent : Option (Bool × List Char)) :
    Numeral :=
  let (n, beyond) := fitDigits 0 whole
  let (n, unread) := fitDigits n part
  let scale : Int := (beyond.length : Int) - ((part.length : Int) - unread.length)
  let real (s : Int) : Numeral :=
    match Number.Binary64.ofDecimal negative n s with
    | some x => .real x
    | none => .tooLarge
  match exponent with
  | none => real scale
  | some (down, ds) =>
    let e := digitsValue ds
    -- No mantissa makes up for such an exponent: the number is zero or too large.
    if maxExponent < e then
      if n ≠ 0 ∧ !down then .tooLarge else .real ⟨negative, 0, -1074⟩
    else real (if down then scale - e else scale + e)

/-- A number without a fraction and an exponent. Minus zero is a binary fraction, for only those
know it. -/
def whole (negative : Bool) (ds : List Char) : Numeral :=
  let n := digitsValue ds
  if !negative ∧ n ≤ Number.word64 then .natural n
  else if negative ∧ 0 < n ∧ n ≤ Nat.pow 2 63 then .negative n
  else fraction negative ds [] none

/-- The digits at the start of a text, at least one, and what follows them. -/
def scanDigits (cs : List Char) : Option (List Char × List Char) :=
  match cs.takeWhile Char.isDigit with
  | [] => none
  | ds => some (ds, cs.dropWhile Char.isDigit)

/-- The whole part of a number: a zero alone, or digits that start with another one. -/
def scanWhole : List Char → Option (List Char × List Char)
  | '0' :: rest => some (['0'], rest)
  | cs => scanDigits cs

/-- The part of a number behind its point, and what follows it. -/
def scanPart : List Char → Option (List Char × List Char)
  | '.' :: rest => scanDigits rest
  | cs => some ([], cs)

/-- The exponent of a number, with its sign, and what follows it. -/
def scanExponent : List Char → Option (Option (Bool × List Char) × List Char)
  | c :: rest =>
    if c = 'e' ∨ c = 'E' then
      match rest with
      | '-' :: r => (scanDigits r).map fun (ds, r) => (some (true, ds), r)
      | '+' :: r => (scanDigits r).map fun (ds, r) => (some (false, ds), r)
      | r => (scanDigits r).map fun (ds, r) => (some (false, ds), r)
    else some (none, c :: rest)
  | [] => some (none, [])

/-- A number and what follows it. -/
def readNumeral (cs : List Char) : Option (Numeral × List Char) := do
  let negative := cs.head? == some '-'
  let (ds, rest) ← scanWhole (if negative then cs.drop 1 else cs)
  let (part, rest) ← scanPart rest
  let (exponent, rest) ← scanExponent rest
  if part.isEmpty ∧ exponent.isNone then return (whole negative ds, rest)
  else return (fraction negative ds part exponent, rest)

/-! ### Values -/

/-- Whether `c` may stand between the tokens of a document. -/
def isSpace (c : Char) : Bool := c == ' ' || c == '\n' || c == '\t' || c == '\r'

/-- A text without the spaces it starts with. -/
def skipSpaces (cs : List Char) : List Char := cs.dropWhile isSpace

mutual

/-- One value at the start of a text, and what follows it. -/
def readValue : Nat → List Char → Option (Json × List Char)
  | 0, _ => none
  | fuel + 1, cs =>
    match skipSpaces cs with
    | 'n' :: 'u' :: 'l' :: 'l' :: rest => some (.null, rest)
    | 't' :: 'r' :: 'u' :: 'e' :: rest => some (.bool true, rest)
    | 'f' :: 'a' :: 'l' :: 's' :: 'e' :: rest => some (.bool false, rest)
    | '"' :: rest => (readLiteral rest).map fun (s, r) => (.string s, r)
    | '[' :: rest =>
      match skipSpaces rest with
      | ']' :: r => some (.array [], r)
      | r => (readItems fuel r).map fun (items, r) => (.array items, r)
    | '\x7b' :: rest =>
      match skipSpaces rest with
      | '\x7d' :: r => some (.object [], r)
      | r => (readMembers fuel r).map fun (members, r) => (.object members, r)
    | rest => (readNumeral rest).map fun (n, r) => (.number n, r)

/-- The items of an array up to its closing bracket, and what follows that. -/
def readItems : Nat → List Char → Option (List Json × List Char)
  | 0, _ => none
  | fuel + 1, cs =>
    match readValue fuel cs with
    | none => none
    | some (j, rest) =>
      match skipSpaces rest with
      | ']' :: r => some ([j], r)
      | ',' :: r => (readItems fuel r).map fun (js, r) => (j :: js, r)
      | _ => none

/-- The members of an object up to its closing brace, and what follows that. -/
def readMembers : Nat → List Char → Option (List (Literal × Json) × List Char)
  | 0, _ => none
  | fuel + 1, cs =>
    match skipSpaces cs with
    | '"' :: rest =>
      match readLiteral rest with
      | none => none
      | some (k, rest) =>
        match skipSpaces rest with
        | ':' :: rest =>
          match readValue fuel rest with
          | none => none
          | some (v, rest) =>
            match skipSpaces rest with
            | '\x7d' :: r => some ([(k, v)], r)
            | ',' :: r => (readMembers fuel r).map fun (ms, r) => ((k, v) :: ms, r)
            | _ => none
        | _ => none
    | _ => none

end

/-- The tree of a grammatical text. -/
def read (cs : List Char) : Option Json :=
  match readValue (2 * cs.length + 2) cs with
  | some (j, rest) => if (skipSpaces rest).isEmpty then some j else none
  | none => none

end Warden.Json
