import Warden.Number.Unsigned
import Warden.Text.Blank
import Warden.Toml.Basic

namespace Warden.Toml

/-!
# Values without quotes

Truth values, numbers, and points in time, all written as one word.

* `integer?` — a whole number in decimal, or without a sign in one of three other bases.
* `isReal` — a number with a fraction or an exponent.
* `isMoment` — a date, a time of day, or both, the last with or without an offset.
* `readScalar` — such a value at the start of a text, and what follows it.
-/

/-! ### Numbers -/

/-- The digits in a base, without the underscores that may stand between two of them. -/
def digits? (base : Nat) (cs : List Char) : Option (List Nat) := do
  let groups := Text.splitOn '_' cs
  if groups.any List.isEmpty then none
  else groups.flatten.mapM fun c => (Number.hexDigit? c).filter (· < base)

/-- The number that digits stand for. -/
def ofDigits (base : Nat) (ds : List Nat) : Nat := ds.foldl (fun n d => base * n + d) 0

/-- Decimal digits that do not start with a superfluous zero. -/
def wholeDigits? (cs : List Char) : Option (List Nat) :=
  (digits? 10 cs).filter fun ds => ds.head? ≠ some 0 || ds.length = 1

/-- A number without its sign, and whether the sign is a minus. -/
def signed : List Char → Bool × List Char
  | '+' :: rest => (false, rest)
  | '-' :: rest => (true, rest)
  | cs => (false, cs)

/-- A whole number within 128 bits. -/
def integer? (cs : List Char) : Option Int :=
  let value : Option Int :=
    match cs with
    | '0' :: 'x' :: rest => (digits? 16 rest).map fun ds => ofDigits 16 ds
    | '0' :: 'o' :: rest => (digits? 8 rest).map fun ds => ofDigits 8 ds
    | '0' :: 'b' :: rest => (digits? 2 rest).map fun ds => ofDigits 2 ds
    | _ =>
      let (negative, rest) := signed cs
      (wholeDigits? rest).map fun ds =>
        if negative then -(ofDigits 10 ds : Int) else ofDigits 10 ds
  value.filter fun n => -(Nat.pow 2 127 : Int) ≤ n ∧ n < Nat.pow 2 128

/-- The least number beyond all finite numbers of 64 bits after rounding. -/
def realBound : Nat := (Nat.pow 2 54 - 1) * Nat.pow 2 970

/-- Whether `digits · 10 ^ scale` is a finite number of 64 bits. -/
def isFinite (ds : List Nat) (scale : Int) : Bool :=
  let n := ofDigits 10 ds
  -- A number with no digit before its point is below one, so powers of ten are not computed for it.
  if scale < 0 then ds.length ≤ scale.natAbs || n < realBound * Nat.pow 10 scale.natAbs
  else n = 0 || (scale ≤ 308 && n * Nat.pow 10 scale.toNat < realBound)

/-- A text up to a mark, and what follows the mark if there is one. -/
def cut (mark : Char → Bool) (cs : List Char) : List Char × Option (List Char) :=
  let rest := cs.dropWhile fun c => !mark c
  (cs.takeWhile fun c => !mark c, if rest.isEmpty then none else some rest.tail)

/-- The power of ten behind the mark of an exponent. -/
def exponent? : Option (List Char) → Option Int
  | none => some 0
  | some cs =>
    let (negative, rest) := signed cs
    (digits? 10 rest).map fun ds => if negative then -(ofDigits 10 ds : Int) else ofDigits 10 ds

/-- The digits behind the point. -/
def fraction? : Option (List Char) → Option (List Nat)
  | none => some []
  | some cs => digits? 10 cs

/-- Whether a text is a number with a fraction or an exponent, infinite, or no number. -/
def isReal (cs : List Char) : Bool :=
  let (_, rest) := signed cs
  if rest = "inf".toList ∨ rest = "nan".toList then true
  else
    let (mantissa, power) := cut (fun c => c = 'e' || c = 'E') rest
    let (whole, part) := cut (· = '.') mantissa
    match wholeDigits? whole, fraction? part, exponent? power with
    | some ds, some fs, some e =>
      (part.isSome || power.isSome) && isFinite (ds ++ fs) (e - fs.length)
    | _, _, _ => false

/-! ### Points in time -/

/-- The number in the two digits at the start of a text, and what follows them. -/
def twoDigits? : List Char → Option (Nat × List Char)
  | a :: b :: rest =>
    if a.isDigit && b.isDigit then
      some (10 * Number.digitValue a + Number.digitValue b, rest)
    else none
  | _ => none

/-- A number of two digits up to a bound, and what follows it. -/
def field? (bound : Nat) (cs : List Char) : Option (Nat × List Char) :=
  (twoDigits? cs).filter fun (n, _) => n ≤ bound

/-- What follows a mark at the start of a text. -/
def after? (mark : Char) : List Char → Option (List Char)
  | c :: rest => if c = mark then some rest else none
  | [] => none

/-- The days of a month. -/
def daysIn (year month : Nat) : Nat :=
  if month = 2 then
    if year % 4 = 0 ∧ (year % 100 ≠ 0 ∨ year % 400 = 0) then 29 else 28
  else if month = 4 ∨ month = 6 ∨ month = 9 ∨ month = 11 then 30
  else 31

/-- What follows a date at the start of a text. -/
def afterDate? (cs : List Char) : Option (List Char) := do
  let (century, cs) ← twoDigits? cs
  let (year, cs) ← twoDigits? cs
  let (month, cs) ← field? 12 (← after? '-' cs)
  let (day, cs) ← field? (daysIn (100 * century + year) month) (← after? '-' cs)
  if month = 0 ∨ day = 0 then none else some cs

/-- What follows a time of day at the start of a text. Seconds can be left out, and can have a
fraction. -/
def afterTime? (cs : List Char) : Option (List Char) := do
  let (_, cs) ← field? 23 cs
  let (_, cs) ← field? 59 (← after? ':' cs)
  match after? ':' cs with
  | none => return cs
  | some cs =>
    let (_, cs) ← field? 60 cs
    match after? '.' cs with
    | none => return cs
    | some cs => if cs.head?.any Char.isDigit then some (cs.dropWhile Char.isDigit) else none

/-- Whether a text is an offset from the universal time. -/
def isOffset : List Char → Bool
  | ['Z'] => true
  | ['z'] => true
  | c :: cs =>
    (c = '+' || c = '-') &&
      match field? 23 cs with
      | some (_, cs) => ((after? ':' cs).bind (field? 59)).any fun (_, cs) => cs.isEmpty
      | none => false
  | [] => false

/-- Whether a text is a point in time. -/
def isMoment (cs : List Char) : Bool :=
  match afterDate? cs with
  | none => (afterTime? cs).any List.isEmpty
  | some [] => true
  | some (c :: cs) =>
    (c = 'T' || c = 't' || c = ' ') &&
      (afterTime? cs).any fun rest => rest.isEmpty || isOffset rest

/-! ### Words -/

/-- Whether a character can be part of a word. -/
def isWordChar (c : Char) : Bool := c.isAlphanum || "+-._:".toList.contains c

/-- The word at the start of a text, and what follows it. A date and a time with a blank between
them are one word. -/
def readWord (cs : List Char) : List Char × List Char :=
  let word := cs.takeWhile isWordChar
  match cs.dropWhile isWordChar with
  | ' ' :: d :: rest =>
    if d.isDigit && afterDate? word = some [] then
      (word ++ ' ' :: (d :: rest).takeWhile isWordChar, (d :: rest).dropWhile isWordChar)
    else (word, ' ' :: d :: rest)
  | rest => (word, rest)

/-- The value that a word stands for. -/
def ofWord? (word : List Char) : Option Toml :=
  if word = "true".toList then some (.boolean true)
  else if word = "false".toList then some (.boolean false)
  else
    match integer? word with
    | some n => some (.integer n)
    | none => if isReal word then some .real else if isMoment word then some .moment else none

/-- A value without quotes, and what follows it. -/
def readScalar (cs : List Char) : Option (Toml × List Char) :=
  let (word, rest) := readWord cs
  (ofWord? word).map (·, rest)

end Warden.Toml
