namespace Warden.Number

/-!
# Unsigned numbers in text

Reading a number without a sign up to a bound.

* `readDigits bound n cs` — goes on reading the digits `cs` after `n`.
* `readUnsigned bound cs` — reads a whole text; one leading plus sign is allowed.
* `Fault` — why a text is no such number, and its wording.
-/

/-- Why a text is not a number within its bound. -/
inductive Fault where
  | empty
  | invalidDigit
  | tooLarge
  deriving DecidableEq

/-- The wording of a fault. -/
def Fault.message : Fault → String
  | .empty => "cannot parse integer from empty string"
  | .invalidDigit => "invalid digit found in string"
  | .tooLarge => "number too large to fit in target type"

/-- The value of a decimal digit. -/
def digitValue (c : Char) : Nat := c.toNat - '0'.toNat

/-- The value of a hexadecimal digit. -/
def hexDigit? (c : Char) : Option Nat :=
  if '0' ≤ c ∧ c ≤ '9' then some (c.toNat - '0'.toNat)
  else if 'a' ≤ c ∧ c ≤ 'f' then some (c.toNat - 'a'.toNat + 10)
  else if 'A' ≤ c ∧ c ≤ 'F' then some (c.toNat - 'A'.toNat + 10)
  else none

/-- Reads decimal digits after the number `n`. The first character that is no digit, or that takes
the number beyond `bound`, ends the reading. -/
def readDigits (bound : Nat) : Nat → List Char → Except Fault Nat
  | n, [] => .ok n
  | n, c :: cs =>
    if c.isDigit then
      if 10 * n + digitValue c ≤ bound then readDigits bound (10 * n + digitValue c) cs
      else .error .tooLarge
    else .error .invalidDigit

/-- Reads a number of at most `bound`, with or without one leading plus sign. -/
def readUnsigned (bound : Nat) : List Char → Except Fault Nat
  | [] => .error .empty
  | ['+'] => .error .invalidDigit
  | '+' :: cs => readDigits bound 0 cs
  | cs => readDigits bound 0 cs

/-- The largest number of 64 bits. -/
def word64 : Nat := 18446744073709551615

/-- The largest number of 32 bits. -/
def word32 : Nat := 4294967295

/-- How many numbers of 64 bits there are. -/
abbrev wordCount : Nat := 18446744073709551616

/-- What is read never exceeds the bound. -/
theorem readDigits_le {bound n m : Nat} {cs : List Char} (hn : n ≤ bound)
    (h : readDigits bound n cs = .ok m) : m ≤ bound := by
  induction cs generalizing n with
  | nil => simp only [readDigits, Except.ok.injEq] at h; omega
  | cons c cs ih =>
    simp only [readDigits] at h
    split at h
    · split at h
      next hle => exact ih hle h
      · simp at h
    · simp at h

end Warden.Number
