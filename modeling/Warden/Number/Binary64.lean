namespace Warden.Number

/-!
# Binary floating point numbers of 64 bits

Finite numbers with a sign, a mantissa of 53 bits and an exponent of at least -1074, and the
rounding of exact quotients to them. Everything is computed with natural numbers.

* `Binary64.ofRatio num den` — the number nearest to `num / den`; a half goes to the even mantissa.
* `Binary64.ofDecimal negative digits scale` — `digits · 10 ^ scale` in the way number literals are
  read: `digits` and the power of ten are rounded first, then their product or quotient is.
-/

/-- The number `± mantissa · 2 ^ exponent`. -/
structure Binary64 where
  negative : Bool
  mantissa : Nat
  exponent : Int
  deriving DecidableEq

namespace Binary64

/-- Zero without a sign. -/
def zero : Binary64 := ⟨false, 0, -1074⟩

/-- `num / den` rounded to the nearest natural number, a half to the even one. -/
def roundDiv (num den : Nat) : Nat :=
  let q := num / den
  let r := num % den
  if 2 * r < den then q
  else if den < 2 * r then q + 1
  else if q % 2 = 0 then q else q + 1

/-- The two parts of the quotient `num / den / 2 ^ e`. -/
def shiftRatio (num den : Nat) (e : Int) : Nat × Nat :=
  (num * Nat.pow 2 (-e).toNat, den * Nat.pow 2 e.toNat)

/-- The exponent with which `num / den` has a mantissa of 53 bits, but never below -1074. -/
def exponentOf (num den : Nat) : Int :=
  let guess : Int := (num.log2 : Int) - den.log2 - 52
  let (n, d) := shiftRatio num den guess
  max (-1074) (if n / d < Nat.pow 2 52 then guess - 1 else guess)

/-- The nonnegative number nearest to `num / den`; `none` if it is too large. -/
def ofRatio (num den : Nat) : Option Binary64 :=
  if num = 0 then some zero
  else
    let e := exponentOf num den
    let (n, d) := shiftRatio num den e
    let m := roundDiv n d
    -- Rounding up may take the mantissa to the next power of two, which has one bit too many.
    let r : Binary64 := if m = Nat.pow 2 53 then ⟨false, Nat.pow 2 52, e + 1⟩ else ⟨false, m, e⟩
    if 971 < r.exponent then none else some r

/-- The value as a quotient of natural numbers, without its sign. -/
def toRatio (x : Binary64) : Nat × Nat :=
  (x.mantissa * Nat.pow 2 x.exponent.toNat, Nat.pow 2 (-x.exponent).toNat)

/-- The product with the number nearest to `10 ^ k`. -/
def timesPower (x : Binary64) (k : Nat) : Option Binary64 := do
  let p ← ofRatio (Nat.pow 10 k) 1
  ofRatio (x.toRatio.1 * p.toRatio.1) (x.toRatio.2 * p.toRatio.2)

/-- The quotient by the number nearest to `10 ^ k`. -/
def overPower (x : Binary64) (k : Nat) : Option Binary64 := do
  let p ← ofRatio (Nat.pow 10 k) 1
  ofRatio (x.toRatio.1 * p.toRatio.2) (x.toRatio.2 * p.toRatio.1)

/-- The largest power of ten in one step of scaling. -/
def maxPower : Nat := 308

/-- `x / 10 ^ k`, in steps of at most `10 ^ 308`; the first argument bounds their number. -/
def scaleDown : Nat → Binary64 → Nat → Option Binary64
  | 0, x, _ => some x
  | steps + 1, x, k =>
    if k ≤ maxPower then x.overPower k
    -- A zero stays one, whatever it is divided by.
    else if x.mantissa = 0 then some x
    else (x.overPower maxPower).bind fun y => scaleDown steps y (k - maxPower)

/-- The number a literal with these digits and this power of ten stands for; `none` if it is too
large. -/
def ofDecimal (negative : Bool) (digits : Nat) (scale : Int) : Option Binary64 := do
  let x ← ofRatio digits 1
  let y ←
    if scale < 0 then scaleDown scale.natAbs x scale.natAbs
    else if scale.toNat ≤ maxPower then x.timesPower scale.toNat
    else if digits = 0 then some x
    else none
  return { y with negative := negative }

end Binary64

end Warden.Number
