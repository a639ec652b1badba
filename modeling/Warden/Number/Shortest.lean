import Warden.Number.Binary64

namespace Warden.Number

/-!
# Shortest decimal text

A binary number is written with the fewest digits that read back as it, the nearest such number if
there are several.

* `shortestDigits x` — the digits and the decimal exponent of the first of them.
* `DecimalFormat` — where positional notation ends.
* `Binary64.text` — the text itself.
-/

/-! ### Digits -/

/-- Where a number lies: with `d` digits before it on a grid of `10 ^ unit`. -/
structure GridPoint where
  digits : Nat
  unit : Int

/-- `n · 2 ^ e` on a common scale with `onDecimal`. -/
def onBinary (e u : Int) (n : Nat) : Nat := n * Nat.pow 2 e.toNat * Nat.pow 10 (-u).toNat

/-- `n · 10 ^ u` on a common scale with `onBinary`. -/
def onDecimal (e u : Int) (n : Nat) : Nat := n * Nat.pow 10 u.toNat * Nat.pow 2 (-e).toNat

/-- The decimal exponent of the first digit of a number that is not zero. -/
def decimalExponent (x : Binary64) : Int :=
  let (num, den) := x.toRatio
  if den ≤ num then ((Nat.toDigits 10 (num / den)).length : Int) - 1
  else match (List.range 400).find? fun j => den ≤ num * Nat.pow 10 (j + 1) with
    | some j => -((j : Int) + 1)
    | none => -400

/-- Whether `d · 10 ^ u` reads back as `x`. -/
def readsBack (x : Binary64) (u : Int) (d : Nat) : Bool :=
  let m := x.mantissa
  -- All points are taken four times, so the halves between two neighbours are whole numbers. Below
  -- a power of two the neighbours lie half as far apart as above it.
  let low := if m = Nat.pow 2 52 ∧ -1074 < x.exponent then 4 * m - 1 else 4 * m - 2
  let point := onDecimal x.exponent u (4 * d)
  let a := onBinary x.exponent u low
  let b := onBinary x.exponent u (4 * m + 2)
  if m % 2 = 0 then a ≤ point && point ≤ b else a < point && point < b

/-- The point that reads back among the two neighbours of `x` on the grid of `10 ^ u`, the nearer
one if both do. -/
def neighbour? (x : Binary64) (u : Int) : Option GridPoint :=
  let value := onBinary x.exponent u x.mantissa
  let step := onDecimal x.exponent u 1
  let d := value / step
  let below := readsBack x u d
  let above := readsBack x u (d + 1)
  -- The nearer one goes first; of two equally near ones it is the even one.
  let up := step < 2 * (value - d * step) || (step == 2 * (value - d * step) && d % 2 == 1)
  if below && above then some ⟨if up then d + 1 else d, u⟩
  else if below then some ⟨d, u⟩
  else if above then some ⟨d + 1, u⟩
  else none

/-- The digits of a positive number, without trailing zeros, and the decimal exponent of the
first. -/
def shortestDigits (x : Binary64) : List Char × Int :=
  let k := decimalExponent x
  match (List.range 17).findSome? fun (n : Nat) => neighbour? x (k - (n : Int)) with
  | some p =>
    let ds := Nat.toDigits 10 p.digits
    ((ds.reverse.dropWhile (· == '0')).reverse, p.unit + ds.length - 1)
  | none => (['0'], 0)

/-! ### Text -/

/-- The least and the greatest decimal exponent of a number in positional notation. -/
structure DecimalFormat where
  leastPositional : Int
  greatestPositional : Int

/-- Numbers from `0.00001` up to `10 ^ 16` are positional. -/
def messageFormat : DecimalFormat := ⟨-5, 15⟩

/-- A positive number in positional notation, always with a point. -/
def positional (ds : List Char) (k : Int) : List Char :=
  if k < 0 then '0' :: '.' :: List.replicate ((-k).toNat - 1) '0' ++ ds
  else
    let whole := k.toNat + 1
    if ds.length ≤ whole then ds ++ List.replicate (whole - ds.length) '0' ++ ['.', '0']
    else ds.take whole ++ '.' :: ds.drop whole

/-- A positive number with an exponent, which always carries a sign. -/
def scientific (ds : List Char) (k : Int) : List Char :=
  ds.take 1 ++ (if ds.length ≤ 1 then [] else '.' :: ds.drop 1) ++
    'e' :: (if k < 0 then '-' else '+') :: Nat.toDigits 10 k.natAbs

/-- The shortest text of a number in a given format. -/
def Binary64.textIn (f : DecimalFormat) (x : Binary64) : String :=
  let body :=
    if x.mantissa = 0 then ['0', '.', '0']
    else
      let (ds, k) := shortestDigits x
      if f.leastPositional ≤ k ∧ k ≤ f.greatestPositional then positional ds k
      else scientific ds k
  String.ofList (if x.negative then '-' :: body else body)

/-- The shortest text of a number, as messages show it. -/
def Binary64.text (x : Binary64) : String := x.textIn messageFormat

end Warden.Number
