namespace Warden.Text

/-!
# Points in time as text

A point of universal time as `2026-01-31T23:59:59.250+00:00`. The fraction of the second has three,
six or nine digits, as many as it needs, and is left out if it is zero.

* `civil days` — the date that many days after 1970-01-01.
* `timestamp seconds nanos` — the text of a point in time.
-/

/-- A date of the Gregorian calendar. -/
structure Date where
  year : Nat
  month : Nat
  day : Nat
  deriving DecidableEq

/-- The date a number of days after 1970-01-01. Years are counted from March here, so that the
leap day is the last one; 400 years have 146097 days. -/
def civil (days : Nat) : Date :=
  let z := days + 719468
  let era := z / 146097
  let dayOfEra := z % 146097
  let yearOfEra :=
    (dayOfEra - dayOfEra / 1460 + dayOfEra / 36524 - dayOfEra / 146096) / 365
  let dayOfYear := dayOfEra - (365 * yearOfEra + yearOfEra / 4 - yearOfEra / 100)
  let monthFromMarch := (5 * dayOfYear + 2) / 153
  let month := if monthFromMarch < 10 then monthFromMarch + 3 else monthFromMarch - 9
  { year := 400 * era + yearOfEra + (if month ≤ 2 then 1 else 0)
    month
    day := dayOfYear - (153 * monthFromMarch + 2) / 5 + 1 }

example : civil 0 = ⟨1970, 1, 1⟩ := by decide
example : civil 11016 = ⟨2000, 2, 29⟩ := by decide
example : civil 20454 = ⟨2026, 1, 1⟩ := by decide

/-- A number with zeros before it up to a number of digits. -/
def zeroPadded (width n : Nat) : List Char :=
  let ds := Nat.toDigits 10 n
  List.replicate (width - ds.length) '0' ++ ds

/-- The fraction of a second with its point. -/
def fractionText (nanos : Nat) : List Char :=
  if nanos = 0 then []
  else if nanos % 1000000 = 0 then '.' :: zeroPadded 3 (nanos / 1000000)
  else if nanos % 1000 = 0 then '.' :: zeroPadded 6 (nanos / 1000)
  else '.' :: zeroPadded 9 nanos

/-- The text of a point in time, given in seconds since 1970 and nanoseconds. -/
def timestamp (seconds nanos : Nat) : String :=
  let date := civil (seconds / 86400)
  let rest := seconds % 86400
  String.ofList (
    zeroPadded 4 date.year ++ '-' :: zeroPadded 2 date.month ++ '-' :: zeroPadded 2 date.day ++
    'T' :: zeroPadded 2 (rest / 3600) ++ ':' :: zeroPadded 2 (rest / 60 % 60) ++
    ':' :: zeroPadded 2 (rest % 60) ++ fractionText nanos ++ "+00:00".toList)

end Warden.Text
