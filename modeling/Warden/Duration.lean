import Warden.Number.Unsigned
import Warden.Text.Blank
import Warden.Text.Quoted

namespace Warden

/-!
# Durations

Spans of time in whole milliseconds, and the short texts that people write for them: a number and
a unit, such as `250ms`, `30s`, `5m` or `2h`.

* `Duration` — the span; `word` is what remains of it in a field of 64 bits.
* `Duration.parse` — the span a text stands for, or a `Duration.Fault`.
-/

/-- A span of time. -/
structure Duration where
  millis : Nat
  deriving DecidableEq

namespace Duration

/-- A number of seconds. -/
def seconds (n : Nat) : Duration := ⟨1000 * n⟩

/-- The whole seconds of a span. -/
def wholeSeconds (d : Duration) : Nat := d.millis / 1000

/-- The milliseconds of a span beyond its whole seconds. -/
def restMillis (d : Duration) : Nat := d.millis % 1000

/-- The milliseconds of a span in a field of 64 bits, which keeps the low ones. -/
def word (d : Duration) : Nat := d.millis % Number.wordCount

/-! ### Units -/

/-- A unit of time. -/
inductive TimeUnit where
  | millisecond
  | second
  | minute
  | hour
  deriving DecidableEq

/-- So many units of time. Minutes and hours are counted as seconds in a field of 64 bits; where
there are too many of them, the field keeps the low bits, as a build without overflow checks
does. -/
def TimeUnit.span : TimeUnit → Nat → Duration
  | .millisecond, n => ⟨n⟩
  | .second, n => .seconds n
  | .minute, n => .seconds (60 * n % Number.wordCount)
  | .hour, n => .seconds (3600 * n % Number.wordCount)

/-- The unit that a text names; seconds need no name. -/
def TimeUnit.ofName? : List Char → Option TimeUnit
  | ['m', 's'] => some .millisecond
  | [] => some .second
  | ['s'] => some .second
  | ['m'] => some .minute
  | ['h'] => some .hour
  | _ => none

/-! ### Texts -/

/-- Why a text is no duration. -/
inductive Fault where
  | empty
  | noNumber (text : String)
  | badNumber (text : String) (fault : Number.Fault)
  | unknownUnit (unit text : String)
  deriving DecidableEq

/-- The wording of a fault. -/
def Fault.message : Fault → String
  | .empty => "empty duration"
  | .noNumber s => "duration " ++ Text.quoted s ++ " has no number"
  | .badNumber s f => "duration " ++ Text.quoted s ++ ": " ++ f.message
  | .unknownUnit u s => "unknown duration unit " ++ Text.quoted u ++ " in " ++ Text.quoted s

/-- The span that a text without blanks at its ends stands for. -/
def parseTrimmed (cs : List Char) : Except Fault Duration :=
  if cs.isEmpty then .error .empty
  else
    let digits := cs.takeWhile Char.isDigit
    let unit := Text.trimList (cs.dropWhile Char.isDigit)
    let whole := String.ofList cs
    if digits.isEmpty then .error (.noNumber whole)
    else
      -- A number that is too large counts before an unknown unit.
      match Number.readDigits Number.word64 0 digits with
      | .error f => .error (.badNumber whole f)
      | .ok n =>
        match TimeUnit.ofName? unit with
        | some u => .ok (u.span n)
        | none => .error (.unknownUnit (String.ofList unit) whole)

/-- The span that a text stands for. -/
def parse (s : String) : Except Fault Duration := parseTrimmed (Text.trimList s.toList)

end Duration

end Warden
