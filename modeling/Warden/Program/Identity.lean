import Warden.Number.Unsigned

namespace Warden.Program

/-!
# Who runs the program

The system describes a running process in two short texts: one that starts with the number of the
process, and one with a line for the numbers of its user.

* `processNumber`, `userNumber` — the numbers in these texts.
* `variableNames` — the variables of the environment that the program looks at.
-/

/-- The number that a text starts with. -/
def leadingNumber (cs : List Char) : Nat :=
  (cs.takeWhile Char.isDigit).foldl (fun n c => 10 * n + Number.digitValue c) 0

/-- The number of a process, from its status in one line. -/
def processNumber (status : String) : Nat := leadingNumber status.toList

/-- What follows a word in a text. -/
def afterWord? (word : List Char) : List Char → Option (List Char)
  | [] => none
  | c :: rest =>
    if word.isPrefixOf (c :: rest) then some ((c :: rest).drop word.length)
    else afterWord? word rest

/-- The number of the user of a process, from its status with names. -/
def userNumber (status : String) : Nat :=
  let rest := (afterWord? "Uid:".toList status.toList).getD []
  leadingNumber (rest.dropWhile fun c => !c.isDigit)

/-- The variables of the environment that the program looks at. -/
def variableNames : List String := [
  "HOME", "TMPDIR", "PINGUARD_CONFIG", "PINGUARD_PACKAGE",
  "PINGUARD_CONFIG_DIR", "PINGUARD_STATE_DIR", "PINGUARD_RUNTIME_DIR",
  "XDG_CONFIG_HOME", "XDG_STATE_HOME", "XDG_RUNTIME_DIR"]

end Warden.Program
