import Warden.Program.Basic

namespace Warden.Program

/-!
# Commands on the audit log

* `showLog` — the last entries, as text or as they are stored.
* `verifyLog` — whether every entry still follows from the one before it.
-/

/-- A text with blanks behind it up to a number of characters. -/
def padded (width : Nat) (s : String) : String :=
  s ++ String.ofList (List.replicate (width - s.length) ' ')

/-- An entry on a line for people. -/
def entryText (e : Audit.Entry) : String :=
  let subject := if e.subject.isEmpty then "-" else e.subject
  let start := e.time ++ "  " ++ padded 20 e.action.name ++ " " ++ padded 24 subject ++
    " [" ++ e.source ++ "]"
  match e.detail with
  | some detail => start ++ " " ++ detail
  | none => start

/-- The last `limit` items of a list; all of them if `limit` is zero. -/
def lastItems (limit : Nat) (items : List α) : List α :=
  if limit = 0 then items else items.drop (items.length - limit)

variable {m : Type → Type} [Monad m] [Disk m]

/-- Shows the last entries. -/
def showLog (l : Loaded) (limit : Nat) (json : Bool) : ExceptT Failure m (List String) := do
  let entries := Audit.entries (← (Audit.load l.paths.stateDir).adapt Failure.io)
  if entries.isEmpty then return ["No audit entries"]
  else return (lastItems limit entries).map fun e => if json then e.line else entryText e

/-- Checks the links between the entries. -/
def verifyLog (l : Loaded) : m Report := do
  let path := l.paths.auditLog
  match ← (Audit.load l.paths.stateDir).run with
  | .error f => return ⟨[], some (.io f)⟩
  | .ok log =>
    match Audit.broken log with
    | [] => return ⟨["Audit chain intact: " ++ path], none⟩
    | broken =>
      return ⟨broken.map fun i => "Broken link at entry " ++ toString i,
        some (.brokenLog path broken.length)⟩

end Warden.Program
