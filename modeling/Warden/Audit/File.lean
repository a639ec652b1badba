import Warden.Audit.Log
import Warden.Disk.Basic

namespace Warden.Audit

/-!
# The file of the audit log

The log lies in a file of the state directory, and only ever grows at its end.

* `load dir` — the log in a directory; no file is an empty log.
* `report dir r time` — adds an event.
-/

variable {m : Type → Type} [Monad m] [Disk m]

/-- The name of the file. -/
def fileName : String := "pinguard.audit.jsonl"

/-- The path of the file in a directory. -/
def path (dir : String) : String := Path.join dir fileName

/-- The log in a directory. -/
def load (dir : String) : ExceptT IoFault m String := do
  if ← liftM (Disk.exists? (path dir) : m Bool) then
    Disk.doing "Failed to read audit log" (Disk.readText (path dir))
  else return ""

/-- Adds lines to the end of a file. -/
def addLines (file : String) : List String → ExceptT IoFault m Unit
  | [] => pure ()
  | line :: rest => do
    -- Each line is added by itself: if the second one fails, the first one stays.
    Disk.doing "Failed to create audit log directory" (Disk.createParent file)
    Disk.doing "Failed to open audit log" (Disk.append file (line ++ "\n"))
    addLines file rest

/-- Adds an event to the log in a directory. -/
def report (dir : String) (r : Report) (time : Stamps) : ExceptT IoFault m Unit := do
  addLines (path dir) (newLines (← load dir) r time)

end Warden.Audit
