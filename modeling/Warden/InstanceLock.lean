import Warden.Disk.Basic
import Warden.Number.Unsigned

namespace Warden.InstanceLock

/-!
# The lock of the running engine

An engine holds a lock on a file as long as it runs, so that there are never two. The file tells the
number of the process that took the lock last.

* `prepare path` — makes the directory of the file.
* `acquire path pid` — takes the lock, unless it is held.
* `holder? path` — the number in the file.
-/

variable {m : Type → Type} [Monad m] [Disk m]

/-- Makes the directory of the lock file. -/
def prepare (path : String) : ExceptT IoFault m Unit :=
  Disk.doing ("Failed to create " ++ (Path.parent? path).getD "") (Disk.createParent path)

/-- Takes the lock for a process; `false` if somebody holds it. -/
def acquire (path : String) (pid : Nat) : ExceptT IoFault m Bool := do
  if ← Disk.doing ("Failed to open " ++ path) (Disk.lock path) then
    Disk.plainly (Disk.write path (toString pid))
    return true
  else return false

/-- The number of a process in a text. -/
def readPid (text : String) : Option Nat :=
  (Number.readUnsigned Number.word32 (Text.trimList text.toList)).toOption

/-- The process that took the lock last, if the file tells. -/
def holder? (path : String) : m (Option Nat) := do
  match ← Disk.readText path with
  | .ok text => return readPid text
  | .error _ => return none

end Warden.InstanceLock
