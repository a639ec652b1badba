import Warden.Disk.Basic
import Warden.Persisted

namespace Warden.StateFile

/-!
# The state file

The file that holds what outlives a restart.

* `load dir` — the state in a directory; no file and a file that does not parse both count as the
  empty state, but a file that cannot be read is a fault.
* `save dir p` — puts a state in place. If that fails, the old one stays.
-/

variable {m : Type → Type} [Monad m] [Disk m]

/-- The name of the file. -/
def fileName : String := "pinguard.state.json"

/-- The path of the file in a directory. -/
def path (dir : String) : String := Path.join dir fileName

/-- The state in a directory. -/
def load (dir : String) : ExceptT IoFault m Persisted := do
  let file := path dir
  if ← liftM (Disk.exists? file : m Bool) then
    return .ofText (← Disk.doing ("Failed to read " ++ file) (Disk.readText file))
  else return .empty

/-- Puts a state in place. -/
def save (dir : String) (p : Persisted) : m Unit := do
  match ← Disk.createParent (path dir) with
  | .error _ => return ()
  | .ok () =>
    let _ ← Disk.replace (path dir) p.text
    return ()

end Warden.StateFile
