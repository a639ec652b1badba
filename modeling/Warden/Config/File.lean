import Warden.Config.Document
import Warden.Config.Validity
import Warden.Paths

namespace Warden.Config

/-!
# The file of the configuration

The configuration lies in a file of its own directory, or wherever the user says. The file of the
first kind is written on the first run; one of the second kind has to be there.

* `read path` — the configuration in a file, if it makes sense.
* `load paths explicit?` — makes the directories and reads the file that counts.
* `save path c`, `saveTemplate path` — write a file.
-/

/-- Why there is no configuration. -/
inductive LoadFault where
  | io (fault : IoFault)
  | missing (path : String)
  | unreadable (path : String)
  | invalid (fault : Invalid)
  deriving DecidableEq

/-- The wording of a missing configuration. -/
def LoadFault.message : LoadFault → String
  | .io f => f.message
  | .missing path => "Config file not found: " ++ path
  | .unreadable path => "Failed to parse " ++ path
  | .invalid f => f.message

/-- The file that counts. -/
def filePath (paths : Paths) (explicit? : Option String) : String :=
  explicit?.getD paths.configFile

/-- The configuration that a text is, if it makes sense. The path is for the wording alone. -/
def ofFile (path text : String) : Except LoadFault Config :=
  match ofText? text with
  | none => .error (.unreadable path)
  | some c =>
    match c.validate with
    | .ok () => .ok c
    | .error f => .error (.invalid f)

variable {m : Type → Type} [Monad m] [Disk m]

/-- The configuration in a file. -/
def read (path : String) : ExceptT LoadFault m Config := do
  let text ← (Disk.doing ("Failed to read " ++ path) (Disk.readText path)).adapt LoadFault.io
  liftM (ofFile path text)

/-- Writes a file, and the directory it is in. -/
def writeFile (path text : String) : ExceptT IoFault m Unit := do
  Disk.plainly (Disk.createParent path)
  Disk.plainly (Disk.write path text)

/-- Writes a configuration to a file. -/
def save (path : String) (c : Config) : ExceptT IoFault m Unit := writeFile path c.text

/-- Writes the first configuration to a file. -/
def saveTemplate (path : String) : ExceptT IoFault m Unit := writeFile path template

/-- The configuration that counts. Where there is none yet, it is the first one, which is
written. -/
def load (paths : Paths) (explicit? : Option String) : ExceptT LoadFault m Config := do
  -- The directories are made even if the file lies elsewhere.
  paths.ensure.adapt LoadFault.io
  let path := filePath paths explicit?
  if ← liftM (Disk.exists? path : m Bool) then read path
  else if explicit?.isSome then throw (.missing path)
  else
    (saveTemplate path).adapt LoadFault.io
    return {}

end Warden.Config
