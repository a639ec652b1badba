import Warden.Json.Writer
import Warden.Program.Basic

namespace Warden.Program

/-!
# Commands on the configuration

Each of them works on the file that counts, and prints what it found or did.
-/

variable {m : Type → Type} [Monad m] [Disk m]

/-- The configuration that counts. -/
def loadConfig (paths : Paths) (explicit? : Option String) : ExceptT Failure m Config :=
  (Config.load paths explicit?).adapt Failure.load

/-- Shows the configuration. -/
def showConfig (paths : Paths) (explicit? : Option String) (json : Bool) :
    ExceptT Failure m (List String) := do
  let c ← loadConfig paths explicit?
  return [if json then c.toJson.pretty else c.text]

/-- Shows the value of a key. -/
def getConfig (paths : Paths) (explicit? : Option String) (key : String) :
    ExceptT Failure m (List String) := do
  let c ← loadConfig paths explicit?
  match c.value key with
  | .ok value => return [value]
  | .error f => throw (.edit f)

/-- Gives a key a new value. -/
def setConfig (paths : Paths) (explicit? : Option String) (key value : String) :
    ExceptT Failure m (List String) := do
  let c ← loadConfig paths explicit?
  match c.set key value with
  | .error f => throw (.edit f)
  | .ok c =>
    (Config.save (Config.filePath paths explicit?) c).adapt Failure.io
    return ["Set " ++ key ++ " = " ++ value]

/-- Writes the first configuration. One that is there stays unless `force` is set. -/
def initConfig (paths : Paths) (explicit? : Option String) (force : Bool) :
    ExceptT Failure m (List String) := do
  let path := Config.filePath paths explicit?
  if (← liftM (Disk.exists? path : m Bool)) && !force then throw (.configExists path)
  (Config.saveTemplate path).adapt Failure.io
  return ["Created config file at " ++ path]

end Warden.Program
