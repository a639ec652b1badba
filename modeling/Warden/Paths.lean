import Warden.Audit.File
import Warden.StateFile

namespace Warden

/-!
# Where things are

The directories of the program and the files in them.

* `Environment` — the variables and facts that the directories depend on.
* `Paths` — the directories; `configFile`, `stateFile`, `auditLog`, `instanceLock` are the files.
* `Paths.resolve` — a variable of the program's own comes first, then the general variable for such
  directories, then a place in the home directory. Relative values do not count.
* `Paths.ensure` — makes the directories, for their owner alone.
-/

/-- What the directories depend on. -/
structure Environment where
  lookup : String → Option String
  home : String
  /-- The number of the user. -/
  user : Nat

/-- The directories. -/
structure Paths where
  configDir : String
  /-- For the stored state and the audit log. -/
  stateDir : String
  /-- For the lock of the running engine, if there is such a directory. -/
  runtimeDir : Option String
  deriving DecidableEq

namespace Paths

/-! ### Resolution -/

/-- The program's name in paths. -/
def appName : String := "pinguard"

/-- A variable that holds an absolute path. -/
def absolute? (env : Environment) (name : String) : Option String :=
  (env.lookup name).filter Path.isAbsolute

/-- A variable that holds a path, which may start in the home directory but must be absolute. -/
def ownDir? (env : Environment) (name : String) : Option String :=
  ((env.lookup name).map (Path.expandHome env.home)).filter Path.isAbsolute

/-- The directory of the program in a general directory: that of a variable, or a place in the home
directory. -/
def generalDir (env : Environment) (name place : String) : String :=
  Path.join ((absolute? env name).getD (Path.join env.home place)) appName

/-- The directory for temporary files of the user. -/
def temporaryDir (env : Environment) : String :=
  Path.join ((env.lookup "TMPDIR").getD "/tmp") (appName ++ "-" ++ toString env.user)

/-- The directory for the lock. -/
def runtimeDirOf (env : Environment) : String :=
  match absolute? env "PINGUARD_RUNTIME_DIR" with
  | some dir => dir
  | none =>
    match absolute? env "XDG_RUNTIME_DIR" with
    | some dir => Path.join dir appName
    | none => temporaryDir env

/-- The directories in an environment. -/
def resolve (env : Environment) : Paths where
  configDir :=
    (ownDir? env "PINGUARD_CONFIG_DIR").getD (generalDir env "XDG_CONFIG_HOME" ".config")
  stateDir :=
    (ownDir? env "PINGUARD_STATE_DIR").getD (generalDir env "XDG_STATE_HOME" ".local/state")
  runtimeDir := some (runtimeDirOf env)

/-- The directories below one directory. -/
def rooted (root : String) : Paths :=
  ⟨Path.join root "config", Path.join root "state", some (Path.join root "run")⟩

/-! ### Files -/

/-- The file of the configuration. -/
def configFile (p : Paths) : String := Path.join p.configDir "config.toml"

/-- The file of the stored state. -/
def stateFile (p : Paths) : String := StateFile.path p.stateDir

/-- The file of the audit log. -/
def auditLog (p : Paths) : String := Audit.path p.stateDir

/-- The file that a running engine holds a lock on. -/
def instanceLock (p : Paths) : String := Path.join (p.runtimeDir.getD p.stateDir) "pinguard.lock"

/-! ### Directories -/

variable {m : Type → Type} [Monad m] [Disk m]

/-- Makes a directory for its owner alone. -/
def ensureDir (dir : String) : ExceptT IoFault m Unit := do
  Disk.doing ("Failed to create directory: " ++ dir) (Disk.createDirs dir)
  Disk.doing ("Failed to set permissions on " ++ dir) (Disk.restrict dir)

/-- Makes the directories. -/
def ensure (p : Paths) : ExceptT IoFault m Unit := do
  ensureDir p.configDir
  ensureDir p.stateDir
  match p.runtimeDir with
  | some dir => ensureDir dir
  | none => pure ()

end Paths

end Warden
