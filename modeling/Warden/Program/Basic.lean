import Warden.CommandLine.Invocation
import Warden.Config.File
import Warden.InstanceLock

namespace Warden.Program

/-!
# What a command leaves behind

* `Occasion` — where and when a command is carried out.
* `Failure` — why it did not do what it was asked to.
* `Report` — what it prints, and its failure if there is one.
-/

/-- Where and when a command is carried out. -/
structure Occasion where
  environment : Environment
  /-- The number of the process. -/
  process : Nat
  /-- The time of day in milliseconds. -/
  now : Nat
  /-- The time of day in words, as it goes into the audit log. -/
  time : String

/-- Why a command did not do what it was asked to. -/
inductive Failure where
  | io (fault : IoFault)
  | load (fault : Config.LoadFault)
  | edit (fault : Config.EditFault)
  /-- The engine cannot run with the configuration. -/
  | settings (fault : Config.Invalid)
  | duration (fault : Duration.Fault)
  | configExists (path : String)
  /-- The command needs the engine to be stopped. -/
  | engineRuns
  | alreadyRuns (lock : String) (holder : Option Nat)
  | brokenLog (path : String) (count : Nat)
  deriving DecidableEq

/-- The wording of a failure. -/
def Failure.message : Failure → String
  | .io f => f.message
  | .load f => f.message
  | .edit f => f.message
  | .settings f => f.engineMessage
  | .duration f => f.message
  | .configExists path =>
    "Config file already exists at " ++ path ++ ". Use --force to overwrite."
  | .engineRuns => "The engine is running; stop it before clearing the bypass window"
  | .alreadyRuns lock holder =>
    "Another engine is already running (lock " ++ lock ++ ", pid " ++
      ((holder.map toString).getD "unknown") ++ ")"
  | .brokenLog path count =>
    "Audit chain at " ++ path ++ " has " ++ toString count ++ " broken link(s)"

/-- What a command prints, line by line, and its failure if there is one. -/
structure Report where
  lines : List String
  failure : Option Failure

namespace Report

/-- The report of a command that prints only if it succeeds. -/
def ofExcept : Except Failure (List String) → Report
  | .ok lines => ⟨lines, none⟩
  | .error f => ⟨[], some f⟩

/-- The text that is printed. -/
def text (r : Report) : String := String.join (r.lines.map (· ++ "\n"))

end Report

/-- A configuration with the directories it was loaded for. -/
structure Loaded where
  config : Config
  paths : Paths

end Warden.Program
