import Warden.Program.Configuring
import Warden.Program.Log
import Warden.Program.Places
import Warden.Program.Serving
import Warden.Program.Window

namespace Warden.Program

/-!
# Carrying out a command

The configuration is loaded before any command, and its first file is written then. That this
failed only matters to commands that need a configuration.

* `prepare` — the first part, common to all commands.
* `perform` — the whole.
-/

variable {m : Type → Type} [Monad m] [Disk m]

/-- Where a command works, and the configuration it finds there. -/
structure Setting where
  paths : Paths
  /-- The file of the configuration, if the user names one. -/
  explicit? : Option String
  loaded : Except Failure Loaded

/-- Loads the configuration. -/
def prepare (o : Occasion) (i : Invocation) : m Setting := do
  let paths := Paths.resolve o.environment
  let explicit? := i.configFile.map (Path.expandHome o.environment.home)
  let config ← (loadConfig paths explicit?).run
  return ⟨paths, explicit?, config.map fun config => ⟨config, paths⟩⟩

/-- Does something that needs the configuration. -/
def Setting.withConfig (s : Setting) (act : Loaded → ExceptT Failure m (List String)) :
    m Report := do
  match s.loaded with
  | .error f => return ⟨[], some f⟩
  | .ok l => return .ofExcept (← (act l).run)

/-- Carries out a command. An engine gets all of its input at once. -/
def perform (o : Occasion) (i : Invocation) (input : List String) : m Report := do
  let s ← prepare o i
  let done (act : ExceptT Failure m (List String)) : m Report := do
    return .ofExcept (← act.run)
  match i.command with
  | .run package _ => s.withConfig fun l => serve o l package input
  | .showConfig json => done (showConfig s.paths s.explicit? json)
  | .getConfig key => done (getConfig s.paths s.explicit? key)
  | .setConfig key value => done (setConfig s.paths s.explicit? key value)
  | .configPath => return ⟨[Config.filePath s.paths s.explicit?], none⟩
  | .initConfig force => done (initConfig s.paths s.explicit? force)
  | .windowStatus => s.withConfig (windowStatus o)
  | .clearWindow => s.withConfig (clearWindow o)
  | .showLog limit json => s.withConfig fun l => showLog l limit json
  | .verifyLog =>
    match s.loaded with
    | .error f => return ⟨[], some f⟩
    | .ok l => verifyLog l
  | .paths => return ⟨placesText s.paths, none⟩

end Warden.Program
