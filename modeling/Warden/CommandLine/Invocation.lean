import Warden.CommandLine.Grammar

namespace Warden

/-!
# The commands of the program

* `Command` — what the program can be asked to do.
* `Invocation` — a command, with the file of the configuration if the user names one.
* `Invocation.read` — the invocation that a command line with an environment is.
-/

/-- What the program can be asked to do. -/
inductive Command where
  /-- Runs the engine for the app of a package; `watch` tells whether it follows changes of the
  configuration. -/
  | run (package : String) (watch : Bool)
  | showConfig (json : Bool)
  | getConfig (key : String)
  | setConfig (key value : String)
  | configPath
  | initConfig (force : Bool)
  | windowStatus
  | clearWindow
  /-- Shows the last entries of the audit log; all of them if `limit` is zero. -/
  | showLog (limit : Nat) (json : Bool)
  | verifyLog
  | paths
  deriving DecidableEq

/-- A command, with the file of the configuration if the user names one. -/
structure Invocation where
  command : Command
  configFile : Option String
  deriving DecidableEq

namespace Invocation

open CommandLine

/-! ### The grammar -/

/-- The switch that names the file of the configuration. -/
def configSwitch : Switch := ⟨"config", some 'c', .text, some "PINGUARD_CONFIG"⟩

/-- The switch that names the package of the protected app. -/
def packageSwitch : Switch := ⟨"package", none, .text, some "PINGUARD_PACKAGE"⟩

/-- The switches of every command. Two of them only change what is logged. -/
def commonSwitches : List Switch :=
  [⟨"verbose", some 'v', .nothing, none⟩, ⟨"log-json", none, .nothing, none⟩, configSwitch]

/-- The command that runs the engine. -/
def runGrammar : Grammar := .node [packageSwitch, ⟨"no-watch", none, .nothing, none⟩] [] []

/-- The commands on the configuration. -/
def configGrammar : Grammar := .node [] [] [
  ("show", .node [⟨"format", some 'f', .text, none⟩] [] []),
  ("get", .node [] ["key"] []),
  ("set", .node [] ["key", "value"] []),
  ("path", .node [] [] []),
  ("init", .node [⟨"force", some 'f', .nothing, none⟩] [] [])]

/-- The commands on the bypass window. -/
def windowGrammar : Grammar := .node [] [] [
  ("status", .node [] [] []),
  ("clear", .node [] [] [])]

/-- The commands on the audit log. -/
def logGrammar : Grammar := .node [] [] [
  ("show", .node [⟨"limit", some 'n', .number, none⟩, ⟨"json", none, .nothing, none⟩] [] []),
  ("verify", .node [] [] [])]

/-- All commands. -/
def grammar : Grammar := .node [] [] [
  ("run", runGrammar),
  ("config", configGrammar),
  ("bypass", windowGrammar),
  ("audit", logGrammar),
  ("paths", .node [] [] [])]

/-! ### From words to commands -/

/-- The value of a switch: from the command line, else from the environment. -/
def valueOf (lookup : String → Option String) (s : Switch) (given : Given) : Option String :=
  match given.lookup s.name with
  | some value => some value
  | none => s.standIn.bind lookup

/-- Whether an argument is given. -/
def has (given : Given) (name : String) : Bool := (given.lookup name).isSome

/-- The text of an operand. -/
def operand (given : Given) (name : String) : String := (given.lookup name).getD ""

/-- The package of the protected app if the user names none. -/
def defaultPackage : String := "org.pinguard.app"

/-- How many entries of the log are shown if the user gives no number. -/
def defaultLimit : Nat := 20

/-- How many entries of the log are to be shown. -/
def limitOf (given : Given) : Nat :=
  match given.lookup "limit" with
  | some s => ((Number.readUnsigned Number.word64 s.toList).toOption).getD defaultLimit
  | none => defaultLimit

/-- The command at the end of a way, with what it is given. -/
def commandOf? (lookup : String → Option String) (given : Given) : List String → Option Command
  | ["run"] =>
    some (.run ((valueOf lookup packageSwitch given).getD defaultPackage) (!has given "no-watch"))
  | ["config", "show"] => some (.showConfig (operand given "format" = "json"))
  | ["config", "get"] => some (.getConfig (operand given "key"))
  | ["config", "set"] => some (.setConfig (operand given "key") (operand given "value"))
  | ["config", "path"] => some .configPath
  | ["config", "init"] => some (.initConfig (has given "force"))
  | ["bypass", "status"] => some .windowStatus
  | ["bypass", "clear"] => some .clearWindow
  | ["audit", "show"] => some (.showLog (limitOf given) (has given "json"))
  | ["audit", "verify"] => some .verifyLog
  | ["paths"] => some .paths
  | _ => none

/-- The file of the configuration that the user names. Behind the last command counts first, and the
environment last. -/
def configFileOf (lookup : String → Option String) (given : List Given) : Option String :=
  valueOf lookup configSwitch given.reverse.flatten

/-- The invocation that the words of a command line are. -/
def read (lookup : String → Option String) (words : List String) : Except Usage Invocation := do
  let r ← grammar.read ⟨commonSwitches, lookup⟩ words
  match commandOf? lookup (r.given.getLast?.getD []) r.path with
  | some command => return ⟨command, configFileOf lookup r.given⟩
  | none => throw .missingCommand

end Invocation

end Warden
