import Warden.Number.Unsigned
import Warden.Text.Blank

namespace Warden.CommandLine

/-!
# Command lines

A command line names a command, step by step down a tree of commands, and gives values to the
switches and the operands of every command on the way.

* `Grammar` — the tree. `Switch` is a named argument, with a long name and perhaps a letter.
* `Usage` — why a command line names no command.
* `Grammar.read` — the commands on the way, with what each of them is given.
-/

/-! ### Grammars -/

/-- What follows a switch. -/
inductive Arity where
  | nothing
  | text
  /-- A number of 64 bits. -/
  | number
  deriving DecidableEq

/-- A named argument. -/
structure Switch where
  name : String
  letter : Option Char := none
  arity : Arity := .nothing
  /-- The variable of the environment that stands in for the switch. -/
  standIn : Option String := none
  deriving DecidableEq

/-- A command with its arguments, and the commands below it. -/
inductive Grammar where
  | node (switches : List Switch) (operands : List String) (commands : List (String × Grammar))

namespace Grammar

/-- The switches of a command. -/
def switches : Grammar → List Switch
  | node ss _ _ => ss

/-- The operands of a command. -/
def operands : Grammar → List String
  | node _ os _ => os

/-- The commands below a command. -/
def commands : Grammar → List (String × Grammar)
  | node _ _ cs => cs

end Grammar

/-- Why a command line names no command. -/
inductive Usage where
  /-- Somebody asks for help. -/
  | help
  /-- Somebody asks for the version. -/
  | version
  /-- Nothing is given where a command should be. -/
  | nothingGiven
  | missingCommand
  | unknownCommand
  | unknownArgument
  | missingOperand
  /-- A switch lacks its value. -/
  | missingValue
  /-- A switch has a value that it does not take. -/
  | surplusValue
  | repeated
  | notNumber
  deriving DecidableEq

/-- The exit code: asking is no mistake. -/
def Usage.exitCode : Usage → Nat
  | .help => 0
  | .version => 0
  | _ => 2

/-! ### What a command is given -/

/-- The values of arguments by their names; a switch without a value has an empty one. -/
abbrev Given := List (String × String)

/-- An argument that is being read. -/
structure Pending where
  name : String
  arity : Arity
  value : Option String

/-- How far the arguments of one command have been read. -/
structure Progress where
  given : Given := []
  pending : Option Pending := none
  /-- How many operands there were. -/
  operands : Nat := 0
  /-- Whether only operands are to come. -/
  operandsOnly : Bool := false

namespace Progress

/-- Whether the next word is the value of a switch, unless it looks like a switch itself. -/
def awaitsValue (p : Progress) : Bool := p.pending.any fun x => x.value.isNone

/-- Whether a text is a number of 64 bits. -/
def isNumber (s : String) : Bool := (Number.readUnsigned Number.word64 s.toList).toOption.isSome

/-- Adds a value. No argument is given twice. -/
def give (p : Progress) (name : String) (arity : Arity) (value : String) :
    Except Usage Progress :=
  if (p.given.lookup name).isSome then .error .repeated
  else if arity = .number && !isNumber value then .error .notNumber
  else .ok { p with given := p.given ++ [(name, value)] }

/-- Finishes the argument that is being read. -/
def settle (p : Progress) : Except Usage Progress :=
  match p.pending with
  | none => .ok p
  | some x =>
    match x.value with
    | none => .error .missingValue
    | some value => { p with pending := none }.give x.name x.arity value

/-- Reads a switch, perhaps with a value attached to it. -/
def readSwitch (p : Progress) (s : Switch) (attached : Option String) : Except Usage Progress := do
  match s.arity, attached with
  | .nothing, some _ => .error .surplusValue
  | .nothing, none =>
    let p ← p.settle
    if s.name = "help" then .error .help
    else if s.name = "version" then .error .version
    else p.give s.name s.arity ""
  | arity, some value => (← p.settle).give s.name arity value
  | arity, none => return { ← p.settle with pending := some ⟨s.name, arity, none⟩ }

/-- Reads the letters of several switches in one word. The first one with a value takes the rest of
the word. -/
def readLetters (switches : List Switch) : List Char → Progress → Except Usage Progress
  | [], p => .ok p
  | c :: rest, p =>
    match switches.find? (·.letter = some c) with
    | none => .error .unknownArgument
    | some s =>
      if s.arity = .nothing then (p.readSwitch s none).bind (readLetters switches rest)
      else
        match rest with
        | [] => p.readSwitch s none
        | '=' :: value => p.readSwitch s (some (String.ofList value))
        | value => p.readSwitch s (some (String.ofList value))

/-- Reads the long name of a switch, up to an equals sign before its value. -/
def readLong (switches : List Switch) (word : List Char) (p : Progress) :
    Except Usage Progress :=
  let name := String.ofList (word.takeWhile (· ≠ '='))
  match switches.find? (·.name = name) with
  | none => .error .unknownArgument
  | some s =>
    match word.dropWhile (· ≠ '=') with
    | [] => p.readSwitch s none
    | _ :: value => p.readSwitch s (some (String.ofList value))

end Progress

/-! ### Reading -/

/-- The commands on the way, and what each of them is given, the root first. -/
structure Reading where
  path : List String
  given : List Given

/-- What every command understands besides its own switches. -/
structure Common where
  switches : List Switch
  /-- The variables of the environment. -/
  lookup : String → Option String

namespace Common

/-- The switches that ask a question. -/
def questions : List Switch := [⟨"help", some 'h', .nothing, none⟩,
  ⟨"version", some 'V', .nothing, none⟩]

/-- All switches of a command. -/
def switchesOf (c : Common) (g : Grammar) : List Switch := g.switches ++ c.switches ++ questions

/-- Whether the environment gives a command anything. -/
def givesSomething (c : Common) (g : Grammar) : Bool :=
  (c.switchesOf g).any fun s => (s.standIn.bind c.lookup).isSome

end Common

namespace Grammar

/-- The name of the command that tells about the others. It is there wherever others are. -/
def helpName : String := "help"

/-- Follows names to a command that somebody asks about. -/
def explain : List String → Grammar → Usage
  | [], _ => .help
  | name :: rest, g =>
    match g.commands.lookup name with
    | some sub => explain rest sub
    | none =>
      if name = helpName && !g.commands.isEmpty && rest.isEmpty then .help else .unknownCommand

/-- What is wrong with a word that no operand is left for. -/
def stray (g : Grammar) (operandsOnly : Bool) (word : String) : Usage :=
  if g.commands.isEmpty then .unknownArgument
  else if operandsOnly && ((g.commands.lookup word).isSome || word = helpName) then .unknownArgument
  else .unknownCommand

/-- Reads a word as an operand. -/
def readOperand (g : Grammar) (word : String) (p : Progress) : Except Usage Progress :=
  match g.operands[p.operands]? with
  | none => .error (g.stray p.operandsOnly word)
  | some name => do
    let p ← p.settle
    return { p with pending := some ⟨name, .text, some word⟩, operands := p.operands + 1 }

/-- The end of the words: nothing that a command needs may be missing. -/
def finish (c : Common) (g : Grammar) (p : Progress) : Except Usage Given := do
  -- A switch that still lacks its value is worse than a command that is missing.
  let p ← p.settle
  if !g.commands.isEmpty then
    if p.given.isEmpty && !c.givesSomething g then .error .nothingGiven
    else .error .missingCommand
  else if p.operands < g.operands.length then .error .missingOperand
  else return p.given

/-- Reads a word that may be a switch, the value of one, or an operand. -/
def readWord (c : Common) (g : Grammar) (word : String) (p : Progress) : Except Usage Progress :=
  if p.operandsOnly then g.readOperand word p
  else
    match word.toList with
    | ['-', '-'] => .ok { p with operandsOnly := true }
    | '-' :: '-' :: long => p.readLong (c.switchesOf g) long
    | '-' :: letter :: letters => p.readLetters (c.switchesOf g) (letter :: letters)
    | _ =>
      match p.pending with
      | some x =>
        if x.value.isNone then .ok { p with pending := some { x with value := some word } }
        else g.readOperand word p
      | none => g.readOperand word p

/-- Reads the words behind a command. What is wrong behind a command below it counts first. -/
def readWords (c : Common) : List String → Grammar → Progress → Except Usage Reading
  | [], g, p => do return ⟨[], [← g.finish c p]⟩
  | word :: rest, g, p =>
    let named := !p.operandsOnly && !p.awaitsValue
    match if named then g.commands.lookup word else none with
    | some sub => do
      -- What is pending here is settled only after the command below, whose faults count first.
      let r ← readWords c rest sub {}
      return ⟨word :: r.path, (← p.settle).given :: r.given⟩
    | none =>
      if named && word = helpName && !g.commands.isEmpty then .error (g.explain rest)
      else (g.readWord c word p).bind (readWords c rest g)

/-- Reads the words of a command line behind the name of the program. -/
def read (c : Common) (g : Grammar) (words : List String) : Except Usage Reading :=
  readWords c words g {}

end Grammar

end Warden.CommandLine
