import Std.Time
import Warden.CommandLine.Help
import Warden.Program.Identity
import Warden.Program.Perform
import Warden.Text.Timestamp

namespace Warden

/-!
# The program

The outermost layer: the disk, the clock, the lines of standard input and output, and the exit code.
What is to be done with them is decided elsewhere.
-/

/-! ### The disk -/

/-- The files on which the program holds a lock. -/
abbrev HeldLocks := IO.Ref (List (String × IO.FS.Handle))

/-- Actions on the real disk. -/
abbrev RealDisk := ReaderT HeldLocks IO

/-- Whether a failed action names a number of the system, which some give with its sign turned. -/
def isNumber (number code : UInt32) : Bool := code == number || code == 0 - number

/-- Why an action failed. -/
def causeOf : IO.Error → IoCause
  | .noFileOrDirectory .. => .notFound
  | .permissionDenied .. => .denied
  | .alreadyExists .. => .occupied
  | .inappropriateType _ code _ => if isNumber 21 code then .isDirectory else .notDirectory
  | e@(.invalidArgument _ code _) => if isNumber 36 code then .tooLong else .other (toString e)
  | e => .other (toString e)

/-- The outcome of an action that may fail. -/
def attempt (act : IO α) : RealDisk (Except IoCause α) := do
  match ← act.toBaseIO with
  | .ok a => return .ok a
  | .error e => return .error (causeOf e)

/-- What a path leads to: only a file can be read from, unless that is denied. -/
def kindOf (path : String) : IO (Option NodeKind) := do
  match ← (IO.FS.Handle.mk path .read).toBaseIO with
  | .error (.permissionDenied ..) => return some .file
  | .error _ => return none
  | .ok h =>
    match ← (h.read 1).toBaseIO with
    | .ok _ => return some .file
    | .error _ => return some .directory

/-- Takes the lock on a file and keeps the file open, if nobody holds the lock. -/
def takeLock (locks : HeldLocks) (path : String) : IO Bool := do
  let h ← IO.FS.Handle.mk path .append
  if ← h.tryLock then
    locks.modify ((path, h) :: ·)
    return true
  else return false

/-- Frees the locks on a file. -/
def freeLocks (locks : HeldLocks) (path : String) : IO Unit := do
  for (p, h) in ← locks.get do
    if p = path then h.unlock
  locks.modify (·.filter (·.1 ≠ path))

/-- Puts a file with a content in place at once, by way of a file beside it. -/
def replaceFile (path text : String) : IO Unit := do
  let beside := path ++ ".tmp"
  IO.FS.writeFile beside text
  IO.FS.rename beside path

/-- Adds to the end of a file. -/
def appendFile (path text : String) : IO Unit := do
  let h ← IO.FS.Handle.mk path .append
  h.putStr text

/-- The rights of the owner alone. -/
def ownerOnly : IO.FileRight := { user := { read := true, write := true, execution := true } }

instance : Disk RealDisk where
  kind? path := kindOf path
  read path := attempt (IO.FS.readBinFile path)
  write path text := attempt (IO.FS.writeFile path text)
  append path text := attempt (appendFile path text)
  replace path text := attempt (replaceFile path text)
  createDirs path := attempt (if path.isEmpty then pure () else IO.FS.createDirAll path)
  restrict path := attempt (IO.setAccessRights path ownerOnly)
  lock path := do attempt (takeLock (← read) path)
  unlock path := do
    let _ ← attempt (freeLocks (← read) path)
    return ()

/-! ### Clock and surroundings -/

/-- The time of day in seconds and nanoseconds. -/
def timeOfDay : IO (Nat × Nat) := do
  let now ← Std.Time.Timestamp.now
  return (now.val.second.val.toNat, now.val.nano.val.toNat)

/-- The time of day in milliseconds. -/
def millisOfDay : IO Nat := do
  let (seconds, nanos) ← timeOfDay
  return 1000 * seconds + nanos / 1000000

/-- The time of day in words. -/
def timeText : IO String := do
  let (seconds, nanos) ← timeOfDay
  return Text.timestamp seconds nanos

/-- The variables of the environment that are set. -/
def environmentTable : IO (List (String × String)) := do
  let mut table := []
  for name in Program.variableNames do
    match ← IO.getEnv name with
    | some value => table := (name, value) :: table
    | none => pure ()
  return table

/-- Where and when the program runs. -/
def occasion (lookup : String → Option String) : IO Program.Occasion := do
  let process ← IO.FS.readFile "/proc/self/stat"
  let user ← IO.FS.readFile "/proc/self/status"
  return ⟨⟨lookup, (lookup "HOME").getD "/", Program.userNumber user⟩,
    Program.processNumber process, ← millisOfDay, ← timeText⟩

/-! ### A running engine -/

/-- Sends messages to the host. -/
def send (messages : List Wire.Message) : IO Unit := do
  let out ← IO.getStdout
  out.putStr (Wire.written messages)
  out.flush

/-- What the loop around an engine remembers. -/
structure Loop where
  serving : Program.Serving
  /-- The line that is being waited for. -/
  input : Task (Except IO.Error String)
  /-- When the engine was last told about the time. -/
  told : Nat
  /-- The file of the configuration, unless it is not watched. -/
  watched : Option String
  /-- Its text when it was last looked at. -/
  seen : Option String
  /-- Whether that text is still to be loaded. -/
  changed : Bool
  /-- When it is to be looked at again. -/
  nextLook : Nat

/-- The time between two looks at the file of the configuration. A change is loaded once the file
has stayed the same for so long. -/
def lookInterval : Nat := 500

/-- The text of a file, if it has one. -/
def textOf? (path : String) : RealDisk (Option String) := do
  return (← Disk.readText path).toOption

/-- Looks at the file of the configuration. -/
def look (l : Loop) (path : String) (now : Nat) : RealDisk Loop := do
  let text ← textOf? path
  let l := { l with nextLook := now + lookInterval }
  if text ≠ l.seen then return { l with seen := text, changed := true }
  else if !l.changed then return l
  else
    let l := { l with changed := false }
    match ← (Config.read path).run with
    | .error _ => return l
    | .ok c =>
      match c.settings with
      | .error _ => return l
      | .ok settings =>
        let (serving, messages) ← l.serving.reload (← timeText) settings
        send messages
        return { l with serving }

/-- Tells the engine about the time that went by. -/
def tick (l : Loop) : RealDisk Loop := do
  let now ← IO.monoMsNow
  let (serving, messages) ← l.serving.advance (← timeText) (now - l.told)
  send messages
  let serving := { serving with service := serving.service.withClock (← millisOfDay) }
  let l := { l with serving, told := now }
  match l.watched with
  | some path => if l.nextLook ≤ now then look l path now else return l
  | none => return l

/-- Waits for the next line of input. -/
def awaitLine : IO (Task (Except IO.Error String)) := do IO.asTask (← IO.getStdin).getLine

/-- Ends the life of an engine. -/
def closeLoop (l : Loop) : RealDisk UInt32 := do
  send (← l.serving.close (← timeText))
  return 0

/-- Serves the host until the input ends or the host asks for the end. -/
partial def serveLoop (l : Loop) : RealDisk UInt32 := do
  let l ← tick l
  if ← IO.hasFinished l.input then
    match l.input.get with
    | .error _ =>
      IO.eprintln "Error: Failed to read stdin"
      return 1
    | .ok line =>
      if line.isEmpty then closeLoop l
      else
        let (serving, flow, messages) ← l.serving.readLine (← timeText) line
        send messages
        match flow with
        | .stop => closeLoop { l with serving }
        | .proceed => serveLoop { l with serving, input := ← awaitLine }
  else
    IO.sleep 5
    serveLoop l

/-- Prints what a command has to say. -/
def conclude (r : Program.Report) : IO UInt32 := do
  IO.print r.text
  match r.failure with
  | none => return 0
  | some f =>
    IO.eprintln ("Error: " ++ f.message)
    return 1

/-- Runs an engine for the app of a package. -/
def runEngine (o : Program.Occasion) (i : Invocation) (package : String) (watch : Bool) :
    RealDisk UInt32 := do
  let setting ← Program.prepare o i
  let start : ExceptT Program.Failure RealDisk Program.Serving := do
    Program.openService o (← liftM setting.loaded) package
  match ← start.run with
  | .error f => conclude ⟨[], some f⟩
  | .ok serving =>
    let path := Config.filePath setting.paths setting.explicit?
    let now ← IO.monoMsNow
    let seen ← textOf? path
    let input ← awaitLine
    serveLoop {
      serving
      input
      told := now
      watched := if watch then some path else none
      seen
      changed := false
      nextLook := now + lookInterval }

/-! ### The command line -/

/-- Answers a command line that is no command. -/
def answerUsage (u : CommandLine.Usage) : IO UInt32 := do
  match u with
  | .help => for line in Invocation.helpText do IO.println line
  | .version => IO.println Invocation.versionText
  | .nothingGiven => for line in Invocation.helpText do IO.eprintln line
  | u => IO.eprintln (Invocation.usageText u)
  return UInt32.ofNat u.exitCode

/-- Carries out the command that the words of a command line name. -/
def runProgram (words : List String) : IO UInt32 := do
  let table ← environmentTable
  let lookup (name : String) : Option String := table.lookup name
  match Invocation.read lookup words with
  | .error u => answerUsage u
  | .ok i =>
    let locks ← IO.mkRef []
    let o ← occasion lookup
    match i.command with
    | .run package watch => (runEngine o i package watch).run locks
    | _ =>
      let r ← (Program.perform o i [] : RealDisk Program.Report).run locks
      conclude r

end Warden

/-- The program. -/
def main (words : List String) : IO UInt32 := Warden.runProgram words
