import Warden.Disk.Path

namespace Warden

/-!
# The disk

What the program asks of a file system, whichever one it is.

* `Disk m` — the operations, as actions of the monad `m`.
* `IoCause`, `IoFault` — why one of them failed, and what it was to be good for.
-/

/-- Why an operation on the disk failed. -/
inductive IoCause where
  | notFound
  | denied
  | occupied
  | notDirectory
  | isDirectory
  /-- A name, or a whole path, is longer than the disk allows. -/
  | tooLong
  /-- A path holds a NUL, which no name may hold. -/
  | badName
  /-- The bytes of a file are no text. -/
  | notText
  | other (text : String)
  deriving DecidableEq

/-- The wording of a cause. -/
def IoCause.message : IoCause → String
  | .notFound => "No such file or directory (os error 2)"
  | .denied => "Permission denied (os error 13)"
  | .occupied => "File exists (os error 17)"
  | .notDirectory => "Not a directory (os error 20)"
  | .isDirectory => "Is a directory (os error 21)"
  | .tooLong => "File name too long (os error 36)"
  | .badName => "file name contained an unexpected NUL byte"
  | .notText => "stream did not contain valid UTF-8"
  | .other text => text

/-- A failed operation, and what the program was about to do, if it says so. -/
structure IoFault where
  purpose : Option String
  cause : IoCause
  deriving DecidableEq

/-- The wording of a failed operation. -/
def IoFault.message (f : IoFault) : String := f.purpose.getD f.cause.message

/-- What a path leads to. -/
inductive NodeKind where
  | file
  | directory
  deriving DecidableEq

/-- A file system with locks on files. -/
class Disk (m : Type → Type) where
  /-- What a path leads to, if to anything. -/
  kind? : String → m (Option NodeKind)
  read : String → m (Except IoCause ByteArray)
  /-- Gives a file a new content, and makes it if it is not there. -/
  write : String → String → m (Except IoCause Unit)
  /-- Adds to the end of a file, and makes it if it is not there. -/
  append : String → String → m (Except IoCause Unit)
  /-- Puts a file with a content in place at once. -/
  replace : String → String → m (Except IoCause Unit)
  /-- Makes a directory and those above it; the empty path asks for none. -/
  createDirs : String → m (Except IoCause Unit)
  /-- Lets nobody but the owner into a directory. -/
  restrict : String → m (Except IoCause Unit)
  /-- Takes the lock on a file, which is made if it is not there; `false` if it is taken. -/
  lock : String → m (Except IoCause Bool)
  unlock : String → m Unit

namespace Disk

variable {m : Type → Type} [Monad m] [Disk m]

/-- Fails with a purpose if the operation fails. -/
def doing (purpose : String) (act : m (Except IoCause α)) : ExceptT IoFault m α :=
  ExceptT.mk do
    match ← act with
    | .ok a => return .ok a
    | .error cause => return .error ⟨some purpose, cause⟩

/-- Fails as the operation fails. -/
def plainly (act : m (Except IoCause α)) : ExceptT IoFault m α :=
  ExceptT.mk do
    match ← act with
    | .ok a => return .ok a
    | .error cause => return .error ⟨none, cause⟩

/-- Whether a path leads anywhere. -/
def exists? (path : String) : m Bool := do return (← Disk.kind? path).isSome

/-- The text of a file. -/
def readText (path : String) : m (Except IoCause String) := do
  match ← Disk.read path with
  | .error cause => return .error cause
  | .ok bytes =>
    match String.fromUTF8? bytes with
    | some s => return .ok s
    | none => return .error .notText

/-- Makes the directory that a path is in. -/
def createParent (path : String) : m (Except IoCause Unit) :=
  match Path.parent? path with
  | none => return .ok ()
  | some dir => if dir.isEmpty then return .ok () else Disk.createDirs dir

end Disk

end Warden
