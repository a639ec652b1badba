import Warden.Disk.Basic

namespace Warden

/-!
# A file system in memory

A tree of files and directories as a value, with the locks that are held.

* `Tree` — the nodes by their places.
* `Tree.place`, `Tree.find` — where a path leads, one name after another.
* `Tree.read`, `Tree.modify`, `Tree.createDirs` and so on — the operations.
* The instance of `Disk` for programs over a tree.
-/

/-- A file with its bytes, or a directory with its access mode. -/
inductive Node where
  | file (bytes : ByteArray)
  | directory (mode : Nat)

/-- What a node is. -/
def Node.kind : Node → NodeKind
  | .file _ => .file
  | .directory _ => .directory

/-- The names on the way from the root. -/
abbrev Place := List (List Char)

/-- A file system. The root is always there. -/
structure Tree where
  nodes : List (Place × Node)
  locked : List Place
  /-- The place at which paths start that do not start at the root. -/
  here : Place := []

namespace Tree

/-- Nothing but the root. -/
def empty : Tree := ⟨[], [], []⟩

/-- The access mode of a new directory. -/
def usualMode : Nat := 0o755

/-- The access mode of a directory for its owner alone. -/
def privateMode : Nat := 0o700

/-- How many bytes a name may have. -/
def nameLimit : Nat := 255

/-- How many bytes a path may have. -/
def pathLimit : Nat := 4095

/-- The node at a place. -/
def at? (t : Tree) (p : Place) : Option Node :=
  if p.isEmpty then some (.directory usualMode) else t.nodes.lookup p

/-- The tree with a node at a place. -/
def put (t : Tree) (p : Place) (n : Node) : Tree :=
  { t with nodes := (p, n) :: t.nodes.filter (·.1 != p) }

/-! ### Following a path -/

/-- Why a path leads nowhere on any disk. -/
def refused? (path : String) : Option IoCause :=
  if path.toList.contains '\x00' then some .badName
  else if path.isEmpty then some .notFound
  else if pathLimit < path.utf8ByteSize then some .tooLong
  else none

/-- The place that a name leads to from another place, where a directory has to be. Nothing has to
be there yet where it leads to. -/
def step (t : Tree) (p : Place) (name : List Char) : Except IoCause Place :=
  match t.at? p with
  | none => .error .notFound
  | some (.file _) => .error .notDirectory
  | some (.directory _) =>
    if name = ['.'] then .ok p
    else if name = ['.', '.'] then .ok p.dropLast
    else if nameLimit < (String.ofList name).utf8ByteSize then .error .tooLong
    else .ok (p ++ [name])

/-- The place that a path leads to. All that is above it is there. -/
def place (t : Tree) (path : String) : Except IoCause Place :=
  match refused? path with
  | some cause => .error cause
  | none => (Path.names path).foldlM t.step (if Path.isAbsolute path then [] else t.here)

/-- The node that a path leads to, with its place. -/
def find (t : Tree) (path : String) : Except IoCause (Place × Node) := do
  let p ← t.place path
  match t.at? p with
  | none => .error .notFound
  | some (.directory mode) => .ok (p, .directory mode)
  | some (.file bytes) =>
    if Path.endsInSlash path then .error .notDirectory else .ok (p, .file bytes)

/-- What a path leads to, if to anything. -/
def kind? (t : Tree) (path : String) : Option NodeKind :=
  (t.find path).toOption.map fun (_, n) => n.kind

/-! ### Files -/

/-- The bytes of a file. -/
def read (t : Tree) (path : String) : Except IoCause ByteArray := do
  match ← t.find path with
  | (_, .file bytes) => .ok bytes
  | (_, .directory _) => .error .isDirectory

/-- The tree in which a file has a content made from the one it had. -/
def modify (t : Tree) (path : String) (f : ByteArray → ByteArray) : Except IoCause Tree := do
  let p ← t.place path
  -- No file is made by the name of a directory.
  if Path.endsInSlash path then .error .isDirectory
  else
    match t.at? p with
    | some (.directory _) => .error .isDirectory
    | some (.file bytes) => .ok (t.put p (.file (f bytes)))
    | none => .ok (t.put p (.file (f .empty)))

/-- The tree in which the lock on a file is held, and whether it was free. -/
def lock (t : Tree) (path : String) : Except IoCause (Tree × Bool) := do
  -- Opening the file makes it, whether or not the lock is free.
  let t ← t.modify path id
  let p ← t.place path
  if t.locked.contains p then return (t, false)
  else return ({ t with locked := p :: t.locked }, true)

/-- The tree in which the lock on a file is free. -/
def unlock (t : Tree) (path : String) : Tree :=
  match t.place path with
  | .ok p => { t with locked := t.locked.filter (· != p) }
  | .error _ => t

/-! ### Directories -/

/-- The tree with a directory, which may be there already. -/
def createDir (t : Tree) (path : String) : Except IoCause Tree := do
  let p ← t.place path
  match t.at? p with
  | none => .ok (t.put p (.directory usualMode))
  | some (.directory _) => .ok t
  | some (.file _) => .error .occupied

/-- Makes the first one of a list of directories, of which each one is in the next. -/
def createFirst (t : Tree) : List String → Except IoCause Unit × Tree
  | [] => (.ok (), t)
  | path :: above =>
    let made (t : Tree) : Except IoCause Unit × Tree :=
      match t.createDir path with
      | .ok t => (.ok (), t)
      | .error cause => (.error cause, t)
    match made t with
    | (.error .notFound, _) =>
      match t.createFirst above with
      | (.ok (), t) => made t
      -- What is there by now stays.
      | failed => failed
    | r => r

/-- Makes a directory and those above it. -/
def createDirs (t : Tree) (path : String) : Except IoCause Unit × Tree :=
  t.createFirst (Path.ancestors path)

/-- The tree in which a directory is private. -/
def restrict (t : Tree) (path : String) : Except IoCause Tree := do
  match ← t.find path with
  | (p, .directory _) => .ok (t.put p (.directory privateMode))
  | (_, .file _) => .ok t

end Tree

/-! ### Programs over a tree -/

/-- An operation that changes the tree unless it fails. -/
def changing {m : Type → Type} [Monad m] [MonadStateOf Tree m] (f : Tree → Except IoCause Tree) :
    m (Except IoCause Unit) := do
  match f (← get) with
  | .ok t => set t; return .ok ()
  | .error cause => return .error cause

instance {m : Type → Type} [Monad m] [MonadStateOf Tree m] : Disk m where
  kind? path := return (← get).kind? path
  read path := return (← get).read path
  write path text := changing fun t => t.modify path fun _ => text.toUTF8
  append path text := changing fun t => t.modify path (· ++ text.toUTF8)
  replace path text := changing fun t => t.modify path fun _ => text.toUTF8
  createDirs path := do
    let (r, t) := (← get).createDirs path
    set t
    return r
  restrict path := changing fun t => t.restrict path
  lock path := do
    let t ← get
    match t.lock path with
    | .ok (t, free) => set t; return .ok free
    | .error cause => return .error cause
  unlock path := modify fun t => t.unlock path

end Warden
