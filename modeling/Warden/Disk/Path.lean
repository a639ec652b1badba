import Warden.Text.Blank

namespace Warden.Path

/-!
# Paths

Paths are texts whose parts stand between slashes.

* `isAbsolute p`, `join base part`, `parent? p`.
* `expandHome home p` — a leading tilde stands for the home directory.
* `names p` — the names on the way, which only a disk can follow.
* `ancestors p` — a path and the directories above it.
-/

/-- Whether a path starts at the root. -/
def isAbsolute (p : String) : Bool := p.toList.head? == some '/'

/-- Whether a path ends in a slash, so that it can only lead to a directory. -/
def endsInSlash (p : String) : Bool := p.toList.getLast? == some '/'

/-- The path of `part` seen from `base`. -/
def join (base part : String) : String :=
  if isAbsolute part || base.isEmpty then part
  else if endsInSlash base then base ++ part
  else base ++ "/" ++ part

/-- A path with a leading tilde put in terms of the home directory. -/
def expandHome (home p : String) : String :=
  match p.toList with
  | ['~'] => home
  | '~' :: '/' :: rest => home ++ "/" ++ String.ofList rest
  | _ => p

/-- The names in a path, among them dots. Empty ones lead nowhere. -/
def names (p : String) : List (List Char) :=
  (Text.splitOn '/' p.toList).filter (!·.isEmpty)

/-- A path from its end, without what leads nowhere there. -/
def trimmedBack : List Char → List Char
  | '/' :: rest => trimmedBack rest
  | '.' :: '/' :: rest => trimmedBack rest
  | cs => cs

/-- The path of the directory that a path is in; the root and the empty path have none. -/
def parent? (p : String) : Option String :=
  let back := trimmedBack p.toList.reverse
  if back.isEmpty then none
  else
    let rest := back.dropWhile (· != '/')
    let above := (trimmedBack rest).reverse
    some (String.ofList (if above.isEmpty && !rest.isEmpty then ['/'] else above))

/-- A path and what is above it, at most `fuel` paths. -/
def ancestorsWithin : Nat → String → List String
  | 0, _ => []
  | fuel + 1, p =>
    if p.isEmpty then []
    else p :: ((parent? p).map (ancestorsWithin fuel)).getD []

/-- A path, the directory it is in, the one above that, and so on. The empty path is left out, for
it names nothing. -/
def ancestors (p : String) : List String :=
  -- Each of them is shorter than the one before it.
  ancestorsWithin p.length p

end Warden.Path
