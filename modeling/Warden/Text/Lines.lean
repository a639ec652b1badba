import Warden.Text.Blank

namespace Warden.Text

/-!
# Lines

The lines of a text. A line ends with a line feed, before which one carriage return does not belong
to it; what stands behind the last line feed is a line too, unless it is empty.

* `lines cs` — the lines.
-/

/-- A line without the carriage return at its end. -/
def dropReturn (cs : List Char) : List Char :=
  if cs.getLast? = some '\r' then cs.dropLast else cs

/-- The lines, from the pieces between line feeds. -/
def linesOfPieces : List (List Char) → List (List Char)
  | [] => []
  | [last] => if last.isEmpty then [] else [last]
  | p :: rest => dropReturn p :: linesOfPieces rest

/-- The lines of a text. -/
def lines (cs : List Char) : List (List Char) := linesOfPieces (splitOn '\n' cs)

end Warden.Text
