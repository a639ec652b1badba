import Warden.Text.Blank
import Warden.Text.Folding
import Warden.Text.Word

namespace Warden.Keyword

/-!
# Finding keywords

A keyword is found where it stands in a text as a whole word, whatever the case of its letters:
with a word boundary before its first character and after its last one.

* `Matcher` — a list of keywords without blanks around them, none of them empty.
* `Matcher.find m text` — the first place at which a keyword fits, and there the first keyword of
  the list that does; the answer is the piece of the text.

The search is what the regular expression `\b(?:k₁|k₂|…)\b` says, with each keyword escaped and
letters compared without case. Building that expression can fail only by its size, once the compiled
automaton passes the limit of its library; such lists of keywords, of some megabytes, are left out
here: every list has a matcher.
-/

/-- The keywords to look for. -/
structure Matcher where
  keywords : List (List Char)
  nonempty : ∀ k ∈ keywords, k ≠ []

namespace Matcher

/-- The matcher for a list of keywords. Blank ones do not count. It is total: there is no limit on
the size of the list. -/
def ofList (keywords : List String) : Matcher where
  keywords := (keywords.map fun k => Text.trimList k.toList).filter fun k => !k.isEmpty
  nonempty := by
    intro k hk
    have := (List.mem_filter.1 hk).2
    simpa using this

/-- Whether there is nothing to look for. -/
def isEmpty (m : Matcher) : Bool := m.keywords.isEmpty

end Matcher

/-- Splits a text behind its beginning if that is the keyword up to case. -/
def splitPrefix : List Char → List Char → Option (List Char × List Char)
  | [], text => some ([], text)
  | _ :: _, [] => none
  | k :: ks, c :: cs =>
    if Text.sameFold k c then (splitPrefix ks cs).map fun (m, rest) => (c :: m, rest) else none

/-- The piece at the start of a text that is the keyword and ends at a word boundary. -/
def fitsAt (text keyword : List Char) : Option (List Char) :=
  match splitPrefix keyword text with
  | some (m, rest) => if Text.isBoundary m.getLast? rest.head? then some m else none
  | none => none

/-- The first piece of a text at which one of the keywords fits; `before` is the character before
the text. -/
def findFrom (keywords : List (List Char)) (before : Option Char) : List Char → Option (List Char)
  | [] => none
  | c :: cs =>
    -- Whichever keyword fits here, its piece starts with `c`, so one boundary serves them all.
    let here :=
      if Text.isBoundary before (some c) then keywords.findSome? (fitsAt (c :: cs)) else none
    match here with
    | some m => some m
    | none => findFrom keywords (some c) cs

/-- The first piece of a text at which a keyword fits. -/
def Matcher.find (m : Matcher) (text : String) : Option String :=
  (findFrom m.keywords none text.toList).map String.ofList

end Warden.Keyword
