import Warden.Number.Unsigned
import Warden.Toml.Basic

namespace Warden.Toml

/-!
# Strings in quotes

A string stands in double quotes, and then knows escapes, or in single ones, and then is taken as it
is. Three quotes in place of one let it go over several lines.

* `readOneLine`, `readString` — a string at the start of a text, and what follows it.
* `quote` — the form in which a string is written: without escapes if there is such a form.
-/

/-! ### Escapes -/

/-- The character whose number is written with `n` hexadecimal digits at the start of a text. -/
def charOfCode? (n : Nat) (cs : List Char) : Option Char := do
  let ds ← (cs.take n).mapM Number.hexDigit?
  let code := ds.foldl (fun v d => 16 * v + d) 0
  if ds.length = n ∧ code.isValidChar then some (Char.ofNat code) else none

/-- The character that an escape stands for, and the length of the escape without its
backslash. -/
def escape? : List Char → Option (Char × Nat)
  | 'b' :: _ => some ('\x08', 1)
  | 't' :: _ => some ('\t', 1)
  | 'n' :: _ => some ('\n', 1)
  | 'f' :: _ => some ('\x0c', 1)
  | 'r' :: _ => some ('\r', 1)
  | 'e' :: _ => some ('\x1b', 1)
  | '"' :: _ => some ('"', 1)
  | '\\' :: _ => some ('\\', 1)
  | 'x' :: rest => (charOfCode? 2 rest).map (·, 3)
  | 'u' :: rest => (charOfCode? 4 rest).map (·, 5)
  | 'U' :: rest => (charOfCode? 8 rest).map (·, 9)
  | _ => none

/-- What has been read of a string with one more character before it. -/
def push (c : Char) (r : Option (List Char × List Char)) : Option (List Char × List Char) :=
  r.map fun (s, rest) => (c :: s, rest)

/-! ### Strings on one line -/

/-- A string after its opening double quote. -/
def readBasic : List Char → Option (List Char × List Char)
  | [] => none
  | c :: rest =>
    if c = '"' then some ([], rest)
    else if c = '\\' then
      match escape? rest with
      | some (e, n) => push e (readBasic (rest.drop n))
      | none => none
    else if isPlain c then push c (readBasic rest)
    else none
termination_by cs => cs.length

/-- A string after its opening single quote. -/
def readLiteral : List Char → Option (List Char × List Char)
  | [] => none
  | c :: rest =>
    if c = '\'' then some ([], rest)
    else if isPlain c then push c (readLiteral rest)
    else none

/-! ### Strings over several lines -/

/-- The end of a string that three quotes close; one or two more quotes before them belong to the
string. -/
def closing? (mark : Char) (cs : List Char) : Option (List Char × List Char) :=
  let n := ((cs.take 5).takeWhile (· = mark)).length
  if 3 ≤ n then some (List.replicate (n - 3) mark, cs.drop n) else none

/-- A text without the blanks and line ends at its start. -/
def skipSpace : List Char → List Char
  | ' ' :: rest => skipSpace rest
  | '\t' :: rest => skipSpace rest
  | '\n' :: rest => skipSpace rest
  | '\r' :: '\n' :: rest => skipSpace rest
  | cs => cs

theorem length_skipSpace_le (cs : List Char) : (skipSpace cs).length ≤ cs.length := by
  fun_induction skipSpace cs <;> grind

/-- A string after three opening double quotes. A backslash at the end of a line takes the line end
away, with all blanks and line ends behind it. -/
def readLongBasic : List Char → Option (List Char × List Char)
  | [] => none
  | c :: rest =>
    match closing? '"' (c :: rest) with
    | some finish => some finish
    | none =>
      if c = '\\' then
        match escape? rest with
        | some (e, n) => push e (readLongBasic (rest.drop n))
        | none =>
          if (newline? (skipBlanks rest)).isSome then readLongBasic (skipSpace rest) else none
      else if isPlain c || (newline? (c :: rest)).isSome then push c (readLongBasic rest)
      else none
termination_by cs => cs.length
decreasing_by
  · simp only [List.length_drop, List.length_cons]; omega
  · have := length_skipSpace_le rest; simp only [List.length_cons]; omega
  · simp

/-- A string after three opening single quotes. -/
def readLongLiteral : List Char → Option (List Char × List Char)
  | [] => none
  | c :: rest =>
    match closing? '\'' (c :: rest) with
    | some finish => some finish
    | none =>
      if isPlain c || (newline? (c :: rest)).isSome then push c (readLongLiteral rest)
      else none

/-! ### All strings -/

/-- A string on one line, and what follows it. -/
def readOneLine : List Char → Option (String × List Char)
  | '"' :: rest => (readBasic rest).map fun (s, r) => (String.ofList s, r)
  | '\'' :: rest => (readLiteral rest).map fun (s, r) => (String.ofList s, r)
  | _ => none

/-- A string and what follows it. A line end right after three quotes does not count. -/
def readString : List Char → Option (String × List Char)
  | '"' :: '"' :: '"' :: rest =>
    (readLongBasic ((newline? rest).getD rest)).map fun (s, r) => (String.ofList s, r)
  | '\'' :: '\'' :: '\'' :: rest =>
    (readLongLiteral ((newline? rest).getD rest)).map fun (s, r) => (String.ofList s, r)
  | cs => readOneLine cs

/-! ### Writing -/

/-- The length of the longest run of a character. -/
def longestRun (mark : Char) (cs : List Char) : Nat :=
  (cs.foldl (fun (run, best) c =>
    let run := if c = mark then run + 1 else 0
    (run, max run best)) (0, 0)).2

/-- Whether a character can only be written as an escape. -/
def needsEscape (c : Char) : Bool := !isPlain c && c ≠ '\n'

/-- The escape for a character; the tab has one, too. -/
def escaped (c : Char) : List Char :=
  if c = '"' then ['\\', '"']
  else if c = '\\' then ['\\', '\\']
  else if c = '\n' then ['\\', 'n']
  else if c = '\t' then ['\\', 't']
  else if c = '\r' then ['\\', 'r']
  else if c.toNat = 8 then ['\\', 'b']
  else if c.toNat = 12 then ['\\', 'f']
  else if isPlain c then [c]
  else
    '\\' :: 'u' :: '0' :: '0' ::
      [(Nat.digitChar (c.toNat / 16)).toUpper, (Nat.digitChar (c.toNat % 16)).toUpper]

/-- The body of a string over several lines: every third quote in a row is escaped. The first
argument counts the quotes before the text. -/
def escapedLong : Nat → List Char → List Char
  | _, [] => []
  | run, c :: rest =>
    if c = '"' then
      if run = 2 then escaped c ++ escapedLong 0 rest else c :: escapedLong (run + 1) rest
    else if c = '\n' then c :: escapedLong 0 rest
    else escaped c ++ escapedLong 0 rest

/-- A body between quotes, on lines of its own if it has several. -/
def enclosed (long : Bool) (mark : Char) (several : Bool) (body : List Char) : List Char :=
  let marks := List.replicate (if long then 3 else 1) mark
  marks ++ (if long && several then ['\n'] else []) ++ body ++ marks

/-- The written form of a string. A form without escapes is preferred: in double quotes, in single
ones, and either over several lines. -/
def quote (s : String) : List Char :=
  let cs := s.toList
  let several := cs.contains '\n'
  let backslash := cs.contains '\\'
  -- Controls leave no choice but escapes.
  if cs.any needsEscape then
    if several then enclosed true '"' several (escapedLong 0 cs)
    else enclosed false '"' several (cs.flatMap escaped)
  else if !backslash && !several && longestRun '"' cs = 0 then
    enclosed false '"' several (cs.flatMap escaped)
  else if !several && longestRun '\'' cs = 0 then enclosed false '\'' several cs
  else if !backslash && longestRun '"' cs ≤ 2 then enclosed true '"' several (escapedLong 0 cs)
  else if longestRun '\'' cs ≤ 2 then enclosed true '\'' several cs
  -- Three quotes of each kind in a row: escapes again.
  else if several then enclosed true '"' several (escapedLong 0 cs)
  else enclosed false '"' several (cs.flatMap escaped)

end Warden.Toml
