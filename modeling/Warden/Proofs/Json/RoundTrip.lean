import Mathlib.Data.List.DropRight
import Warden.Proofs.Json.Literals
import Warden.Proofs.Text.Lines

namespace Warden.Json

/-!
# Documents that are written and read

A document whose literals all have values, and whose numbers are whole ones of 64 bits, is read back
from both of its written forms.

* `Reads cs j` — whatever follows, `cs` is read as the value `j`; `ReadsItems` and `ReadsMembers`
  say the same of what stands in an array or an object.
* `reads_array`, `readsItems_cons` and so on — how values are put together, with spaces wherever
  they may stand.
* `Plain` — the documents meant above.
* `read_compact`, `read_pretty` — both written forms are read back.
* `unbroken_compact` — one of them is a single line.
-/

variable {cs ds sp rest : List Char} {j : Json} {items : List Json} {k : List Char}
  {ms : List (Literal × Json)} {fuel : Nat}

/-! ### Spaces -/

/-- Whether a text is made of spaces. -/
def Spaces (sp : List Char) : Prop := ∀ c ∈ sp, isSpace c = true

theorem spaces_nil : Spaces [] := fun c hc => by cases hc

/-- Spaces that are written make no difference to what is read. -/
theorem skipSpaces_append (h : Spaces sp) (cs : List Char) :
    skipSpaces (sp ++ cs) = skipSpaces cs :=
  List.dropWhile_append_of_pos h

theorem skipSpaces_cons {c : Char} (h : isSpace c = false) (cs : List Char) :
    skipSpaces (c :: cs) = c :: cs :=
  List.dropWhile_cons_of_neg (by simp [h])

/-- Skipping twice is skipping once, so a reader may skip before it hands over to one that does. -/
theorem skipSpaces_idem (cs : List Char) : skipSpaces (skipSpaces cs) = skipSpaces cs :=
  List.dropWhile_idempotent ..

/-- No space goes on with a number. -/
theorem ends_spaces {c : Char} (h : Spaces sp) (hc : Ends (c :: rest)) :
    Ends (sp ++ c :: rest) := by
  cases sp with
  | nil => exact hc
  | cons s sp =>
    intro d hd
    cases Option.some.inj hd
    have hs : isSpace s = true := h s List.mem_cons_self
    unfold isSpace at hs
    simp only [Bool.or_eq_true, beq_iff_eq] at hs
    -- The four spaces of the format; none of them is a digit, a point or an exponent.
    rcases hs with ((rfl | rfl) | rfl) | rfl <;> decide

/-! ### What is read -/

/-- Whether a text is read as a value, as long as there is fuel for its characters and what follows
does not go on with a number. -/
def Reads (cs : List Char) (j : Json) : Prop :=
  ∀ fuel rest, cs.length ≤ fuel → Ends rest → readValue fuel (cs ++ rest) = some (j, rest)

/-- Whether a text is read as the items of an array and its closing bracket. -/
def ReadsItems (cs : List Char) (items : List Json) : Prop :=
  ∀ fuel rest, cs.length ≤ fuel → readItems fuel (cs ++ rest) = some (items, rest)

/-- Whether a text is read as the members of an object and its closing brace. -/
def ReadsMembers (cs : List Char) (ms : List (Literal × Json)) : Prop :=
  ∀ fuel rest, cs.length ≤ fuel → readMembers fuel (cs ++ rest) = some (ms, rest)

/-- Spaces before a value are skipped. -/
theorem readValue_skipSpaces (fuel : Nat) (cs : List Char) :
    readValue fuel (skipSpaces cs) = readValue fuel cs := by
  cases fuel with
  | zero => rfl
  | succ fuel => rw [readValue, readValue, skipSpaces_idem]

/-- Spaces before the items of an array are skipped. -/
theorem readItems_skipSpaces (fuel : Nat) (cs : List Char) :
    readItems fuel (skipSpaces cs) = readItems fuel cs := by
  cases fuel with
  | zero => rfl
  | succ fuel => rw [readItems, readItems, readValue_skipSpaces]

/-- Spaces before the members of an object are skipped. -/
theorem readMembers_skipSpaces (fuel : Nat) (cs : List Char) :
    readMembers fuel (skipSpaces cs) = readMembers fuel cs := by
  cases fuel with
  | zero => rfl
  | succ fuel => rw [readMembers, readMembers, skipSpaces_idem]

/-- A value may stand behind spaces. -/
theorem Reads.spaces (h : Reads cs j) (hsp : Spaces sp) : Reads (sp ++ cs) j := by
  intro fuel rest hfuel hends
  -- The reader skips them itself; the fuel counts them, so what is left of it suffices all the
  -- more.
  rw [List.append_assoc, ← readValue_skipSpaces, skipSpaces_append hsp, readValue_skipSpaces]
  exact h fuel rest (by simp at hfuel; omega) hends

/-- Members may stand behind spaces, as they do in lines of their own. -/
theorem ReadsMembers.spaces (h : ReadsMembers cs ms) (hsp : Spaces sp) :
    ReadsMembers (sp ++ cs) ms := by
  intro fuel rest hfuel
  rw [List.append_assoc, ← readMembers_skipSpaces, skipSpaces_append hsp, readMembers_skipSpaces]
  exact h fuel rest (by simp at hfuel; omega)

/-! ### Single values -/

/-- What is read at once needs fuel for one step only. -/
theorem reads_of_step (hne : cs ≠ [])
    (h : ∀ fuel rest, Ends rest → readValue (fuel + 1) (cs ++ rest) = some (j, rest)) :
    Reads cs j := by
  intro fuel rest hfuel hends
  cases fuel with
  | zero => exact absurd (List.eq_nil_of_length_eq_zero (by omega)) hne
  | succ fuel => exact h fuel rest hends

theorem reads_null : Reads ['n', 'u', 'l', 'l'] .null :=
  reads_of_step (by decide) fun _ _ _ => rfl

theorem reads_true : Reads ['t', 'r', 'u', 'e'] (.bool true) :=
  reads_of_step (by decide) fun _ _ _ => rfl

theorem reads_false : Reads ['f', 'a', 'l', 's', 'e'] (.bool false) :=
  reads_of_step (by decide) fun _ _ _ => rfl

theorem chars_text (cs : List Char) :
    (Literal.text cs).chars = '"' :: (cs.flatMap escapeChar ++ ['"']) := rfl

/-- A quote starts a string. -/
theorem readValue_quote (cs : List Char) :
    readValue (fuel + 1) ('"' :: cs) = (readLiteral cs).map fun (s, r) => (.string s, r) := rfl

/-- A digit starts a number. -/
theorem readValue_digit {d : Char} (hd : d.isDigit = true) (cs : List Char) :
    readValue (fuel + 1) (d :: cs) = (readNumeral (d :: cs)).map fun (n, r) => (.number n, r) := by
  have hspace : isSpace d = false := by
    rw [← Bool.not_eq_true]
    intro h
    simp only [isSpace, Bool.or_eq_true, beq_iff_eq] at h
    rcases h with ((rfl | rfl) | rfl) | rfl <;> cases hd
  rw [readValue, skipSpaces_cons hspace]
  split
  all_goals first | rfl | (cases ‹d :: cs = _›; cases hd)

/-- A string is read back, whatever its characters are. -/
theorem reads_text (cs : List Char) : Reads (Literal.text cs).chars (.string (.text cs)) := by
  rw [chars_text]
  refine reads_of_step (List.cons_ne_nil _ _) fun fuel rest _ => ?_
  rw [List.cons_append, readValue_quote, List.append_assoc]
  simp only [List.cons_append, List.nil_append, readLiteral_chars, Option.map_some]

/-- A natural number of 64 bits is read back from its digits. -/
theorem reads_natural {n : Nat} (hn : n ≤ Number.word64) :
    Reads (Nat.toDigits 10 n) (natural n) := by
  refine reads_of_step Nat.toDigits_ne_nil fun fuel rest hends => ?_
  have hread := readNumeral_digits hn hends
  -- The reader tells a number by its first digit, so there has to be one.
  cases hds : Nat.toDigits 10 n with
  | nil => exact absurd hds Nat.toDigits_ne_nil
  | cons d ds =>
    have hdigit : d.isDigit = true :=
      Nat.isDigit_of_mem_toDigits (by decide) (by decide) (hds ▸ List.mem_cons_self)
    rw [hds, List.cons_append] at hread
    rw [List.cons_append, readValue_digit hdigit, hread]
    rfl

/-- A minus starts a number. -/
theorem readValue_minus (cs : List Char) :
    readValue (fuel + 1) ('-' :: cs) =
      (readNumeral ('-' :: cs)).map fun (n, r) => (.number n, r) := rfl

/-- A negative number of 64 bits is read back. -/
theorem reads_negative {n : Nat} (hpos : 0 < n) (hn : n ≤ Nat.pow 2 63) :
    Reads (Numeral.negative n).chars (.number (.negative n)) := by
  refine reads_of_step (List.cons_ne_nil _ _) fun fuel rest hends => ?_
  rw [Numeral.chars, List.cons_append, readValue_minus, readNumeral_minus hpos hn hends]
  rfl

/-! ### Arrays -/

theorem reads_array_nil : Reads ['[', ']'] (.array []) :=
  reads_of_step (by decide) fun _ _ _ => rfl

/-- What is read as items is not the end of an array that has none. -/
theorem ReadsItems.skipSpaces_ne (h : ReadsItems cs items) (r : List Char) :
    skipSpaces (cs ++ rest) ≠ ']' :: r := by
  intro hskip
  -- If a bracket came first, the reader of items would fail at it, whatever its fuel.
  have hread := h (cs.length + 2) rest (by omega)
  have hnone : readItems (cs.length + 2) (']' :: r) = none := rfl
  rw [← readItems_skipSpaces, hskip, hnone] at hread
  cases hread

/-- What is no empty array has items. -/
theorem readValue_bracket (h : ∀ r, skipSpaces cs ≠ ']' :: r) :
    readValue (fuel + 1) ('[' :: cs) =
      (readItems fuel cs).map fun (items, r) => (.array items, r) := by
  rw [readValue, skipSpaces_cons (show isSpace '[' = false by rfl)]
  -- The case of an empty array is excluded by `h`.
  simp only [readItems_skipSpaces]

/-- An array is read back if its items are. -/
theorem reads_array (h : ReadsItems cs items) : Reads ('[' :: cs) (.array items) := by
  intro fuel rest hfuel hends
  obtain ⟨fuel, rfl⟩ : ∃ f, fuel = f + 1 := ⟨fuel - 1, by simp at hfuel; omega⟩
  rw [List.cons_append, readValue_bracket h.skipSpaces_ne, h fuel rest (by simp at hfuel; omega)]
  rfl

/-- No number goes on with a comma; likewise with a bracket and a brace below. -/
theorem ends_comma (rest : List Char) : Ends (',' :: rest) := fun _ hc => by cases hc; decide

theorem ends_bracket (rest : List Char) : Ends (']' :: rest) := fun _ hc => by cases hc; decide

theorem ends_brace (rest : List Char) : Ends ('\x7d' :: rest) := fun _ hc => by cases hc; decide

/-- The last item may have spaces before the closing bracket. -/
theorem readsItems_singleton (h : Reads cs j) (hsp : Spaces sp) :
    ReadsItems (cs ++ (sp ++ [']'])) [j] := by
  intro fuel rest hfuel
  simp only [List.length_append, List.length_cons, List.length_nil] at hfuel
  obtain ⟨fuel, rfl⟩ : ∃ f, fuel = f + 1 := ⟨fuel - 1, by omega⟩
  -- Of the fuel one step is for the list itself, and the rest for the item.
  have hvalue := h fuel (sp ++ ']' :: rest) (by omega) (ends_spaces hsp (ends_bracket rest))
  simp only [List.append_assoc, List.cons_append, List.nil_append]
  rw [readItems, hvalue]
  simp only [skipSpaces_append hsp, skipSpaces_cons (show isSpace ']' = false by rfl)]

/-- An item goes before others with a comma between them. -/
theorem readsItems_cons (h : Reads cs j) (hrest : ReadsItems ds items) :
    ReadsItems (cs ++ ',' :: ds) (j :: items) := by
  intro fuel rest hfuel
  simp only [List.length_append, List.length_cons] at hfuel
  obtain ⟨fuel, rfl⟩ : ∃ f, fuel = f + 1 := ⟨fuel - 1, by omega⟩
  have hvalue := h fuel (',' :: (ds ++ rest)) (by omega) (ends_comma (ds ++ rest))
  simp only [List.append_assoc, List.cons_append]
  rw [readItems, hvalue]
  simp only [skipSpaces_cons (show isSpace ',' = false by rfl), hrest fuel rest (by omega),
    Option.map_some]

/-- Items are read as they are written, if each of them is: what a way to write them has to do is to
put commas between them, and the closing bracket behind some spaces. -/
theorem readsItems_write {write : List Json → List Char} {f : Json → List Char}
    (hsp : Spaces sp) (hone : ∀ j, write [j] = f j ++ (sp ++ [']']))
    (hmore : ∀ j i rest, write (j :: i :: rest) = f j ++ ',' :: write (i :: rest))
    (hne : items ≠ []) (h : ∀ j ∈ items, Reads (f j) j) : ReadsItems (write items) items := by
  -- On the items: the last one is followed by the bracket, each of the others by a comma.
  induction items with
  | nil => exact absurd rfl hne
  | cons j rest ih =>
    have hj := h j List.mem_cons_self
    cases rest with
    | nil =>
      rw [hone]
      exact readsItems_singleton hj hsp
    | cons i rest =>
      rw [hmore]
      exact readsItems_cons hj
        (ih (List.cons_ne_nil i rest) fun j hj => h j (List.mem_cons_of_mem _ hj))

/-! ### Objects -/

theorem reads_object_nil : Reads ['\x7b', '\x7d'] (.object []) :=
  reads_of_step (by decide) fun _ _ _ => rfl

/-- What is read as members is not the end of an object that has none. -/
theorem ReadsMembers.skipSpaces_ne (h : ReadsMembers cs ms) (r : List Char) :
    skipSpaces (cs ++ rest) ≠ '\x7d' :: r := by
  intro hskip
  have hread := h (cs.length + 1) rest (by omega)
  have hnone : readMembers (cs.length + 1) ('\x7d' :: r) = none := rfl
  rw [← readMembers_skipSpaces, hskip, hnone] at hread
  cases hread

/-- What is no empty object has members. -/
theorem readValue_brace (h : ∀ r, skipSpaces cs ≠ '\x7d' :: r) :
    readValue (fuel + 1) ('\x7b' :: cs) =
      (readMembers fuel cs).map fun (members, r) => (.object members, r) := by
  rw [readValue, skipSpaces_cons (show isSpace '\x7b' = false by rfl)]
  -- The case of an empty object is excluded by `h`.
  simp only [readMembers_skipSpaces]

/-- An object is read back if its members are. -/
theorem reads_object (h : ReadsMembers cs ms) : Reads ('\x7b' :: cs) (.object ms) := by
  intro fuel rest hfuel hends
  obtain ⟨fuel, rfl⟩ : ∃ f, fuel = f + 1 := ⟨fuel - 1, by simp at hfuel; omega⟩
  rw [List.cons_append, readValue_brace h.skipSpaces_ne, h fuel rest (by simp at hfuel; omega)]
  rfl

/-- A member whose value is followed by the closing brace is the last one. -/
theorem readMembers_last (k : List Char) {r : List Char} (hvalue : readValue fuel cs = some (j, r))
    (hbrace : skipSpaces r = '\x7d' :: rest) :
    readMembers (fuel + 1) ((Literal.text k).chars ++ ':' :: cs) = some ([(.text k, j)], rest) := by
  rw [chars_text, List.cons_append, List.append_assoc, List.cons_append, List.nil_append,
    readMembers, skipSpaces_cons (show isSpace '"' = false by rfl)]
  simp only [readLiteral_chars, skipSpaces_cons (show isSpace ':' = false by rfl), hvalue, hbrace]

/-- A member whose value is followed by a comma is followed by other members. -/
theorem readMembers_more (k : List Char) {r : List Char} (hvalue : readValue fuel cs = some (j, r))
    (hcomma : skipSpaces r = ',' :: ds) :
    readMembers (fuel + 1) ((Literal.text k).chars ++ ':' :: cs) =
      (readMembers fuel ds).map fun (ms, r) => ((.text k, j) :: ms, r) := by
  rw [chars_text, List.cons_append, List.append_assoc, List.cons_append, List.nil_append,
    readMembers, skipSpaces_cons (show isSpace '"' = false by rfl)]
  simp only [readLiteral_chars, skipSpaces_cons (show isSpace ':' = false by rfl), hvalue, hcomma]

/-- The last member may have spaces before the closing brace. -/
theorem readsMembers_singleton (h : Reads cs j) (hsp : Spaces sp) :
    ReadsMembers ((Literal.text k).chars ++ ':' :: (cs ++ (sp ++ ['\x7d']))) [(.text k, j)] := by
  intro fuel rest hfuel
  simp only [List.length_append, List.length_cons, List.length_nil] at hfuel
  obtain ⟨fuel, rfl⟩ : ∃ f, fuel = f + 1 := ⟨fuel - 1, by omega⟩
  have hvalue := h fuel (sp ++ '\x7d' :: rest) (by omega) (ends_spaces hsp (ends_brace rest))
  have hbrace : skipSpaces (sp ++ '\x7d' :: rest) = '\x7d' :: rest := by
    rw [skipSpaces_append hsp]
    exact skipSpaces_cons rfl rest
  simp only [List.append_assoc, List.cons_append, List.nil_append]
  exact readMembers_last k hvalue hbrace

/-- A member goes before others with a comma between them. -/
theorem readsMembers_cons (h : Reads cs j) (hrest : ReadsMembers ds ms) :
    ReadsMembers ((Literal.text k).chars ++ ':' :: (cs ++ ',' :: ds)) ((.text k, j) :: ms) := by
  intro fuel rest hfuel
  simp only [List.length_append, List.length_cons] at hfuel
  obtain ⟨fuel, rfl⟩ : ∃ f, fuel = f + 1 := ⟨fuel - 1, by omega⟩
  have hvalue := h fuel (',' :: (ds ++ rest)) (by omega) (ends_comma (ds ++ rest))
  simp only [List.append_assoc, List.cons_append]
  rw [readMembers_more k hvalue (skipSpaces_cons rfl (ds ++ rest)), hrest fuel rest (by omega)]
  rfl

/-- Members are read as they are written, if the value of each of them is. -/
theorem readsMembers_write {write : List (Literal × Json) → List Char} {f : Json → List Char}
    {start : List Char} (hstart : Spaces start) (hsp : Spaces sp)
    (hone : ∀ k v, write [(k, v)] = start ++ (k.chars ++ ':' :: (f v ++ (sp ++ ['\x7d']))))
    (hmore : ∀ k v m rest, write ((k, v) :: m :: rest) =
      start ++ (k.chars ++ ':' :: (f v ++ ',' :: write (m :: rest))))
    (hne : ms ≠ []) (hkeys : ∀ m ∈ ms, ∃ k, m.1 = .text k)
    (h : ∀ m ∈ ms, Reads (f m.2) m.2) : ReadsMembers (write ms) ms := by
  -- As for items, but what is written may start with spaces, so each step puts them before the
  -- member.
  induction ms with
  | nil => exact absurd rfl hne
  | cons m rest ih =>
    obtain ⟨key, v⟩ := m
    obtain ⟨k, rfl⟩ := hkeys _ List.mem_cons_self
    have hv := h _ List.mem_cons_self
    cases rest with
    | nil =>
      rw [hone]
      exact (readsMembers_singleton hv hsp).spaces hstart
    | cons m rest =>
      rw [hmore]
      exact (readsMembers_cons hv
        (ih (List.cons_ne_nil m rest) (fun m hm => hkeys m (List.mem_cons_of_mem _ hm))
          fun m hm => h m (List.mem_cons_of_mem _ hm))).spaces hstart

/-! ### Plain documents -/

/-- A document whose strings have texts and whose numbers are whole ones of 64 bits. -/
inductive Plain : Json → Prop
  | null : Plain .null
  | bool (b : Bool) : Plain (.bool b)
  | natural {n : Nat} (h : n ≤ Number.word64) : Plain (natural n)
  | negative {n : Nat} (hpos : 0 < n) (h : n ≤ Nat.pow 2 63) : Plain (.number (.negative n))
  | string (cs : List Char) : Plain (.string (.text cs))
  | array {items : List Json} (h : ∀ j ∈ items, Plain j) : Plain (.array items)
  | object {ms : List (Literal × Json)} (hkeys : ∀ m ∈ ms, ∃ k, m.1 = .text k)
      (hvalues : ∀ m ∈ ms, Plain m.2) : Plain (.object ms)

/-! ### One line -/

/-- Items without spaces between them are read back. -/
theorem readsItems_compact (hne : items ≠ []) (h : ∀ j ∈ items, Reads (compactChars j) j) :
    ReadsItems (compactItems items) items :=
  readsItems_write spaces_nil (fun _ => rfl) (fun _ _ _ => rfl) hne h

/-- Members without spaces between them are read back. -/
theorem readsMembers_compact (hne : ms ≠ []) (hkeys : ∀ m ∈ ms, ∃ k, m.1 = .text k)
    (h : ∀ m ∈ ms, Reads (compactChars m.2) m.2) : ReadsMembers (compactMembers ms) ms := by
  refine readsMembers_write spaces_nil spaces_nil (fun k v => ?_) (fun k v m rest => ?_) hne hkeys h
  · simp [compactMembers]
  · simp [compactMembers]

/-- The form on one line is read back, also in the middle of a longer text. -/
theorem reads_compact (h : Plain j) : Reads (compactChars j) j := by
  -- On the document. Empty arrays and objects have a form of their own, without anything between
  -- the brackets.
  induction h with
  | null => exact reads_null
  | bool b => cases b with
    | true => exact reads_true
    | false => exact reads_false
  | natural hn => exact reads_natural hn
  | negative hpos hn => exact reads_negative hpos hn
  | string cs => exact reads_text cs
  | @array items _ ih =>
    cases items with
    | nil => exact reads_array_nil
    | cons j rest => exact reads_array (readsItems_compact (List.cons_ne_nil j rest) ih)
  | @object ms hkeys _ ih =>
    cases ms with
    | nil => exact reads_object_nil
    | cons m rest =>
      exact reads_object (readsMembers_compact (List.cons_ne_nil m rest) hkeys ih)

/-! ### Several lines -/

/-- A line break with its indentation is made of spaces. -/
theorem spaces_newLine (level : Nat) : Spaces (newLine level) := by
  intro c hc
  rcases List.mem_cons.1 hc with rfl | hc
  · rfl
  · rw [(List.mem_replicate.1 hc).2]
    rfl

/-- Items on lines of their own are read back. -/
theorem readsItems_pretty {level : Nat} (hne : items ≠ [])
    (h : ∀ j ∈ items, Reads (prettyChars (level + 1) j) j) :
    ReadsItems (prettyItems level items) items := by
  refine readsItems_write (spaces_newLine level) (fun j => ?_) (fun _ _ _ => rfl) hne
    fun j hj => (h j hj).spaces (spaces_newLine (level + 1))
  rw [prettyItems, List.append_assoc]

/-- Members on lines of their own are read back, with the blank after the colon. -/
theorem readsMembers_pretty {level : Nat} (hne : ms ≠ []) (hkeys : ∀ m ∈ ms, ∃ k, m.1 = .text k)
    (h : ∀ m ∈ ms, Reads (prettyChars (level + 1) m.2) m.2) :
    ReadsMembers (prettyMembers level ms) ms := by
  have hblank : Spaces [' '] := fun c hc => List.mem_singleton.1 hc ▸ rfl
  -- The blank after the colon counts as part of the value.
  refine readsMembers_write (f := fun v => ' ' :: prettyChars (level + 1) v)
    (spaces_newLine (level + 1)) (spaces_newLine level) (fun k v => ?_) (fun k v m rest => ?_) hne
    hkeys fun m hm => (h m hm).spaces hblank
  · simp [prettyMembers]
  · simp [prettyMembers]

/-- The form over several lines is read back, at any depth. -/
theorem reads_pretty (h : Plain j) (level : Nat) : Reads (prettyChars level j) j := by
  -- On the document; the depth grows with every array and object, so it is not fixed.
  induction h generalizing level with
  | null => exact reads_null
  | bool b => cases b with
    | true => exact reads_true
    | false => exact reads_false
  | natural hn => exact reads_natural hn
  | negative hpos hn => exact reads_negative hpos hn
  | string cs => exact reads_text cs
  | @array items _ ih =>
    cases items with
    | nil => exact reads_array_nil
    | cons j rest =>
      exact reads_array
        (readsItems_pretty (List.cons_ne_nil j rest) fun j hj => ih j hj (level + 1))
  | @object ms hkeys _ ih =>
    cases ms with
    | nil => exact reads_object_nil
    | cons m rest =>
      exact reads_object
        (readsMembers_pretty (List.cons_ne_nil m rest) hkeys fun m hm => ih m hm (level + 1))

/-! ### Whole texts -/

/-- What is read as a value whatever follows is read as a whole text. -/
theorem Reads.read (h : Reads cs j) : Json.read cs = some j := by
  -- Nothing follows here, and nothing does not go on with a number.
  have hvalue := h (2 * cs.length + 2) [] (by omega) fun c hc => by cases hc
  rw [List.append_nil] at hvalue
  simp only [Json.read, hvalue]
  rfl

/-- A document on one line is read back. -/
theorem read_compact (h : Plain j) : Json.read j.compact.toList = some j := by
  rw [compact, String.toList_ofList]
  exact (reads_compact h).read

/-- A document over several lines is read back. -/
theorem read_pretty (h : Plain j) : Json.read j.pretty.toList = some j := by
  rw [pretty, String.toList_ofList]
  exact (reads_pretty h 0).read

/-! ### No line breaks -/

theorem unbroken_append {ds : List Char} :
    Text.Unbroken (cs ++ ds) ↔ Text.Unbroken cs ∧ Text.Unbroken ds :=
  List.forall_mem_append

theorem unbroken_cons {c : Char} :
    Text.Unbroken (c :: cs) ↔ 32 ≤ c.toNat ∧ Text.Unbroken cs :=
  List.forall_mem_cons

theorem unbroken_nil : Text.Unbroken [] := fun c hc => by cases hc

/-- Of a text that is known, this is computed. -/
theorem unbroken_of_all (h : cs.all (fun c => 32 ≤ c.toNat) = true) : Text.Unbroken cs := by
  simpa [Text.Unbroken] using h

/-- Control characters are written without control characters. -/
theorem unbroken_escapeChar (c : Char) : Text.Unbroken (escapeChar c) := by
  have hdigit : ∀ n < 32, 32 ≤ (Nat.digitChar n).toNat := by decide
  unfold escapeChar
  -- Seven characters have an escape of two characters.
  iterate 7
    split
    next => exact unbroken_of_all rfl
  split
  next h =>
    have hhigh := hdigit (c.toNat / 16) (by omega)
    have hlow := hdigit (c.toNat % 16) (by omega)
    have hstart : Text.Unbroken ['\\', 'u', '0', '0'] := unbroken_of_all rfl
    exact unbroken_append.2 ⟨hstart,
      unbroken_cons.2 ⟨hhigh, unbroken_cons.2 ⟨hlow, unbroken_nil⟩⟩⟩
  next h => exact unbroken_cons.2 ⟨Nat.le_of_not_lt h, unbroken_nil⟩

/-- A number is written without control characters. -/
theorem unbroken_digits (n : Nat) : Text.Unbroken (Nat.toDigits 10 n) := by
  intro c hc
  have hdigit := Nat.isDigit_of_mem_toDigits (by decide) (by decide) hc
  rw [Char.isDigit_iff_toNat] at hdigit
  exact Nat.le_trans (by decide) hdigit.1

/-- A string is written without control characters, whatever characters it has. -/
theorem unbroken_literal (cs : List Char) : Text.Unbroken (Literal.text cs).chars := by
  rw [chars_text, unbroken_cons, unbroken_append]
  refine ⟨by decide, fun c hc => ?_, unbroken_of_all rfl⟩
  obtain ⟨d, -, hd⟩ := List.mem_flatMap.1 hc
  exact unbroken_escapeChar d c hd

/-- Items on one line bring no control character along. -/
theorem unbroken_items (h : ∀ j ∈ items, Text.Unbroken (compactChars j)) :
    Text.Unbroken (compactItems items) := by
  induction items with
  | nil => exact unbroken_of_all rfl
  | cons j rest ih =>
    have hj := h j List.mem_cons_self
    cases rest with
    | nil => exact unbroken_append.2 ⟨hj, unbroken_of_all rfl⟩
    | cons i rest =>
      have hrest := ih fun j hj => h j (List.mem_cons_of_mem _ hj)
      exact unbroken_append.2 ⟨hj, unbroken_cons.2 ⟨by decide, hrest⟩⟩

/-- Members on one line bring no control character along. -/
theorem unbroken_members (hkeys : ∀ m ∈ ms, ∃ k, m.1 = .text k)
    (h : ∀ m ∈ ms, Text.Unbroken (compactChars m.2)) : Text.Unbroken (compactMembers ms) := by
  induction ms with
  | nil => exact unbroken_of_all rfl
  | cons m rest ih =>
    obtain ⟨key, v⟩ := m
    obtain ⟨k, rfl⟩ := hkeys _ List.mem_cons_self
    have hv := h _ List.mem_cons_self
    have hkey : Text.Unbroken ((Literal.text k).chars ++ ':' :: compactChars v) :=
      unbroken_append.2 ⟨unbroken_literal k, unbroken_cons.2 ⟨by decide, hv⟩⟩
    cases rest with
    | nil => exact unbroken_append.2 ⟨hkey, unbroken_of_all rfl⟩
    | cons m rest =>
      have hrest := ih (fun m hm => hkeys m (List.mem_cons_of_mem _ hm))
        fun m hm => h m (List.mem_cons_of_mem _ hm)
      exact unbroken_append.2 ⟨hkey, unbroken_cons.2 ⟨by decide, hrest⟩⟩

/-- A document on one line is one line. -/
theorem unbroken_compact (h : Plain j) : Text.Unbroken (compactChars j) := by
  -- On the document. Only strings could hold a control character, and those are escaped.
  induction h with
  | null => exact unbroken_of_all rfl
  | bool b => cases b <;> exact unbroken_of_all rfl
  | @natural n _ => exact unbroken_digits n
  | @negative n _ _ => exact unbroken_cons.2 ⟨by decide, unbroken_digits n⟩
  | string cs => exact unbroken_literal cs
  | array _ ih => exact unbroken_cons.2 ⟨by decide, unbroken_items ih⟩
  | object hkeys _ ih => exact unbroken_cons.2 ⟨by decide, unbroken_members hkeys ih⟩

end Warden.Json
