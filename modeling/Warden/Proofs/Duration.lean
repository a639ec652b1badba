import Warden.Duration
import Warden.Proofs.Number.Unsigned
import Warden.Proofs.Text.Blank

namespace Warden.Duration

/-!
# What a duration looks like

A duration is written as digits and the name of a unit.  Blanks around it, and between the number
and the unit, do not count, and neither do zeros in front of the number.

* `TimeUnit.names`, `TimeUnit.span_minute`, `TimeUnit.span_hour` — how a unit is written, and how
  long it is.
* `Written cs n u` — digits of the value `n`, blanks, and a name of the unit `u`.
* `outline` — the digits and the unit that a text is taken apart into; `outline_append`.
* `parse_exact` — the texts that are durations, and which ones.
-/

open Text (Blank Trimmed trimList)

/-! ### Units -/

/-- The names of a unit. -/
def TimeUnit.names : TimeUnit → List String
  | .millisecond => ["ms"]
  | .second => ["s", ""]
  | .minute => ["m"]
  | .hour => ["h"]

variable {u : TimeUnit} {n : Nat} {d : Duration} {s name : String}
  {cs digits gap rest : List Char}

/-- Minutes that fit in the field of seconds are so many minutes. -/
theorem TimeUnit.span_minute (h : 60 * n ≤ Number.word64) :
    TimeUnit.minute.span n = .seconds (60 * n) :=
  congrArg Duration.seconds (Nat.mod_eq_of_lt (Nat.lt_of_le_of_lt h (by decide)))

/-- So are hours. -/
theorem TimeUnit.span_hour (h : 3600 * n ≤ Number.word64) :
    TimeUnit.hour.span n = .seconds (3600 * n) :=
  congrArg Duration.seconds (Nat.mod_eq_of_lt (Nat.lt_of_le_of_lt h (by decide)))

/-- A unit is found by its names. -/
theorem TimeUnit.ofName?_eq_some : TimeUnit.ofName? cs = some u ↔ String.ofList cs ∈ u.names := by
  constructor
  · intro h
    unfold TimeUnit.ofName? at h
    split at h
    all_goals cases h
    all_goals decide
  · intro h
    obtain ⟨name, hname, hcs⟩ : ∃ name ∈ u.names, cs = name.toList :=
      ⟨_, h, String.toList_ofList.symm⟩
    subst hcs
    cases u
    case second =>
      rcases List.mem_cons.1 hname with rfl | hname
      · rfl
      · rw [List.mem_singleton.1 hname]
        rfl
    all_goals
      rw [List.mem_singleton.1 hname]
      rfl

/-- The letters of units. -/
theorem TimeUnit.mem_letters (h : name ∈ u.names) {c : Char} (hc : c ∈ name.toList) :
    c ∈ ['m', 's', 'h'] := by
  have hall : (u.names.all fun name => name.toList.all (['m', 's', 'h'].contains ·)) = true := by
    cases u <;> decide
  have hname : (name.toList.all (['m', 's', 'h'].contains ·)) = true :=
    List.all_eq_true.1 hall name h
  exact List.contains_iff_mem.1 (List.all_eq_true.1 hname c hc)

/-! ### Written durations -/

/-- Whether a text is one digit or more, and nothing else. -/
structure Numeral (digits : List Char) : Prop where
  nonempty : digits ≠ []
  digits c : c ∈ digits → c.isDigit = true

/-- Whether a text is digits of the value `n`, blanks, and a name of the unit `u`. -/
def Written (cs : List Char) (n : Nat) (u : TimeUnit) : Prop :=
  ∃ digits gap name, cs = digits ++ (gap ++ String.toList name) ∧ Numeral digits ∧ Blank gap ∧
    name ∈ u.names ∧ Nat.ofDigitChars 10 digits 0 = n

/-- Whether a text does not go on with a digit. -/
def NoDigit (rest : List Char) : Prop := ∀ c, rest.head? = some c → c.isDigit = false

/-- No blank is a digit. -/
theorem isDigit_of_isBlank {c : Char} (h : Text.isBlank c = true) : c.isDigit = false := by
  refine Bool.eq_false_iff.2 fun hdigit => ?_
  simp only [Char.isDigit, Bool.and_eq_true, decide_eq_true_eq, ge_iff_le,
    UInt32.le_iff_toNat_le] at hdigit
  simp only [Text.isBlank, Bool.or_eq_true, Bool.and_eq_true, decide_eq_true_eq, beq_iff_eq,
    Char.toNat] at h
  have hlow : '0'.val.toNat = 48 := rfl
  have hhigh : '9'.val.toNat = 57 := rfl
  omega

theorem isBlank_of_isDigit {c : Char} (h : c.isDigit = true) : Text.isBlank c = false := by
  refine Bool.eq_false_iff.2 fun hblank => ?_
  rw [isDigit_of_isBlank hblank] at h
  cases h

/-- Blanks may stand before what does not go on with a digit. -/
theorem noDigit_gap (hgap : Blank gap) (hrest : NoDigit rest) : NoDigit (gap ++ rest) := by
  intro c hc
  rw [List.head?_append] at hc
  cases hhead : gap.head? with
  | none =>
    rw [hhead] at hc
    exact hrest c hc
  | some b =>
    rw [hhead] at hc
    cases hc
    exact isDigit_of_isBlank (hgap c (List.mem_of_mem_head? hhead))

/-- No unit starts with a digit. -/
theorem noDigit_name (h : name ∈ u.names) : NoDigit name.toList := by
  intro c hc
  have hnone : ∀ letter ∈ ['m', 's', 'h'], letter.isDigit = false := by simp
  exact hnone c (TimeUnit.mem_letters h (List.mem_of_mem_head? hc))

/-! ### Taking a text apart -/

/-- The digits that a text starts with, and what comes after them, without blanks around it. -/
def outline (cs : List Char) : List Char × List Char :=
  ((trimList cs).takeWhile Char.isDigit, trimList ((trimList cs).dropWhile Char.isDigit))

/-- The digits of a text end where it does not go on with one. -/
theorem takeWhile_numeral (h : Numeral digits) (hrest : NoDigit rest) :
    (digits ++ rest).takeWhile Char.isDigit = digits ∧
      (digits ++ rest).dropWhile Char.isDigit = rest := by
  rw [List.takeWhile_append_of_pos h.digits, List.dropWhile_append_of_pos h.digits]
  cases rest with
  | nil => exact ⟨List.append_nil digits, rfl⟩
  | cons c rest =>
    have hc : ¬ c.isDigit = true := Bool.eq_false_iff.1 (hrest c rfl)
    rw [List.takeWhile_cons_of_neg hc, List.dropWhile_cons_of_neg hc]
    exact ⟨List.append_nil digits, rfl⟩

/-- A number keeps its digits when blanks are cut off, and what comes after it is cut on its own. -/
theorem outline_append (h : Numeral digits) (hrest : NoDigit rest) :
    outline (digits ++ rest) = (digits, trimList rest) := by
  have hblank c (hc : c ∈ digits) : Text.isBlank c = false := isBlank_of_isDigit (h.digits c hc)
  have hstart : Text.trimStart (digits ++ rest) = digits ++ rest := by
    refine Text.trimStart_eq_self fun c hc => ?_
    rw [List.head?_append_of_ne_nil digits h.nonempty] at hc
    exact hblank c (List.mem_of_mem_head? hc)
  have htrim : trimList (digits ++ rest) = digits ++ Text.trimEnd rest := by
    rw [trimList, hstart]
    exact Text.trimEnd_append_left (fun c hc => hblank c (List.mem_of_getLast? hc)) rest
  obtain ⟨after, hafter, hsplit⟩ := Text.exists_trimEnd rest
  -- What is cut off the end is blank, so what is left starts as before.
  have hcut : NoDigit (Text.trimEnd rest) := by
    intro c hc
    refine hrest c ?_
    rw [hsplit, List.head?_append, hc]
    rfl
  have hunit : trimList (Text.trimEnd rest) = trimList rest := by
    conv_rhs => rw [hsplit, Text.trimList_append_right hafter]
  unfold outline
  rw [htrim, (takeWhile_numeral h hcut).1, (takeWhile_numeral h hcut).2, hunit]

/-- Which duration a text is depends on its digits and its unit alone. -/
theorem parse_ok_iff : parse s = .ok d ↔
    (outline s.toList).1 ≠ [] ∧
      ∃ n u, Number.readDigits Number.word64 0 (outline s.toList).1 = .ok n ∧
        TimeUnit.ofName? (outline s.toList).2 = some u ∧ d = u.span n := by
  unfold parse parseTrimmed
  split
  next hempty =>
    -- Where nothing is left, there are no digits either.
    have hnil : (outline s.toList).1 = [] := by
      rw [outline, List.isEmpty_iff.1 hempty]
      rfl
    exact iff_of_false (fun h => by cases h) fun h => h.1 hnil
  · unfold outline
    dsimp only
    split
    next hnone =>
      exact iff_of_false (fun h => by cases h) fun h => h.1 (List.isEmpty_iff.1 hnone)
    next hsome =>
      rw [and_iff_right (fun h => hsome (List.isEmpty_iff.2 h))]
      cases Number.readDigits Number.word64 0 ((trimList s.toList).takeWhile Char.isDigit) with
      | error f => simp
      | ok n =>
        cases TimeUnit.ofName? (trimList ((trimList s.toList).dropWhile Char.isDigit)) with
        | none => simp
        | some u => simp [eq_comm]

/-- Texts that are taken apart into the same pieces are the same durations. -/
theorem parse_congr {s' : String} (h : outline s.toList = outline s'.toList) :
    parse s = .ok d ↔ parse s' = .ok d := by
  rw [parse_ok_iff, parse_ok_iff, h]

/-! ### Which texts are durations -/

/-- A text that is written as a duration is taken apart as it was put together. -/
theorem outline_written (hdigits : Numeral digits) (hgap : Blank gap) (hname : name ∈ u.names) :
    outline (digits ++ (gap ++ name.toList)) = (digits, name.toList) := by
  have hbare : Trimmed name.toList := by
    have hnone : ∀ letter ∈ ['m', 's', 'h'], Text.isBlank letter = false := by simp [Text.isBlank]
    exact ⟨fun c hc => hnone c (TimeUnit.mem_letters hname (List.mem_of_mem_head? hc)),
      fun c hc => hnone c (TimeUnit.mem_letters hname (List.mem_of_getLast? hc))⟩
  rw [outline_append hdigits (noDigit_gap hgap (noDigit_name hname)),
    Text.trimList_append_left hgap, Text.trimList_eq_self hbare]

/-- What comes after the digits of a text without blanks at its end is blanks and a unit. -/
theorem exists_gap (h : Trimmed (digits ++ rest)) :
    ∃ gap, Blank gap ∧ rest = gap ++ trimList rest := by
  obtain ⟨gap, hgap, hsplit⟩ := Text.exists_trimStart rest
  have hend : Text.trimEnd (Text.trimStart rest) = Text.trimStart rest := by
    refine Text.trimEnd_eq_self fun c hc => h.last c ?_
    rw [hsplit, ← List.append_assoc, List.getLast?_append, hc]
    rfl
  exact ⟨gap, hgap, by rw [trimList, hend]; exact hsplit⟩

/-- A text is a duration if and only if it is written as one, with a number of 64 bits. -/
theorem parse_ok_iff_written : parse s = .ok d ↔
    ∃ n u, Written (trimList s.toList) n u ∧ n ≤ Number.word64 ∧ d = u.span n := by
  rw [parse_ok_iff]
  constructor
  · -- What was read is what is written there.
    rintro ⟨hne, n, u, hread, hunit, rfl⟩
    have hdigits : Numeral (outline s.toList).1 := ⟨hne, fun c hc => List.mem_takeWhile_imp hc⟩
    obtain ⟨hvalue, hbound⟩ := (Number.readDigits_ok_iff hdigits.digits).1 hread
    have hcut : trimList s.toList =
        (outline s.toList).1 ++ (trimList s.toList).dropWhile Char.isDigit :=
      List.takeWhile_append_dropWhile.symm
    obtain ⟨gap, hgap, hrest⟩ := exists_gap (hcut ▸ Text.trimmed_trimList s.toList)
    refine ⟨n, u, ⟨_, gap, String.ofList (outline s.toList).2, ?_, hdigits, hgap,
      TimeUnit.ofName?_eq_some.1 hunit, hvalue⟩, hbound, rfl⟩
    rw [String.toList_ofList]
    exact hcut.trans (congrArg _ hrest)
  · rintro ⟨n, u, ⟨digits, gap, name, hcut, hdigits, hgap, hname, hvalue⟩, hbound, rfl⟩
    -- Cutting off blanks a second time makes no difference.
    have houtline : outline s.toList = (digits, name.toList) := by
      have htwice : outline (trimList s.toList) = outline s.toList := by
        rw [outline, Text.trimList_trimList]
        rfl
      rw [← htwice, hcut, outline_written hdigits hgap hname]
    rw [houtline]
    refine ⟨hdigits.nonempty, n, u, (Number.readDigits_ok_iff hdigits.digits).2 ⟨hvalue, hbound⟩,
      TimeUnit.ofName?_eq_some.2 ?_, rfl⟩
    rwa [String.ofList_toList]

/-- Zeros in front of a number do not count. -/
theorem parse_zeros (k : Nat) (h : Numeral digits) (rest : List Char) :
    parse (String.ofList (List.replicate k '0' ++ (digits ++ rest))) = .ok d ↔
      parse (String.ofList (digits ++ rest)) = .ok d := by
  -- What comes after the number may start with digits, which belong to it.
  have hzeros : ∀ c ∈ List.replicate k '0', c.isDigit = true := by
    intro c hc
    rw [List.eq_of_mem_replicate hc]
    rfl
  have hmore : Numeral (digits ++ rest.takeWhile Char.isDigit) := by
    refine ⟨List.append_ne_nil_of_left_ne_nil h.nonempty _, fun c hc => ?_⟩
    rcases List.mem_append.1 hc with hc | hc
    · exact h.digits c hc
    · exact List.mem_takeWhile_imp hc
  -- Zeros and digits are digits, and their value is that of the digits.
  have hall : Numeral (List.replicate k '0' ++ (digits ++ rest.takeWhile Char.isDigit)) := by
    refine ⟨List.append_ne_nil_of_right_ne_nil _ hmore.nonempty, fun c hc => ?_⟩
    rcases List.mem_append.1 hc with hc | hc
    · exact hzeros c hc
    · exact hmore.digits c hc
  have hrest : NoDigit (rest.dropWhile Char.isDigit) := by
    intro c hc
    have hnot := List.head?_dropWhile_not Char.isDigit rest
    rw [hc] at hnot
    exact hnot
  have hsplit : digits ++ rest =
      digits ++ rest.takeWhile Char.isDigit ++ rest.dropWhile Char.isDigit := by
    rw [List.append_assoc, List.takeWhile_append_dropWhile]
  rw [parse_ok_iff, parse_ok_iff, String.toList_ofList, String.toList_ofList, hsplit,
    ← List.append_assoc, outline_append hall hrest, outline_append hmore hrest]
  simp only [Number.readDigits_ok_iff hall.digits, Number.readDigits_ok_iff hmore.digits,
    Nat.ofDigitChars_append, Nat.ofDigitChars_replicate_zero, Nat.mul_zero, ne_eq, hall.nonempty,
    hmore.nonempty]

/-- A text with any other character than digits, blanks and the letters of units is no duration. -/
theorem parse_foreign {c : Char} (hc : c ∈ s.toList) (hdigit : c.isDigit = false)
    (hblank : Text.isBlank c = false) (hletter : c ∉ ['m', 's', 'h']) : parse s ≠ .ok d := by
  intro hparse
  obtain ⟨n, u, ⟨digits, gap, name, hcut, hdigits, hgap, hname, -⟩, -, -⟩ :=
    parse_ok_iff_written.1 hparse
  -- It is none of the blanks that were cut off, so it must be somewhere in what is left.
  have hmem : c ∈ trimList s.toList := by
    obtain ⟨before, after, hbefore, hafter, haround⟩ := Text.exists_trimList s.toList
    rw [haround, List.mem_append, List.mem_append] at hc
    rcases hc with hc | hc | hc
    · rw [hbefore c hc] at hblank
      cases hblank
    · exact hc
    · rw [hafter c hc] at hblank
      cases hblank
  rw [hcut, List.mem_append, List.mem_append] at hmem
  rcases hmem with hmem | hmem | hmem
  · rw [hdigits.digits c hmem] at hdigit
    cases hdigit
  · rw [hgap c hmem] at hblank
    cases hblank
  · exact hletter (TimeUnit.mem_letters hname hmem)

/-- **The grammar of durations.** A text is a duration if and only if, without the blanks around it,
it is a number within 64 bits, blanks, and a name of a unit, and then it is so many of these units;
minutes and hours are, as long as their seconds fit in 64 bits.  Zeros in front of the number do not
count.  A text with any character but digits from `0` to `9`, blanks and the letters of units is
none, and neither blanks around a text nor blanks between the number and what comes after it make
any difference. -/
theorem parse_exact :
    (∀ s d, parse s = .ok d ↔
      ∃ n u, Written (trimList s.toList) n u ∧ n ≤ Number.word64 ∧ d = u.span n) ∧
    (∀ n, TimeUnit.millisecond.span n = ⟨n⟩ ∧ TimeUnit.second.span n = .seconds n ∧
      (60 * n ≤ Number.word64 → TimeUnit.minute.span n = .seconds (60 * n)) ∧
      (3600 * n ≤ Number.word64 → TimeUnit.hour.span n = .seconds (3600 * n))) ∧
    (∀ k digits rest d, Numeral digits →
      (parse (String.ofList (List.replicate k '0' ++ (digits ++ rest))) = .ok d ↔
        parse (String.ofList (digits ++ rest)) = .ok d)) ∧
    (∀ s c, c ∈ s.toList → c.isDigit = false → Text.isBlank c = false → c ∉ ['m', 's', 'h'] →
      ∀ d, parse s ≠ .ok d) ∧
    (∀ before cs after, Blank before → Blank after →
      parse (String.ofList (before ++ (cs ++ after))) = parse (String.ofList cs)) ∧
    ∀ digits gap rest d, Numeral digits → Blank gap → NoDigit rest →
      (parse (String.ofList (digits ++ (gap ++ rest))) = .ok d ↔
        parse (String.ofList (digits ++ rest)) = .ok d) := by
  refine ⟨fun s d => parse_ok_iff_written,
    fun n => ⟨rfl, rfl, TimeUnit.span_minute, TimeUnit.span_hour⟩,
    fun k digits rest d h => parse_zeros k h rest,
    fun s c hc hdigit hblank hletter d => parse_foreign hc hdigit hblank hletter, ?_, ?_⟩
  · intro before cs after hbefore hafter
    unfold parse
    rw [String.toList_ofList, String.toList_ofList, Text.trimList_surrounded hbefore hafter]
  · intro digits gap rest d hdigits hgap hrest
    refine parse_congr ?_
    rw [String.toList_ofList, String.toList_ofList,
      outline_append hdigits (noDigit_gap hgap hrest), outline_append hdigits hrest,
      Text.trimList_append_left hgap]

/-- Seven minutes, with wide blanks and zeros; a sign, and the digit three of another script. -/
theorem parse_exact_padded :
    parse "\u2003007\u00a0m\n" = .ok ⟨420000⟩ ∧ parse "7m" = .ok ⟨420000⟩ ∧
      (∀ d, parse "+5s" ≠ .ok d) ∧ ∀ d, parse "\u0663s" ≠ .ok d := by
  obtain ⟨hwritten, hspan, hzeros, hforeign, haround, hbetween⟩ := parse_exact
  have hseven : Numeral ['7'] := ⟨by simp, by simp⟩
  have hpadded : Numeral ['0', '0', '7'] := ⟨by simp, by simp⟩
  have hgap : Blank ['\u00a0'] := by simp [Blank, Text.isBlank]
  have hbefore : Blank ['\u2003'] := by simp [Blank, Text.isBlank]
  have hafter : Blank ['\n'] := by simp [Blank, Text.isBlank]
  -- The number fits, so minutes are minutes.
  have hminutes : parse "007\u00a0m" = .ok ⟨420000⟩ :=
    (hwritten "007\u00a0m" ⟨420000⟩).2
      ⟨7, .minute, ⟨_, _, "m", by decide, hpadded, hgap, by decide, rfl⟩, by decide,
        ((hspan 7).2.2.1 (by decide)).symm⟩
  have hunit : NoDigit ['m'] := by
    intro c hc
    cases hc
    rfl
  have hclose : parse "007m" = .ok ⟨420000⟩ :=
    (hbetween ['0', '0', '7'] ['\u00a0'] ['m'] _ hpadded hgap hunit).1 hminutes
  exact ⟨(haround ['\u2003'] ['0', '0', '7', '\u00a0', 'm'] ['\n'] hbefore hafter).trans hminutes,
    (hzeros 2 ['7'] ['m'] _ hseven).1 hclose,
    hforeign "+5s" '+' (by decide) (by decide) (by decide) (by decide),
    hforeign "\u0663s" '\u0663' (by decide) (by decide) (by decide) (by decide)⟩

end Warden.Duration
