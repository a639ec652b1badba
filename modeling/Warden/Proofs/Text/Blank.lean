import Mathlib.Data.List.DropRight
import Warden.Text.Blank

namespace Warden.Text

/-!
# Blanks around a text

Blanks at the two ends of a text do not count, however many there are.

* `Blank cs` — nothing but blanks.
* `trimList_surrounded` — blanks around a text make no difference to what is left of it.
* `Trimmed cs` — a text that starts and ends with something else; `trimmed_trimList`,
  `trimList_eq_self` — these are the texts of which everything is left.
-/

variable {cs ds before after : List Char}

/-- Whether a text is nothing but blanks. -/
def Blank (cs : List Char) : Prop := ∀ c ∈ cs, isBlank c = true

/-- Whether a text neither starts nor ends with a blank. -/
structure Trimmed (cs : List Char) : Prop where
  first c : cs.head? = some c → isBlank c = false
  last c : cs.getLast? = some c → isBlank c = false

/-! ### What is cut off -/

theorem blank_nil : Blank [] := fun _ hc => absurd hc List.not_mem_nil

theorem trimStart_append (h : Blank before) : trimStart (before ++ cs) = trimStart cs :=
  List.dropWhile_append_of_pos h

theorem trimStart_eq_nil (h : Blank cs) : trimStart cs = [] := List.dropWhile_eq_nil_iff.2 h

/-- Blanks behind a text are cut off with its own. -/
theorem trimEnd_append (h : Blank after) : trimEnd (cs ++ after) = trimEnd cs := by
  have hreverse : ∀ c ∈ after.reverse, isBlank c = true := fun c hc => h c (List.mem_reverse.1 hc)
  unfold trimEnd
  rw [List.reverse_append, List.dropWhile_append_of_pos hreverse]

/-- What is cut off at the start of a text is blank. -/
theorem exists_trimStart (cs : List Char) : ∃ before, Blank before ∧ cs = before ++ trimStart cs :=
  ⟨cs.takeWhile isBlank, fun _ hc => List.mem_takeWhile_imp hc,
    List.takeWhile_append_dropWhile.symm⟩

/-- What is cut off at the end of a text is blank. -/
theorem exists_trimEnd (cs : List Char) : ∃ after, Blank after ∧ cs = trimEnd cs ++ after := by
  -- The end is the start of the text read backwards.
  obtain ⟨before, hbefore, hsplit⟩ := exists_trimStart cs.reverse
  refine ⟨before.reverse, fun c hc => hbefore c (List.mem_reverse.1 hc), ?_⟩
  have hreverse := congrArg List.reverse hsplit
  rwa [List.reverse_reverse, List.reverse_append] at hreverse

/-- What is cut off around a text is blank. -/
theorem exists_trimList (cs : List Char) :
    ∃ before after, Blank before ∧ Blank after ∧ cs = before ++ (trimList cs ++ after) := by
  obtain ⟨before, hbefore, hstart⟩ := exists_trimStart cs
  obtain ⟨after, hafter, hend⟩ := exists_trimEnd (trimStart cs)
  exact ⟨before, after, hbefore, hafter, hstart.trans (congrArg _ hend)⟩

/-- Blanks around a text do not count. -/
theorem trimList_surrounded (hbefore : Blank before) (hafter : Blank after) (cs : List Char) :
    trimList (before ++ (cs ++ after)) = trimList cs := by
  unfold trimList
  rw [trimStart_append hbefore]
  cases hstart : trimStart cs with
  | nil =>
    -- Nothing is left of the text, so the blanks behind it are at the start.
    have hcs : Blank cs := List.dropWhile_eq_nil_iff.1 hstart
    rw [trimStart_append hcs, trimStart_eq_nil hafter]
  | cons c rest =>
    have hkeep : trimStart (cs ++ after) = trimStart cs ++ after := by
      have hne : (trimStart cs).isEmpty = false := by rw [hstart]; rfl
      unfold trimStart at hne ⊢
      rw [List.dropWhile_append, hne]
      rfl
    rw [hkeep, trimEnd_append hafter, hstart]

theorem trimList_append_right (hafter : Blank after) (cs : List Char) :
    trimList (cs ++ after) = trimList cs := trimList_surrounded blank_nil hafter cs

/-- Blanks before a text do not count. -/
theorem trimList_append_left (hbefore : Blank before) (cs : List Char) :
    trimList (before ++ cs) = trimList cs := by
  have h := trimList_surrounded hbefore blank_nil cs
  rwa [List.append_nil] at h

/-! ### What is left -/

/-- A text that starts with no blank loses nothing at its start. -/
theorem trimStart_eq_self (h : ∀ c, cs.head? = some c → isBlank c = false) : trimStart cs = cs := by
  cases cs with
  | nil => rfl
  | cons c rest => exact List.dropWhile_cons_of_neg (by simp [h c rfl])

/-- A text that ends with no blank loses nothing at its end. -/
theorem trimEnd_eq_self (h : ∀ c, cs.getLast? = some c → isBlank c = false) : trimEnd cs = cs := by
  refine List.rdropWhile_eq_self_iff.2 fun hne => ?_
  rw [h _ (List.getLast?_eq_some_getLast hne)]
  exact Bool.false_ne_true

/-- A trimmed text stays as it is. -/
theorem trimList_eq_self (h : Trimmed cs) : trimList cs = cs := by
  rw [trimList, trimStart_eq_self h.first, trimEnd_eq_self h.last]

/-- What is left after the end was cut does not end with a blank. -/
theorem last_trimEnd (cs : List Char) (c : Char) (h : (trimEnd cs).getLast? = some c) :
    isBlank c = false := by
  obtain ⟨hne, rfl⟩ := List.mem_getLast?_eq_getLast h
  exact Bool.eq_false_iff.2 (List.rdropWhile_last_not isBlank cs hne)

/-- What is left after the start was cut does not start with a blank. -/
theorem first_trimStart (cs : List Char) (c : Char) (h : (trimStart cs).head? = some c) :
    isBlank c = false := by
  have hnot := List.head?_dropWhile_not isBlank cs
  rw [show cs.dropWhile isBlank = trimStart cs from rfl, h] at hnot
  exact hnot

/-- What is left of a text neither starts nor ends with a blank. -/
theorem trimmed_trimList (cs : List Char) : Trimmed (trimList cs) where
  first c h := by
    -- Cutting the end leaves the first character, if there is one left.
    obtain ⟨after, -, hsplit⟩ := exists_trimEnd (trimStart cs)
    refine first_trimStart cs c ?_
    rw [hsplit, List.head?_append, show trimEnd (trimStart cs) = trimList cs from rfl, h]
    rfl
  last c h := last_trimEnd (trimStart cs) c h

/-- What stands before the last character that is no blank stays. -/
theorem trimEnd_append_left (h : ∀ c, cs.getLast? = some c → isBlank c = false) (ds : List Char) :
    trimEnd (cs ++ ds) = cs ++ trimEnd ds := by
  obtain ⟨after, hafter, hsplit⟩ := exists_trimEnd ds
  have hcut : trimEnd (cs ++ ds) = trimEnd (cs ++ trimEnd ds) := by
    conv_lhs => rw [hsplit, ← List.append_assoc]
    exact trimEnd_append hafter
  rw [hcut]
  refine trimEnd_eq_self fun c hc => ?_
  rw [List.getLast?_append] at hc
  cases hlast : (trimEnd ds).getLast? with
  | none =>
    rw [hlast] at hc
    exact h c hc
  | some b =>
    rw [hlast] at hc
    cases hc
    exact last_trimEnd ds c hlast

/-- Trimming twice is trimming once. -/
theorem trimList_trimList (cs : List Char) : trimList (trimList cs) = trimList cs :=
  trimList_eq_self (trimmed_trimList cs)

end Warden.Text
