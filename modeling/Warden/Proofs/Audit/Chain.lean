import Mathlib.Data.List.Induction
import Warden.Proofs.Audit.Growth

namespace Warden.Audit

/-!
# The hash chain

The last line of an intact log stands for all lines before it: whoever changes one of them has to
change all that follow.

* `Distinct lines` — no two of these lines have the same fingerprint, and none that of the genesis.
* `fingerprintAfter_concat`, `linked_unique` — a line carries the fingerprint of the line before.
* `eq_of_last` — two intact chains with the same last line are the same.
* `broken_iff_changed` — so every change that keeps the last line is reported.
-/

variable {a b line previous previous' log log' : String} {ls ms : List String}

/-! ### Links -/

/-- Whether no two of some lines have the same fingerprint, and none that of the genesis. -/
structure Distinct (lines : List String) : Prop where
  injective : ∀ a ∈ lines, ∀ b ∈ lines, fingerprint a = fingerprint b → a = b
  genesis : ∀ a ∈ lines, fingerprint a ≠ genesis

theorem Distinct.mono (h : Distinct ls) (hms : ∀ a ∈ ms, a ∈ ls) : Distinct ms :=
  ⟨fun a ha b hb => h.injective a (hms a ha) b (hms b hb), fun a ha => h.genesis a (hms a ha)⟩

/-- The line behind some lines carries the fingerprint of the last one. -/
theorem fingerprintAfter_concat (previous : String) (ls : List String) (line : String) :
    fingerprintAfter previous (ls ++ [line]) = fingerprint line := by
  rw [fingerprintAfter, List.getLast?_concat]
  rfl

/-- A line carries one fingerprint only. -/
theorem linked_unique (h : isLinked previous line = true) (h' : isLinked previous' line = true) :
    previous = previous' := by
  unfold isLinked at h h'
  split at h
  next e he =>
    rw [he] at h'
    exact (eq_of_beq h).symm.trans (eq_of_beq h')
  next => cases h

/-- A chain is intact if it is so up to its last line, and that line is linked. -/
theorem brokenFrom_concat {i : Nat} :
    brokenFrom i previous (ls ++ [line]) = [] ↔
      brokenFrom i previous ls = [] ∧ isLinked (fingerprintAfter previous ls) line = true := by
  rw [brokenFrom_append, List.append_eq_nil_iff]
  refine and_congr_right fun _ => ?_
  cases h : isLinked (fingerprintAfter previous ls) line <;> simp [brokenFrom, h]

/-! ### The same last line -/

/-- Two intact chains with the same last line are the same: the fingerprint in it tells the line
before, and so on. -/
theorem eq_of_last (hd : Distinct (ls ++ ms)) (h : brokenFrom 0 genesis (ls ++ [line]) = [])
    (h' : brokenFrom 0 genesis (ms ++ [line]) = []) : ls = ms := by
  -- From the end: the last line tells the one before it, which takes its part in the rest.
  induction ls using List.reverseRecOn generalizing ms line with
  | nil =>
    cases ms using List.reverseRecOn with
    | nil => rfl
    | append_singleton ms b =>
      -- The first line would be the one behind `b`.
      have hlink := linked_unique (brokenFrom_concat.1 h).2 (brokenFrom_concat.1 h').2
      rw [fingerprintAfter_concat] at hlink
      exact absurd hlink.symm (hd.genesis b (by simp))
  | append_singleton ls a ih =>
    obtain ⟨hls, hlink⟩ := brokenFrom_concat.1 h
    obtain ⟨hms, hlink'⟩ := brokenFrom_concat.1 h'
    have hsame := linked_unique hlink hlink'
    rw [fingerprintAfter_concat] at hsame
    cases ms using List.reverseRecOn with
    -- Nor can the second log be the one without a line before.
    | nil => exact absurd hsame (hd.genesis a (by simp))
    | append_singleton ms b =>
      rw [fingerprintAfter_concat] at hsame
      obtain rfl : a = b := hd.injective a (by simp) b (by simp) hsame
      have hrest : Distinct (ls ++ ms) := hd.mono fun c hc => by
        rcases List.mem_append.1 hc with hc | hc <;> simp [hc]
      rw [ih hrest hls hms]

/-- **The chain gives every change away.** Let no two different lines of two logs have the same
fingerprint, and none that of the genesis. If one of the logs is intact and the other one has the
same last line, then the other one is intact only if it has exactly the same lines. -/
theorem broken_iff_changed (log log' : String) (hne : entryLines log ≠ [])
    (hd : Distinct (entryLines log ++ entryLines log')) (hintact : broken log = [])
    (hlast : (entryLines log').getLast? = (entryLines log).getLast?) :
    broken log' = [] ↔ entryLines log' = entryLines log := by
  unfold broken at hintact ⊢
  refine ⟨fun hintact' => ?_, fun hsame => by rw [hsame, hintact]⟩
  generalize entryLines log = lines, entryLines log' = lines' at *
  -- Both logs end in the same line, and what stands before it is the same as well.
  obtain ⟨ls, line, rfl⟩ := (List.eq_nil_or_concat' lines).resolve_left hne
  rw [List.getLast?_concat] at hlast
  obtain ⟨ms, rfl⟩ := List.getLast?_eq_some_iff.1 hlast
  have hrest : Distinct (ls ++ ms) := hd.mono fun c hc => by
    rcases List.mem_append.1 hc with hc | hc <;> simp [hc]
  rw [eq_of_last hrest hintact hintact']

/-- The entry of a log that has just been opened. -/
def opening : Entry := ⟨"now", .bypassGranted, "", genesis, "cli", none⟩

/-- The entry behind it. -/
def closing : Entry := ⟨"later", .bypassCleared, "", fingerprint opening.line, "cli", none⟩

/-- An entry that claims the same place. -/
def intruder : Entry := ⟨"soon", .graceGranted, "app", fingerprint opening.line, "engine", none⟩

theorem fingerprint_opening : fingerprint opening.line =
    "3d12496c7ce2224554f52fee9a27924cda832a9cdf87f476ede023a67db22459" := by
  decide +kernel

theorem fingerprint_closing : fingerprint closing.line =
    "529264b2e53d2b10b108f9d399a5d3acb6cfdec3e63e4142fe88ae3afcf754a6" := by
  rw [closing, fingerprint_opening]
  decide +kernel

theorem fingerprint_intruder : fingerprint intruder.line =
    "5a43dcc2e0e5ab2ceae6fe39c8ad095e65ba8d76003705510ae68b375b85f9f2" := by
  rw [intruder, fingerprint_opening]
  decide +kernel

/-- An entry that is put in between two others is reported, although it is linked to the first one,
and both are as they were: the second one does not carry its fingerprint. -/
theorem broken_iff_changed_insertion :
    let log := addLine (addLine "" opening.line) closing.line
    let log' := addLine (addLine (addLine "" opening.line) intruder.line) closing.line
    entryLines log ≠ [] ∧ Distinct (entryLines log ++ entryLines log') ∧ broken log = [] ∧
      (entryLines log').getLast? = (entryLines log).getLast? ∧ broken log' ≠ [] := by
  intro log log'
  have hfirst : entryLines (addLine "" opening.line) = [opening.line] :=
    entryLines_addLine (.inl rfl) (isLine_entry opening)
  have hlines : entryLines log = [opening.line, closing.line] := by
    rw [entryLines_addLine (ended_addLine _ _) (isLine_entry closing), hfirst]
    rfl
  have hlines' : entryLines log' = [opening.line, intruder.line, closing.line] := by
    rw [entryLines_addLine (ended_addLine _ _) (isLine_entry closing),
      entryLines_addLine (ended_addLine _ _) (isLine_entry intruder), hfirst]
    rfl
  have hd : Distinct (entryLines log ++ entryLines log') := by
    have hopening : fingerprint opening.line ≠ genesis := by
      rw [fingerprint_opening]
      decide +kernel
    have hclosing : fingerprint closing.line ≠ genesis := by
      rw [fingerprint_closing]
      decide +kernel
    have hintruder : fingerprint intruder.line ≠ genesis := by
      rw [fingerprint_intruder]
      decide +kernel
    rw [hlines, hlines']
    refine ⟨?_, ?_⟩
    · simp [fingerprint_opening, fingerprint_closing, fingerprint_intruder]
    · simp [hopening, hclosing, hintruder]
  have hintact : broken log = [] := by
    have hopening : isLinked genesis opening.line = true := isLinked_line opening
    have hclosing : isLinked (fingerprint opening.line) closing.line = true := isLinked_line closing
    simp [broken, hlines, brokenFrom, hopening, hclosing]
  have hne : entryLines log ≠ [] := by simp [hlines]
  have hlast : (entryLines log').getLast? = (entryLines log).getLast? := by simp [hlines, hlines']
  refine ⟨hne, hd, hintact, hlast, fun hintact' => ?_⟩
  have hsame := (broken_iff_changed log log' hne hd hintact hlast).1 hintact'
  simp [hlines, hlines'] at hsame

end Warden.Audit
