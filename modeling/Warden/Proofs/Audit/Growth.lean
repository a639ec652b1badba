import Warden.Audit.Log
import Warden.Proofs.Audit.Entry
import Warden.Proofs.Text.Lines

namespace Warden.Audit

/-!
# A log that gets longer

An event that is reported to a log whose last line has ended leaves what is there as it is, and the
chain is intact from there on.

* `entryLines_addLine` — a line more.
* `recoveryFor?`, `newLines_eq` — what is written when an event is reported.
* `brokenFrom_append`, `brokenFrom_newLines` — where a longer chain is broken.
* `entries_append`, `broken_append` — the log with one more event.
* `entryLines_append_torn` — what becomes of a last line that has not ended.
-/

variable {log line previous : String} {ls : List String} {r : Report} {time : Stamps}

/-! ### Lines -/

/-- A log with one more line. -/
def addLine (log line : String) : String := log ++ line ++ "\n"

/-- The characters of a log with one more line. -/
theorem toList_addLine (log line : String) :
    (addLine log line).toList = log.toList ++ (line.toList ++ ['\n']) := by
  simp [addLine]

/-- Behind a new line a log has ended. -/
theorem ended_addLine (log line : String) : Text.Ended (addLine log line).toList := by
  refine .inr ?_
  rw [toList_addLine, ← List.append_assoc, List.getLast?_concat]

/-- Whether a text is a line that counts. -/
structure IsLine (line : String) : Prop where
  unbroken : Text.Unbroken line.toList
  ne_nil : line.toList ≠ []

/-- Every entry is written as a line that counts. -/
theorem isLine_entry (e : Entry) : IsLine e.line := ⟨e.unbroken_line, e.line_ne_empty⟩

/-- Behind a line that has ended, a new line is a line of its own. -/
theorem entryLines_addLine (hend : Text.Ended log.toList) (hl : IsLine line) :
    entryLines (addLine log line) = entryLines log ++ [line] := by
  have hcounts : (!line.toList.isEmpty) = true := by
    rw [List.isEmpty_eq_false_iff.2 hl.ne_nil]
    rfl
  unfold entryLines
  rw [toList_addLine, Text.lines_append hend hl.unbroken, List.filter_append, List.map_append,
    List.filter_singleton, hcounts, cond_true, List.map_singleton, String.ofList_toList]

/-- A line that has not ended goes on with the new one. -/
theorem entryLines_addLine_torn (hend : ¬ Text.Ended log.toList) (hl : IsLine line) :
    ∃ start last, entryLines log = start ++ [last] ∧
      entryLines (addLine log line) = start ++ [last ++ line] := by
  obtain ⟨start, last, hne, hlines, hlonger⟩ :=
    Text.lines_append_torn hend hl.unbroken hl.ne_nil
  have hlast : (!last.isEmpty) = true := by simp [hne]
  have hboth : (!(last ++ line.toList).isEmpty) = true := by simp [hne]
  refine ⟨(start.filter fun l => !l.isEmpty).map String.ofList, .ofList last, ?_, ?_⟩
  · rw [entryLines, hlines, List.filter_append, List.filter_singleton, hlast, cond_true,
      List.map_append, List.map_singleton]
  · rw [entryLines, toList_addLine, hlonger, List.filter_append, List.filter_singleton, hboth,
      cond_true, List.map_append, List.map_singleton, String.ofList_append, String.ofList_toList]

/-- Behind a line that has ended, each of the new lines is one of its own. -/
theorem entryLines_addLines (hend : Text.Ended log.toList) (hl : ∀ l ∈ ls, IsLine l) :
    entryLines (ls.foldl addLine log) = entryLines log ++ ls := by
  -- On the new lines, from the first one on; each leaves a log that has ended.
  induction ls generalizing log with
  | nil => exact (List.append_nil _).symm
  | cons l rest ih =>
    rw [List.foldl_cons, ih (ended_addLine log l) fun m hm => hl m (List.mem_cons_of_mem l hm),
      entryLines_addLine hend (hl l List.mem_cons_self), List.append_assoc, List.singleton_append]

/-! ### What is written -/

/-- The fingerprint that the line behind some lines has to carry. -/
def fingerprintAfter (previous : String) (ls : List String) : String :=
  (ls.getLast?.map fingerprint).getD previous

/-- The entry that comes first when the last line of a log is no entry. -/
def recoveryFor? (log time : String) : Option Entry :=
  match (entryLines log).getLast? with
  | none => none
  | some last =>
    if (Entry.ofLine? last).isSome then none
    else some ((recovery last).entry time (fingerprint last))

/-- The fingerprint that a new event carries. -/
def newFingerprint (log time : String) : String :=
  match recoveryFor? log time with
  | none => fingerprintAfter genesis (entryLines log)
  | some e => fingerprint e.line

/-- What is written is a recovery, if there is one to be made, and the event. -/
theorem newLines_eq (log : String) (r : Report) (time : Stamps) :
    newLines log r time =
      ((recoveryFor? log time.recovery).toList ++
        [r.entry time.event (newFingerprint log time.recovery)]).map Entry.line := by
  unfold newLines newFingerprint recoveryFor? fingerprintAfter
  cases (entryLines log).getLast? with
  | none => rfl
  | some last =>
    dsimp only
    split <;> rfl

/-- Entries are read back from their lines. -/
theorem filterMap_ofLine?_map (es : List Entry) :
    (es.map Entry.line).filterMap Entry.ofLine? = es := by
  induction es with
  | nil => rfl
  | cons e rest ih => rw [List.map_cons, List.filterMap_cons, e.ofLine?_line, ih]

theorem append_eq (log : String) (r : Report) (time : Stamps) :
    append log r time = (newLines log r time).foldl addLine log := rfl

/-- Whatever is written for an event is made of lines that count. -/
theorem isLine_newLines : ∀ l ∈ newLines log r time, IsLine l := by
  intro l hl
  rw [newLines_eq] at hl
  obtain ⟨e, -, rfl⟩ := List.mem_map.1 hl
  exact isLine_entry e

/-- Behind a line that has ended, what is read grows by what was written. -/
theorem entries_append (hend : Text.Ended log.toList) (r : Report) (time : Stamps) :
    entries (append log r time) =
      entries log ++ (recoveryFor? log time.recovery).toList ++
        [r.entry time.event (newFingerprint log time.recovery)] := by
  unfold entries
  rw [append_eq, entryLines_addLines hend isLine_newLines, List.filterMap_append, newLines_eq,
    filterMap_ofLine?_map, List.append_assoc]

/-- Behind a line that has not ended, the first line that is written is no line of its own. -/
theorem entryLines_append_torn (hend : ¬ Text.Ended log.toList) (r : Report) (time : Stamps) :
    ∃ start last first rest, entryLines log = start ++ [last] ∧
      newLines log r time = first :: rest ∧
      entryLines (append log r time) = start ++ (last ++ first) :: rest := by
  have hlines : ∀ l ∈ newLines log r time, IsLine l := isLine_newLines
  obtain ⟨first, rest, hnew⟩ : ∃ first rest, newLines log r time = first :: rest := by
    refine List.exists_cons_of_ne_nil ?_
    rw [newLines_eq]
    simp
  rw [hnew] at hlines
  obtain ⟨start, last, hstart, hlonger⟩ := entryLines_addLine_torn hend (hlines first (by simp))
  refine ⟨start, last, first, rest, hstart, hnew, ?_⟩
  -- Only the first line is glued on: it ends, and the others follow it as lines of their own.
  rw [append_eq, hnew, List.foldl_cons,
    entryLines_addLines (ended_addLine log first) fun l hl => hlines l (List.mem_cons_of_mem _ hl),
    hlonger, List.append_assoc, List.singleton_append]

/-! ### The chain -/

/-- Only the last line tells the fingerprint. -/
theorem fingerprintAfter_cons (previous line : String) (rest : List String) :
    fingerprintAfter previous (line :: rest) = fingerprintAfter (fingerprint line) rest := by
  unfold fingerprintAfter
  rw [List.getLast?_cons]
  cases rest.getLast? <;> rfl

/-- A chain is broken where its first part is, and where its second part is behind that. -/
theorem brokenFrom_append (i : Nat) (previous : String) (ls ms : List String) :
    brokenFrom i previous (ls ++ ms) =
      brokenFrom i previous ls ++
        brokenFrom (i + ls.length) (fingerprintAfter previous ls) ms := by
  -- On the first part, from its first line on.
  induction ls generalizing i previous with
  | nil => rfl
  | cons l rest ih =>
    rw [List.cons_append, brokenFrom, brokenFrom, ih, fingerprintAfter_cons, List.append_assoc,
      List.length_cons, Nat.add_assoc, Nat.add_comm 1]

/-- The line of an entry carries the fingerprint that the entry names. -/
theorem isLinked_line (e : Entry) : isLinked e.previous e.line = true := by
  rw [isLinked, e.ofLine?_line]
  exact beq_self_eq_true e.previous

/-- What is written is linked to the last line and in itself. -/
theorem brokenFrom_newLines (i : Nat) (log : String) (r : Report) (time : Stamps) :
    brokenFrom i (fingerprintAfter genesis (entryLines log)) (newLines log r time) = [] := by
  have hevent (previous : String) : isLinked previous (r.entry time.event previous).line = true :=
    isLinked_line (r.entry time.event previous)
  rw [newLines_eq, newFingerprint]
  cases hrec : recoveryFor? log time.recovery with
  | none => simp [brokenFrom, hevent]
  | some e =>
    have hprevious : e.previous = fingerprintAfter genesis (entryLines log) := by
      unfold recoveryFor? at hrec
      unfold fingerprintAfter
      split at hrec
      · cases hrec
      next last hlast =>
        split at hrec
        · cases hrec
        · cases hrec
          rw [hlast]
          rfl
    -- The recovery is linked to the old lines, and the event to the recovery.
    simp [brokenFrom, hevent, ← hprevious, isLinked_line]

/-- Behind a line that has ended, the chain is broken where it was before, and nowhere else. -/
theorem broken_append (hend : Text.Ended log.toList) (r : Report) (time : Stamps) :
    broken (append log r time) = broken log := by
  unfold broken
  rw [append_eq, entryLines_addLines hend isLine_newLines, brokenFrom_append, brokenFrom_newLines,
    List.append_nil]

end Warden.Audit
