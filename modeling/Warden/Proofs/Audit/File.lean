import Warden.Audit.File
import Warden.Proofs.Audit.Growth
import Warden.Proofs.Disk.Programs

namespace Warden.Audit

/-!
# The audit log on a disk

An event that is reported is added to the file and to nothing that was there, as long as the last
line of the file has ended. Behind a line that was torn off, the new line goes on with it.

* `load_text` — what is loaded.
* `read_report` — what the file holds after a report.
* `report_ended` — what is read then, and where the chain is broken.
* `report_unended` — what is read if the last line has not ended.
* `report_torn` — a torn line swallows what is written behind it.
-/

variable {dir file log : String} {t t' : Tree} {r : Report} {time : Stamps} {ls : List String}

/-! ### The file -/

/-- A log that is there is loaded as it is. -/
theorem load_text (h : t.read (path dir) = .ok log.toUTF8) :
    t.exec (load dir) = (.ok log, t) := by
  unfold load
  rw [Tree.exec_bind (Tree.exec_exists h), if_pos rfl, Tree.exec_doing (Tree.run_readText h)]

/-- The bytes of a log with one more line. -/
theorem toUTF8_addLine (log line : String) :
    (addLine log line).toUTF8 = log.toUTF8 ++ (line ++ "\n").toUTF8 := by
  rw [addLine, String.append_assoc]
  exact String.toByteArray_append

/-- Lines that could be added are in the file. -/
theorem read_addLines (hread : t.read file = .ok log.toUTF8)
    (h : t.exec (addLines file ls) = (.ok (), t')) :
    t'.read file = .ok (ls.foldl addLine log).toUTF8 := by
  -- On the lines, from the first one on, each of which is appended to a file that is there.
  induction ls generalizing t log with
  | nil =>
    cases h
    exact hread
  | cons line rest ih =>
    obtain ⟨_, t₁, hparent, h⟩ := Tree.exec_bind_ok h
    obtain ⟨_, t₂, happend, h⟩ := Tree.exec_bind_ok h
    -- The directory is there already, or it is made without harm to the file.
    have hread₁ : t₁.read file = .ok log.toUTF8 := by
      have hextends := t.extends_createParent file
      rw [Tree.exec_doing_ok hparent] at hextends
      exact hextends.read hread
    have hmodify : t₁.modify file (· ++ (line ++ "\n").toUTF8) = .ok t₂ :=
      Tree.run_changing.1 (Tree.exec_doing_ok happend)
    obtain ⟨old, hread₂, hold⟩ := Tree.read_modify hmodify
    rw [hold _ hread₁, ← toUTF8_addLine] at hread₂
    exact ih hread₂ h

/-- After a report, the file holds the log with one more event. -/
theorem read_report (hread : t.read (path dir) = .ok log.toUTF8)
    (h : t.exec (report dir r time) = (.ok (), t')) :
    t'.read (path dir) = .ok (append log r time).toUTF8 := by
  unfold report at h
  rw [Tree.exec_bind (load_text hread)] at h
  rw [append_eq]
  exact read_addLines hread h

/-! ### Reports -/

/-- **A report loses nothing.** If the last line of a log has ended, then after a report all entries
are read that were read before, then a recovery if the last line was no entry, then the event; and
the chain is broken exactly where it was, so the new entries are linked. -/
theorem report_ended (dir log : String) (r : Report) (time : Stamps) (t t' : Tree)
    (hread : t.read (path dir) = .ok log.toUTF8) (hend : Text.Ended log.toList)
    (h : t.exec (report dir r time) = (.ok (), t')) :
    ∃ log' previous, t'.exec (load dir) = (.ok log', t') ∧
      entries log' =
        entries log ++ (recoveryFor? log time.recovery).toList ++ [r.entry time.event previous] ∧
      broken log' = broken log :=
  ⟨append log r time, newFingerprint log time.recovery, load_text (read_report hread h),
    entries_append hend r time, broken_append hend r time⟩

/-- A tree with a log in the directory `/state`. -/
def treeWith (log : String) : Tree where
  nodes := [(["state".toList], .directory Tree.usualMode),
    (["state".toList, fileName.toList], .file log.toUTF8)]
  locked := []

/-- The report that a challenge was passed. -/
def granted : Report := ⟨⟨.bypassGranted, "", none⟩, "cli"⟩

/-- Behind a line that is no entry, a recovery is read and then the event. -/
theorem report_ended_garbage :
    let t := treeWith "garbage\n"
    t.read (path "/state") = .ok "garbage\n".toUTF8 ∧ Text.Ended "garbage\n".toList ∧
      ∃ t' log' previous, t.exec (report "/state" granted "now") = (.ok (), t') ∧
        t'.exec (load "/state") = (.ok log', t') ∧
        entries log' = entries "garbage\n" ++ (recoveryFor? "garbage\n" "now").toList ++
          [granted.entry "now" previous] ∧
        broken log' = broken "garbage\n" := by
  intro t
  have hread : t.read (path "/state") = .ok "garbage\n".toUTF8 := rfl
  have hend : Text.Ended "garbage\n".toList := .inr (by decide)
  have hok : (t.exec (report "/state" granted "now")).1 = .ok () := by decide +kernel
  have h := Tree.exec_eq hok
  obtain ⟨log', previous, hload, hentries, hbroken⟩ :=
    report_ended "/state" "garbage\n" granted "now" t _ hread hend h
  exact ⟨hread, hend, _, log', previous, h, hload, hentries, hbroken⟩

/-! ### Torn lines -/

/-- A report to a log whose last line has not ended goes on with that line: it is read together with
the first line that was written, the others are lines of their own. -/
theorem report_unended (hread : t.read (path dir) = .ok log.toUTF8)
    (hend : ¬ Text.Ended log.toList) (h : t.exec (report dir r time) = (.ok (), t')) :
    ∃ start last first rest log', entryLines log = start ++ [last] ∧
      newLines log r time = first :: rest ∧ t'.exec (load dir) = (.ok log', t') ∧
      entryLines log' = start ++ (last ++ first) :: rest := by
  obtain ⟨start, last, first, rest, hlines, hnew, happend⟩ := entryLines_append_torn hend r time
  exact ⟨start, last, first, rest, append log r time, hlines, hnew,
    load_text (read_report hread h), happend⟩

/-- A line of which only the beginning was written. -/
def torn : String := "\x7b\"ts\""

theorem readValue_torn (fuel : Nat) (rest : List Char) :
    Json.readValue (fuel + 3) (torn.toList ++ '\x7b' :: rest) = none := rfl

/-- Whatever entry is written behind it, a torn line is no entry. -/
theorem ofLine?_torn (e : Entry) : Entry.ofLine? (torn ++ e.line) = none := by
  obtain ⟨rest, hrest⟩ : ∃ rest, e.line.toList = '\x7b' :: rest :=
    ⟨_, by rw [Entry.line, Json.compact, String.toList_ofList]; rfl⟩
  have hread : Json.read (torn ++ e.line).toList = none := by
    rw [String.toList_append, hrest, Json.read]
    generalize hlength : (torn.toList ++ '\x7b' :: rest).length = n
    obtain ⟨fuel, hfuel⟩ : ∃ fuel, 2 * n + 2 = fuel + 3 := ⟨2 * n - 1, by simp at hlength; omega⟩
    rw [hfuel, readValue_torn]
  rw [Entry.ofLine?, Json.decode, hread]
  rfl

/-- The torn line and the recovery are one line, which is no entry. -/
theorem entries_torn {e : Entry} (he : recoveryFor? torn time.recovery = some e) (r : Report) :
    entries (append torn r time) = [r.entry time.event (newFingerprint torn time.recovery)] := by
  have hend : ¬ Text.Ended torn.toList := by
    rintro (h | h) <;> revert h <;> decide
  obtain ⟨start, last, first, rest, hlines, hnew, happend⟩ := entryLines_append_torn hend r time
  have htorn : [] ++ [torn] = start ++ [last] := hlines
  obtain ⟨rfl, hlast⟩ := List.append_inj' htorn rfl
  obtain rfl := List.singleton_inj.1 hlast
  rw [newLines_eq, he] at hnew
  obtain ⟨rfl, rfl⟩ := List.cons.inj hnew
  rw [entries, happend, List.nil_append, List.filterMap_cons_none (ofLine?_torn e)]
  exact filterMap_ofLine?_map [_]

/-- **A torn line swallows what is written behind it.** Nothing separates it from the recovery that
is to tell of it, so the recovery is no line of its own and is not read. -/
theorem report_torn :
    let t := treeWith torn
    t.read (path "/state") = .ok torn.toUTF8 ∧
      ∃ t', t.exec (report "/state" granted "now") = (.ok (), t') ∧
        ¬ ∃ log' previous, t'.exec (load "/state") = (.ok log', t') ∧
          entries log' = entries torn ++ (recoveryFor? torn "now").toList ++
            [granted.entry "now" previous] := by
  intro t
  have hread : t.read (path "/state") = .ok torn.toUTF8 := rfl
  have hok : (t.exec (report "/state" granted "now")).1 = .ok () := by decide +kernel
  have h := Tree.exec_eq hok
  have hrecovery : (recoveryFor? torn "now").isSome = true := by decide +kernel
  obtain ⟨e, he⟩ := Option.isSome_iff_exists.1 hrecovery
  refine ⟨hread, _, h, ?_⟩
  rintro ⟨log', previous, hload, hentries⟩
  have hlog : log' = append torn granted "now" := by
    rw [load_text (read_report hread h)] at hload
    exact (Except.ok.inj (Prod.mk.inj hload).1).symm
  -- Two entries would have to be read, but there is only the event.
  have hlength := congrArg List.length hentries
  rw [hlog, entries_torn he, he] at hlength
  simp at hlength

end Warden.Audit
