import Warden.Proofs.Audit.File

namespace Warden.Audit

/-!
# Events that are reported one after another

A log into which nothing but whole lines were written tells of every event that was reported to it,
in order and word for word, and its chain is as intact as it was.

* `Holds dir t log` — the log in a directory: a file whose last line has ended, or no file yet.
* `Holds.report` — the log with one more event.
* `Written dir t rs t'` — a row of events was reported, and nothing else happened to the log.
* `entries_written` — what is read then, and where the chain is broken.
* `onlyLog`, `written_onlyLog` — a disk to which any row of events can be reported.
-/

variable {dir file log line : String} {t t' : Tree} {r : Report} {rs : List Report} {time : Stamps}
  {ls : List String}

/-! ### The log on a disk -/

/-- Whether there is no log in a directory, not even once the directory is made. -/
def Missing (dir : String) (t : Tree) : Prop :=
  t.kind? (path dir) = none ∧
    ∀ bytes, (t.run (Disk.createParent (path dir))).2.read (path dir) ≠ .ok bytes

/-- Whether the log in a directory is a text whose last line has ended; no file is an empty log. -/
def Holds (dir : String) (t : Tree) (log : String) : Prop :=
  t.read (path dir) = .ok log.toUTF8 ∧ Text.Ended log.toList ∨ Missing dir t ∧ log = ""

/-- A missing log is loaded as an empty one. -/
theorem load_missing (h : Missing dir t) : t.exec (load dir) = (.ok "", t) := by
  unfold load
  rw [Tree.exec_bind (Tree.exec_lift (t.run_exists (path dir))), h.1]
  rfl

/-- What is loaded. -/
theorem Holds.load (h : Holds dir t log) : t.exec (load dir) = (.ok log, t) := by
  rcases h with ⟨hread, -⟩ | ⟨hmissing, rfl⟩
  · exact load_text hread
  · exact load_missing hmissing

/-- Either way, the last line has ended. -/
theorem Holds.ended (h : Holds dir t log) : Text.Ended log.toList := by
  rcases h with ⟨-, hend⟩ | ⟨-, rfl⟩
  · exact hend
  · exact .inl rfl

/-- The first line that is added makes the file. -/
theorem read_addLines_new (h : Missing dir t)
    (hadd : t.exec (addLines (path dir) (line :: ls)) = (.ok (), t')) :
    t'.read (path dir) = .ok ((line :: ls).foldl addLine "").toUTF8 := by
  obtain ⟨_, t₁, hparent, hadd⟩ := Tree.exec_bind_ok hadd
  obtain ⟨_, t₂, happend, hadd⟩ := Tree.exec_bind_ok hadd
  have hnone : ∀ bytes, t₁.read (path dir) ≠ .ok bytes := by
    have hunread := h.2
    rw [Tree.exec_doing_ok hparent] at hunread
    exact hunread
  have hmodify : t₁.modify (path dir) (· ++ (line ++ "\n").toUTF8) = .ok t₂ :=
    Tree.run_changing.1 (Tree.exec_doing_ok happend)
  have hread := Tree.read_modify_new hmodify hnone
  have hfirst : ByteArray.empty ++ (line ++ "\n").toUTF8 = (addLine "" line).toUTF8 :=
    (toUTF8_addLine "" line).symm
  rw [hfirst] at hread
  rw [List.foldl_cons]
  exact read_addLines hread hadd

/-- An event leaves a log that has ended. -/
theorem ended_append (log : String) (r : Report) (time : Stamps) :
    Text.Ended (append log r time).toList := by
  rw [append_eq, newLines_eq, List.map_append, List.foldl_append]
  exact ended_addLine _ _

/-- After a report, the log is the one with one more event. -/
theorem Holds.report (h : Holds dir t log) (hreport : t.exec (report dir r time) = (.ok (), t')) :
    Holds dir t' (append log r time) := by
  refine .inl ⟨?_, ended_append log r time⟩
  rcases h with ⟨hread, -⟩ | ⟨hmissing, rfl⟩
  · exact read_report hread hreport
  · -- The file comes into being with the first line.
    unfold Audit.report at hreport
    rw [Tree.exec_bind (load_missing hmissing)] at hreport
    obtain ⟨first, rest, hnew⟩ : ∃ first rest, newLines "" r time = first :: rest := by
      refine List.exists_cons_of_ne_nil ?_
      rw [newLines_eq]
      simp
    rw [append_eq, hnew]
    rw [hnew] at hreport
    exact read_addLines_new hmissing hreport

/-! ### Recoveries -/

/-- Whether the last line of a log is an entry, if there is one. -/
def EndsInEntry (log : String) : Prop :=
  ∀ last, (entryLines log).getLast? = some last → (Entry.ofLine? last).isSome = true

/-- Behind an entry there is nothing to recover from. -/
theorem recoveryFor?_of_endsInEntry (h : EndsInEntry log) :
    recoveryFor? log time.recovery = none := by
  unfold recoveryFor?
  split
  · rfl
  next last hlast => rw [if_pos (h last hlast)]

/-- A recovery tells of nothing else. -/
theorem recoveryFor?_action {e : Entry} (h : recoveryFor? log time.recovery = some e) :
    e.action = .chainRecovery := by
  unfold recoveryFor? at h
  split at h
  · cases h
  · split at h
    · cases h
    · cases h
      rfl

/-- An event is the last thing that is written. -/
theorem endsInEntry_append (hend : Text.Ended log.toList) :
    EndsInEntry (append log r time) := by
  intro last hlast
  rw [append_eq, entryLines_addLines hend isLine_newLines, newLines_eq, List.map_append,
    List.map_singleton, ← List.append_assoc, List.getLast?_concat] at hlast
  obtain rfl := Option.some.inj hlast
  rw [Entry.ofLine?_line]
  rfl

/-! ### Rows of events -/

/-- The report that an entry tells of. -/
def Entry.report (e : Entry) : Report := ⟨⟨e.action, e.subject, e.detail⟩, e.source⟩

/-- Whether a row of events was reported to the log in a directory, each of them with success and at
some time.  In between, whatever leaves the log alone may happen to the disk. -/
inductive Written (dir : String) : Tree → List Report → Tree → Prop
  | nil {t : Tree} : Written dir t [] t
  | report {t t₁ t' : Tree} {r : Report} {rs : List Report} (time : Stamps) :
    t.exec (report dir r time) = (.ok (), t₁) → Written dir t₁ rs t' → Written dir t (r :: rs) t'
  | other {t t₁ t' : Tree} {rs : List Report} :
    (∀ log, Holds dir t log → Holds dir t₁ log) → Written dir t₁ rs t' → Written dir t rs t'

/-- **The log tells what was reported.** After a row of reports, all entries are read that were read
before, and then one for each event, in order and with what was said about it.  Where the last line
was no entry a recovery comes in between, and nothing else does.  The chain is broken where it was
before, and nowhere else. -/
theorem entries_written (h : Holds dir t log) (hw : Written dir t rs t') :
    ∃ log' es, Holds dir t' log' ∧ entries log' = entries log ++ es ∧ broken log' = broken log ∧
      (∀ p : Action → Bool, p .chainRecovery = false →
        (es.map Entry.report).filter (p ·.record.action) = rs.filter (p ·.record.action)) ∧
      (EndsInEntry log → es.map Entry.report = rs) := by
  -- On the row of events, from the first one on: each leaves a log to which the rest can be
  -- reported.
  induction hw generalizing log with
  | nil => exact ⟨log, [], h, (List.append_nil _).symm, rfl, fun _ _ => rfl, fun _ => rfl⟩
  | other halone _ ih => exact ih (halone log h)
  | @report _ _ _ r rs time hreport _ ih =>
    obtain ⟨log', es, hlog', hentries, hbroken, hfilter, hall⟩ := ih (h.report hreport)
    refine ⟨log', (recoveryFor? log time.recovery).toList ++
      r.entry time.event (newFingerprint log time.recovery) :: es, hlog', ?_, ?_, ?_, ?_⟩
    · rw [hentries, entries_append h.ended]
      simp
    · rw [hbroken, broken_append h.ended]
    · intro p hp
      -- Whoever does not ask for recoveries does not notice one.
      have hrecovery : ((recoveryFor? log time.recovery).toList.map Entry.report).filter
          (p ·.record.action) = [] := by
        refine List.filter_eq_nil_iff.2 fun x hx => ?_
        obtain ⟨e, he, rfl⟩ := List.mem_map.1 hx
        have haction : e.report.record.action = .chainRecovery :=
          recoveryFor?_action (Option.mem_toList.1 he)
        rw [haction, hp]
        exact Bool.false_ne_true
      rw [List.map_append, List.filter_append, hrecovery, List.nil_append, List.map_cons,
        List.filter_cons, List.filter_cons, hfilter p hp]
      rfl
    · intro hends
      rw [recoveryFor?_of_endsInEntry hends]
      show r :: es.map Entry.report = r :: rs
      rw [hall (endsInEntry_append h.ended)]

/-! ### A disk that takes all events -/

/-- A tree with nothing but a log in the directory `/state`. -/
def onlyLog (log : String) : Tree where
  nodes := [(["state".toList, fileName.toList], .file log.toUTF8),
    (["state".toList], .directory Tree.usualMode)]
  locked := []

/-- Lines can be added to such a log, whatever they are. -/
theorem addLines_onlyLog (log : String) (ls : List String) :
    (onlyLog log).exec (addLines (path "/state") ls) =
      (.ok (), onlyLog (ls.foldl addLine log)) := by
  induction ls generalizing log with
  | nil => rfl
  | cons line rest ih =>
    rw [List.foldl_cons, ← ih]
    unfold onlyLog
    rw [toUTF8_addLine]
    rfl

theorem report_onlyLog (log : String) (r : Report) (time : Stamps) :
    (onlyLog log).exec (report "/state" r time) = (.ok (), onlyLog (append log r time)) := by
  have hread : (onlyLog log).read (path "/state") = .ok log.toUTF8 := rfl
  unfold report
  rw [Tree.exec_bind (load_text hread), append_eq]
  exact addLines_onlyLog log _

/-- No report to such a log fails. -/
theorem written_onlyLog (log : String) (rs : List Report) :
    ∃ log', Written "/state" (onlyLog log) rs (onlyLog log') := by
  -- On the events, each at the same time, which does not matter.
  induction rs generalizing log with
  | nil => exact ⟨log, .nil⟩
  | cons r rest ih =>
    obtain ⟨log', hrest⟩ := ih (append log r "now")
    exact ⟨log', .report "now" (report_onlyLog log r "now") hrest⟩

/-- An empty file is a log without entries. -/
theorem holds_onlyLog_empty : Holds "/state" (onlyLog "") "" := .inl ⟨rfl, .inl rfl⟩

end Warden.Audit
