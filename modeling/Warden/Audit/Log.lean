import Warden.Audit.Entry
import Warden.Digest.Sha256
import Warden.Text.Lines

namespace Warden.Audit

/-!
# The audit log

A text with one entry to a line. Each entry carries the fingerprint of the line before, so that a
line that was changed, removed or put in breaks the chain.

* `entryLines`, `entries` — what the log holds; lines that are no entries are passed over.
* `broken` — where the chain is broken.
* `append` — the log with one more event. If the last line is no entry, an entry that says so comes
  first, and a new chain starts there.
-/

/-! ### Reading -/

/-- The fingerprint that stands before the first line. -/
def genesis : String := String.ofList (List.replicate 64 '0')

/-- The fingerprint of a line. -/
def fingerprint (line : String) : String := Digest.sha256Text line

/-- The lines of a log that are not empty. -/
def entryLines (log : String) : List String :=
  ((Text.lines log.toList).filter fun l => !l.isEmpty).map String.ofList

/-- The entries of a log. -/
def entries (log : String) : List Entry := (entryLines log).filterMap Entry.ofLine?

/-- Whether a line is an entry that carries a given fingerprint. -/
def isLinked (previous line : String) : Bool :=
  match Entry.ofLine? line with
  | some e => e.previous == previous
  | none => false

/-- The positions of the lines that do not carry the fingerprint of the line before, counted from
`i`; `previous` stands before the first of them. -/
def brokenFrom (i : Nat) (previous : String) : List String → List Nat
  | [] => []
  | line :: rest =>
    (if isLinked previous line then [] else [i]) ++ brokenFrom (i + 1) (fingerprint line) rest

/-- The positions at which the chain of a log is broken. -/
def broken (log : String) : List Nat := brokenFrom 0 genesis (entryLines log)

/-! ### Writing -/

/-- An event on its way into the log: what happened, and who reports it. -/
structure Report where
  record : Record
  source : String
  deriving DecidableEq

/-- The time in words for each entry that a report may write: the clock is read for the recovery,
and once more for the event. -/
structure Stamps where
  recovery : String
  event : String
  deriving DecidableEq

/-- A clock that stands still gives both entries the same time. -/
instance : Coe String Stamps := ⟨fun time => ⟨time, time⟩⟩

/-- The entry of a report at a time, behind a line with a given fingerprint. -/
def Report.entry (r : Report) (time previous : String) : Entry :=
  ⟨time, r.record.action, r.record.subject, previous, r.source, r.record.detail⟩

/-- The report that a line is no entry. -/
def recovery (line : String) : Report where
  record := ⟨.chainRecovery, "", some ("Previous entry corrupted (" ++ toString line.utf8ByteSize ++
    " bytes), new chain segment")⟩
  source := "audit_system"

/-- The lines by which a log gets longer when an event is reported. -/
def newLines (log : String) (r : Report) (time : Stamps) : List String :=
  match (entryLines log).getLast? with
  | none => [(r.entry time.event genesis).line]
  | some last =>
    if (Entry.ofLine? last).isSome then [(r.entry time.event (fingerprint last)).line]
    else
      -- The new entry is linked to the recovery, and the recovery to the line that is no entry.
      let first := ((recovery last).entry time.recovery (fingerprint last)).line
      [first, (r.entry time.event (fingerprint first)).line]

/-- The log with one more event. -/
def append (log : String) (r : Report) (time : Stamps) : String :=
  (newLines log r time).foldl (fun text line => text ++ line ++ "\n") log

end Warden.Audit
