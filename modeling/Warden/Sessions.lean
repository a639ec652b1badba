import Warden.AppTable
import Warden.Duration

namespace Warden

/-!
# Unlock sessions

An app that was unlocked stays so as long as it keeps coming back to the foreground. Once the full
timeout has passed since the last time it was seen there, its session is over, whether or not
anybody has removed the entry.

* `Session`, `Sessions` — one session, and the sessions of all apps under one timeout.
* `Sessions.grant`, `Sessions.check`, `Sessions.touch` — unlocking, asking and keeping alive.
* `Sessions.revoke`, `Sessions.clear`, `Sessions.sweep`, `Sessions.retain` — the ways to end one.
-/

/-- The session of an unlocked app. -/
structure Session where
  unlockedAt : Nat
  lastForegroundAt : Nat
  deriving DecidableEq

/-- Whether a session is over. A clock that went back counts as no time at all. -/
def Session.isExpired (s : Session) (timeout now : Nat) : Bool := timeout ≤ now - s.lastForegroundAt

/-- The sessions of all apps. -/
structure Sessions where
  /-- In milliseconds. -/
  timeout : Nat
  table : AppTable Session

namespace Sessions

/-- No sessions yet. -/
def start (timeout : Duration) : Sessions := ⟨timeout.word, .empty⟩

/-- A new timeout, which counts for open sessions too. -/
def setTimeout (s : Sessions) (timeout : Duration) : Sessions := { s with timeout := timeout.word }

/-- Unlocks an app. -/
def grant (s : Sessions) (app : String) (now : Nat) : Sessions :=
  { s with table := s.table.insert app ⟨now, now⟩ }

/-- Whether an app is unlocked. Being asked keeps an open session alive and removes one that is
over. -/
def check (s : Sessions) (app : String) (now : Nat) : Sessions × Bool :=
  match s.table.get? app with
  | none => (s, false)
  | some session =>
    if session.isExpired s.timeout now then ({ s with table := s.table.erase app }, false)
    else
      -- The time of unlocking stays: only being seen is new.
      ({ s with table := s.table.insert app { session with lastForegroundAt := now } }, true)

/-- Keeps the session of an app alive that is seen in the foreground. -/
def touch (s : Sessions) (app : String) (now : Nat) : Sessions := (s.check app now).1

/-- Ends the session of an app, and whether there was an entry. -/
def revoke (s : Sessions) (app : String) : Sessions × Bool :=
  ({ s with table := s.table.erase app }, s.table.contains app)

/-- Ends all sessions, and how many entries there were. -/
def clear (s : Sessions) : Sessions × Nat := ({ s with table := .empty }, s.table.size)

/-- Keeps the entries that pass a test, and how many did not. -/
def keep (s : Sessions) (p : String → Session → Bool) : Sessions × Nat :=
  let kept := s.table.filter p
  ({ s with table := kept }, s.table.size - kept.size)

/-- Removes the sessions that are over, and how many there were. -/
def sweep (s : Sessions) (now : Nat) : Sessions × Nat :=
  s.keep fun _ session => !session.isExpired s.timeout now

/-- Keeps the sessions of some apps, and how many others there were. -/
def retain (s : Sessions) (apps : String → Bool) : Sessions × Nat := s.keep fun app _ => apps app

end Sessions

end Warden
