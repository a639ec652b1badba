import Warden.Engine.AppLock
import Warden.Engine.Content
import Warden.Engine.Pages

namespace Warden

/-!
# Reloading, status and shutdown

* `Engine.reload` — new settings for a running engine.
* `Status`, `Engine.status` — a summary.
* `Engine.shutdown` — the end; a second one does nothing.
-/

namespace Engine

/-! ### Reloading -/

/-- The values that take effect without anything else to be done. The sweep interval stays. -/
def retune (e : Engine) (s : Settings) : Engine :=
  let e := (e.setKeywords s.keywords).setProtected s.protectedApps
  { e with
    relockOnScreenOff := s.relockOnScreenOff
    clearRecents := s.clearRecents
    sessions := e.sessions.setTimeout s.sessionTimeout
    bypass := e.bypass.setDuration s.bypassDuration
    tamper := e.tamper.setPolicy (.ofList s.failClosed)
    keywords := e.keywords.setTiming s.countdown s.gracePeriod }

/-- Moves a switch if it stands otherwise. -/
def switch (now wanted : Bool) (move : Engine → Bool → Outcome Engine Unit) (e : Engine) :
    Outcome Engine Unit :=
  if wanted = now then .answering e () else move e wanted

/-- New settings. A countdown that is running keeps its length. A reload cannot fail here, because
every list of keywords has a matcher; one that is too long for its regular expression would be
refused before anything is changed. -/
def reload (e : Engine) (s : Settings) : Outcome Engine Unit :=
  let e := e.retune s
  -- The switches come last, when all other values are those of the new settings.
  (switch e.appLockEnabled s.appLockEnabled setAppLock e).bind fun _ e =>
  (switch e.bypass.enabled s.tamperEnabled setTamper e).bind fun _ e =>
  switch e.keywordEnabled s.keywordEnabled setKeyword e

end Engine

/-! ### Status -/

/-- A summary of the engine. -/
structure Status where
  appLockEnabled : Bool
  tamperEnabled : Bool
  keywordEnabled : Bool
  protectedApps : List String
  unlockSessions : Nat
  /-- In milliseconds. -/
  bypassRemaining : Nat
  triggered : List Category
  keywordChallenges : Nat
  deriving DecidableEq

/-- The JSON form of a summary, its members by name. -/
def Status.toJson (s : Status) : Json :=
  .record [
    ("app_lock_enabled", .bool s.appLockEnabled),
    ("bypass_remaining_ms", .natural s.bypassRemaining),
    ("keyword_challenges", .natural s.keywordChallenges),
    ("keyword_enabled", .bool s.keywordEnabled),
    ("protected_apps", .array (s.protectedApps.map Json.text)),
    ("tamper_enabled", .bool s.tamperEnabled),
    ("triggered_categories", .array (s.triggered.map Category.toJson)),
    ("unlock_sessions", .natural s.unlockSessions)]

namespace Engine

/-- The summary at this moment. -/
def status (e : Engine) (host : Host) : Outcome Engine Status :=
  (e.remainingBypass host).bind fun remaining e =>
    .answering e {
      appLockEnabled := e.appLockEnabled
      tamperEnabled := e.bypass.enabled
      keywordEnabled := e.keywordEnabled
      protectedApps := e.protectedApps.toList
      unlockSessions := e.sessions.table.size
      bypassRemaining := remaining
      triggered := Category.all.filter e.isTriggered
      keywordChallenges := e.keywords.challenges.size }

/-! ### Shutdown -/

/-- Ends all countdowns, sessions and attempts, and every later step with them. -/
def shutdown (e : Engine) : Outcome Engine Unit :=
  if e.stopped then .answering e ()
  else
    (e.keywords.cancelAll.within fun keywords =>
      { e with
        keywords
        sessions := e.sessions.clear.1
        tamper := e.tamper.reset
        stopped := true }).also [.timer .cancelAll]

end Engine

end Warden
