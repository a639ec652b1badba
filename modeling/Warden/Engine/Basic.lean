import Warden.Keyword.Guard
import Warden.Keyword.Matcher
import Warden.Sessions
import Warden.Settings
import Warden.Tamper

namespace Warden

/-!
# The protection engine

The engine holds everything that the protection knows: the unlock sessions, the bypass window, the
tamper attempts and the countdowns. Each call to it is one step.

* `Engine` — its state.
* `Engine.start` — the engine over settings and over what was stored before.
-/

/-- The state of the protection. -/
structure Engine where
  sessions : Sessions
  bypass : Bypass
  tamper : Tamper
  keywords : Keyword.Guard
  matcher : Keyword.Matcher
  protectedApps : AppSet
  appLockEnabled : Bool
  keywordEnabled : Bool
  relockOnScreenOff : Bool
  clearRecents : Bool
  sweepInterval : Duration
  /-- The app whose prompt was shown last and not answered yet. -/
  pendingLock : Option String
  stopped : Bool

namespace Engine

/-- A new engine. -/
def start (s : Settings) (stored : Persisted) : Engine where
  sessions := .start s.sessionTimeout
  bypass := .start stored s.bypassDuration s.tamperEnabled
  tamper := .start (.ofList s.failClosed)
  keywords := .start s.countdown s.gracePeriod
  matcher := .ofList s.keywords
  protectedApps := s.protectedApps
  appLockEnabled := s.appLockEnabled
  keywordEnabled := s.keywordEnabled
  relockOnScreenOff := s.relockOnScreenOff
  clearRecents := s.clearRecents
  sweepInterval := s.sweepInterval
  pendingLock := none
  stopped := false

end Engine

end Warden
