import Warden.Proofs.Engine.Run

namespace Warden.Engine

/-!
# What app lock goes by

Which apps are locked at all is settled by a few values that calls set and nothing else moves: not
the clock, not the sessions, not what is on the screen.

* `Rules`, `Engine.rules` — these values.
* `Rules.after`, `rules_step` — what a call makes of them.
* `Rules.Enforces` — whether an app is locked until its PIN is entered.
-/

/-- The values that app lock goes by. -/
structure Rules where
  protectedApps : AppSet
  appLockEnabled : Bool
  relockOnScreenOff : Bool
  stopped : Bool

/-- The values that app lock goes by in an engine. -/
def rules (e : Engine) : Rules :=
  ⟨e.protectedApps, e.appLockEnabled, e.relockOnScreenOff, e.stopped⟩

namespace Rules

/-- The values after a call. -/
def after (r : Rules) : Call → Rules
  | .protect app => { r with protectedApps := r.protectedApps.insert app }
  | .unprotect app =>
    if r.protectedApps.contains app then { r with protectedApps := r.protectedApps.erase app }
    else r
  | .setProtected apps => { r with protectedApps := apps }
  | .setAppLock on => { r with appLockEnabled := on }
  | .reload s =>
    { r with
      protectedApps := s.protectedApps
      appLockEnabled := s.appLockEnabled
      relockOnScreenOff := s.relockOnScreenOff }
  | .shutdown => { r with stopped := true }
  | _ => r

/-- Whether an app is locked until its PIN is entered. -/
def Enforces (r : Rules) (app : String) : Prop :=
  r.protectedApps.contains app = true ∧ r.appLockEnabled = true ∧ r.stopped = false

instance (r : Rules) (app : String) : Decidable (r.Enforces app) :=
  inferInstanceAs (Decidable (_ ∧ _))

/-- Whether app lock is on after a call. -/
theorem appLockEnabled_after (r : Rules) (call : Call) :
    (r.after call).appLockEnabled =
      match call with
      | .setAppLock on => on
      | .reload s => s.appLockEnabled
      | _ => r.appLockEnabled := by
  cases call
  case unprotect app =>
    rw [after]
    split <;> rfl
  all_goals rfl

end Rules

/-- A reload brings the values of its settings, whatever its switches end. -/
theorem reload_rules (e : Engine) (s : Settings) :
    (e.reload s).state.rules = e.rules.after (.reload s) := by
  rw [reload_state]
  rfl

/-- A call moves the values that app lock goes by as `Rules.after` says, whatever else there is. -/
theorem rules_step (e : Engine) (i : Input) : (e.step i).state.rules = e.rules.after i.call := by
  cases hpart : i.call.part
  -- These two parts do not touch what app lock goes by.
  case tamper =>
    obtain ⟨bypass, tamper, h⟩ := e.step_of_tamper hpart
    rw [h]
    obtain ⟨host, call⟩ := i
    cases call <;> first | rfl | cases hpart
  case keyword =>
    obtain ⟨keywords, matcher, on, h⟩ := e.step_of_keyword hpart
    rw [h]
    obtain ⟨host, call⟩ := i
    cases call <;> first | rfl | cases hpart
  case whole =>
    obtain ⟨host, call⟩ := i
    cases call
    case reload s => exact e.reload_rules s
    case shutdown =>
      show e.shutdown.state.rules = { e.rules with stopped := true }
      unfold shutdown
      split
      next hstopped => rw [← hstopped]; rfl
      · rfl
    all_goals cases hpart
  -- App lock's own calls set at most one value, whatever branch they take.
  case lock =>
    obtain ⟨host, call⟩ := i
    cases call
    case unprotect app =>
      show (e.unprotect app).rules =
        if e.isProtected app then { e.rules with protectedApps := e.protectedApps.erase app }
        else e.rules
      unfold unprotect
      split <;> rfl
    case setAppLock on => exact congrArg rules (e.setAppLock_state on)
    case foreground app foregrounded =>
      show (e.foreground host app foregrounded).state.rules = e.rules
      cases h : e.consults app foregrounded with
      | true =>
        rw [foreground_of_consults h]
        dsimp only
        split <;> rfl
      | false =>
        rw [foreground_of_not_consults h]
        rfl
    case touch app =>
      show (e.touch host app).rules = e.rules
      unfold touch
      split <;> rfl
    case grant app =>
      show (e.grant host app).state.rules = e.rules
      unfold grant
      split
      · rfl
      · dsimp only
        split <;> rfl
    case screenOff =>
      show e.screenOff.rules = e.rules
      unfold screenOff
      split <;> rfl
    all_goals first | rfl | cases hpart

end Warden.Engine
