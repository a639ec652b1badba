import Mathlib.Data.List.Basic
import Warden.Proofs.Engine.Reload

namespace Warden.Engine

/-!
# Runs of the engine

A run of the engine is a row of calls, each made with its own view of the outside. What has happened
in a run is kept as its history: every call together with the engine that received it.

* `Call`, `Answer`, `step` — all calls to the engine under one roof.  Calls that only read a field
  change nothing and are left out.
* `run`, `history` — the engine after a row of inputs, and the moments it went through.
* `mem_history` — where the moments of a run come from.
* `concat_eq_split` — a moment of a longer history is the last one or one of those before.
* `step_of_lock`, `step_of_tamper`, `step_of_keyword` — what a call leaves alone.
* `foreground_of_consults`, `foreground_of_not_consults` — what becomes of an app that comes up.
* `sessions_step`, `stopped_step` — what a call makes of the sessions, and when the engine stops.
-/

/-! ### Calls -/

/-- A call to the engine. -/
inductive Call where
  | protect (app : String)
  | unprotect (app : String)
  | setProtected (apps : AppSet)
  | setAppLock (on : Bool)
  | foreground (app : String) (foregrounded : Bool)
  | touch (app : String)
  | grant (app : String)
  | isUnlocked (app : String)
  | revoke (app : String)
  | screenOff
  | sweep
  | complete
  | withinBypass
  | remainingBypass
  | clearBypass
  | gate
  | confirm (capability : Capability)
  | setTamper (on : Bool)
  | navigate (navigation : Navigation)
  | setKeyword (on : Bool)
  | setKeywords (keywords : List String)
  | content (app text : String)
  | deferChallenge (app : String)
  | timer (event : TimerEvent)
  | reload (settings : Settings)
  | status
  | shutdown
  deriving DecidableEq

/-- The answer to a call. -/
inductive Answer where
  | done
  | flag (b : Bool)
  | count (n : Nat)
  | lock (decision : LockDecision)
  | page (decision : Tamper.Decision)
  | content (violation : Option Keyword.Violation)
  | status (summary : Status)
  deriving DecidableEq

/-- A call and what the engine sees of the outside while it is made. -/
structure Input where
  host : Host
  call : Call

/-- A host that can tell nothing but the time. -/
def silentHost (now : Nat) : Host where
  clock := now
  capability _ := none
  screenText _ := none
  targeting _ := .unknown
  nextTimer := 1

/-- The time at which a call is made: that of its first reading of the clock. -/
def Input.now (i : Input) : Nat := i.host.now

/-- One call to the engine. -/
def step (e : Engine) (i : Input) : Outcome Engine Answer :=
  match i.call with
  | .protect app => .answering (e.protect app) .done
  | .unprotect app => .answering (e.unprotect app) .done
  | .setProtected apps => .answering (e.setProtected apps) .done
  | .setAppLock on => (e.setAppLock on).map fun _ => .done
  | .foreground app foregrounded => (e.foreground i.host app foregrounded).map .lock
  | .touch app => .answering (e.touch i.host app) .done
  | .grant app => (e.grant i.host app).map fun _ => .done
  | .isUnlocked app => (e.isUnlocked i.host app).map .flag
  | .revoke app => (e.revoke app).map .flag
  | .screenOff => .answering e.screenOff .done
  | .sweep => (e.sweep i.host).map .count
  | .complete => (e.complete i.host).map fun _ => .done
  | .withinBypass => (e.withinBypass i.host).map .flag
  | .remainingBypass => (e.remainingBypass i.host).map .count
  | .clearBypass => e.clearBypass.map fun _ => .done
  | .gate => (e.gate i.host).map .flag
  | .confirm capability => (e.confirm i.host capability).map .flag
  | .setTamper on => (e.setTamper on).map fun _ => .done
  | .navigate navigation => (e.navigate i.host navigation).map .page
  | .setKeyword on => (e.setKeyword on).map fun _ => .done
  | .setKeywords keywords => .answering (e.setKeywords keywords) .done
  | .content app text => (e.content i.host app text).map .content
  | .deferChallenge app => (e.deferChallenge i.host app).map .flag
  | .timer event => (e.timer i.host event).map fun _ => .done
  | .reload settings => (e.reload settings).map fun _ => .done
  | .status => (e.status i.host).map .status
  | .shutdown => e.shutdown.map fun _ => .done

/-! ### Runs -/

/-- The engine after a row of inputs. -/
def run (e : Engine) (inputs : List Input) : Engine := inputs.foldl (fun e i => (e.step i).state) e

/-- An input and the engine that received it. -/
structure Moment where
  engine : Engine
  input : Input

/-- The time of a moment. -/
def Moment.now (m : Moment) : Nat := m.input.now

/-- What the call of a moment left behind. -/
def Moment.outcome (m : Moment) : Outcome Engine Answer := m.engine.step m.input

/-- The moments of a run, the first one first. -/
def history (e : Engine) : List Input → List Moment
  | [] => []
  | i :: rest => ⟨e, i⟩ :: history (e.step i).state rest

@[simp] theorem run_nil (e : Engine) : e.run [] = e := rfl

/-- The last input meets what the others have made of the engine. -/
theorem run_concat (e : Engine) (inputs : List Input) (i : Input) :
    e.run (inputs ++ [i]) = ((e.run inputs).step i).state := by
  simp only [run, List.foldl_append, List.foldl_cons, List.foldl_nil]

theorem run_append (e : Engine) (inputs inputs' : List Input) :
    e.run (inputs ++ inputs') = (e.run inputs).run inputs' := List.foldl_append ..

/-- The last moment of a history is that of the last input. -/
theorem history_concat (e : Engine) (inputs : List Input) (i : Input) :
    e.history (inputs ++ [i]) = e.history inputs ++ [⟨e.run inputs, i⟩] := by
  induction inputs generalizing e with
  | nil => rfl
  | cons j rest ih =>
    rw [List.cons_append, history, ih, history, List.cons_append]
    rfl

/-- A moment of a run is an input and what those before it have made of the engine. -/
theorem mem_history {e : Engine} {inputs : List Input} {m : Moment} :
    m ∈ e.history inputs ↔
      ∃ before i after, inputs = before ++ i :: after ∧ m = ⟨e.run before, i⟩ := by
  induction inputs generalizing e with
  | nil =>
    refine iff_of_false List.not_mem_nil ?_
    rintro ⟨before, i, after, hsplit, -⟩
    cases before <;> cases hsplit
  | cons j rest ih =>
    rw [history, List.mem_cons, ih]
    constructor
    · rintro (rfl | ⟨before, i, after, rfl, rfl⟩)
      · exact ⟨[], j, rest, rfl, rfl⟩
      · exact ⟨j :: before, i, after, rfl, rfl⟩
    · rintro ⟨before, i, after, hsplit, rfl⟩
      -- The moment is the first one of the run, or one of the rest.
      cases before with
      | nil =>
        obtain ⟨rfl, -⟩ := List.cons.inj hsplit
        exact .inl rfl
      | cons k before =>
        obtain ⟨rfl, hrest⟩ := List.cons.inj hsplit
        exact .inr ⟨before, i, after, hrest, rfl⟩

/-- A place in a list that one more element was added to: the new element, or a place in the list
as it was. -/
theorem concat_eq_split {α : Type} {h before after : List α} {m x : α} :
    h ++ [m] = before ++ x :: after ↔
      (after = [] ∧ h = before ∧ m = x) ∨
        ∃ rest, after = rest ++ [m] ∧ h = before ++ x :: rest := by
  constructor
  · intro hsplit
    -- The new element is the last one, so it stands after the place unless it is the place itself.
    rcases after.eq_nil_or_concat' with rfl | ⟨rest, last, rfl⟩
    · obtain ⟨hh, hlast⟩ := List.append_inj' hsplit rfl
      exact .inl ⟨rfl, hh, List.cons.inj hlast |>.1⟩
    · rw [← List.cons_append, ← List.append_assoc] at hsplit
      obtain ⟨hh, hlast⟩ := List.append_inj' hsplit rfl
      cases hlast
      exact .inr ⟨rest, rfl, hh⟩
  · rintro (⟨rfl, rfl, rfl⟩ | ⟨rest, rfl, rfl⟩)
    · rfl
    · rw [List.append_assoc, List.cons_append]

/-! ### What a step may touch -/

/-- The part of the engine that a call is about. -/
inductive Part where
  | lock
  | tamper
  | keyword
  | whole
  deriving DecidableEq

/-- The part that a call is about. -/
def Call.part : Call → Part
  | .protect _ | .unprotect _ | .setProtected _ | .setAppLock _ | .foreground _ _ | .touch _
  | .grant _ | .isUnlocked _ | .revoke _ | .screenOff | .sweep => .lock
  | .complete | .withinBypass | .remainingBypass | .clearBypass | .gate | .confirm _ | .setTamper _
  | .navigate _ | .status => .tamper
  | .setKeyword _ | .setKeywords _ | .content _ _ | .deferChallenge _ | .timer _ => .keyword
  | .reload _ | .shutdown => .whole

/-- A call about app lock leaves the other parts alone. -/
theorem step_of_lock (e : Engine) {i : Input} (h : i.call.part = .lock) :
    ∃ sessions protectedApps appLockEnabled pendingLock,
      (e.step i).state = { e with sessions, protectedApps, appLockEnabled, pendingLock } := by
  obtain ⟨host, call⟩ := i
  -- The calls with a branch of their own come first; whatever the branch, no other field is set.
  cases call
  case unprotect app =>
    simp only [step, Outcome.answering, unprotect]
    split <;> exact ⟨_, _, _, _, rfl⟩
  case setAppLock on => exact ⟨_, _, _, _, e.setAppLock_state on⟩
  case foreground app foregrounded =>
    simp only [step, foreground, Outcome.answering, Outcome.map]
    split
    · exact ⟨_, _, _, _, rfl⟩
    · split
      · exact ⟨_, _, _, _, rfl⟩
      · split <;> exact ⟨_, _, _, _, rfl⟩
  case touch app =>
    simp only [step, Outcome.answering, touch]
    split <;> exact ⟨_, _, _, _, rfl⟩
  case grant app =>
    simp only [step, Outcome.answering, Outcome.map, grant]
    split
    · exact ⟨_, _, _, _, rfl⟩
    · split <;> exact ⟨_, _, _, _, rfl⟩
  case screenOff =>
    simp only [step, Outcome.answering, screenOff]
    split <;> exact ⟨_, _, _, _, rfl⟩
  all_goals first | exact ⟨_, _, _, _, rfl⟩ | cases h

/-- A call about the settings pages leaves the other parts alone. -/
theorem step_of_tamper (e : Engine) {i : Input} (h : i.call.part = .tamper) :
    ∃ bypass tamper, (e.step i).state = { e with bypass, tamper } := by
  obtain ⟨host, call⟩ := i
  cases call
  case setTamper on => exact ⟨_, _, e.setTamper_state on⟩
  case navigate n =>
    simp only [step, navigate, Outcome.map]
    split <;> exact ⟨_, _, rfl⟩
  all_goals first | exact ⟨_, _, rfl⟩ | cases h

/-- A call about restricted content leaves the other parts alone. -/
theorem step_of_keyword (e : Engine) {i : Input} (h : i.call.part = .keyword) :
    ∃ keywords matcher keywordEnabled,
      (e.step i).state = { e with keywords, matcher, keywordEnabled } := by
  obtain ⟨host, call⟩ := i
  cases call
  case setKeyword on => exact ⟨_, _, _, e.setKeyword_state on⟩
  case content app text =>
    simp only [step, content, Outcome.map]
    split
    · exact ⟨_, _, _, rfl⟩
    · split <;> exact ⟨_, _, _, rfl⟩
  case deferChallenge app =>
    simp only [step, deferChallenge, Outcome.map]
    split <;> exact ⟨_, _, _, rfl⟩
  case timer event =>
    cases event <;> simp only [step, timer, Outcome.map] <;> split <;> exact ⟨_, _, _, rfl⟩
  all_goals first | exact ⟨_, _, _, rfl⟩ | cases h

/-- What tamper protection knows stays as it is when the other two parts are called. -/
theorem tamper_of_part (e : Engine) {i : Input}
    (h : i.call.part = .lock ∨ i.call.part = .keyword) :
    (e.step i).state.bypass = e.bypass ∧ (e.step i).state.tamper = e.tamper := by
  rcases h with hlock | hkeyword
  · obtain ⟨sessions, apps, on, pending, hstep⟩ := e.step_of_lock hlock
    rw [hstep]
    exact ⟨rfl, rfl⟩
  · obtain ⟨keywords, matcher, on, hstep⟩ := e.step_of_keyword hkeyword
    rw [hstep]
    exact ⟨rfl, rfl⟩

/-- The guard stays as it is when the other two parts are called. -/
theorem keywords_of_part (e : Engine) {i : Input}
    (h : i.call.part = .lock ∨ i.call.part = .tamper) :
    (e.step i).state.keywords = e.keywords := by
  rcases h with hlock | htamper
  · obtain ⟨sessions, apps, on, pending, hstep⟩ := e.step_of_lock hlock
    rw [hstep]
  · obtain ⟨bypass, tamper, hstep⟩ := e.step_of_tamper htamper
    rw [hstep]

/-! ### Sessions -/

/-- Whether a call asks for the session of an app that comes to the foreground. -/
def consults (e : Engine) (app : String) (foregrounded : Bool) : Bool :=
  !e.stopped && e.appLockEnabled && foregrounded && e.isProtected app

/-- The sessions after a call. -/
def sessionsAfter (e : Engine) (i : Input) : Sessions :=
  match i.call with
  | .unprotect app => if e.isProtected app then (e.sessions.revoke app).1 else e.sessions
  | .setProtected apps => (e.sessions.retain apps.contains).1
  | .setAppLock on => if on then e.sessions else e.sessions.clear.1
  | .foreground app foregrounded =>
    if e.consults app foregrounded then (e.sessions.check app i.now).1 else e.sessions
  | .touch app => if e.stopped then e.sessions else e.sessions.touch app i.now
  | .grant app => if e.stopped then e.sessions else e.sessions.grant app i.now
  | .isUnlocked app => (e.sessions.check app i.now).1
  | .revoke app => (e.sessions.revoke app).1
  | .screenOff => if e.relockOnScreenOff then e.sessions.clear.1 else e.sessions
  | .sweep => (e.sessions.sweep i.now).1
  | .reload s =>
    let kept := (e.sessions.retain s.protectedApps.contains).1.setTimeout s.sessionTimeout
    if e.losesAppLock s then kept.clear.1 else kept
  | .shutdown => if e.stopped then e.sessions else e.sessions.clear.1
  | _ => e.sessions

/-- What a reload makes of the sessions: only the switch of app lock has a say. -/
theorem reload_sessions (e : Engine) (s : Settings) :
    (e.reload s).state.sessions =
      let kept := (e.sessions.retain s.protectedApps.contains).1.setTimeout s.sessionTimeout
      if e.losesAppLock s then kept.clear.1 else kept := by
  rw [reload_state]
  rfl

/-- A locked app that comes to the foreground is blocked unless its session is open. -/
theorem foreground_of_consults {e : Engine} {host : Host} {app : String} {foregrounded : Bool}
    (h : e.consults app foregrounded = true) :
    e.foreground host app foregrounded =
      let (sessions, unlocked) := e.sessions.check app host.now
      if unlocked then .answering { e with sessions } .allow
      else ⟨{ e with sessions, pendingLock := some app }, .block,
        [.surface (.show (.appLock app) lockMessage)]⟩ := by
  simp only [consults, Bool.and_eq_true, Bool.not_eq_true'] at h
  obtain ⟨⟨⟨hrunning, hon⟩, hforegrounded⟩, hprotected⟩ := h
  unfold foreground
  rw [hrunning, hon, hforegrounded, hprotected]
  rfl

/-- Nobody asks about the session of any other app. -/
theorem foreground_of_not_consults {e : Engine} {host : Host} {app : String} {foregrounded : Bool}
    (h : e.consults app foregrounded = false) :
    e.foreground host app foregrounded =
      .answering e (if e.stopped || !e.appLockEnabled || !foregrounded then .ignored
        else .notProtected) := by
  unfold foreground
  unfold consults at h
  split
  · rfl
  next hrunning =>
    have hprotected : e.isProtected app = false := by
      revert h hrunning
      cases e.stopped <;> cases e.appLockEnabled <;> cases foregrounded <;> simp
    rw [hprotected]
    rfl

/-- An app that comes to the foreground is asked about only if app lock has a say. -/
theorem foreground_sessions (e : Engine) (host : Host) (app : String) (foregrounded : Bool) :
    (e.foreground host app foregrounded).state.sessions =
      if e.consults app foregrounded then (e.sessions.check app host.now).1 else e.sessions := by
  cases h : e.consults app foregrounded with
  | true =>
    rw [foreground_of_consults h]
    dsimp only
    split <;> rfl
  | false =>
    rw [foreground_of_not_consults h]
    rfl

/-- The sessions after a call are those that `sessionsAfter` names. -/
theorem sessions_step (e : Engine) (i : Input) : (e.step i).state.sessions = e.sessionsAfter i := by
  cases hpart : i.call.part
  -- The sessions are none of the business of these two parts.
  case tamper =>
    obtain ⟨bypass, tamper, h⟩ := e.step_of_tamper hpart
    rw [h]
    obtain ⟨host, call⟩ := i
    cases call <;> first | rfl | cases hpart
  case keyword =>
    obtain ⟨keywords, matcher, on, h⟩ := e.step_of_keyword hpart
    rw [h]
    obtain ⟨host, call⟩ := i
    cases call <;> first | rfl | cases hpart
  case whole =>
    obtain ⟨host, call⟩ := i
    cases call
    case reload s => exact e.reload_sessions s
    case shutdown =>
      simp only [step, sessionsAfter, Outcome.answering, Outcome.map, shutdown]
      split <;> rfl
    all_goals cases hpart
  case lock =>
    obtain ⟨host, call⟩ := i
    cases call
    case unprotect app =>
      simp only [step, sessionsAfter, Outcome.answering, unprotect]
      split <;> rfl
    case setAppLock on => exact congrArg sessions (e.setAppLock_state on)
    case foreground app foregrounded => exact e.foreground_sessions host app foregrounded
    case touch app =>
      simp only [step, sessionsAfter, Outcome.answering, touch]
      split <;> rfl
    case grant app =>
      simp only [step, sessionsAfter, Outcome.answering, Outcome.map, grant]
      split
      · rfl
      · split <;> rfl
    case screenOff =>
      simp only [step, sessionsAfter, Outcome.answering, screenOff]
      split <;> rfl
    all_goals first | rfl | cases hpart

/-! ### The end -/

/-- New settings neither stop the engine nor start it again. -/
theorem reload_stopped (e : Engine) (s : Settings) : (e.reload s).state.stopped = e.stopped := by
  rw [reload_state]
  rfl

/-- A call about one part neither stops the engine nor starts it again. -/
theorem stopped_of_part (e : Engine) {i : Input} (h : i.call.part ≠ .whole) :
    (e.step i).state.stopped = e.stopped := by
  cases hpart : i.call.part
  case lock =>
    obtain ⟨sessions, apps, on, pending, hstep⟩ := e.step_of_lock hpart
    rw [hstep]
  case tamper =>
    obtain ⟨bypass, tamper, hstep⟩ := e.step_of_tamper hpart
    rw [hstep]
  case keyword =>
    obtain ⟨keywords, matcher, on, hstep⟩ := e.step_of_keyword hpart
    rw [hstep]
  case whole => exact absurd hpart h

/-- Only a shutdown stops the engine, and nothing starts it again. -/
theorem stopped_step (e : Engine) (i : Input) :
    (e.step i).state.stopped = true ↔ e.stopped = true ∨ i.call = .shutdown := by
  by_cases hpart : i.call.part = .whole
  · obtain ⟨host, call⟩ := i
    cases call
    case reload s =>
      show (e.reload s).state.stopped = true ↔ _
      rw [reload_stopped]
      simp
    case shutdown =>
      simp only [step, Outcome.answering, Outcome.map, shutdown]
      split
      next hstopped => simp [hstopped]
      · simp [Outcome.also, Outcome.within]
    all_goals cases hpart
  · rw [stopped_of_part e hpart, iff_self_or]
    intro hcall
    exact absurd (by rw [hcall]; rfl) hpart

end Warden.Engine
