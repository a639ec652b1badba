import Warden.Proofs.Engine.Rules
import Warden.Proofs.Engine.Unlocked
import Warden.Proofs.Expiry

namespace Warden.Engine

/-!
# Locked again

Once an app has been out of sight for the timeout, it is locked until its PIN is entered again,
whoever has looked at its session or swept it away.  A new timeout can break this: one that is
longer than the app has been out of sight brings back the session, unless its entry is gone.

* `sessionInputs`, `sessions_step_eq_after` — what a call asks of the sessions.
* `Moment.Revives` — a reload brings back the session of an app.
* `Lapsed`, `not_isOpen_of_lapsed` — an app whose session is over, and that it stays over.
* `Alike`, `verdicts_alike` — engines that differ in sessions that are over decide alike.
* `expired_until_grant` — what is over stays over, and sweeps make no difference.
* `expired_then_lengthened` — a longer timeout opens an app again that was locked.
-/

variable {e e' : Engine} {i : Input} {m : Moment} {app : String} {now t : Nat}
  {inputs inputs' : List Input}

/-! ### What a call asks of the sessions -/

/-- What a call asks of the sessions. -/
def sessionCalls (e : Engine) : Call → List Sessions.Call
  | .unprotect app => if e.isProtected app then [.revoke app] else []
  | .setProtected apps => [.retain apps.contains]
  | .setAppLock on => if on then [] else [.clear]
  | .foreground app foregrounded => if e.consults app foregrounded then [.check app] else []
  | .touch app => if e.stopped then [] else [.touch app]
  | .grant app => if e.stopped then [] else [.grant app]
  | .isUnlocked app => [.check app]
  | .revoke app => [.revoke app]
  | .screenOff => if e.relockOnScreenOff then [.clear] else []
  | .sweep => [.sweep]
  | .reload s =>
    .retain s.protectedApps.contains ::
      ((if e.losesAppLock s then [.clear] else []) ++ [.setTimeout s.sessionTimeout])
  | .shutdown => if e.stopped then [] else [.clear]
  | _ => []

/-- The same at the time of the call. -/
def sessionInputs (e : Engine) (i : Input) : List Sessions.Input :=
  (e.sessionCalls i.call).map fun call => ⟨i.now, call⟩

/-- What a call makes of the sessions is what the row of its inputs makes of them. -/
theorem sessions_step_eq_after (e : Engine) (i : Input) :
    (e.step i).state.sessions = e.sessions.after (e.sessionInputs i) := by
  rw [sessions_step]
  obtain ⟨host, call⟩ := i
  cases call
  case reload s =>
    -- Whether the timeout is set before the entries go or after makes no difference.
    simp only [sessionsAfter, sessionInputs, sessionCalls]
    split <;> rfl
  case unprotect | setAppLock | foreground | touch | grant | screenOff | shutdown =>
    simp only [sessionsAfter, sessionInputs, sessionCalls]
    split <;> rfl
  all_goals rfl

/-- What is asked is settled by what app lock goes by. -/
theorem sessionInputs_congr (h : e'.rules = e.rules) : e'.sessionInputs i = e.sessionInputs i := by
  obtain ⟨host, call⟩ := i
  cases e
  cases e'
  simp only [rules, Rules.mk.injEq] at h
  obtain ⟨rfl, rfl, rfl, rfl⟩ := h
  cases call <;> rfl

/-- They are all made at the time of the call. -/
theorem now_sessionInputs {j : Sessions.Input} (hj : j ∈ e.sessionInputs i) : j.now = i.now := by
  obtain ⟨call, -, rfl⟩ := List.mem_map.1 hj
  rfl

/-- All that is asked of the sessions by one call is asked at one time. -/
theorem clock_sessionInputs (e : Engine) (i : Input) :
    (i.now :: ((e.sessionInputs i).map Sessions.Input.now ++ [i.now])).Pairwise (· ≤ ·) := by
  refine pairwise_of_one_time fun t ht => ?_
  obtain ⟨j, hj, rfl⟩ := List.mem_map.1 ht
  exact now_sessionInputs hj

/-- The sessions are asked to unlock an app only if its PIN is entered. -/
theorem grants_of_sessionInputs {j : Sessions.Input} (hj : j ∈ e.sessionInputs i)
    (hgrants : j.grants app = true) : (Moment.mk e i).grants app = true := by
  obtain ⟨call, hcall, rfl⟩ := List.mem_map.1 hj
  obtain ⟨host, call'⟩ := i
  cases call with
  | grant a =>
    obtain rfl : app = a := of_decide_eq_true hgrants
    cases call' <;> simp [sessionCalls] at hcall
    obtain ⟨hs, rfl⟩ := hcall
    simp [Moment.grants, hs]
  | _ => cases hgrants

/-- The sessions hear of an app only if its PIN is entered or it is seen. -/
theorem sees_of_sessionInputs {j : Sessions.Input} (hj : j ∈ e.sessionInputs i)
    (hsees : j.sees app = true) :
    (Moment.mk e i).grants app = true ∨ (Moment.mk e i).observes app = true := by
  obtain ⟨call, hcall, rfl⟩ := List.mem_map.1 hj
  cases call with
  | grant a => exact .inl (grants_of_sessionInputs hj hsees)
  | check a =>
    right
    obtain ⟨host, call'⟩ := i
    obtain rfl : app = a := of_decide_eq_true hsees
    cases call' <;> simp [sessionCalls] at hcall
    case foreground a foregrounded =>
      obtain ⟨hconsults, rfl⟩ := hcall
      simp [Moment.observes, hconsults]
    case isUnlocked a => simp [Moment.observes, hcall]
  | touch a =>
    right
    obtain ⟨host, call'⟩ := i
    obtain rfl : app = a := of_decide_eq_true hsees
    cases call' <;> simp [sessionCalls] at hcall
    obtain ⟨-, rfl⟩ := hcall
    simp [Moment.observes]
  | _ => cases hsees

/-! ### Staying over -/

/-- Whether a reload brings back the session of an app that it neither stops protecting nor unlocks
by switching app lock off. -/
def Moment.Revives (m : Moment) (app : String) : Prop :=
  m.ends app = false ∧ ∃ s, m.input.call = .reload s ∧
    m.engine.sessions.Revives ⟨m.now, .setTimeout s.sessionTimeout⟩ app

/-- A reload asks for the new timeout once the entries that it ends are gone. -/
theorem unrevived_of_reload {s : Settings} (hcall : i.call = .reload s)
    (h : ¬ (Moment.mk e i).Revives app) : e.sessions.Unrevived app (e.sessionInputs i) := by
  simp only [sessionInputs, sessionCalls, hcall]
  cases hloses : e.losesAppLock s with
  | true =>
    have hnone : ¬ (e.sessions.retain s.protectedApps.contains).1.clear.1.Revives
        ⟨i.now, .setTimeout s.sessionTimeout⟩ app := by
      rintro ⟨session, hentry, -⟩
      cases hentry
    exact ⟨id, id, hnone, trivial⟩
  | false =>
    have hkept : ¬ (e.sessions.retain s.protectedApps.contains).1.Revives
        ⟨i.now, .setTimeout s.sessionTimeout⟩ app := by
      rintro ⟨session, hentry, hover, hlonger⟩
      have hstep := e.sessions.get?_step ⟨i.now, .retain s.protectedApps.contains⟩ app
      have hentry' := hstep.symm.trans hentry
      cases hkeep : s.protectedApps.contains app with
      | true =>
        have hends : (Moment.mk e i).ends app = false := by
          simp only [Moment.ends, hcall, hkeep, hloses, Bool.not_true, Bool.or_self]
        simp only [Sessions.entryAfter, hkeep, if_true] at hentry'
        exact h ⟨hends, s, hcall, session, hentry', hover, hlonger⟩
      | false => simp [Sessions.entryAfter, hkeep] at hentry'
    exact ⟨id, hkept, trivial⟩

/-- A call that brings no session back brings none back in that row. -/
theorem unrevived_sessionInputs (h : ¬ (Moment.mk e i).Revives app) :
    e.sessions.Unrevived app (e.sessionInputs i) := by
  by_cases hreload : ∃ s, i.call = .reload s
  · obtain ⟨s, hcall⟩ := hreload
    exact unrevived_of_reload hcall h
  · -- No other call sets a timeout.
    refine Sessions.unrevived_of_no_timeout fun j hj d hd => ?_
    obtain ⟨call, hcall, rfl⟩ := List.mem_map.1 hj
    obtain rfl : call = .setTimeout d := hd
    obtain ⟨host, call⟩ := i
    cases call
    case reload s => exact hreload ⟨s, rfl⟩
    all_goals simp [sessionCalls] at hcall

/-- A session that is over is not open after a call that neither unlocks its app nor brings it
back. -/
theorem not_isOpen_step (h : ¬ e.sessions.IsOpen app i.now)
    (hgrant : (Moment.mk e i).grants app = false) (hrevives : ¬ (Moment.mk e i).Revives app) :
    ¬ (e.step i).state.sessions.IsOpen app i.now := by
  rw [sessions_step_eq_after]
  refine Sessions.not_isOpen_after h (e.clock_sessionInputs i) (fun j hj => ?_)
    (unrevived_sessionInputs hrevives)
  rw [← Bool.not_eq_true]
  intro hj'
  rw [grants_of_sessionInputs hj hj'] at hgrant
  cases hgrant

/-- What is over at first is over at the end of a run that neither unlocks the app nor brings its
session back. -/
theorem not_isOpen_run (h : ¬ e.sessions.IsOpen app now)
    (hclock : (now :: (inputs.map Input.now ++ [t])).Pairwise (· ≤ ·))
    (hgrant : ∀ m ∈ e.history inputs, m.grants app = false)
    (hrevives : ∀ m ∈ e.history inputs, ¬ m.Revives app) :
    ¬ (e.run inputs).sessions.IsOpen app t := by
  -- On the calls, from the first one on: what is closed at one time is closed at the next.
  induction inputs generalizing e now with
  | nil =>
    have ht : now ≤ t := by simpa using hclock
    exact Sessions.not_isOpen_mono h ht
  | cons i rest ih =>
    obtain ⟨hnow, hrest⟩ := List.pairwise_cons.1 hclock
    have hi : now ≤ i.now := hnow i.now (by simp)
    rw [history, List.forall_mem_cons] at hgrant hrevives
    have hstep := not_isOpen_step (Sessions.not_isOpen_mono h hi) hgrant.1 hrevives.1
    exact ih hstep hrest hgrant.2 hrevives.2

/-- All that a run asks of the sessions. -/
theorem sessions_run (e : Engine) (inputs : List Input) :
    (e.run inputs).sessions =
      e.sessions.after ((e.history inputs).flatMap fun m => m.engine.sessionInputs m.input) := by
  induction inputs generalizing e with
  | nil => rfl
  | cons i rest ih =>
    rw [history, List.flatMap_cons, Sessions.after_append, ← sessions_step_eq_after]
    exact ih (e.step i).state

/-- Whether the session of an app is over at the time `t₁` in a run, because its app has not been
seen for the timeout of that moment, and until the time `t` nothing but the clock has a say: its PIN
is not entered, and no reload brings its session back. -/
structure Lapsed (e : Engine) (before later : List Input) (app : String) (t₁ t : Nat) : Prop where
  clock : (before.map Input.now ++ t₁ :: (later.map Input.now ++ [t])).Pairwise (· ≤ ·)
  idle : ∀ m ∈ e.history before, m.grants app = true ∨ m.observes app = true →
    (e.run before).sessions.timeout ≤ t₁ - m.now
  ungranted : ∀ m ∈ (e.run before).history later, m.grants app = false
  unrevived : ∀ m ∈ (e.run before).history later, ¬ m.Revives app

/-- What has lapsed is not open when the run has ended. -/
theorem not_isOpen_of_lapsed {before later : List Input} {t₁ : Nat}
    (h : e.Lapsed before later app t₁ t) (hnone : e.sessions.table = .empty) :
    ¬ (e.run (before ++ later)).sessions.IsOpen app t := by
  have hover : ¬ (e.run before).sessions.IsOpen app t₁ := by
    rintro ⟨session, hentry, hlive⟩
    rw [sessions_run] at hentry
    -- The entry is as new as the last sight of its app, which is too long ago.
    obtain ⟨j, hj, hsees, hnow⟩ := Sessions.seen_after hnone hentry
    obtain ⟨m, hm, hj⟩ := List.mem_flatMap.1 hj
    have hidle := h.idle m hm (sees_of_sessionInputs hj hsees)
    rw [hnow, now_sessionInputs hj] at hlive
    exact absurd hlive (Nat.not_lt.2 hidle)
  have hclock := (List.pairwise_append.1 h.clock).2.1
  rw [run_append]
  exact not_isOpen_run hover hclock h.ungranted h.unrevived

/-! ### Decisions about apps -/

/-- Whether an app is blocked depends on what app lock goes by and on its session alone. -/
theorem foreground_answer (e : Engine) (host : Host) (app : String) (foregrounded : Bool) :
    (e.foreground host app foregrounded).answer =
      if e.consults app foregrounded then
        if (e.sessions.check app host.now).2 then .allow else .block
      else if e.stopped || !e.appLockEnabled || !foregrounded then .ignored else .notProtected := by
  cases h : e.consults app foregrounded with
  | true =>
    rw [foreground_of_consults h]
    dsimp only
    split <;> rfl
  | false =>
    rw [foreground_of_not_consults h]
    rfl

/-- Only an open session lets an app through. -/
theorem isOpen_of_allow {host : Host} {foregrounded : Bool}
    (h : (e.foreground host app foregrounded).answer = .allow) :
    e.sessions.IsOpen app host.now := by
  rw [foreground_answer] at h
  split at h
  · split at h
    next hopen => exact Sessions.check_answer.1 hopen
    · cases h
  · split at h <;> cases h

/-- The answer of a moment that decides whether an app is unlocked or blocked. -/
def Moment.verdict? (m : Moment) : Option Answer :=
  match m.input.call with
  | .isUnlocked _ | .foreground _ _ => some m.outcome.answer
  | _ => none

/-- All such answers of a run. -/
def verdicts (e : Engine) (inputs : List Input) : List Answer :=
  (e.history inputs).filterMap Moment.verdict?

/-! ### Sweeps -/

/-- Whether a call is a sweep. -/
def Input.IsSweep (i : Input) : Prop := i.call = .sweep

/-- Whether the second of two engines goes by the same values as the first and has its sessions,
except that some that are over may be gone. -/
structure Alike (now : Nat) (e e' : Engine) : Prop where
  rules : e'.rules = e.rules
  sessions : Sessions.Swept now e.sessions e'.sessions

/-- The same call to both leaves engines that are alike. -/
theorem Alike.step (h : Alike now e e') (hi : now ≤ i.now)
    (hrevives : ∀ app, ¬ (Moment.mk e i).Revives app) :
    Alike i.now (e.step i).state (e'.step i).state := by
  refine ⟨by rw [rules_step, rules_step, h.rules], ?_⟩
  rw [sessions_step_eq_after, sessions_step_eq_after, sessionInputs_congr h.rules]
  exact (h.sessions.later hi).after (e.clock_sessionInputs i) fun app =>
    unrevived_sessionInputs (hrevives app)

/-- One more sweep makes no difference. -/
theorem Alike.sweep (h : Alike now e e') (hi : now ≤ i.now) (hsweep : i.IsSweep) :
    Alike i.now e (e'.step i).state := by
  have hcall : i.call = .sweep := hsweep
  refine ⟨?_, ?_⟩
  · rw [rules_step, hcall]
    exact h.rules
  · rw [sessions_step, sessionsAfter, hcall]
    exact h.sessions.sweep hi

/-- Engines that are alike decide alike. -/
theorem Alike.verdict? (h : Alike now e e') (hi : now ≤ i.now) :
    (Moment.mk e' i).verdict? = (Moment.mk e i).verdict? := by
  obtain ⟨host, call⟩ := i
  -- Only two calls decide anything: one asks for the session alone, the other for what app lock
  -- goes by as well.
  cases call
  case isUnlocked app =>
    have hcheck : (e'.sessions.check app host.now).2 = (e.sessions.check app host.now).2 :=
      h.sessions.check hi
    exact congrArg (fun b => some (Answer.flag b)) hcheck
  case foreground app foregrounded =>
    have hrules := h.rules
    have hprotected : e'.protectedApps = e.protectedApps := congrArg Rules.protectedApps hrules
    have hon : e'.appLockEnabled = e.appLockEnabled := congrArg Rules.appLockEnabled hrules
    have hstopped : e'.stopped = e.stopped := congrArg Rules.stopped hrules
    have hcheck : (e'.sessions.check app host.now).2 = (e.sessions.check app host.now).2 :=
      h.sessions.check hi
    have hanswer : (e'.foreground host app foregrounded).answer =
        (e.foreground host app foregrounded).answer := by
      have hconsults : e'.consults app foregrounded = e.consults app foregrounded := by
        simp only [consults, isProtected, hprotected, hon, hstopped]
      rw [foreground_answer, foreground_answer, hconsults, hon, hstopped, hcheck]
    exact congrArg (fun d => some (Answer.lock d)) hanswer
  all_goals rfl

/-- More sweeps in a run change none of its decisions, as long as no session is brought back. -/
theorem verdicts_alike (h : Alike now e e') (hmore : Interspersed Input.IsSweep inputs inputs')
    (hclock : (now :: inputs'.map Input.now).Pairwise (· ≤ ·))
    (hrevives : ∀ m ∈ e.history inputs, ∀ app, ¬ m.Revives app) :
    e'.verdicts inputs' = e.verdicts inputs := by
  -- On how the sweeps are strewn in: a call of both runs is one step of both, a sweep one step of
  -- the second alone.
  induction hmore generalizing e e' now with
  | nil => rfl
  | keep i hmore ih =>
    obtain ⟨hnow, hrest⟩ := List.pairwise_cons.1 hclock
    have hi : now ≤ i.now := hnow i.now (by simp)
    rw [history, List.forall_mem_cons] at hrevives
    have htail := ih (h.step hi hrevives.1) hrest hrevives.2
    unfold verdicts at htail ⊢
    rw [history, history, List.filterMap_cons, List.filterMap_cons, h.verdict? hi, htail]
  | @extra i _ _ hsweep hmore ih =>
    obtain ⟨hnow, hrest⟩ := List.pairwise_cons.1 hclock
    have hi : now ≤ i.now := hnow i.now (by simp)
    have hcall : i.call = .sweep := hsweep
    have hnone : (Moment.mk e' i).verdict? = none := by rw [Moment.verdict?, hcall]
    have htail := ih (h.sweep hi hsweep) hrest hrevives
    unfold verdicts at htail ⊢
    rw [history, List.filterMap_cons, hnone]
    exact htail

/-! ### Once over, over -/

/-- **A session that is over stays so.** If an app has not been seen for the timeout, it is locked
until its PIN is entered, whatever else happens, except that a new timeout brings its session back;
and without that, sweeps at any points of a run change nothing that is decided later.  Both hold of
the sessions alone and of the engine. -/
theorem expired_until_grant (s : Settings) (stored : Persisted) :
    let sessions := Sessions.start s.sessionTimeout
    let e := start s stored
    (∀ before later app t₁ t, sessions.Lapsed before later app t₁ t →
      ((sessions.after (before ++ later)).check app t).2 = false) ∧
    (∀ inputs inputs', Interspersed Sessions.Input.IsSweep inputs inputs' →
      (inputs'.map Sessions.Input.now).Pairwise (· ≤ ·) →
      (∀ app, sessions.Unrevived app inputs) → sessions.answers inputs' = sessions.answers inputs) ∧
    (∀ before later app t₁ host, e.Lapsed before later app t₁ host.now →
      ((e.run (before ++ later)).isUnlocked host app).answer = false ∧
        ∀ foregrounded, ((e.run (before ++ later)).foreground host app foregrounded).answer ≠
          .allow) ∧
    (∀ inputs inputs', Interspersed Input.IsSweep inputs inputs' →
      (inputs'.map Input.now).Pairwise (· ≤ ·) →
      (∀ m ∈ e.history inputs, ∀ app, ¬ m.Revives app) →
        e.verdicts inputs' = e.verdicts inputs) := by
  intro sessions e
  have hzero {times : List Nat} (h : times.Pairwise (· ≤ ·)) : (0 :: times).Pairwise (· ≤ ·) :=
    List.pairwise_cons.2 ⟨fun t _ => Nat.zero_le t, h⟩
  refine ⟨?_, ?_, ?_, ?_⟩
  · intro before later app t₁ t h
    exact h.check rfl
  · intro inputs inputs' hmore hclock hrevived
    exact Sessions.answers_swept (.refl 0 _) hmore (hzero hclock) hrevived
  · intro before later app t₁ host h
    have hover : ¬ (e.run (before ++ later)).sessions.IsOpen app host.now :=
      not_isOpen_of_lapsed h rfl
    refine ⟨?_, fun foregrounded hallow => hover (isOpen_of_allow hallow)⟩
    rw [← Bool.not_eq_true]
    exact mt Sessions.check_answer.1 hover
  · intro inputs inputs' hmore hclock hrevives
    exact verdicts_alike ⟨rfl, .refl 0 _⟩ hmore (hzero hclock) hrevives

/-- A longer timeout comes too late for a session whose entry is gone: the app stays locked, with
or without one more sweep. -/
theorem locked_despite_longer_timeout :
    let longer : Settings :=
      { sessionTimeout := .seconds 60, protectedApps := .ofList ["app.mail"] }
    let s := Sessions.start (.seconds 30)
    let granted : Sessions.Input := ⟨0, .grant "app.mail"⟩
    let asked : List Sessions.Input :=
      [⟨31000, .check "app.mail"⟩, ⟨40000, .setTimeout (.seconds 60)⟩, ⟨41000, .check "app.mail"⟩]
    let e := start { protectedApps := .ofList ["app.mail"] } .empty
    let unlocked : Input := ⟨silentHost 0, .grant "app.mail"⟩
    let sweep : Input := ⟨silentHost 30000, .sweep⟩
    let later : List Input :=
      [⟨silentHost 31000, .isUnlocked "app.mail"⟩, ⟨silentHost 40000, .reload longer⟩,
        ⟨silentHost 41000, .foreground "app.mail" true⟩]
    s.Lapsed [granted] asked "app.mail" 30000 42000 ∧
    ((s.after ([granted] ++ asked)).check "app.mail" 42000).2 = false ∧
    s.answers (granted :: ⟨30000, .sweep⟩ :: asked) = s.answers (granted :: asked) ∧
    e.Lapsed [unlocked] later "app.mail" 30000 42000 ∧
    ((e.run ([unlocked] ++ later)).foreground (silentHost 42000) "app.mail" true).answer ≠ .allow ∧
    e.verdicts (unlocked :: sweep :: later) = e.verdicts (unlocked :: later) ∧
    e.verdicts (unlocked :: later) = [.flag false, .lock .block] := by
  intro longer s granted asked e unlocked sweep later
  obtain ⟨hstore, hswept, hengine, halike⟩ :=
    expired_until_grant { protectedApps := .ofList ["app.mail"] } .empty
  -- When the timeout gets longer, the entry is gone already.
  have hgone : (s.after [granted, ⟨31000, .check "app.mail"⟩]).table = .empty := rfl
  have hrevived (app : String) : s.Unrevived app (granted :: asked) := by
    refine ⟨id, id, ?_, id, trivial⟩
    rintro ⟨session, hentry, -⟩
    cases (congrArg (AppTable.get? · app) hgone).symm.trans hentry
  have hlapsed : s.Lapsed [granted] asked "app.mail" 30000 42000 := by
    refine ⟨by decide, ?_, by decide, (hrevived "app.mail").2⟩
    intro i hi _
    obtain rfl := List.mem_singleton.1 hi
    decide
  have hgoneEngine : (e.run [unlocked, ⟨silentHost 31000, .isUnlocked "app.mail"⟩]).sessions.table =
      .empty := rfl
  have hrevives (app : String) : ∀ m ∈ e.history (unlocked :: later), ¬ m.Revives app := by
    rintro m hm ⟨-, settings, hcall, session, hentry, -⟩
    simp only [history, later, List.mem_cons, List.not_mem_nil, or_false] at hm
    rcases hm with rfl | rfl | rfl | rfl
    · cases hcall
    · cases hcall
    · cases (congrArg (AppTable.get? · app) hgoneEngine).symm.trans hentry
    · cases hcall
  have hlapsedEngine : e.Lapsed [unlocked] later "app.mail" 30000 42000 := by
    refine ⟨by decide, ?_, by decide, ?_⟩
    · intro m hm _
      obtain rfl := List.mem_singleton.1 hm
      decide
    · exact fun m hm => hrevives "app.mail" m (List.mem_cons_of_mem _ hm)
  have hmore : Interspersed Sessions.Input.IsSweep (granted :: asked)
      (granted :: ⟨30000, .sweep⟩ :: asked) :=
    .keep _ (.extra rfl (.keep _ (.keep _ (.keep _ .nil))))
  have hmoreEngine : Interspersed Input.IsSweep (unlocked :: later) (unlocked :: sweep :: later) :=
    .keep _ (.extra rfl (.keep _ (.keep _ (.keep _ .nil))))
  exact ⟨hlapsed, hstore _ _ _ _ _ hlapsed, hswept _ _ hmore (by decide) hrevived,
    hlapsedEngine, (hengine _ _ _ _ (silentHost 42000) hlapsedEngine).2 true,
    halike _ _ hmoreEngine (by decide) fun m hm app => hrevives app m hm, by decide +kernel⟩

/-- **A longer timeout opens an app again.** The entry of a session that is over counts once more if
a new timeout is longer than its app has been out of sight.  The app is then unlocked without its
PIN, though it would be locked if a sweep had come in between. -/
theorem expired_then_lengthened :
    let s := Sessions.start (.seconds 1)
    let granted : Sessions.Input := ⟨0, .grant "app.mail"⟩
    let longer : Sessions.Input := ⟨2000, .setTimeout (.seconds 5)⟩
    let asked : Sessions.Input := ⟨2000, .check "app.mail"⟩
    let settings (seconds : Nat) : Settings :=
      { sessionTimeout := .seconds seconds, protectedApps := .ofList ["app.mail"] }
    let e := start (settings 1) .empty
    let unlocked : Input := ⟨silentHost 0, .grant "app.mail"⟩
    let reload : Input := ⟨silentHost 2000, .reload (settings 5)⟩
    let opened : Input := ⟨silentHost 2000, .foreground "app.mail" true⟩
    let sweep : Input := ⟨silentHost 2000, .sweep⟩
    (s.after [granted]).timeout ≤ 2000 - granted.now ∧ longer.grants "app.mail" = false ∧
    s.answers [granted, longer, asked] = [true] ∧
    s.answers [granted, ⟨2000, .sweep⟩, longer, asked] = [false] ∧
    (e.run [unlocked]).sessions.timeout ≤ 2000 - unlocked.now ∧
    Moment.grants ⟨e.run [unlocked], reload⟩ "app.mail" = false ∧
    e.verdicts [unlocked, reload, opened] = [.lock .allow] ∧
    e.verdicts [unlocked, sweep, reload, opened] = [.lock .block] := by
  intro s granted longer asked settings e unlocked reload opened sweep
  refine ⟨by decide, by decide, by decide, by decide, by decide, by decide, ?_, ?_⟩
  · decide +kernel
  · decide +kernel

end Warden.Engine
