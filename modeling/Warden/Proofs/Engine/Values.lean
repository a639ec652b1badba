import Warden.Proofs.Engine.Rest
import Warden.Proofs.Engine.Rules
import Warden.Proofs.Engine.WindowExpiry
import Warden.Proofs.Keyword.Book

namespace Warden

/-!
# The values that an engine runs with

Settings reach the engine twice, at its start and with each reload, and single values are set by
calls.  What is under way at the time has no say in them, and they have none in it, except that a
part that is switched off ends what it had.

* `Engine.Values`, `Engine.values` — the values that an engine runs with.
* `Engine.Values.after`, `Engine.values_step` — what a call makes of them.
* `Engine.Untouched` — what a reload leaves as it is.
* `Engine.retune_eq_self` — settings that are in force already change nothing.
* `reload_last` — the last reload has the say, and once is enough.
-/

/-! ### Lengths of countdowns -/

namespace Keyword.Guard

/-- The lengths of a countdown and of a grace period. -/
def timing (g : Guard) : Nat × Duration := (g.countdown, g.grace)

/-- No timer event moves the lengths; only new settings do. -/
theorem timing_deliver (g : Guard) (violating : String → Bool) (timer : TimerId)
    (event : TimerEvent) : (g.deliver violating timer event).state.timing = g.timing := by
  have hdelivery := g.delivery violating timer event
  generalize g.deliver violating timer event = o at hdelivery ⊢
  cases hdelivery <;> rfl

theorem timing_violate (g : Guard) (app : String) (timer : TimerId) :
    (g.violate app timer).state.timing = g.timing :=
  Prod.ext (g.about_violate app timer).countdown (g.about_violate app timer).grace

theorem timing_defer (g : Guard) (app : String) (timer : TimerId) :
    (g.defer app timer).state.timing = g.timing :=
  Prod.ext (g.about_defer app timer).countdown (g.about_defer app timer).grace

end Keyword.Guard

/-! ### The sessions of some apps -/

/-- Those that are kept once are kept again. -/
theorem Sessions.retain_retain (s : Sessions) (apps : String → Bool) :
    ((s.retain apps).1.retain apps).1 = (s.retain apps).1 := by
  simp [retain, keep, AppTable.filter, List.filter_filter]

theorem Sessions.get?_retain {s : Sessions} {apps : String → Bool} {app : String}
    (h : apps app = true) : (s.retain apps).1.table.get? app = s.table.get? app := by
  show (s.table.filter _).get? app = _
  rw [AppTable.get?_filter]
  cases s.table.get? app <;> simp [h]

namespace Engine

/-- The values that an engine runs with. -/
structure Values where
  matcher : Keyword.Matcher
  protectedApps : AppSet
  appLockEnabled : Bool
  relockOnScreenOff : Bool
  /-- In milliseconds. -/
  sessionTimeout : Nat
  tamperEnabled : Bool
  /-- In milliseconds. -/
  bypassDuration : Nat
  policy : Policy
  clearRecents : Bool
  keywordEnabled : Bool
  countdown : Nat
  grace : Duration

/-- The values of an engine. -/
def values (e : Engine) : Values where
  matcher := e.matcher
  protectedApps := e.protectedApps
  appLockEnabled := e.appLockEnabled
  relockOnScreenOff := e.relockOnScreenOff
  sessionTimeout := e.sessions.timeout
  tamperEnabled := e.bypass.enabled
  bypassDuration := e.bypass.duration
  policy := e.tamper.policy
  clearRecents := e.clearRecents
  keywordEnabled := e.keywordEnabled
  countdown := e.keywords.countdown
  grace := e.keywords.grace

namespace Values

/-- The values that settings ask for. -/
def ofSettings (s : Settings) : Values where
  matcher := .ofList s.keywords
  protectedApps := s.protectedApps
  appLockEnabled := s.appLockEnabled
  relockOnScreenOff := s.relockOnScreenOff
  sessionTimeout := s.sessionTimeout.word
  tamperEnabled := s.tamperEnabled
  bypassDuration := s.bypassDuration.word
  policy := .ofList s.failClosed
  clearRecents := s.clearRecents
  keywordEnabled := s.keywordEnabled
  countdown := max s.countdown 1
  grace := s.gracePeriod

/-- The values after a call. -/
def after (v : Values) : Call → Values
  | .protect app => { v with protectedApps := v.protectedApps.insert app }
  | .unprotect app =>
    if v.protectedApps.contains app then { v with protectedApps := v.protectedApps.erase app }
    else v
  | .setProtected apps => { v with protectedApps := apps }
  | .setAppLock on => { v with appLockEnabled := on }
  | .setTamper on => { v with tamperEnabled := on }
  | .setKeyword on => { v with keywordEnabled := on }
  | .setKeywords keywords => { v with matcher := .ofList keywords }
  | .reload s => .ofSettings s
  | _ => v

end Values

variable {e : Engine} {i : Input} {s : Settings}

/-- A new engine runs with the values of its settings. -/
theorem values_start (s : Settings) (stored : Persisted) :
    (start s stored).values = .ofSettings s := rfl

/-- So does an engine after a reload, whatever it ran with before. -/
theorem values_reload (e : Engine) (s : Settings) :
    (e.reload s).state.values = .ofSettings s := by
  -- Only the values that lie inside a part need a look at what its switch makes of that part.
  have hduration : (e.reload s).state.bypass.duration = s.bypassDuration.word := by
    rw [reload_state]
    dsimp only
    split
    · exact Bypass.clear_duration _
    · rfl
  have htimeout : (e.reload s).state.sessions.timeout = s.sessionTimeout.word := by
    rw [reload_sessions]
    dsimp only
    split <;> rfl
  have hpolicy : (e.reload s).state.tamper.policy = .ofList s.failClosed := by
    rw [reload_state]
    dsimp only
    split <;> rfl
  have htiming : (e.reload s).state.keywords.timing = (max s.countdown 1, s.gracePeriod) := by
    rw [reload_state]
    dsimp only
    split <;> rfl
  have henabled := e.enabled_reload s
  obtain ⟨hcountdown, hgrace⟩ := Prod.mk.inj htiming
  unfold values
  rw [hduration, htimeout, hpolicy, hcountdown, hgrace, henabled, reload_state]
  rfl

/-! ### One call -/

/-- Only a reload moves the length of the window. -/
theorem duration_step (h : ∀ s, i.call ≠ .reload s) :
    (e.step i).state.bypass.duration = e.bypass.duration := by
  have hfollow : (e.step i).state.bypass = _ := e.bypass_follow (.call i)
  rw [hfollow]
  exact Bypass.served_duration fun j hj => length_bypassInputs hj h

/-- And only a reload moves the timeout. -/
theorem timeout_step (h : ∀ s, i.call ≠ .reload s) :
    (e.step i).state.sessions.timeout = e.sessions.timeout := by
  rw [sessions_step]
  exact timeout_sessionsAfter fun s hs => absurd hs (h s)

/-- No report moves the policy. -/
theorem policy_navigate (e : Engine) (host : Host) (n : Navigation) :
    (e.navigate host n).state.tamper.policy = e.tamper.policy := by
  cases hs : e.stopped with
  | true =>
    rw [navigate_stopped hs]
    rfl
  | false =>
    rw [navigate_tamper hs]
    exact Tamper.decide_policy

/-- A call about app lock sets at most what app lock goes by. -/
theorem values_of_lock (h : i.call.part = .lock) :
    (e.step i).state.values =
      { e.values with
        protectedApps := (e.rules.after i.call).protectedApps
        appLockEnabled := (e.rules.after i.call).appLockEnabled } := by
  have hrules := e.rules_step i
  have htimeout : (e.step i).state.sessions.timeout = e.sessions.timeout := by
    refine timeout_step fun s hs => ?_
    rw [hs] at h
    cases h
  obtain ⟨sessions, apps, on, pending, hstep⟩ := e.step_of_lock h
  rw [hstep] at htimeout hrules ⊢
  rw [← hrules, values, htimeout]
  rfl

/-- A call about the settings pages sets at most the switch of tamper protection. -/
theorem values_of_tamper (h : i.call.part = .tamper) :
    (e.step i).state.values =
      { e.values with tamperEnabled := (e.step i).state.bypass.enabled } := by
  have hduration : (e.step i).state.bypass.duration = e.bypass.duration := by
    refine duration_step fun s hs => ?_
    rw [hs] at h
    cases h
  have hpolicy : (e.step i).state.tamper.policy = e.tamper.policy := by
    obtain ⟨host, call⟩ := i
    -- Reports and the switch are the only calls that get to the attempts at all.
    cases call
    case navigate n => exact e.policy_navigate host n
    case setTamper on =>
      show (e.setTamper on).state.tamper.policy = _
      rw [setTamper_state]
      cases on <;> rfl
    all_goals first | rfl | cases h
  obtain ⟨bypass, tamper, hstep⟩ := e.step_of_tamper h
  rw [hstep] at hduration hpolicy ⊢
  rw [values, hduration, hpolicy]
  rfl

/-- A guard with the same lengths makes no difference. -/
theorem values_withKeywords {keywords : Keyword.Guard} (h : keywords.timing = e.keywords.timing) :
    ({ e with keywords } : Engine).values = e.values := by
  obtain ⟨hcountdown, hgrace⟩ := Prod.mk.inj h
  rw [values, hcountdown, hgrace]
  rfl

/-- A call about keywords sets at most the keywords and their switch; what it makes of the
challenges is no value. -/
theorem values_of_keyword (h : i.call.part = .keyword) :
    (e.step i).state.values = e.values.after i.call := by
  obtain ⟨host, call⟩ := i
  cases call
  case content app text =>
    show (e.content host app text).state.values = e.values
    cases hheeds : e.heeds text with
    | true =>
      rw [content_of_heeds hheeds]
      exact values_withKeywords (e.keywords.timing_violate app host.nextTimer)
    | false =>
      rw [content_of_not_heeds hheeds]
      rfl
  case deferChallenge app =>
    show (e.deferChallenge host app).state.values = e.values
    cases hs : e.stopped with
    | true =>
      rw [deferChallenge_stopped hs]
      rfl
    | false =>
      rw [deferChallenge_running hs]
      exact values_withKeywords (e.keywords.timing_defer app host.nextTimer)
  case timer event =>
    show (e.timer host event).state.values = e.values
    cases hs : e.stopped with
    | true =>
      rw [timer_stopped hs]
      rfl
    | false =>
      rw [timer_running hs]
      exact values_withKeywords (e.keywords.timing_deliver _ _ event)
  case setKeyword on =>
    show (e.setKeyword on).state.values = { e.values with keywordEnabled := on }
    rw [setKeyword_state]
    cases on <;> rfl
  all_goals first | rfl | cases h

/-- What a call makes of the values. -/
theorem values_step (e : Engine) (i : Input) : (e.step i).state.values = e.values.after i.call := by
  cases hpart : i.call.part
  case lock =>
    rw [values_of_lock hpart]
    obtain ⟨host, call⟩ := i
    cases call
    -- An app that was not protected before makes no difference, so both sides look for it.
    case unprotect app =>
      by_cases hin : e.protectedApps.contains app = true
      · have hrules : e.rules.after (.unprotect app) = _ := if_pos hin
        have hvalues : e.values.after (.unprotect app) = _ := if_pos hin
        rw [hrules, hvalues]
        rfl
      · have hrules : e.rules.after (.unprotect app) = _ := if_neg hin
        have hvalues : e.values.after (.unprotect app) = _ := if_neg hin
        rw [hrules, hvalues]
        rfl
    all_goals first | rfl | cases hpart
  case tamper =>
    rw [values_of_tamper hpart, enabled_step]
    obtain ⟨host, call⟩ := i
    cases call <;> first | rfl | cases hpart
  case keyword => exact values_of_keyword hpart
  case whole =>
    obtain ⟨host, call⟩ := i
    cases call
    case reload s => exact e.values_reload s
    case shutdown =>
      show e.shutdown.state.values = e.values
      unfold shutdown
      split <;> rfl
    all_goals cases hpart

/-- The interval between sweeps is settled at the start. -/
theorem sweepInterval_step (e : Engine) (i : Input) :
    (e.step i).state.sweepInterval = e.sweepInterval := by
  cases hpart : i.call.part
  case lock =>
    obtain ⟨sessions, apps, on, pending, hstep⟩ := e.step_of_lock hpart
    rw [hstep]
  case tamper =>
    obtain ⟨bypass, tamper, hstep⟩ := e.step_of_tamper hpart
    rw [hstep]
  case keyword =>
    obtain ⟨keywords, matcher, on, hstep⟩ := e.step_of_keyword hpart
    rw [hstep]
  case whole =>
    obtain ⟨host, call⟩ := i
    cases call
    case reload s =>
      show (e.reload s).state.sweepInterval = e.sweepInterval
      rw [reload_state]
      rfl
    case shutdown =>
      show e.shutdown.state.sweepInterval = e.sweepInterval
      unfold shutdown
      split <;> rfl
    all_goals cases hpart

theorem sweepInterval_run (e : Engine) (inputs : List Input) :
    (e.run inputs).sweepInterval = e.sweepInterval := by
  induction inputs generalizing e with
  | nil => rfl
  | cons i rest ih => exact (ih (e.step i).state).trans (e.sweepInterval_step i)

/-! ### Reloads -/

/-- What a reload leaves as it is: the challenges, the answered attempts, what is stored about the
window, the sessions of the apps that stay protected and the prompt, each of them unless its part is
switched off, which does what its own switch does. -/
structure Untouched (e : Engine) (s : Settings) (e' : Engine) : Prop where
  challenges : e'.keywords.challenges =
    (if e.losesKeyword s then (e.setKeyword false).state else e).keywords.challenges
  lastGeneration : e'.keywords.lastGeneration = e.keywords.lastGeneration
  triggered : e'.tamper.triggered =
    (if e.losesTamper s then (e.setTamper false).state else e).tamper.triggered
  stored : e'.bypass.stored =
    (if e.losesTamper s then (e.setTamper false).state else e).bypass.stored
  sessions : ∀ app, s.protectedApps.contains app = true → e'.sessions.table.get? app =
    (if e.losesAppLock s then (e.setAppLock false).state else e).sessions.table.get? app
  pendingLock : e'.pendingLock =
    (if e.losesAppLock s then (e.setAppLock false).state else e).pendingLock
  stopped : e'.stopped = e.stopped

/-- Everything else is left as the switches leave it. -/
theorem untouched_reload (e : Engine) (s : Settings) : e.Untouched s (e.reload s).state where
  challenges := by
    rw [reload_state, setKeyword_state]
    cases e.losesKeyword s <;> rfl
  lastGeneration := by
    rw [reload_state]
    dsimp only
    split <;> rfl
  triggered := by
    rw [reload_triggered, setTamper_state]
    cases e.losesTamper s <;> rfl
  stored := by
    rw [reload_state, setTamper_state]
    cases e.losesTamper s with
    | true =>
      -- The new length is set before the window is cleared, which looks at no length.
      show
        (Bypass.clear { e.bypass.setDuration s.bypassDuration with enabled := false }).state.stored =
          (Bypass.clear { e.bypass with enabled := false }).state.stored
      rw [Bypass.clear_state, Bypass.clear_state]
      rfl
    | false => rfl
  sessions app happ := by
    rw [reload_sessions, setAppLock_state]
    cases e.losesAppLock s with
    | true => rfl
    | false => exact Sessions.get?_retain happ
  pendingLock := by
    rw [reload_state, setAppLock_state]
    cases e.losesAppLock s <;> rfl
  stopped := e.reload_stopped s

/-- A reload asks for what the switches ask for that it turns off. -/
theorem effects_reload (e : Engine) (s : Settings) :
    (e.reload s).effects =
      (if e.losesAppLock s then (e.setAppLock false).effects else []) ++
      ((if e.losesTamper s then (e.setTamper false).effects else []) ++
        if e.losesKeyword s then (e.setKeyword false).effects else []) := by
  have hclose : ((e.retune s).bypass.setEnabled false).effects =
      (e.bypass.setEnabled false).effects := by
    show (Bypass.clear { e.bypass.setDuration s.bypassDuration with enabled := false }).effects =
      (Bypass.clear { e.bypass with enabled := false }).effects
    rw [Bypass.clear_effects, Bypass.clear_effects]
    rfl
  rw [reload_effects, setAppLock_effects, setAppLock_effects, setTamper_effects, setTamper_effects,
    hclose, setKeyword_effects]
  rfl

/-- Settings that are in force already change nothing. -/
theorem retune_eq_self (hvalues : e.values = .ofSettings s)
    (hsessions : (e.sessions.retain s.protectedApps.contains).1 = e.sessions) :
    e.retune s = e := by
  simp only [values, Values.ofSettings, Values.mk.injEq] at hvalues
  obtain ⟨hmatcher, happs, -, hrelock, htimeout, -, hduration, hpolicy, hrecents, -, hcountdown,
    hgrace⟩ := hvalues
  -- Each part keeps the value that it is given again.
  have hsessions' : (e.sessions.retain s.protectedApps.contains).1.setTimeout s.sessionTimeout =
      e.sessions := by
    rw [hsessions]
    exact Sessions.setTimeout_eq_self htimeout.symm
  have hbypass : e.bypass.setDuration s.bypassDuration = e.bypass := by
    unfold Bypass.setDuration
    rw [← hduration]
  have htamper : e.tamper.setPolicy (.ofList s.failClosed) = e.tamper := by
    unfold Tamper.setPolicy
    rw [← hpolicy]
  have hkeywords : e.keywords.setTiming s.countdown s.gracePeriod = e.keywords := by
    unfold Keyword.Guard.setTiming
    simp only [← hcountdown, ← hgrace]
  unfold retune
  dsimp only [setKeywords, setProtected]
  rw [hsessions', hbypass, htamper, hkeywords, ← hmatcher, ← happs, ← hrelock, ← hrecents]

/-- A second reload with the same settings does nothing. -/
theorem reload_reload (e : Engine) (s : Settings) :
    (e.reload s).state.reload s = .answering (e.reload s).state () := by
  have hvalues := e.values_reload s
  have hsessions : ((e.reload s).state.sessions.retain s.protectedApps.contains).1 =
      (e.reload s).state.sessions := by
    rw [reload_sessions]
    dsimp only
    split
    · rfl
    · exact congrArg (·.setTimeout s.sessionTimeout) (Sessions.retain_retain ..)
  -- The values are in place and the sessions of other apps are gone already, and no switch is left
  -- that stands otherwise.
  have hretune := retune_eq_self hvalues hsessions
  have hlock : (e.reload s).state.appLockEnabled = s.appLockEnabled :=
    congrArg Values.appLockEnabled hvalues
  have htamper : (e.reload s).state.bypass.enabled = s.tamperEnabled := e.enabled_reload s
  have hkeyword : (e.reload s).state.keywordEnabled = s.keywordEnabled :=
    congrArg Values.keywordEnabled hvalues
  generalize (e.reload s).state = r at *
  unfold reload
  simp only [hretune, hlock, htamper, hkeyword, switch, Outcome.answering, Outcome.bind, if_true,
    List.append_nil]

/-- **The last reload has the say.** Whatever a run has made of an engine, a reload gives it the
values that a new engine has over the same settings; only the interval between sweeps stays what it
is at the start.  Challenges, attempts, what is stored about the window and the sessions of apps
that stay protected are left alone, except that a part that is switched off ends as by its own
switch, and nothing else is asked for.  A second reload with the same settings does nothing at all,
and of two reloads only the later one counts. -/
theorem reload_last (s₀ : Settings) (stored : Persisted) (inputs : List Input)
    (s₁ s₂ : Settings) :
    let e := (start s₀ stored).run inputs
    let o := e.reload s₂
    (∀ stored', o.state.values = (start s₂ stored').values) ∧
    o.state.sweepInterval = s₀.sweepInterval ∧
    e.Untouched s₂ o.state ∧
    o.effects =
      (if e.losesAppLock s₂ then (e.setAppLock false).effects else []) ++
      ((if e.losesTamper s₂ then (e.setTamper false).effects else []) ++
        if e.losesKeyword s₂ then (e.setKeyword false).effects else []) ∧
    o.state.reload s₂ = .answering o.state () ∧
    ((e.reload s₁).state.reload s₂).state.values = o.state.values := by
  intro e o
  have hvalues : o.state.values = .ofSettings s₂ := e.values_reload s₂
  have hinterval : o.state.sweepInterval = s₀.sweepInterval := by
    have hreload : o.state.sweepInterval = e.sweepInterval :=
      e.sweepInterval_step ⟨silentHost 0, .reload s₂⟩
    exact hreload.trans (sweepInterval_run (start s₀ stored) inputs)
  -- What is stored has no say in the values of a new engine.
  refine ⟨fun stored' => hvalues, hinterval, e.untouched_reload s₂, e.effects_reload s₂,
    e.reload_reload s₂, ?_⟩
  rw [values_reload, hvalues]

end Engine

end Warden
