import Warden.Proofs.Engine.Records
import Warden.Proofs.Engine.Unlocked
import Warden.Proofs.WindowExpiry

namespace Warden

/-!
# Parts that are switched off

A part that is switched off has nothing left, and neither has any part once the engine has stopped:
no challenge, no answered attempt, no session.  This holds whatever is asked of the engine, and a
timer event that nobody set is no exception.

* `Effect.IsQuiet`, `Quiet` — effects that put nothing on the screen and set no timer.
* `Engine.Rests` — what is switched off has ended.
* `Engine.Rests.step` — every call keeps that.
* `Engine.Rests.quiet` — all that a stopped engine still asks for is quiet.
-/

/-- Whether an effect puts nothing on the screen, sends nobody home and has nothing to do with
timers: at most it takes something off the screen. -/
def Effect.IsQuiet : Effect → Prop
  | .surface (.hide _) | .save _ | .record _ => True
  | _ => False

/-- Whether all effects of a list are quiet. -/
def Quiet (effects : List Effect) : Prop := ∀ x ∈ effects, x.IsQuiet

section Quiet

variable {effects rest : List Effect}

theorem quiet_nil : Quiet [] := List.forall_mem_nil _

theorem quiet_cons {x : Effect} (h : x.IsQuiet) (hrest : Quiet rest) : Quiet (x :: rest) :=
  List.forall_mem_cons.2 ⟨h, hrest⟩

theorem Quiet.append (h : Quiet effects) (hrest : Quiet rest) : Quiet (effects ++ rest) :=
  List.forall_mem_append.2 ⟨h, hrest⟩

/-- What is saved is neither on the screen nor timed. -/
theorem quiet_saves (h : ∀ x ∈ effects, ∃ p, x = .save p) : Quiet effects := by
  intro x hx
  obtain ⟨p, rfl⟩ := h x hx
  trivial

/-- Nor is what the log hears of. -/
theorem quiet_record (p : Prop) [Decidable p] (r : Audit.Record) :
    Quiet (if p then [.record r] else []) := by
  split
  · exact quiet_cons trivial quiet_nil
  · exact quiet_nil

/-- Quiet effects call no timer. -/
theorem Quiet.untimed (h : Quiet effects) : effects.filterMap Effect.timer? = [] := by
  refine List.filterMap_eq_nil_iff.2 fun x hx => ?_
  have hquiet := h x hx
  cases x with
  | timer call => exact hquiet.elim
  | _ => rfl

end Quiet

namespace Engine

variable {e : Engine} {i : Input} {host : Host} {c : Category}

/-! ### Calls about app lock and about settings pages -/

/-- The switch of app lock at most takes a prompt away. -/
theorem quiet_setAppLock (e : Engine) (on : Bool) : Quiet (e.setAppLock on).effects := by
  rw [setAppLock_effects]
  split
  · exact quiet_nil
  · cases e.pendingLock with
    | none => exact quiet_nil
    | some app => exact quiet_cons trivial quiet_nil

/-- An unlock at most takes a prompt away. -/
theorem quiet_grant (e : Engine) (host : Host) (app : String) :
    Quiet (e.grant host app).effects := by
  unfold grant
  split
  · exact quiet_nil
  · dsimp only
    split
    · exact quiet_cons trivial quiet_nil
    · exact quiet_nil

/-- A reading of the window saves, and tells the log. -/
theorem quiet_poll (e : Engine) (host : Host) : Quiet (e.poll host).effects := by
  have hrecord : Quiet (expiryRecord (e.bypass.poll host.now).answer) := by
    cases (e.bypass.poll host.now).answer with
    | justExpired => exact quiet_cons trivial quiet_nil
    | _ => exact quiet_nil
  exact (quiet_saves (e.bypass.writesThrough_poll host.now).saves).append hrecord

/-- The switch of tamper protection saves, and tells the log. -/
theorem quiet_setTamper (e : Engine) (on : Bool) : Quiet (e.setTamper on).effects := by
  rw [setTamper_effects]
  exact (quiet_saves (e.bypass.writesThrough_setEnabled on).saves).append (quiet_record _ _)

/-- Whether a call tells that something has come to the foreground. -/
def Call.isSighting : Call → Bool
  | .foreground _ _ | .navigate _ => true
  | _ => false

/-- Of all calls about app lock and about settings pages, only sightings may be answered by
something on the screen. -/
theorem quiet_of_part (hpart : i.call.part = .lock ∨ i.call.part = .tamper)
    (hsighting : i.call.isSighting = false) : Quiet (e.step i).effects := by
  obtain ⟨host, call⟩ := i
  have hpoll := e.quiet_poll host
  cases call
  case setAppLock on => exact e.quiet_setAppLock on
  case foreground app foregrounded => cases hsighting
  case grant app => exact e.quiet_grant host app
  case complete => exact quiet_cons trivial (quiet_cons trivial quiet_nil)
  case withinBypass | remainingBypass => exact hpoll
  case status => exact hpoll.append quiet_nil
  case gate =>
    exact hpoll.append
      (quiet_saves ((e.bypass.poll host.now).state.writesThrough_poll host.later.now).saves)
  case clearBypass =>
    exact (quiet_saves e.bypass.writesThrough_clear.saves).append (quiet_record _ _)
  case confirm c => exact quiet_saves (e.bypass.writesThrough_confirm _ _).saves
  case setTamper on => exact e.quiet_setTamper on
  case navigate n => cases hsighting
  -- The rest either has no effects or is about keywords.
  all_goals first | exact quiet_nil | simp [Call.part] at hpart

/-- Neither part has to do with timers. -/
theorem untimed_of_part (hpart : i.call.part = .lock ∨ i.call.part = .tamper) :
    (e.step i).effects.filterMap Effect.timer? = [] := by
  cases hsighting : i.call.isSighting with
  | false => exact (quiet_of_part hpart hsighting).untimed
  | true =>
    obtain ⟨host, call⟩ := i
    cases call
    -- The two sightings show something, and show it without a timer.
    case foreground app foregrounded =>
      show (e.foreground host app foregrounded).effects.filterMap Effect.timer? = []
      cases h : e.consults app foregrounded with
      | true =>
        rw [foreground_of_consults h]
        dsimp only
        split <;> rfl
      | false =>
        rw [foreground_of_not_consults h]
        rfl
    case navigate n =>
      show (e.navigate host n).effects.filterMap Effect.timer? = []
      cases hs : e.stopped with
      | true =>
        rw [navigate_stopped hs]
        rfl
      | false =>
        have hafter (d : Tamper.Decision) :
            (afterDecision e.clearRecents n d).filterMap Effect.timer? = [] := by
          cases d with
          | trigger attempt => cases e.clearRecents <;> rfl
          | _ => rfl
        have hdecide := (quiet_saves
          (e.tamper.saves_decide (e.bypass.poll host.now).state host.later n)).untimed
        rw [navigate_running hs]
        simp only [Outcome.bind, Outcome.also, Outcome.within, List.filterMap_append,
          (e.quiet_poll host).untimed, List.nil_append]
        exact List.append_eq_nil_iff.2 ⟨hdecide, hafter _⟩
    all_goals cases hsighting

/-! ### What is switched off -/

/-- Whether each part that is switched off has ended, and all parts have if the engine has
stopped. -/
structure Rests (e : Engine) : Prop where
  keywords : e.stopped = true ∨ e.keywordEnabled = false → e.keywords.challenges = .empty
  tamper : e.stopped = true ∨ e.bypass.enabled = false → ∀ c, e.isTriggered c = false
  sessions : e.stopped = true → e.sessions.table = .empty

/-- A new engine has nothing to end. -/
theorem rests_start (s : Settings) (stored : Persisted) : (start s stored).Rests :=
  ⟨fun _ => rfl, fun _ _ => rfl, fun _ => rfl⟩

/-! ### Countdowns -/

/-- A guard without challenges gets one from restricted content only. -/
theorem defer_of_empty {g : Keyword.Guard} (h : g.challenges = .empty) (app : String)
    (timer : TimerId) : g.defer app timer = ⟨g.renewed, false, []⟩ := by
  refine Keyword.Guard.defer_refused fun c hc => ?_
  rw [Keyword.Guard.challenge?, h] at hc
  cases hc

/-- A guard without challenges takes every event for a late one. -/
theorem deliver_of_empty {g : Keyword.Guard} (h : g.challenges = .empty)
    (violating : String → Bool) (timer : TimerId) (event : TimerEvent) :
    g.deliver violating timer event = ⟨g, .stale, []⟩ := by
  refine Keyword.Guard.deliver_stale fun c hc => ?_
  rw [Keyword.Guard.challenge?, h] at hc
  cases hc

/-- A guard without challenges has nothing to cancel. -/
theorem cancelAll_of_empty {g : Keyword.Guard} (h : g.challenges = .empty) :
    g.cancelAll.effects = [] := by
  unfold Keyword.Guard.cancelAll
  rw [h]
  rfl

/-- Where nothing heeds restricted content, no challenge starts. -/
theorem Rests.challenges_of_keyword (h : e.Rests) (hpart : i.call.part = .keyword)
    (hoff : (e.step i).state.stopped = true ∨ (e.step i).state.keywordEnabled = false) :
    (e.step i).state.keywords.challenges = .empty := by
  have hstopped := e.stopped_of_part (i := i) (by rw [hpart]; nofun)
  rw [hstopped] at hoff
  obtain ⟨host, call⟩ := i
  cases call
  case setKeyword on =>
    change e.stopped = true ∨ (e.setKeyword on).state.keywordEnabled = false at hoff
    show (e.setKeyword on).state.keywords.challenges = .empty
    rw [setKeyword_state] at hoff ⊢
    cases on with
    | true => exact h.keywords (.inl (hoff.resolve_right nofun))
    | false => rfl
  case content app text =>
    change e.stopped = true ∨ (e.content host app text).state.keywordEnabled = false at hoff
    show (e.content host app text).state.keywords.challenges = .empty
    cases hheeds : e.heeds text with
    | true =>
      -- What is heeded is heeded by an engine that is running, with the switch on.
      rw [content_of_heeds hheeds] at hoff
      simp only [heeds, Bool.and_eq_true, Bool.not_eq_true'] at hheeds
      obtain ⟨⟨hrunning, hon⟩, -⟩ := hheeds
      rcases hoff with hs | hon'
      · cases hs.symm.trans hrunning
      · cases hon'.symm.trans hon
    | false =>
      rw [content_of_not_heeds hheeds] at hoff ⊢
      exact h.keywords hoff
  case deferChallenge app =>
    change e.stopped = true ∨ (e.deferChallenge host app).state.keywordEnabled = false at hoff
    show (e.deferChallenge host app).state.keywords.challenges = .empty
    cases hs : e.stopped with
    | true =>
      rw [deferChallenge_stopped hs]
      exact h.keywords (.inl hs)
    | false =>
      rw [deferChallenge_running hs] at hoff ⊢
      have hempty := h.keywords hoff
      rw [defer_of_empty hempty]
      exact hempty
  case timer event =>
    change e.stopped = true ∨ (e.timer host event).state.keywordEnabled = false at hoff
    show (e.timer host event).state.keywords.challenges = .empty
    cases hs : e.stopped with
    | true =>
      rw [timer_stopped hs]
      exact h.keywords (.inl hs)
    | false =>
      rw [timer_running hs] at hoff ⊢
      have hempty := h.keywords hoff
      rw [deliver_of_empty hempty]
      exact hempty
  all_goals first | exact h.keywords hoff | cases hpart

/-- Where the engine has stopped or keyword protection is off after a call, there are no
challenges. -/
theorem Rests.challenges_step (h : e.Rests)
    (hoff : (e.step i).state.stopped = true ∨ (e.step i).state.keywordEnabled = false) :
    (e.step i).state.keywords.challenges = .empty := by
  -- Calls about the other parts touch neither the challenges nor the switch.
  cases hpart : i.call.part
  case lock =>
    obtain ⟨sessions, apps, on, pending, hstep⟩ := e.step_of_lock hpart
    rw [hstep] at hoff ⊢
    exact h.keywords hoff
  case tamper =>
    obtain ⟨bypass, tamper, hstep⟩ := e.step_of_tamper hpart
    rw [hstep] at hoff ⊢
    exact h.keywords hoff
  case keyword => exact h.challenges_of_keyword hpart hoff
  case whole =>
    obtain ⟨host, call⟩ := i
    cases call
    case reload s =>
      change (e.reload s).state.stopped = true ∨ (e.reload s).state.keywordEnabled = false at hoff
      show (e.reload s).state.keywords.challenges = .empty
      rw [reload_state] at hoff ⊢
      change e.stopped = true ∨ s.keywordEnabled = false at hoff
      show (if e.losesKeyword s then _ else _ : Keyword.Guard).challenges = .empty
      cases hloses : e.losesKeyword s with
      | true => rfl
      | false =>
        -- The switch was off before, or the engine had stopped.
        refine h.keywords (hoff.imp_right fun hwanted => ?_)
        rwa [losesKeyword, hwanted, Bool.not_false, Bool.and_true] at hloses
    case shutdown =>
      show e.shutdown.state.keywords.challenges = .empty
      unfold shutdown
      split
      next hs => exact h.keywords (.inl hs)
      · rfl
    all_goals cases hpart

/-! ### Attempts -/

/-- The switch of tamper protection stands as it was set. -/
theorem enabled_setTamper (e : Engine) (on : Bool) :
    (e.setTamper on).state.bypass.enabled = on := by
  rw [setTamper_state]
  cases on with
  | true => rfl
  | false => exact congrArg Bypass.enabled (Bypass.clear_state { e.bypass with enabled := false })

/-- Settings that want tamper protection off switch it off, unless it is off already. -/
theorem enabled_reload (e : Engine) (s : Settings) :
    (e.reload s).state.bypass.enabled = s.tamperEnabled := by
  rw [reload_state]
  dsimp only
  cases hloses : e.losesTamper s with
  | true =>
    have hwanted : s.tamperEnabled = false := by
      rw [losesTamper, Bool.and_eq_true, Bool.not_eq_true'] at hloses
      exact hloses.2
    rw [hwanted]
    exact congrArg Bypass.enabled (Bypass.clear_state _)
  | false => rfl

/-- No report turns the switch. -/
theorem enabled_navigate (e : Engine) (host : Host) (n : Navigation) :
    (e.navigate host n).state.bypass.enabled = e.bypass.enabled := by
  cases hs : e.stopped with
  | true =>
    rw [navigate_stopped hs]
    rfl
  | false =>
    rw [navigate_running hs]
    exact Tamper.decide_enabled.trans (e.bypass.poll_enabled host.now)

/-- Whether tamper protection is on after a call. -/
theorem enabled_step (e : Engine) (i : Input) :
    (e.step i).state.bypass.enabled =
      match i.call with
      | .setTamper on => on
      | .reload s => s.tamperEnabled
      | _ => e.bypass.enabled := by
  cases hpart : i.call.part
  case lock | keyword =>
    rw [(e.tamper_of_part (i := i) (by simp [hpart])).1]
    obtain ⟨host, call⟩ := i
    cases call <;> first | rfl | cases hpart
  case tamper =>
    obtain ⟨host, call⟩ := i
    have hpoll := e.bypass.poll_enabled host.now
    cases call
    case withinBypass | remainingBypass | status => exact hpoll
    case gate => exact (Bypass.poll_enabled _ _).trans hpoll
    case clearBypass =>
      show e.bypass.clear.state.enabled = e.bypass.enabled
      rw [Bypass.clear_state]
      rfl
    case confirm c => exact Bypass.confirm_enabled ..
    case setTamper on => exact e.enabled_setTamper on
    case navigate n => exact e.enabled_navigate host n
    all_goals first | rfl | cases hpart
  case whole =>
    obtain ⟨host, call⟩ := i
    cases call
    case reload s => exact e.enabled_reload s
    case shutdown =>
      show e.shutdown.state.bypass.enabled = e.bypass.enabled
      unfold shutdown
      split <;> rfl
    all_goals cases hpart

/-- Where no attempt is to be blocked, no report adds one to those that were answered. -/
theorem isTriggered_navigate_of_off (h : ∀ c, e.isTriggered c = false)
    (hoff : e.stopped = true ∨ e.bypass.enabled = false) (host : Host) (n : Navigation) :
    (e.navigate host n).state.isTriggered c = false := by
  cases hs : e.stopped with
  | true =>
    rw [navigate_stopped hs]
    exact h c
  | false =>
    have hdisabled : e.bypass.enabled = false := hoff.resolve_left (ne_true_of_eq_false hs)
    rw [isTriggered, navigate_tamper hs, ← Bool.not_eq_true, Tamper.isTriggered_decide]
    -- A new attempt would need an open gate, and one from before there was none.
    rintro (⟨-, attempt, hd⟩ | ⟨-, hbefore⟩)
    · rw [(Tamper.decide_verdict ..).trigger, Bypass.poll_enabled, hdisabled] at hd
      obtain ⟨-, -, -, -, ⟨hgate, -⟩, -⟩ := hd
      cases hgate
    · exact Bool.false_ne_true ((h c).symm.trans hbefore)

/-- Where the engine has stopped or tamper protection is off after a call, no attempt is pending. -/
theorem Rests.isTriggered_step (h : e.Rests)
    (hoff : (e.step i).state.stopped = true ∨ (e.step i).state.bypass.enabled = false) :
    (e.step i).state.isTriggered c = false := by
  unfold isTriggered Tamper.isTriggered
  rw [triggered_step]
  -- The end forgets all attempts; any other call leaves the engine stopped or running as it was.
  by_cases hcall : i.call = .shutdown
  · simp only [triggeredAfter, hcall]
    split
    next hs => exact h.tamper (.inl hs) c
    · rfl
  rw [stopped_step, or_iff_left hcall, enabled_step] at hoff
  obtain ⟨host, call⟩ := i
  cases call
  case navigate n => exact isTriggered_navigate_of_off (h.tamper hoff) hoff host n
  case setTamper on =>
    cases on with
    | true => exact h.tamper (.inl (hoff.resolve_right (by decide : ¬ true = false))) c
    | false => rfl
  case reload s =>
    simp only [triggeredAfter]
    cases hloses : e.losesTamper s with
    | true => rfl
    | false =>
      -- The settings want it off and did not switch it off, so it was off before.
      refine h.tamper (hoff.imp_right fun hwanted => ?_) c
      change s.tamperEnabled = false at hwanted
      rwa [losesTamper, hwanted, Bool.not_false, Bool.and_true] at hloses
  case shutdown => exact absurd rfl hcall
  all_goals exact h.tamper hoff c

/-! ### All parts -/

/-- Every call leaves at rest what is switched off after it. -/
theorem Rests.step (h : e.Rests) (i : Input) : (e.step i).state.Rests where
  keywords hoff := h.challenges_step hoff
  tamper hoff _ := h.isTriggered_step hoff
  sessions hs := table_step_of_stopped h.sessions hs

/-! ### After the end -/

/-- An engine that has stopped ignores what comes to the foreground. -/
theorem foreground_stopped (hs : e.stopped = true) (host : Host) (app : String)
    (foregrounded : Bool) : e.foreground host app foregrounded = .answering e .ignored := by
  unfold foreground
  rw [hs]
  rfl

/-- An engine that has stopped has nothing to show and nothing to time. -/
theorem Rests.quiet (h : e.Rests) (hs : e.stopped = true) (i : Input) :
    Quiet (e.step i).effects := by
  -- Countdowns are all that could be taken off the screen, and none is left.
  have hnone : Quiet e.keywords.cancelAll.effects := by
    rw [cancelAll_of_empty (h.keywords (.inl hs))]
    exact quiet_nil
  obtain ⟨host, call⟩ := i
  cases call
  case foreground app foregrounded =>
    show Quiet (e.foreground host app foregrounded).effects
    rw [foreground_stopped hs]
    exact quiet_nil
  case navigate n =>
    show Quiet (e.navigate host n).effects
    rw [navigate_stopped hs]
    exact quiet_nil
  case setKeyword on =>
    show Quiet (e.setKeyword on).effects
    rw [setKeyword_effects]
    split
    · exact quiet_nil
    · exact hnone
  case content app text =>
    have hheeds : e.heeds text = false := by
      unfold heeds
      rw [hs]
      rfl
    show Quiet (e.content host app text).effects
    rw [content_of_not_heeds hheeds]
    exact quiet_nil
  case deferChallenge app =>
    show Quiet (e.deferChallenge host app).effects
    rw [deferChallenge_stopped hs]
    exact quiet_nil
  case timer event =>
    show Quiet (e.timer host event).effects
    rw [timer_stopped hs]
    exact quiet_nil
  case reload s =>
    show Quiet (e.reload s).effects
    rw [reload_effects]
    refine Quiet.append ?_ (Quiet.append ?_ ?_)
    · split
      · exact (e.retune s).quiet_setAppLock false
      · exact quiet_nil
    · split
      · exact (e.retune s).quiet_setTamper false
      · exact quiet_nil
    · split
      · exact hnone
      · exact quiet_nil
  case shutdown =>
    show Quiet e.shutdown.effects
    unfold shutdown
    rw [if_pos hs]
    exact quiet_nil
  case setKeywords => exact quiet_nil
  case complete | withinBypass | remainingBypass | clearBypass | gate | confirm | setTamper |
      status => exact quiet_of_part (.inr rfl) rfl
  all_goals exact quiet_of_part (.inl rfl) rfl

/-- No app is unlocked once the engine has stopped. -/
theorem Rests.isUnlocked (h : e.Rests) (hs : e.stopped = true) (host : Host) (app : String) :
    (e.isUnlocked host app).answer = false := by
  show (e.sessions.check app host.now).2 = false
  rw [Sessions.check_of_empty (h.sessions hs)]

end Engine

end Warden
