import Warden.Proofs.Engine.Display
import Warden.Proofs.Engine.Rules

namespace Warden.Engine

/-!
# Prompts for PINs

What a call makes of the prompts on the screen, and of the one that the engine remembers: one comes
up, the remembered one goes away, or all stay as they are.

* `Spares` — effects that leave the prompts on the screen alone; those of countdowns and notices do.
* `Moment.Prompts`, `Moment.Dismisses` — a prompt comes up, and goes away.
* `Moment.Turn`, `turn` — every call does one of the three.
* `pendingLock_step`, `mem_actions` — what that makes of the remembered prompt and of the screen.
-/

variable {e : Engine} {i : Input} {m : Moment} {host : Host} {s : Screen} {app other : String}
  {effects rest : List Effect}

/-! ### Effects that leave prompts alone -/

/-- Whether effects leave the prompts on the screen alone. -/
def Spares (effects : List Effect) : Prop := ∀ a, .surface a ∈ effects → a.SparesPrompts

/-- What reaches the screen is what the effects send there. -/
theorem mem_surface {a : Surface.Action} :
    a ∈ effects.filterMap Effect.surface? ↔ .surface a ∈ effects := by
  rw [List.mem_filterMap]
  constructor
  · rintro ⟨effect, heffect, hsurface⟩
    cases effect <;> cases hsurface
    exact heffect
  · intro ha
    exact ⟨.surface a, ha, rfl⟩

/-- What sends nothing to the screen leaves the prompts alone. -/
theorem spares_of_surface_nil (hnone : effects.filterMap Effect.surface? = []) :
    Spares effects := by
  intro a ha
  rw [← mem_surface, hnone] at ha
  cases ha

/-- Two stretches of effects leave the prompts alone if both of them do. -/
theorem spares_append : Spares (effects ++ rest) ↔ Spares effects ∧ Spares rest := by
  simp only [Spares, List.mem_append, or_imp, forall_and]

/-- What leaves the prompts alone can be left out if nothing but prompts counts. -/
theorem mem_applyAll_of_spared (hspares : Spares effects) :
    .appLock app ∈ s.applyAll (effects.filterMap Effect.surface?) ↔ .appLock app ∈ s :=
  Screen.mem_applyAll_of_spares fun a ha => hspares a (mem_surface.1 ha)

/-! ### Countdowns and notices are no prompts -/

/-- What comes to the front again is a countdown. -/
theorem spares_reshow (g : Keyword.Guard) : Spares g.reshow := by
  intro a ha
  obtain ⟨app, n, c, hshown, -⟩ := Keyword.Guard.mem_reshow ha
  cases hshown
  rfl

/-- The countdown of an app goes away, and another one comes to the front. -/
theorem spares_hidden (g : Keyword.Guard) (app : String) (n : Nat) :
    Spares (Keyword.Guard.hidden app n :: g.reshow) := by
  intro a ha
  rcases List.mem_cons.1 ha with hhidden | hreshow
  · cases hhidden
    rfl
  · exact spares_reshow g a hreshow

/-- Restricted content starts a countdown, which is no prompt. -/
theorem spares_violate (g : Keyword.Guard) (app : String) (timer : TimerId) :
    Spares (g.violate app timer).effects := by
  -- A countdown is shown if the app has none; an app that has one is left as it is.
  cases hc : g.challenge? app with
  | none =>
    rw [Keyword.Guard.violate_idle hc]
    simp [Spares, Keyword.Guard.shown, Surface.Action.SparesPrompts, Overlay.prompt?]
  | some c =>
    rw [Keyword.Guard.violate_live hc]
    exact spares_of_surface_nil rfl

/-- A deferral takes the countdown of the app away, if it is granted. -/
theorem spares_defer (g : Keyword.Guard) (app : String) (timer : TimerId) :
    Spares (g.defer app timer).effects := by
  rcases g.deferrable_or app with ⟨c, n, hc, hd, hp⟩ | hno
  · rw [Keyword.Guard.defer_accepted hc hd hp]
    intro a ha
    simp only [List.mem_cons, reduceCtorEq, false_or] at ha
    exact spares_hidden _ app 0 a (List.mem_cons.2 ha)
  · rw [Keyword.Guard.defer_refused hno]
    exact spares_of_surface_nil rfl

/-- A timer shows, updates or hides a countdown, or sends home. -/
theorem spares_deliver (g : Keyword.Guard) (violating : String → Bool) (timer : TimerId)
    (event : TimerEvent) : Spares (g.deliver violating timer event).effects := by
  -- By what the event comes to; a stale one and one that finds nothing show nothing.
  have hdelivery := g.delivery violating timer event
  generalize g.deliver violating timer event = o, event.app = app at hdelivery ⊢
  cases hdelivery with
  | stale | resolved => exact spares_of_surface_nil rfl
  | ticked => simp [Spares, Surface.Action.SparesPrompts, Overlay.prompt?]
  | expired =>
    intro a ha
    rcases List.mem_cons.1 ha with hhome | hhidden
    · cases hhome
      trivial
    · exact spares_hidden _ app 0 a hhidden
  | resumed =>
    simp [Spares, Keyword.Guard.shown, Surface.Action.SparesPrompts, Overlay.prompt?]

/-- When all challenges are cancelled, their countdowns go and no prompt does. -/
theorem spares_cancelAll (g : Keyword.Guard) : Spares g.cancelAll.effects := by
  intro a ha
  obtain ⟨entry, -, hending⟩ := List.mem_flatMap.1 ha
  rcases Keyword.Guard.mem_ending hending with htimer | ⟨n, hhidden⟩
  · cases htimer
  · cases hhidden
    rfl

/-- The switch of keyword protection has to do with countdowns only. -/
theorem spares_setKeyword (e : Engine) (on : Bool) : Spares (e.setKeyword on).effects := by
  cases on with
  | true => exact spares_of_surface_nil rfl
  | false => exact spares_cancelAll e.keywords

/-- What the log may hear of leaves the screen alone. -/
theorem spares_record (p : Prop) [Decidable p] (r : Audit.Record) :
    Spares (if p then [.record r] else []) := spares_of_surface_nil (record_surface p r)

/-- A timer of the engine is one of the guard, with a record behind it. -/
theorem spares_timer (e : Engine) (host : Host) (event : TimerEvent) :
    Spares (e.timer host event).effects := by
  have hdeliver := spares_deliver e.keywords (e.isViolating host) host.nextTimer event
  cases hs : e.stopped with
  | true =>
    rw [timer_stopped hs]
    exact spares_of_surface_nil rfl
  | false =>
    rw [timer_running hs]
    exact spares_append.2 ⟨hdeliver, spares_record _ _⟩

/-- No call about keywords touches a prompt. -/
theorem spares_of_keyword (hpart : i.call.part = .keyword) : Spares (e.step i).effects := by
  obtain ⟨host, call⟩ := i
  -- Four calls of this part send something to the screen; the rest send nothing.
  cases call
  case setKeyword on => exact e.spares_setKeyword on
  case content app text =>
    show Spares (e.content host app text).effects
    cases h : e.heeds text with
    | true =>
      rw [content_of_heeds h]
      exact spares_violate e.keywords app host.nextTimer
    | false =>
      rw [content_of_not_heeds h]
      exact spares_of_surface_nil rfl
  case deferChallenge app =>
    show Spares (e.deferChallenge host app).effects
    cases hs : e.stopped with
    | true =>
      rw [deferChallenge_stopped hs]
      exact spares_of_surface_nil rfl
    | false =>
      rw [deferChallenge_running hs]
      exact spares_append.2 ⟨spares_defer e.keywords app host.nextTimer, spares_record _ _⟩
  case timer event => exact e.spares_timer host event
  all_goals first | exact spares_of_surface_nil rfl | cases hpart

/-- No call about pages and the window touches a prompt: what they send, if anything, is the block
of a page. -/
theorem spares_of_tamper (hpart : i.call.part = .tamper) : Spares (e.step i).effects := by
  rcases surface_of_tamper (e := e) hpart with hnone | ⟨n, hn⟩
  · exact spares_of_surface_nil hnone
  · intro a ha
    rw [← mem_surface, hn, blockingActions] at ha
    revert a
    cases e.clearRecents <;> simp [Surface.Action.SparesPrompts, Overlay.prompt?]

/-- The end takes the countdowns away. The prompts are left on the screen. -/
theorem spares_shutdown (e : Engine) : Spares e.shutdown.effects := by
  unfold shutdown
  split
  · exact spares_of_surface_nil rfl
  · exact spares_append.2 ⟨spares_cancelAll e.keywords, spares_of_surface_nil rfl⟩

/-! ### What a call makes of a prompt -/

/-- Whether the prompt of an app comes up. -/
def Moment.Prompts (m : Moment) (app : String) : Prop :=
  (∃ foregrounded, m.input.call = .foreground app foregrounded) ∧ m.outcome.answer = .lock .block

/-- Whether the remembered prompt is that of an app and is taken away: the PIN of the app is
entered, or app lock is switched off. -/
def Moment.Dismisses (m : Moment) (app : String) : Prop :=
  m.engine.pendingLock = some app ∧
    match m.input.call with
    | .grant a => a = app ∧ m.engine.stopped = false
    | .setAppLock on => on = false
    | .reload s => m.engine.losesAppLock s = true
    | _ => False

/-- A call shows the prompt of one app at most. -/
theorem Moment.Prompts.eq (hp : m.Prompts app) (hq : m.Prompts other) : other = app := by
  obtain ⟨⟨_, hcall⟩, -⟩ := hp
  obtain ⟨⟨_, hcall'⟩, -⟩ := hq
  rw [hcall] at hcall'
  cases hcall'
  rfl

/-- A prompt comes up only if an app comes to the foreground. -/
theorem not_prompts (hcall : ∀ app foregrounded, m.input.call ≠ .foreground app foregrounded)
    (app : String) : ¬ m.Prompts app := by
  rintro ⟨⟨foregrounded, hforeground⟩, -⟩
  exact hcall app foregrounded hforeground

/-- A call that shows a prompt takes none away. -/
theorem Moment.Prompts.not_dismisses (hp : m.Prompts app) : ¬ m.Dismisses other := by
  obtain ⟨⟨_, hcall⟩, -⟩ := hp
  rintro ⟨-, hdismiss⟩
  rw [hcall] at hdismiss
  exact hdismiss

/-- A call that shows a prompt changes none of the values that app lock goes by. -/
theorem Moment.Prompts.rules (hp : m.Prompts app) : m.outcome.state.rules = m.engine.rules := by
  obtain ⟨⟨_, hcall⟩, -⟩ := hp
  have hstep : m.outcome.state.rules = m.engine.rules.after m.input.call := rules_step ..
  rw [hstep, hcall]
  rfl

/-- Only an app that is locked gets a prompt, and the engine remembers it. -/
theorem foreground_of_block {foregrounded : Bool}
    (hblock : (e.foreground host app foregrounded).answer = .block) :
    e.rules.Enforces app ∧ (e.foreground host app foregrounded).state.pendingLock = some app ∧
      (e.foreground host app foregrounded).effects =
        [.surface (.show (.appLock app) lockMessage)] := by
  cases hc : e.consults app foregrounded with
  | true =>
    -- Three of the four things that `consults` asks are those that the rules enforce by.
    have henforces : e.rules.Enforces app := by
      simp only [consults, Bool.and_eq_true, Bool.not_eq_true'] at hc
      exact ⟨hc.2, hc.1.1.2, hc.1.1.1⟩
    rw [foreground_of_consults hc] at hblock ⊢
    dsimp only at hblock ⊢
    split at hblock
    · cases hblock
    next hlocked =>
      rw [if_neg hlocked]
      exact ⟨henforces, rfl, rfl⟩
  | false =>
    rw [foreground_of_not_consults hc] at hblock
    dsimp only [Outcome.answering] at hblock
    split at hblock <;> cases hblock

/-- An app that is not blocked gets no prompt. -/
theorem foreground_of_not_block {foregrounded : Bool}
    (hallow : (e.foreground host app foregrounded).answer ≠ .block) :
    (e.foreground host app foregrounded).state.pendingLock = e.pendingLock ∧
      (e.foreground host app foregrounded).effects = [] := by
  cases hc : e.consults app foregrounded with
  | true =>
    rw [foreground_of_consults hc] at hallow ⊢
    dsimp only at hallow ⊢
    split at hallow
    next hopen =>
      rw [if_pos hopen]
      exact ⟨rfl, rfl⟩
    · exact absurd rfl hallow
  | false =>
    rw [foreground_of_not_consults hc]
    exact ⟨rfl, rfl⟩

/-- Only an app that is locked gets a prompt. -/
theorem Moment.Prompts.enforces (hp : m.Prompts app) : m.engine.rules.Enforces app := by
  obtain ⟨e, host, call⟩ := m
  obtain ⟨⟨foregrounded, hcall⟩, hanswer⟩ := hp
  obtain rfl : call = .foreground app foregrounded := hcall
  have hblock : (e.foreground host app foregrounded).answer = .block := Answer.lock.inj hanswer
  exact (foreground_of_block hblock).1

/-- Prompts come up in calls about app lock. -/
theorem Moment.Prompts.part (hp : m.Prompts app) : m.input.call.part = .lock := by
  obtain ⟨⟨_, hcall⟩, -⟩ := hp
  rw [hcall]
  rfl

/-- Prompts go away in calls about app lock, and in those that are about all parts. -/
theorem Moment.Dismisses.part (hd : m.Dismisses app) :
    m.input.call.part = .lock ∨ m.input.call.part = .whole := by
  obtain ⟨-, hdismiss⟩ := hd
  split at hdismiss
  next hcall => exact .inl (by rw [hcall]; rfl)
  next hcall => exact .inl (by rw [hcall]; rfl)
  next hcall => exact .inr (by rw [hcall]; rfl)
  · exact hdismiss.elim

/-- What a call makes of the prompts: one comes up, the remembered one goes away, or all stay as
they are. -/
inductive Moment.Turn (m : Moment) : Prop
  | prompts {app : String} (hprompts : m.Prompts app)
      (hpending : m.outcome.state.pendingLock = some app)
      (heffects : m.outcome.effects = [.surface (.show (.appLock app) lockMessage)])
  | dismisses {app : String} {rest : List Effect} (hdismisses : m.Dismisses app)
      (hpending : m.outcome.state.pendingLock = none)
      (heffects : m.outcome.effects = .surface (.hide (.appLock app)) :: rest)
      (hrest : Spares rest)
  | keeps (hprompts : ∀ app, ¬ m.Prompts app) (hdismisses : ∀ app, ¬ m.Dismisses app)
      (hpending : m.outcome.state.pendingLock = m.engine.pendingLock)
      (hspares : Spares m.outcome.effects)

/-- A call that does nothing outside leaves the prompts as they are, if the engine remembers the
same one. -/
theorem turn_of_quiet (hprompts : ∀ app, ¬ m.Prompts app) (hdismisses : ∀ app, ¬ m.Dismisses app)
    (hpending : m.outcome.state.pendingLock = m.engine.pendingLock)
    (heffects : m.outcome.effects = []) : m.Turn := by
  refine .keeps hprompts hdismisses hpending (spares_of_surface_nil ?_)
  rw [heffects]
  rfl

/-- An app that comes to the foreground gets a prompt if it is blocked; none goes away. -/
theorem turn_foreground (e : Engine) (host : Host) (app : String) (foregrounded : Bool) :
    Moment.Turn ⟨e, host, .foreground app foregrounded⟩ := by
  by_cases hblock : (e.foreground host app foregrounded).answer = .block
  · obtain ⟨-, hpending, heffects⟩ := foreground_of_block hblock
    exact .prompts ⟨⟨foregrounded, rfl⟩, congrArg Answer.lock hblock⟩ hpending heffects
  · obtain ⟨hpending, heffects⟩ := foreground_of_not_block hblock
    refine turn_of_quiet ?_ (fun _ hd => hd.2) hpending heffects
    rintro _ ⟨-, hanswer⟩
    exact hblock (Answer.lock.inj hanswer)

/-- An unlock takes away the remembered prompt if it is that of the app. -/
theorem turn_grant (e : Engine) (host : Host) (app : String) :
    Moment.Turn ⟨e, host, .grant app⟩ := by
  by_cases hs : e.stopped = true
  · have hgrant : e.grant host app = .answering e () := if_pos hs
    refine turn_of_quiet (not_prompts nofun) ?_ (congrArg (·.state.pendingLock) hgrant)
      (congrArg Outcome.effects hgrant)
    rintro _ ⟨-, -, hrunning⟩
    exact Bool.false_ne_true (hrunning.symm.trans hs)
  · -- The session is opened in any case; the prompt goes only if it is the remembered one.
    by_cases hpending : e.pendingLock = some app
    · have hgrant : e.grant host app =
          ⟨{ e with sessions := e.sessions.grant app host.now, pendingLock := none }, (),
            [.surface (.hide (.appLock app))]⟩ := by
        unfold grant
        rw [if_neg hs]
        exact if_pos hpending
      exact .dismisses ⟨hpending, rfl, Bool.eq_false_iff.2 hs⟩
        (congrArg (·.state.pendingLock) hgrant) (congrArg Outcome.effects hgrant)
        (spares_of_surface_nil rfl)
    · have hgrant : e.grant host app =
          .answering { e with sessions := e.sessions.grant app host.now } () := by
        unfold grant
        rw [if_neg hs]
        exact if_neg hpending
      refine turn_of_quiet (not_prompts nofun) ?_ (congrArg (·.state.pendingLock) hgrant)
        (congrArg Outcome.effects hgrant)
      rintro a ⟨hpending', rfl, -⟩
      exact hpending hpending'

/-- A call that switches app lock off takes the remembered prompt away, if there is one. -/
theorem turn_of_switched_off (hprompts : ∀ app, ¬ m.Prompts app)
    (hdismisses : ∀ app, m.engine.pendingLock = some app → m.Dismisses app)
    (hpending : m.outcome.state.pendingLock = none)
    (heffects : m.outcome.effects =
      (m.engine.pendingLock.map fun app => .surface (.hide (.appLock app))).toList ++ rest)
    (hrest : Spares rest) : m.Turn := by
  -- With no prompt remembered, the switch has nothing to hide and all stay as they are.
  cases hold : m.engine.pendingLock with
  | some app =>
    rw [hold] at heffects
    exact .dismisses (hdismisses app hold) hpending heffects hrest
  | none =>
    rw [hold] at heffects
    refine .keeps hprompts ?_ (hpending.trans hold.symm) ?_
    · rintro app ⟨hsome, -⟩
      rw [hold] at hsome
      cases hsome
    · rw [heffects]
      exact hrest

/-- Switching app lock off takes the remembered prompt away; switching it on does nothing to
prompts. -/
theorem turn_setAppLock (e : Engine) (host : Host) (on : Bool) :
    Moment.Turn ⟨e, host, .setAppLock on⟩ := by
  have hpending : (e.setAppLock on).state.pendingLock = if on then e.pendingLock else none := by
    rw [setAppLock_state]
  have heffects := e.setAppLock_effects on
  cases on with
  | true =>
    exact turn_of_quiet (not_prompts nofun) (fun _ hd => Bool.false_ne_true hd.2.symm) hpending
      heffects
  | false =>
    have hrest : Spares [] := spares_of_surface_nil rfl
    refine turn_of_switched_off (not_prompts nofun) (fun app hold => ⟨hold, rfl⟩) hpending ?_ hrest
    rw [List.append_nil]
    exact heffects

/-- A reload forgets the prompt exactly if it switches app lock off. -/
theorem reload_pendingLock (e : Engine) (s : Settings) :
    (e.reload s).state.pendingLock = if e.losesAppLock s then none else e.pendingLock := by
  rw [reload_state]
  rfl

/-- Of the three switches that a reload may move, only that of app lock has to do with prompts. -/
theorem spares_reload (e : Engine) (s : Settings) :
    Spares ((if e.losesTamper s then ((e.retune s).setTamper false).effects else []) ++
      if e.losesKeyword s then e.keywords.cancelAll.effects else []) := by
  have hnil : Spares [] := spares_of_surface_nil rfl
  refine spares_append.2 ⟨?_, ?_⟩
  · split
    · exact spares_of_surface_nil ((e.retune s).setTamper_surface false)
    · exact hnil
  · split
    · exact spares_cancelAll e.keywords
    · exact hnil

/-- A reload takes the remembered prompt away if it switches app lock off. -/
theorem turn_reload (e : Engine) (host : Host) (s : Settings) :
    Moment.Turn ⟨e, host, .reload s⟩ := by
  have hprompts : ∀ app, ¬ Moment.Prompts ⟨e, host, .reload s⟩ app := not_prompts nofun
  have hpending := e.reload_pendingLock s
  have heffects := e.reload_effects s
  have hrest := e.spares_reload s
  rw [setAppLock_effects] at heffects
  cases hloses : e.losesAppLock s with
  | true =>
    rw [hloses] at hpending heffects
    exact turn_of_switched_off hprompts (fun app hold => ⟨hold, hloses⟩) hpending heffects hrest
  | false =>
    rw [hloses] at hpending heffects
    refine .keeps hprompts ?_ hpending ?_
    · rintro app ⟨-, hoff⟩
      exact Bool.false_ne_true (hloses.symm.trans hoff)
    · show Spares (e.reload s).effects
      rw [heffects]
      exact hrest

/-- Every call does one of the three. -/
theorem turn (m : Moment) : m.Turn := by
  -- By the part of the engine a call is about. Calls about pages, the window and keywords have
  -- neither a prompt to show nor one to take away.
  have hquiet (hlock : m.input.call.part ≠ .lock) (hwhole : m.input.call.part ≠ .whole)
      (hpending : m.outcome.state.pendingLock = m.engine.pendingLock)
      (hspares : Spares m.outcome.effects) : m.Turn :=
    .keeps (fun _ hp => hlock hp.part) (fun _ hd => hd.part.elim hlock hwhole) hpending hspares
  obtain ⟨e, i⟩ := m
  cases hpart : i.call.part
  case tamper =>
    obtain ⟨bypass, tamper, hstep⟩ := e.step_of_tamper hpart
    have hpending : (e.step i).state.pendingLock = e.pendingLock := by rw [hstep]
    refine hquiet ?_ ?_ hpending (spares_of_tamper hpart)
    · exact fun hlock => by cases hpart.symm.trans hlock
    · exact fun hwhole => by cases hpart.symm.trans hwhole
  case keyword =>
    obtain ⟨keywords, matcher, on, hstep⟩ := e.step_of_keyword hpart
    have hpending : (e.step i).state.pendingLock = e.pendingLock := by rw [hstep]
    refine hquiet ?_ ?_ hpending (spares_of_keyword hpart)
    · exact fun hlock => by cases hpart.symm.trans hlock
    · exact fun hwhole => by cases hpart.symm.trans hwhole
  case whole =>
    obtain ⟨host, call⟩ := i
    cases call
    case reload s => exact turn_reload e host s
    case shutdown =>
      refine .keeps (not_prompts nofun) (fun _ hd => hd.2) ?_ e.spares_shutdown
      show e.shutdown.state.pendingLock = e.pendingLock
      unfold shutdown
      split <;> rfl
    all_goals cases hpart
  case lock =>
    obtain ⟨host, call⟩ := i
    cases call
    case foreground app foregrounded => exact turn_foreground e host app foregrounded
    case grant app => exact turn_grant e host app
    case setAppLock on => exact turn_setAppLock e host on
    case unprotect app =>
      refine turn_of_quiet (not_prompts nofun) (fun _ hd => hd.2) ?_ rfl
      show (e.unprotect app).pendingLock = e.pendingLock
      unfold unprotect
      split <;> rfl
    case touch app =>
      refine turn_of_quiet (not_prompts nofun) (fun _ hd => hd.2) ?_ rfl
      show (e.touch host app).pendingLock = e.pendingLock
      unfold touch
      split <;> rfl
    case screenOff =>
      refine turn_of_quiet (not_prompts nofun) (fun _ hd => hd.2) ?_ rfl
      show e.screenOff.pendingLock = e.pendingLock
      unfold screenOff
      split <;> rfl
    -- These have no effects, and do not look at the remembered prompt.
    case protect | setProtected | isUnlocked | revoke | sweep =>
      exact turn_of_quiet (not_prompts nofun) (fun _ hd => hd.2) rfl rfl
    all_goals cases hpart

/-- The prompt that the engine remembers after a call is the one that comes up, or the one it
remembered before, if it is not taken away. -/
theorem pendingLock_step (m : Moment) : m.outcome.state.pendingLock = some app ↔
    m.Prompts app ∨
      (∀ a, ¬ m.Prompts a) ∧ ¬ m.Dismisses app ∧ m.engine.pendingLock = some app := by
  cases turn m with
  | @prompts a hprompts hpending _ =>
    rw [hpending, Option.some.injEq]
    constructor
    · rintro rfl
      exact .inl hprompts
    · -- Two prompts of one call are the same.
      rintro (happ | ⟨hnone, -⟩)
      · exact happ.eq hprompts
      · exact absurd hprompts (hnone a)
  | dismisses hdismisses hpending _ _ =>
    rw [hpending]
    refine iff_of_false (Option.some_ne_none app ∘ Eq.symm) ?_
    rintro (happ | ⟨-, hnot, hold⟩)
    · exact happ.not_dismisses hdismisses
    · obtain rfl := Option.some.inj (hold.symm.trans hdismisses.1)
      exact hnot hdismisses
  | keeps hprompts hdismisses hpending _ =>
    rw [hpending, or_iff_right (hprompts app), and_iff_right hprompts,
      and_iff_right (hdismisses app)]

/-- The prompts on the screen after a call are the one that comes up, and those that were there
before and are not taken away. -/
theorem mem_actions (m : Moment) : .appLock app ∈ s.applyAll m.actions ↔
    m.Prompts app ∨ ¬ m.Dismisses app ∧ .appLock app ∈ s := by
  unfold Moment.actions
  cases turn m with
  | @prompts a hprompts _ heffects =>
    rw [heffects]
    show .appLock app ∈ s.apply (.show (.appLock a) lockMessage) ↔ _
    rw [Screen.mem_show_prompt, and_iff_right hprompts.not_dismisses]
    refine or_congr_left ⟨?_, fun happ => hprompts.eq happ⟩
    rintro rfl
    exact hprompts
  | @dismisses a rest hdismisses _ heffects hrest =>
    rw [heffects]
    show .appLock app ∈ (s.apply (.hide (.appLock a))).applyAll (rest.filterMap Effect.surface?) ↔ _
    rw [mem_applyAll_of_spared hrest, Screen.mem_hide_prompt,
      or_iff_right fun happ => happ.not_dismisses hdismisses]
    -- The prompt that goes is the remembered one, so an app is dismissed exactly if it is that app.
    refine and_congr_left fun _ => not_congr ⟨?_, ?_⟩
    · rintro rfl
      exact hdismisses
    · intro happ
      exact Option.some.inj (happ.1.symm.trans hdismisses.1)
  | keeps hprompts hdismisses _ hspares =>
    rw [mem_applyAll_of_spared hspares, or_iff_right (hprompts app),
      and_iff_right (hdismisses app)]

end Warden.Engine
