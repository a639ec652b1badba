import Warden.Proofs.Engine.Rest

namespace Warden

/-!
# What belongs to which part

Every field of the engine and every effect belongs to app lock, to tamper protection or to keyword
protection.  A call about one part reads and changes the fields of its part only, and asks for
effects of its part only.

* `Effect.part`, `own`, `Within` — the part of an effect, and the effects of a part.
* `within_step` — a call asks for effects of its own part.
* `Engine.share` — the engine with the fields of one part, and all others as in a new engine.
* `Answer.sight`, `Engine.seen` — an outcome as it looks to one part.
* `Engine.seen_share` — to a part, a call looks the same if the other parts are as in a new engine.
* `Engine.share_step` — and a call about another part does not show.
-/

/-! ### Effects -/

/-- The part that an overlay belongs to. -/
def Overlay.part : Overlay → Engine.Part
  | .appLock _ => .lock
  | .tamper _ => .tamper
  | .keyword _ _ => .keyword

/-- The part that sends a user home. -/
def HomeReason.part : HomeReason → Engine.Part
  | .tamper _ => .tamper
  | .countdownExpired _ => .keyword

/-- The part that acts on the screen. -/
def Surface.Action.part : Surface.Action → Engine.Part
  | .show o _ | .update o | .hide o => o.part
  | .goHome reason => reason.part
  | .clearRecents _ => .tamper

/-- The part that an event in the log is about. -/
def Audit.Action.part : Audit.Action → Engine.Part
  | .countdownExpired | .graceGranted => .keyword
  | _ => .tamper

/-- The part that asks for an effect. -/
def Effect.part : Effect → Engine.Part
  | .surface a => a.part
  | .timer _ => .keyword
  | .save _ => .tamper
  | .record r => r.action.part

/-- The effects of a part. -/
def own (g : Engine.Part) (effects : List Effect) : List Effect :=
  effects.filter fun x => x.part = g

/-- Whether all effects of a list are those of a part. -/
def Within (g : Engine.Part) (effects : List Effect) : Prop := ∀ x ∈ effects, x.part = g

section Within

variable {g g' : Engine.Part} {effects rest : List Effect}

theorem own_append (g : Engine.Part) (effects rest : List Effect) :
    own g (effects ++ rest) = own g effects ++ own g rest := List.filter_append ..

theorem within_nil : Within g [] := List.forall_mem_nil _

theorem within_cons {x : Effect} (hx : x.part = g) (hrest : Within g rest) :
    Within g (x :: rest) := List.forall_mem_cons.2 ⟨hx, hrest⟩

theorem Within.append (h : Within g effects) (hrest : Within g rest) :
    Within g (effects ++ rest) := List.forall_mem_append.2 ⟨h, hrest⟩

/-- What one part asks for is all that this part asks for, and nothing that another one does. -/
theorem Within.own (h : Within g effects) (g' : Engine.Part) :
    own g' effects = if g = g' then effects else [] := by
  split
  next heq => exact List.filter_eq_self.2 fun x hx => decide_eq_true ((h x hx).trans heq)
  next hne =>
    refine List.filter_eq_nil_iff.2 fun x hx => ?_
    rw [h x hx, decide_eq_true_eq]
    exact hne

/-- What the log may hear of belongs to the part that the event is about. -/
theorem within_record (p : Prop) [Decidable p] {r : Audit.Record} (hr : r.action.part = g) :
    Within g (if p then [.record r] else []) := by
  split
  · exact within_cons hr within_nil
  · exact within_nil

/-- What is saved is the knowledge of tamper protection. -/
theorem within_saves (h : ∀ x ∈ effects, ∃ p, x = .save p) : Within .tamper effects := by
  intro x hx
  obtain ⟨p, rfl⟩ := h x hx
  rfl

/-- Only keyword protection has timers. -/
theorem timers_own (effects : List Effect) :
    (own .keyword effects).filterMap Effect.timer? = effects.filterMap Effect.timer? := by
  -- On the effects. What is left out of the part's own is no timer, so both sides skip it.
  induction effects with
  | nil => rfl
  | cons x rest ih =>
    by_cases hx : x.part = .keyword
    · rw [own, List.filter_cons_of_pos (by simpa using hx), List.filterMap_cons,
        List.filterMap_cons]
      simp only [own] at ih
      rw [ih]
    · have hnone : x.timer? = none := by
        cases x with
        | timer call => exact absurd rfl hx
        | _ => rfl
      rw [own, List.filter_cons_of_neg (by simpa using hx), List.filterMap_cons_none hnone]
      exact ih

end Within

/-! ### Countdowns -/

namespace Keyword.Guard

variable {g : Guard}

/-- The countdown that comes to the front again belongs to keyword protection. -/
theorem within_reshow (g : Guard) : Within .keyword g.reshow := by
  intro x hx
  obtain ⟨app, n, c, rfl, -⟩ := mem_reshow hx
  rfl

/-- So does all that a cancellation asks for. -/
theorem within_cancelAll (g : Guard) : Within .keyword g.cancelAll.effects := by
  intro x hx
  obtain ⟨entry, -, hending⟩ := List.mem_flatMap.1 hx
  rcases mem_ending hending with rfl | ⟨n, rfl⟩ <;> rfl

/-- So does all that restricted content asks for. -/
theorem within_violate (g : Guard) (app : String) (timer : TimerId) :
    Within .keyword (g.violate app timer).effects := by
  cases hc : g.challenge? app with
  | none =>
    rw [violate_idle hc]
    exact within_cons rfl (within_cons rfl within_nil)
  | some c =>
    rw [violate_live hc]
    exact within_nil

/-- So does all that a deferral asks for. -/
theorem within_defer (g : Guard) (app : String) (timer : TimerId) :
    Within .keyword (g.defer app timer).effects := by
  rcases g.deferrable_or app with ⟨c, n, hc, hd, hp⟩ | hno
  · rw [defer_accepted hc hd hp]
    exact within_cons rfl (within_cons rfl (within_cons rfl (within_reshow _)))
  · rw [defer_refused hno]
    exact within_nil

/-- So does all that the event of a timer asks for. -/
theorem within_deliver (g : Guard) (violating : String → Bool) (timer : TimerId)
    (event : TimerEvent) : Within .keyword (g.deliver violating timer event).effects := by
  have hdelivery := g.delivery violating timer event
  generalize g.deliver violating timer event = o at hdelivery ⊢
  cases hdelivery with
  | stale | resolved => exact within_nil
  | ticked | resumed => exact within_cons rfl (within_cons rfl within_nil)
  | expired => exact within_cons rfl (within_cons rfl (within_reshow _))

end Keyword.Guard

namespace Engine

variable {e : Engine} {i : Input} {g : Part} {host : Host}

/-! ### The effects of a call -/

/-- The switch of app lock asks for nothing but that a prompt goes away. -/
theorem within_setAppLock (e : Engine) (on : Bool) : Within .lock (e.setAppLock on).effects := by
  rw [setAppLock_effects]
  split
  · exact within_nil
  · cases e.pendingLock with
    | none => exact within_nil
    | some app => exact within_cons rfl within_nil

/-- An app in the foreground asks for nothing but its prompt. -/
theorem within_foreground (e : Engine) (host : Host) (app : String) (foregrounded : Bool) :
    Within .lock (e.foreground host app foregrounded).effects := by
  cases h : e.consults app foregrounded with
  | true =>
    rw [foreground_of_consults h]
    dsimp only
    split
    · exact within_nil
    · exact within_cons rfl within_nil
  | false =>
    rw [foreground_of_not_consults h]
    exact within_nil

/-- An unlock asks for nothing but that its prompt goes away. -/
theorem within_grant (e : Engine) (host : Host) (app : String) :
    Within .lock (e.grant host app).effects := by
  unfold grant
  split
  · exact within_nil
  · dsimp only
    split
    · exact within_cons rfl within_nil
    · exact within_nil

/-- App lock asks for nothing but its prompts. -/
theorem within_of_lock (hpart : i.call.part = .lock) : Within .lock (e.step i).effects := by
  obtain ⟨host, call⟩ := i
  cases call
  case setAppLock on => exact e.within_setAppLock on
  case foreground app foregrounded => exact e.within_foreground host app foregrounded
  case grant app => exact e.within_grant host app
  -- The other calls of this part have no effects.
  all_goals first | exact within_nil | cases hpart

/-- A reading of the window saves it and tells the log that it has run out. -/
theorem within_poll (e : Engine) (host : Host) : Within .tamper (e.poll host).effects := by
  have hrecord : Within .tamper (expiryRecord (e.bypass.poll host.now).answer) := by
    cases (e.bypass.poll host.now).answer with
    | justExpired => exact within_cons rfl within_nil
    | _ => exact within_nil
  exact (within_saves (e.bypass.writesThrough_poll host.now).saves).append hrecord

/-- The switch of tamper protection saves, and tells the log. -/
theorem within_setTamper (e : Engine) (on : Bool) : Within .tamper (e.setTamper on).effects := by
  rw [setTamper_effects]
  exact (within_saves (e.bypass.writesThrough_setEnabled on).saves).append (within_record _ rfl)

/-- A report about a page reads the window, decides, and blocks the page or does not. -/
theorem within_navigate (e : Engine) (host : Host) (n : Navigation) :
    Within .tamper (e.navigate host n).effects := by
  cases hs : e.stopped with
  | true =>
    rw [navigate_stopped hs]
    exact within_nil
  | false =>
    -- Only a new attempt has consequences outside: the page is blocked, and the log hears of it.
    have hafter (d : Tamper.Decision) : Within .tamper (afterDecision e.clearRecents n d) := by
      cases d with
      | trigger attempt =>
        unfold afterDecision blocking
        cases e.clearRecents <;> simp [Within, Effect.part, Surface.Action.part, Overlay.part,
          HomeReason.part, Audit.Action.part]
      | _ => exact within_nil
    have hdecide := within_saves (e.tamper.saves_decide (e.bypass.poll host.now).state host.later n)
    rw [navigate_running hs]
    exact (e.within_poll host).append (hdecide.append (hafter _))

/-- Tamper protection covers settings pages, sends their users home, and saves what it knows. -/
theorem within_of_tamper (hpart : i.call.part = .tamper) : Within .tamper (e.step i).effects := by
  obtain ⟨host, call⟩ := i
  have hpoll := e.within_poll host
  cases call
  case complete => exact within_cons rfl (within_cons rfl within_nil)
  case withinBypass | remainingBypass => exact hpoll
  case status => exact hpoll.append within_nil
  case gate =>
    exact hpoll.append
      (within_saves ((e.bypass.poll host.now).state.writesThrough_poll host.later.now).saves)
  case clearBypass =>
    exact (within_saves e.bypass.writesThrough_clear.saves).append (within_record _ rfl)
  case confirm c => exact within_saves (e.bypass.writesThrough_confirm _ _).saves
  case setTamper on => exact e.within_setTamper on
  case navigate n => exact e.within_navigate host n
  all_goals cases hpart

/-- Keyword protection has its countdowns on the screen and its timers. -/
theorem within_of_keyword (hpart : i.call.part = .keyword) :
    Within .keyword (e.step i).effects := by
  obtain ⟨host, call⟩ := i
  cases call
  case setKeyword on =>
    show Within .keyword (e.setKeyword on).effects
    rw [setKeyword_effects]
    split
    · exact within_nil
    · exact e.keywords.within_cancelAll
  case content app text =>
    show Within .keyword (e.content host app text).effects
    cases h : e.heeds text with
    | true =>
      rw [content_of_heeds h]
      exact e.keywords.within_violate app host.nextTimer
    | false =>
      rw [content_of_not_heeds h]
      exact within_nil
  case deferChallenge app =>
    show Within .keyword (e.deferChallenge host app).effects
    cases hs : e.stopped with
    | true =>
      rw [deferChallenge_stopped hs]
      exact within_nil
    | false =>
      rw [deferChallenge_running hs]
      exact (e.keywords.within_defer app host.nextTimer).append (within_record _ rfl)
  case timer event =>
    show Within .keyword (e.timer host event).effects
    cases hs : e.stopped with
    | true =>
      rw [timer_stopped hs]
      exact within_nil
    | false =>
      rw [timer_running hs]
      exact (e.keywords.within_deliver _ host.nextTimer event).append (within_record _ rfl)
  all_goals first | exact within_nil | cases hpart

/-- A call about one part asks for effects of that part only. -/
theorem within_step (e : Engine) (hpart : i.call.part ≠ .whole) :
    Within i.call.part (e.step i).effects := by
  cases h : i.call.part
  case lock => exact within_of_lock h
  case tamper => exact within_of_tamper h
  case keyword => exact within_of_keyword h
  case whole => exact absurd h hpart

/-- What a reload asks for, part by part. -/
theorem own_reload (e : Engine) (s : Settings) (g : Part) :
    own g (e.reload s).effects =
      match g with
      | .lock => if e.losesAppLock s then ((e.retune s).setAppLock false).effects else []
      | .tamper => if e.losesTamper s then ((e.retune s).setTamper false).effects else []
      | .keyword => if e.losesKeyword s then e.keywords.cancelAll.effects else []
      | .whole => [] := by
  -- Each of the three switches that a reload may move asks for effects of its own part.
  have hlock : Within .lock
      (if e.losesAppLock s then ((e.retune s).setAppLock false).effects else []) := by
    split
    · exact within_setAppLock _ false
    · exact within_nil
  have htamper : Within .tamper
      (if e.losesTamper s then ((e.retune s).setTamper false).effects else []) := by
    split
    · exact within_setTamper _ false
    · exact within_nil
  have hkeyword : Within .keyword
      (if e.losesKeyword s then e.keywords.cancelAll.effects else []) := by
    split
    · exact e.keywords.within_cancelAll
    · exact within_nil
  rw [reload_effects, own_append, own_append, hlock.own, htamper.own, hkeyword.own]
  cases g <;> simp

/-- Only countdowns have to be ended before the engine stops. -/
theorem within_shutdown (e : Engine) : Within .keyword e.shutdown.effects := by
  unfold shutdown
  split
  · exact within_nil
  · exact e.keywords.within_cancelAll.append (within_cons rfl within_nil)

/-! ### Shares -/

/-- The engine with the fields of one part, and all others as in a new engine.  That it has stopped
is known to every part. -/
def share (e : Engine) (g : Part) : Engine :=
  let bare : Engine := { start {} .empty with stopped := e.stopped }
  match g with
  | .lock =>
    { bare with
      sessions := e.sessions
      protectedApps := e.protectedApps
      appLockEnabled := e.appLockEnabled
      relockOnScreenOff := e.relockOnScreenOff
      pendingLock := e.pendingLock }
  | .tamper =>
    { bare with bypass := e.bypass, tamper := e.tamper, clearRecents := e.clearRecents }
  | .keyword =>
    { bare with keywords := e.keywords, matcher := e.matcher, keywordEnabled := e.keywordEnabled }
  | .whole => bare

/-- An answer as tamper protection sees it: the members of a summary that are about other parts are
left out. -/
def Answer.sight : Answer → Answer
  | .status s =>
    .status { s with
      appLockEnabled := false
      keywordEnabled := false
      protectedApps := []
      unlockSessions := 0
      keywordChallenges := 0 }
  | answer => answer

/-- An outcome as it looks to one part. -/
def seen (g : Part) (o : Outcome Engine Answer) : Outcome Engine Answer :=
  ⟨o.state.share g, o.answer.sight, own g o.effects⟩

/-- A part that a call is not about does not see it. -/
theorem share_step (e : Engine) (hpart : i.call.part ≠ .whole) (hg : i.call.part ≠ g) :
    (e.step i).state.share g = e.share g := by
  -- A call writes only fields of its own part, which the share of another part replaces anyway.
  cases h : i.call.part
  case lock =>
    obtain ⟨sessions, apps, on, pending, hstep⟩ := e.step_of_lock h
    rw [hstep]
    cases g with
    | lock => exact absurd h hg
    | _ => rfl
  case tamper =>
    obtain ⟨bypass, tamper, hstep⟩ := e.step_of_tamper h
    rw [hstep]
    cases g with
    | tamper => exact absurd h hg
    | _ => rfl
  case keyword =>
    obtain ⟨keywords, matcher, on, hstep⟩ := e.step_of_keyword h
    rw [hstep]
    cases g with
    | keyword => exact absurd h hg
    | _ => rfl
  case whole => exact absurd h hpart

/-! ### Calls about a part -/

/-- Every part knows whether the engine has stopped. -/
@[simp] theorem share_stopped (e : Engine) (g : Part) : (e.share g).stopped = e.stopped := by
  cases g <;> rfl

/-- An app in the foreground is looked up in the fields of app lock alone. -/
theorem seen_share_foreground (e : Engine) (host : Host) (app : String) (foregrounded : Bool) :
    seen .lock (((e.share .lock).foreground host app foregrounded).map .lock) =
      seen .lock ((e.foreground host app foregrounded).map .lock) := by
  cases h : e.consults app foregrounded with
  | true =>
    have h' : (e.share .lock).consults app foregrounded = true := h
    have hsessions : (e.share .lock).sessions = e.sessions := rfl
    rw [foreground_of_consults h, foreground_of_consults h', hsessions]
    dsimp only
    split <;> rfl
  | false =>
    have h' : (e.share .lock).consults app foregrounded = false := h
    rw [foreground_of_not_consults h, foreground_of_not_consults h']
    rfl

/-- An unlock looks at the fields of app lock alone. -/
theorem seen_share_grant (e : Engine) (host : Host) (app : String) :
    seen .lock (((e.share .lock).grant host app).map fun _ => .done) =
      seen .lock ((e.grant host app).map fun _ => .done) := by
  have hpending : (e.share .lock).pendingLock = e.pendingLock := rfl
  unfold grant
  rw [share_stopped]
  split
  · rfl
  · dsimp only
    rw [hpending]
    split <;> rfl

/-- App lock needs no other part. -/
theorem seen_share_lock (hpart : i.call.part = .lock) :
    seen .lock ((e.share .lock).step i) = seen .lock (e.step i) := by
  obtain ⟨host, call⟩ := i
  cases call
  -- Where a call looks at a field before it changes another one, that field is in the share as it
  -- stands.
  case unprotect app =>
    have hprotected : (e.share .lock).isProtected app = e.isProtected app := rfl
    simp only [step, unprotect, hprotected]
    split <;> rfl
  case setAppLock on =>
    cases on with
    | true => rfl
    | false =>
      have hpending : (e.share .lock).pendingLock = e.pendingLock := rfl
      simp only [step, setAppLock, hpending]
      cases e.pendingLock <;> rfl
  case foreground app foregrounded => exact e.seen_share_foreground host app foregrounded
  case touch app =>
    simp only [step, touch, share_stopped]
    split <;> rfl
  case grant app => exact e.seen_share_grant host app
  case screenOff =>
    have hrelock : (e.share .lock).relockOnScreenOff = e.relockOnScreenOff := rfl
    simp only [step, screenOff, hrelock]
    split <;> rfl
  all_goals first | rfl | cases hpart

/-- Tamper protection needs no other part. -/
theorem seen_share_tamper (hpart : i.call.part = .tamper) :
    seen .tamper ((e.share .tamper).step i) = seen .tamper (e.step i) := by
  obtain ⟨host, call⟩ := i
  cases call
  case setTamper on => cases on <;> rfl
  case navigate n =>
    simp only [step, navigate, share_stopped]
    split <;> rfl
  all_goals first | rfl | cases hpart

/-- Keyword protection needs no other part. -/
theorem seen_share_keyword (hpart : i.call.part = .keyword) :
    seen .keyword ((e.share .keyword).step i) = seen .keyword (e.step i) := by
  obtain ⟨host, call⟩ := i
  cases call
  case setKeyword on => cases on <;> rfl
  case content app text =>
    show seen .keyword (((e.share .keyword).content host app text).map .content) =
      seen .keyword ((e.content host app text).map .content)
    cases h : e.heeds text with
    | true =>
      have h' : (e.share .keyword).heeds text = true := h
      rw [content_of_heeds h, content_of_heeds h']
      rfl
    | false =>
      have h' : (e.share .keyword).heeds text = false := h
      rw [content_of_not_heeds h, content_of_not_heeds h']
      rfl
  case deferChallenge app =>
    simp only [step, deferChallenge, share_stopped]
    split <;> rfl
  case timer event =>
    cases event <;> simp only [step, timer, share_stopped] <;> split <;> rfl
  all_goals first | rfl | cases hpart

/-! ### Calls about all parts -/

/-- A reload is to each part what it is without the others. -/
theorem seen_share_reload (e : Engine) (g : Part) (s : Settings) :
    seen g ((e.share g).step ⟨host, .reload s⟩) = seen g (e.step ⟨host, .reload s⟩) := by
  -- The state and the effects apart: a reload writes all fields, and what it asks for goes by the
  -- switches of the part.
  have hstate : ((e.share g).reload s).state.share g = (e.reload s).state.share g := by
    rw [reload_state, reload_state]
    cases g <;> rfl
  have heffects : own g ((e.share g).reload s).effects = own g (e.reload s).effects := by
    rw [own_reload, own_reload]
    cases g with
    | lock =>
      simp only [setAppLock_effects]
      rfl
    | tamper =>
      simp only [setTamper_effects]
      rfl
    | _ => rfl
  unfold seen
  congr 1

/-- The end is to each part what it is without the others. -/
theorem seen_share_shutdown (e : Engine) (g : Part) :
    seen g ((e.share g).step ⟨host, .shutdown⟩) = seen g (e.step ⟨host, .shutdown⟩) := by
  have hstate : (e.share g).shutdown.state.share g = e.shutdown.state.share g := by
    unfold shutdown
    rw [share_stopped]
    split
    · cases g <;> rfl
    · cases g <;> rfl
  have heffects : own g (e.share g).shutdown.effects = own g e.shutdown.effects := by
    -- What the end asks for is all of keyword protection, so the other parts see nothing of it.
    rw [(within_shutdown _).own, (within_shutdown _).own]
    split
    next hg =>
      subst hg
      unfold shutdown
      rw [share_stopped]
      split <;> rfl
    · rfl
  unfold seen
  congr 1

/-- **To each part a call looks as it would if all other parts were those of a new engine**, be it
about this part or about the whole engine. -/
theorem seen_share (e : Engine) (h : i.call.part = g ∨ i.call.part = .whole) :
    seen g ((e.share g).step i) = seen g (e.step i) := by
  by_cases hwhole : i.call.part = .whole
  · obtain ⟨host, call⟩ := i
    cases call
    case reload s => exact e.seen_share_reload g s
    case shutdown => exact e.seen_share_shutdown g
    all_goals cases hwhole
  · obtain rfl := h.resolve_right hwhole
    cases hpart : i.call.part
    case lock => exact seen_share_lock hpart
    case tamper => exact seen_share_tamper hpart
    case keyword => exact seen_share_keyword hpart
    case whole => exact absurd hpart hwhole

/-- Apart from keyword protection, nobody looks at the number of the next timer. -/
theorem step_nextTimer (e : Engine) (hpart : i.call.part ≠ .keyword) (timer : TimerId) :
    e.step ⟨{ i.host with nextTimer := timer }, i.call⟩ = e.step i := by
  obtain ⟨host, call⟩ := i
  cases call <;> first | rfl | exact absurd rfl hpart

end Engine

end Warden
