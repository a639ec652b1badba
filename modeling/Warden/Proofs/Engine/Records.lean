import Warden.Proofs.Audit.Journal
import Warden.Proofs.Engine.Attempts
import Warden.Proofs.Engine.Countdowns
import Warden.Proofs.Engine.Display
import Warden.Proofs.Restart

namespace Warden

/-!
# What the log hears, and who is sent home

What the audit log hears of a call, and whether the call sends a user home, is told by what the call
is and by its answer.

* `Tells` — the events and the ways home among effects.
* `Engine.recordsOf`, `Engine.homesOf`, `Engine.tells_step` — those of one call.
* `Engine.records`, `Engine.homes`, `Engine.deferrals` — those of a run, and the deferrals in it.
* `Engine.reports` — events on their way into the log.
* `Engine.enforced_run` — in every run the log hears of each way home, and of no other.
* `Engine.deferred_run` — and of each deferral.
-/

/-- How the log tells why a user is sent home. -/
def HomeReason.told : HomeReason → Audit.Action × String
  | .tamper c => (.tamperBlocked, c.name)
  | .countdownExpired app => (.countdownExpired, app)

/-- Whether an event is that a user was sent home. -/
def Audit.Action.enforces : Audit.Action → Bool
  | .tamperBlocked | .countdownExpired => true
  | _ => false

/-- Whether these are the events that the log hears of in a list of effects, and the ways home. -/
structure Tells (effects : List Effect) (records : List Audit.Record) (homes : List HomeReason) :
    Prop where
  records : effects.filterMap Effect.record? = records
  homes : effects.filterMap Effect.home? = homes

section Tells

variable {effects rest : List Effect} {records records' : List Audit.Record}
  {homes homes' : List HomeReason}

/-- Two stretches of effects tell what the first one tells, and then what the second does. -/
theorem Tells.append (h : Tells effects records homes) (hrest : Tells rest records' homes') :
    Tells (effects ++ rest) (records ++ records') (homes ++ homes') :=
  ⟨by rw [List.filterMap_append, h.records, hrest.records],
    by rw [List.filterMap_append, h.homes, hrest.homes]⟩

theorem Tells.cons {x : Effect} (hx : Tells [x] records homes) (hrest : Tells rest records' homes') :
    Tells (x :: rest) (records ++ records') (homes ++ homes') := hx.append hrest

/-- Effects of which none is told tell nothing. -/
theorem tells_nothing (h : ∀ x ∈ effects, x.record? = none ∧ x.home? = none) :
    Tells effects [] [] :=
  ⟨List.filterMap_eq_nil_iff.2 fun x hx => (h x hx).1,
    List.filterMap_eq_nil_iff.2 fun x hx => (h x hx).2⟩

theorem tells_nil : Tells [] [] [] := ⟨rfl, rfl⟩

/-- A record that depends on a condition is told if that holds. -/
theorem tells_record (p : Prop) [Decidable p] (r : Audit.Record) :
    Tells (if p then [.record r] else []) (if p then [r] else []) [] := by
  split <;> exact ⟨rfl, rfl⟩

end Tells

/-! ### The parts -/

/-- The tracker of the window saves what it knows, and asks for nothing else. -/
theorem Bypass.WritesThrough.saves {α : Type} {b : Bypass} {o : Outcome Bypass α}
    (h : WritesThrough b o) : ∀ x ∈ o.effects, ∃ p, x = .save p := by
  intro x hx
  rcases h.stored with ⟨hnone, -⟩ | ⟨hsave, -⟩
  · rw [hnone] at hx
    cases hx
  · rw [hsave] at hx
    exact ⟨_, List.mem_singleton.1 hx⟩

/-- Whoever decides about a page asks the tracker alone. -/
theorem Tamper.saves_decide (t : Tamper) (b : Bypass) (host : Host) (n : Navigation) :
    ∀ x ∈ (t.decide b host n).effects, ∃ p, x = .save p := by
  have hlive : ∀ x ∈ (guardActive b host n.category).effects, ∃ p, x = .save p := by
    unfold guardActive
    split
    · exact List.forall_mem_nil _
    · exact (b.writesThrough_confirm _ _).saves
  have hgate : ∀ x ∈ ((guardActive b host n.category).state.gate host.now).effects,
      ∃ p, x = .save p :=
    (Bypass.writesThrough_poll (guardActive b host n.category).state host.now).saves
  have hboth := List.forall_mem_append.2 ⟨hlive, hgate⟩
  -- Each of the five ways through the decision asks the tracker for some of the two, or for none.
  unfold decide
  dsimp only
  split
  · exact List.forall_mem_nil _
  split
  · exact List.forall_mem_nil _
  split
  · exact List.forall_mem_nil _
  split
  · exact hlive
  split <;> exact hboth

/-- What is saved is told to nobody. -/
theorem tells_saves {effects : List Effect} (h : ∀ x ∈ effects, ∃ p, x = .save p) :
    Tells effects [] [] := by
  refine tells_nothing fun x hx => ?_
  obtain ⟨p, rfl⟩ := h x hx
  exact ⟨rfl, rfl⟩

namespace Keyword.Guard

variable {g : Guard} {violating : String → Bool} {timer : TimerId} {event : TimerEvent}

/-- That a countdown comes to the front is not told. -/
theorem tells_reshow (g : Guard) : Tells g.reshow [] [] := by
  refine tells_nothing fun x hx => ?_
  obtain ⟨app, n, c, rfl, -⟩ := mem_reshow hx
  exact ⟨rfl, rfl⟩

theorem tells_hidden (g : Guard) (app : String) (n : Nat) :
    Tells (hidden app n :: g.reshow) [] [] :=
  .cons ⟨rfl, rfl⟩ g.tells_reshow

theorem tells_cancelAll (g : Guard) : Tells g.cancelAll.effects [] [] := by
  refine tells_nothing fun x hx => ?_
  obtain ⟨entry, -, hending⟩ := List.mem_flatMap.1 hx
  rcases mem_ending hending with rfl | ⟨n, rfl⟩ <;> exact ⟨rfl, rfl⟩

/-- No start of a countdown is told of; the log hears of its end. -/
theorem tells_violate (g : Guard) (app : String) (timer : TimerId) :
    Tells (g.violate app timer).effects [] [] := by
  cases hc : g.challenge? app with
  | none =>
    rw [violate_idle hc]
    exact ⟨rfl, rfl⟩
  | some c =>
    rw [violate_live hc]
    exact tells_nil

/-- The guard tells nobody of a deferral. The engine does. -/
theorem tells_defer (g : Guard) (app : String) (timer : TimerId) :
    Tells (g.defer app timer).effects [] [] := by
  rcases g.deferrable_or app with ⟨c, n, hc, hd, hp⟩ | hno
  · rw [defer_accepted hc hd hp]
    have hhidden := tells_hidden
      (g.renewed.having app ⟨.grace, true, g.lastGeneration + 1, timer⟩) app 0
    exact ⟨hhidden.records, hhidden.homes⟩
  · rw [defer_refused hno]
    exact tells_nil

/-- A timer event sends a user home if a countdown runs out by it. -/
theorem tells_deliver (g : Guard) (violating : String → Bool) (timer : TimerId)
    (event : TimerEvent) :
    Tells (g.deliver violating timer event).effects []
      (if (g.deliver violating timer event).answer = .expired then [.countdownExpired event.app]
        else []) := by
  have hdelivery := g.delivery violating timer event
  generalize g.deliver violating timer event = o, event.app = app at hdelivery ⊢
  cases hdelivery with
  | stale | resolved => exact tells_nil
  | ticked | resumed => exact ⟨rfl, rfl⟩
  | expired =>
    have hhidden := (g.without app).tells_hidden app 0
    exact .cons ⟨rfl, rfl⟩ hhidden

end Keyword.Guard

namespace Engine

variable {e : Engine} {i : Input} {host : Host}

/-! ### One call -/

/-- What the log hears when the window is read. -/
def expiry (e : Engine) (now : Nat) : List Audit.Record :=
  if (e.bypass.poll now).answer = .justExpired then [⟨.bypassExpired, "", none⟩] else []

/-- The page that a call blocks. -/
def blocks? (e : Engine) (i : Input) : Option Navigation :=
  match i.call with
  | .navigate n =>
    match (e.navigate i.host n).answer with
    | .trigger _ => some n
    | _ => none
  | _ => none

/-- The app whose countdown runs out by a call. -/
def expires? (e : Engine) (i : Input) : Option String :=
  match i.call with
  | .timer event =>
    if e.stopped = false ∧
        (e.keywords.deliver (e.isViolating i.host) i.host.nextTimer event).answer = .expired then
      some event.app
    else none
  | _ => none

/-- The app whose countdown a call defers. -/
def defers? (e : Engine) (i : Input) : Option String :=
  match i.call with
  | .deferChallenge app => if (e.deferChallenge i.host app).answer then some app else none
  | _ => none

/-- Whether a call reads the window. -/
def reads (e : Engine) : Call → Bool
  | .withinBypass | .remainingBypass | .gate | .status => true
  | .navigate _ => !e.stopped
  | _ => false

/-- What the log hears of a call, apart from a window that has run out. -/
def newsOf (e : Engine) (i : Input) : List Audit.Record :=
  match i.call with
  | .complete => [⟨.bypassGranted, "", none⟩]
  | .clearBypass =>
    if e.bypass.stored.completion.isSome then [⟨.bypassCleared, "", some "admin"⟩] else []
  | .setTamper on =>
    if e.bypass.enabled && !on then [⟨.protectionDisabled, "tamper", none⟩] else []
  | .reload s => if e.losesTamper s then [⟨.protectionDisabled, "tamper", none⟩] else []
  | .navigate _ =>
    ((e.blocks? i).map fun n => ⟨.tamperBlocked, n.category.name, some n.source.label⟩).toList
  | .timer _ => ((e.expires? i).map fun app => ⟨.countdownExpired, app, none⟩).toList
  | .deferChallenge _ => ((e.defers? i).map fun app => ⟨.graceGranted, app, none⟩).toList
  | _ => []

/-- What the log hears of a call. -/
def recordsOf (e : Engine) (i : Input) : List Audit.Record :=
  (if e.reads i.call then e.expiry i.now else []) ++ e.newsOf i

/-- Why a call sends a user home. -/
def homesOf (e : Engine) (i : Input) : List HomeReason :=
  match i.call with
  | .navigate _ => ((e.blocks? i).map fun n => .tamper n.category).toList
  | .timer _ => ((e.expires? i).map .countdownExpired).toList
  | _ => []

/-- A reading of the window tells the log if the window has just run out. -/
theorem tells_poll (e : Engine) (host : Host) :
    Tells (e.poll host).effects (e.expiry host.now) [] := by
  have hpoll := tells_saves (e.bypass.writesThrough_poll host.now).saves
  have hrecord : Tells (expiryRecord (e.bypass.poll host.now).answer) (e.expiry host.now) [] := by
    unfold expiry
    cases (e.bypass.poll host.now).answer <;> exact ⟨rfl, rfl⟩
  exact hpoll.append hrecord

/-- The log hears that tamper protection is switched off, not that it is switched on. -/
theorem tells_setTamper (e : Engine) (on : Bool) :
    Tells (e.setTamper on).effects
      (if e.bypass.enabled && !on then [⟨.protectionDisabled, "tamper", none⟩] else []) [] := by
  rw [setTamper_effects]
  exact (tells_saves (e.bypass.writesThrough_setEnabled on).saves).append (tells_record ..)

/-- App lock tells nothing. -/
theorem tells_of_lock (hpart : i.call.part = .lock) : Tells (e.step i).effects [] [] := by
  obtain ⟨host, call⟩ := i
  cases call
  case setAppLock on =>
    show Tells (e.setAppLock on).effects [] []
    rw [setAppLock_effects]
    split
    · exact tells_nil
    · cases e.pendingLock <;> exact ⟨rfl, rfl⟩
  case foreground app foregrounded =>
    show Tells (e.foreground host app foregrounded).effects [] []
    cases h : e.consults app foregrounded with
    | true =>
      rw [foreground_of_consults h]
      dsimp only
      split <;> exact ⟨rfl, rfl⟩
    | false =>
      rw [foreground_of_not_consults h]
      exact tells_nil
  case grant app =>
    show Tells (e.grant host app).effects [] []
    unfold grant
    split
    · exact tells_nil
    · dsimp only
      split <;> exact ⟨rfl, rfl⟩
  all_goals first | exact tells_nil | cases hpart

/-- A page that is blocked sends its user home, and the log hears of it, after it has heard of a
window that has run out. -/
theorem tells_navigate (e : Engine) (host : Host) (n : Navigation) :
    Tells (e.navigate host n).effects (e.recordsOf ⟨host, .navigate n⟩)
      (e.homesOf ⟨host, .navigate n⟩) := by
  let i : Input := ⟨host, .navigate n⟩
  have hafter (hs : e.stopped = false) :
      Tells (afterDecision e.clearRecents n (e.navigate host n).answer)
        ((e.blocks? i).map fun n => ⟨.tamperBlocked, n.category.name, some n.source.label⟩).toList
        ((e.blocks? i).map fun n => .tamper n.category).toList := by
    simp only [blocks?, i]
    cases hd : (e.navigate host n).answer with
    | trigger attempt =>
      -- The attempt that is blocked is of the category of the page.
      rw [navigate_answer hs, (Tamper.decide_verdict ..).trigger] at hd
      obtain ⟨-, -, -, -, -, rfl⟩ := hd
      cases e.clearRecents <;> exact ⟨rfl, rfl⟩
    | _ => exact tells_nil
  cases hs : e.stopped with
  | true =>
    simp only [recordsOf, newsOf, reads, homesOf, blocks?, navigate_stopped hs, hs]
    exact tells_nil
  | false =>
    -- In this order: the window is read, the decision asks the tracker, and then the page is
    -- blocked.
    have hdecide :=
      tells_saves (e.tamper.saves_decide (e.bypass.poll host.now).state host.later n)
    have heffects : (e.navigate host n).effects = (e.poll host).effects ++
        ((e.tamper.decide (e.bypass.poll host.now).state host.later n).effects ++
          afterDecision e.clearRecents n (e.navigate host n).answer) := by
      rw [navigate_answer hs, navigate_running hs]
      rfl
    have hall := (e.tells_poll host).append (hdecide.append (hafter hs))
    rw [← heffects] at hall
    show Tells _ ((if !e.stopped then e.expiry host.now else []) ++ _) _
    rw [hs]
    exact hall

/-- Only settings pages send a user home, and the tracker of the window tells of its closings. -/
theorem tells_of_tamper (hpart : i.call.part = .tamper) :
    Tells (e.step i).effects (e.recordsOf i) (e.homesOf i) := by
  obtain ⟨host, call⟩ := i
  have hpoll : Tells (e.poll host).effects (e.expiry host.now ++ []) [] := by
    rw [List.append_nil]
    exact e.tells_poll host
  cases call
  case complete => exact ⟨rfl, rfl⟩
  case withinBypass | remainingBypass => exact hpoll
  case gate =>
    -- The second reading saves what it closes, but the log does not hear of it.
    have hgate := tells_saves
      ((e.bypass.poll host.now).state.writesThrough_poll host.later.now).saves
    exact (e.tells_poll host).append hgate
  case clearBypass =>
    have hclear := tells_saves e.bypass.writesThrough_clear.saves
    show Tells (e.bypass.clear.effects ++
      if e.bypass.clear.answer then [.record ⟨.bypassCleared, "", some "admin"⟩] else [])
      (if e.bypass.stored.completion.isSome then _ else _) []
    rw [Bypass.clear_answer]
    exact hclear.append (tells_record ..)
  case confirm c => exact tells_saves (e.bypass.writesThrough_confirm _ _).saves
  case setTamper on => exact e.tells_setTamper on
  case navigate n => exact e.tells_navigate host n
  case status => exact (e.tells_poll host).append tells_nil
  all_goals cases hpart

/-- The log hears of a deferral if it is accepted. -/
theorem tells_deferChallenge (e : Engine) (host : Host) (app : String) :
    Tells (e.deferChallenge host app).effects (e.recordsOf ⟨host, .deferChallenge app⟩) [] := by
  simp only [recordsOf, newsOf, reads, defers?]
  cases hs : e.stopped with
  | true =>
    rw [deferChallenge_stopped hs]
    exact tells_nil
  | false =>
    have hdefer := (e.keywords.tells_defer app host.nextTimer).append
      (tells_record ((e.keywords.defer app host.nextTimer).answer = true)
        ⟨.graceGranted, app, none⟩)
    rw [deferChallenge_running hs]
    show Tells _ (Option.map _ (if (e.keywords.defer app host.nextTimer).answer then _ else _)).toList
      []
    cases hanswer : (e.keywords.defer app host.nextTimer).answer <;> rw [hanswer] at hdefer <;>
      exact hdefer

/-- A timer event that lets a countdown run out sends its user home, and the log hears of it. -/
theorem tells_timer (e : Engine) (host : Host) (event : TimerEvent) :
    Tells (e.timer host event).effects (e.recordsOf ⟨host, .timer event⟩)
      (e.homesOf ⟨host, .timer event⟩) := by
  simp only [recordsOf, newsOf, reads, homesOf, expires?]
  cases hs : e.stopped with
  | true =>
    rw [timer_stopped hs]
    exact tells_nil
  | false =>
    let o := e.keywords.deliver (e.isViolating host) host.nextTimer event
    have hdeliver := (e.keywords.tells_deliver (e.isViolating host) host.nextTimer event).append
      (tells_record (o.answer = .expired) ⟨.countdownExpired, event.app, none⟩)
    rw [timer_running hs]
    -- The home and the record stand or fall with the same answer.
    by_cases hexpired : o.answer = .expired
    · simp only [o, hexpired] at hdeliver ⊢
      exact hdeliver
    · simp only [o, hexpired] at hdeliver ⊢
      exact hdeliver

/-- The log hears of deferrals and of countdowns that run out, and these send a user home. -/
theorem tells_of_keyword (hpart : i.call.part = .keyword) :
    Tells (e.step i).effects (e.recordsOf i) (e.homesOf i) := by
  obtain ⟨host, call⟩ := i
  cases call
  case setKeyword on =>
    show Tells (e.setKeyword on).effects [] []
    rw [setKeyword_effects]
    split
    · exact tells_nil
    · exact e.keywords.tells_cancelAll
  case content app text =>
    show Tells (e.content host app text).effects [] []
    cases h : e.heeds text with
    | true =>
      rw [content_of_heeds h]
      exact e.keywords.tells_violate app host.nextTimer
    | false =>
      rw [content_of_not_heeds h]
      exact tells_nil
  case deferChallenge app => exact e.tells_deferChallenge host app
  case timer event => exact e.tells_timer host event
  all_goals first | exact tells_nil | cases hpart

/-- The log hears of a reload if it switches tamper protection off. -/
theorem tells_reload (e : Engine) (s : Settings) :
    Tells (e.reload s).effects
      (if e.losesTamper s then [⟨.protectionDisabled, "tamper", none⟩] else []) [] := by
  have hlock : Tells (if e.losesAppLock s then ((e.retune s).setAppLock false).effects else [])
      [] [] := by
    rw [setAppLock_effects]
    split
    · cases (e.retune s).pendingLock <;> exact ⟨rfl, rfl⟩
    · exact tells_nil
  have htamper : Tells (if e.losesTamper s then ((e.retune s).setTamper false).effects else [])
      (if e.losesTamper s then [⟨.protectionDisabled, "tamper", none⟩] else []) [] := by
    split
    next hloses =>
      -- Protection was on, as a switch that is off already is not lost.
      have hon : (e.retune s).bypass.enabled = true := (Bool.and_eq_true _ _ ▸ hloses).1
      have hoff := (e.retune s).tells_setTamper false
      rw [hon] at hoff
      exact hoff
    · exact tells_nil
  have hkeyword : Tells (if e.losesKeyword s then e.keywords.cancelAll.effects else []) [] [] := by
    split
    · exact e.keywords.tells_cancelAll
    · exact tells_nil
  have hall := hlock.append (htamper.append hkeyword)
  rw [← reload_effects, List.append_nil] at hall
  exact hall

/-- What the log hears of a call, and whether the call sends a user home. -/
theorem tells_step (e : Engine) (i : Input) :
    Tells (e.step i).effects (e.recordsOf i) (e.homesOf i) := by
  -- By the part of the engine that the call is about.
  cases hpart : i.call.part
  case lock =>
    have hnone := tells_of_lock (e := e) hpart
    obtain ⟨host, call⟩ := i
    cases call <;> first | exact hnone | cases hpart
  case tamper => exact tells_of_tamper hpart
  case keyword => exact tells_of_keyword hpart
  case whole =>
    obtain ⟨host, call⟩ := i
    cases call
    case reload s => exact e.tells_reload s
    case shutdown =>
      show Tells e.shutdown.effects [] []
      unfold shutdown
      split
      · exact tells_nil
      · exact e.keywords.tells_cancelAll.append ⟨rfl, rfl⟩
    all_goals cases hpart

/-! ### Runs -/

/-- The events that the log hears of at a moment. -/
def Moment.records (m : Moment) : List Audit.Record := m.outcome.effects.filterMap Effect.record?

/-- The events that the log hears of in a run, the first one first. -/
def records (e : Engine) (inputs : List Input) : List Audit.Record :=
  (e.history inputs).flatMap Moment.records

/-- Events as the engine reports them. -/
def reports (records : List Audit.Record) : List Audit.Report := records.map (⟨·, "engine"⟩)

/-- Why users are sent home in a run, in order. -/
def homes (e : Engine) (inputs : List Input) : List HomeReason :=
  (e.actions inputs).filterMap Surface.Action.home?

/-- The app whose user defers a countdown at a moment, with success. -/
def Moment.deferral? (m : Moment) : Option String :=
  match m.input.call with
  | .deferChallenge app => if m.outcome.answer = .flag true then some app else none
  | _ => none

/-- The apps whose countdowns are deferred in a run, in order. -/
def deferrals (e : Engine) (inputs : List Input) : List String :=
  (e.history inputs).filterMap Moment.deferral?

/-- What the log hears at a moment is what the call says. -/
theorem Moment.records_eq (m : Moment) : m.records = m.engine.recordsOf m.input :=
  (m.engine.tells_step m.input).records

/-- Whether a user is sent home at a moment is what the call says. -/
theorem Moment.actions_home (m : Moment) :
    m.actions.filterMap Surface.Action.home? = m.engine.homesOf m.input := by
  unfold Moment.actions
  rw [List.filterMap_filterMap]
  exact (m.engine.tells_step m.input).homes

/-- Where the end of a window does not count, only the news do. -/
theorem filter_recordsOf {p : Audit.Action → Bool} (hp : p .bypassExpired = false) (e : Engine)
    (i : Input) : (e.recordsOf i).filter (p ·.action) = (e.newsOf i).filter (p ·.action) := by
  have hexpiry : (e.expiry i.now).filter (p ·.action) = [] := by
    unfold expiry
    split
    · exact List.filter_eq_nil_iff.2 (by simp [hp])
    · rfl
  unfold recordsOf
  split
  · rw [List.filter_append, hexpiry, List.nil_append]
  · rfl

/-- The log hears of each way home at a moment, and of no other. -/
theorem Moment.enforced (m : Moment) :
    (m.records.filter (·.action.enforces)).map (fun r => (r.action, r.subject)) =
      (m.actions.filterMap Surface.Action.home?).map HomeReason.told := by
  rw [m.records_eq, m.actions_home, filter_recordsOf rfl]
  obtain ⟨e, host, call⟩ := m
  -- Of all calls, only a page that is blocked and a timer that runs out send home, and both tell
  -- so.
  cases call <;> simp only [newsOf, homesOf]
  case clearBypass | setTamper | reload => split <;> rfl
  case navigate n => cases e.blocks? ⟨host, .navigate n⟩ <;> rfl
  case timer event => cases e.expires? ⟨host, .timer event⟩ <;> rfl
  case deferChallenge app => cases e.defers? ⟨host, .deferChallenge app⟩ <;> rfl
  all_goals rfl

/-- The log hears of a deferral at a moment, and of no other. -/
theorem Moment.deferred (m : Moment) :
    (m.records.filter (·.action = .graceGranted)).map (·.subject) = m.deferral?.toList := by
  rw [m.records_eq, filter_recordsOf (p := (· = .graceGranted)) rfl]
  obtain ⟨e, host, call⟩ := m
  cases call <;> simp only [newsOf, deferral?]
  case clearBypass | setTamper | reload => split <;> rfl
  case navigate n => cases e.blocks? ⟨host, .navigate n⟩ <;> rfl
  case timer event => cases e.expires? ⟨host, .timer event⟩ <;> rfl
  case deferChallenge app =>
    have hanswer : (Moment.mk e ⟨host, .deferChallenge app⟩).outcome.answer =
        .flag (e.deferChallenge host app).answer := rfl
    simp only [defers?, hanswer]
    cases (e.deferChallenge host app).answer <;> rfl
  all_goals rfl

/-- **The log hears of each way home.** In every run, the events that a user was sent home are told
to the log as often as it happens and in the same order, with what it was about. -/
theorem enforced_run (e : Engine) (inputs : List Input) :
    ((e.records inputs).filter (·.action.enforces)).map (fun r => (r.action, r.subject)) =
      (e.homes inputs).map HomeReason.told := by
  unfold records homes actions
  rw [List.filter_flatMap, List.map_flatMap, List.filterMap_flatMap, List.map_flatMap]
  exact congrArg (List.flatMap · _) (funext Moment.enforced)

/-- **The log hears of each deferral.** -/
theorem deferred_run (e : Engine) (inputs : List Input) :
    ((e.records inputs).filter (·.action = .graceGranted)).map (·.subject) = e.deferrals inputs := by
  unfold records deferrals
  rw [List.filter_flatMap, List.map_flatMap, List.filterMap_eq_flatMap_toList]
  exact congrArg (List.flatMap · _) (funext Moment.deferred)

/-! ### The file of the log -/

/-- **The trail of enforcement.** A log that was missing or empty before a run, and to which all
events of the run were written, tells of each of them, in order and word for word, and its chain is
intact.  In it, the events that a user was sent home are those that the screen saw, and the
deferrals are those that were accepted. -/
theorem enforcement_audited (s : Settings) (stored : Persisted) (inputs : List Input) (dir : String)
    {t t' : Tree} (hempty : Audit.Holds dir t "")
    (hw : Audit.Written dir t (reports ((start s stored).records inputs)) t') :
    let e := start s stored
    ∃ log, t'.exec (Audit.load dir) = (.ok log, t') ∧
      (Audit.entries log).map Audit.Entry.report = reports (e.records inputs) ∧
      Audit.broken log = [] ∧
      ((Audit.entries log).filter (·.action.enforces)).map (fun x => (x.action, x.subject)) =
        (e.homes inputs).map HomeReason.told ∧
      ((Audit.entries log).filter (·.action = .graceGranted)).map (·.subject) =
        e.deferrals inputs := by
  intro e
  obtain ⟨log, es, hlog, hentries, hbroken, -, hall⟩ := Audit.entries_written hempty hw
  have hes : es.map Audit.Entry.report = reports (e.records inputs) := by
    refine hall fun last hlast => ?_
    cases hlast
  -- Nothing was read before, so all that is read now was written in the run.
  obtain rfl : es = Audit.entries log := hentries.symm
  have hrecords : (Audit.entries log).map (fun x => x.report.record) = e.records inputs := by
    have hboth := congrArg (List.map Audit.Report.record) hes
    rw [reports, List.map_map, List.map_map] at hboth
    exact hboth.trans (List.map_id _)
  have henforced := e.enforced_run inputs
  have hdeferred := e.deferred_run inputs
  rw [← hrecords, List.filter_map, List.map_map] at henforced hdeferred
  exact ⟨log, hlog.load, hes, hbroken, henforced, hdeferred⟩

/-- A page is blocked, one countdown is deferred, and another one runs out: the log tells of all
three, whatever the apps are called. -/
theorem enforcement_audited_thrice :
    let e := start { keywords := ["gambling"], countdown := 1 } .empty
    let inputs : List Input :=
      [⟨silentHost 0, .navigate (.entering .appInfo .usageHistory)⟩,
        ⟨silentHost 1, .content "app\nline" "gambling"⟩,
        ⟨silentHost 2, .content "app.\"b\"" "gambling"⟩,
        ⟨silentHost 3, .deferChallenge "app.\"b\""⟩,
        ⟨silentHost 4, .timer (.tick "app\nline" 1)⟩]
    Audit.Holds "/state" (Audit.onlyLog "") "" ∧ ∃ t log,
      Audit.Written "/state" (Audit.onlyLog "") (reports (e.records inputs)) t ∧
      t.exec (Audit.load "/state") = (.ok log, t) ∧
      (Audit.entries log).map Audit.Entry.report = reports
        [⟨.tamperBlocked, "app_info", some "UsageHistory"⟩,
          ⟨.graceGranted, "app.\"b\"", none⟩, ⟨.countdownExpired, "app\nline", none⟩] ∧
      Audit.broken log = [] ∧
      e.homes inputs = [.tamper .appInfo, .countdownExpired "app\nline"] ∧
      e.deferrals inputs = ["app.\"b\""] := by
  intro e inputs
  obtain ⟨text, hw⟩ := Audit.written_onlyLog "" (reports (e.records inputs))
  obtain ⟨log, hload, hentries, hbroken, -⟩ := enforcement_audited
    { keywords := ["gambling"], countdown := 1 } .empty inputs "/state"
    Audit.holds_onlyLog_empty hw
  have hrecords : e.records inputs = [⟨.tamperBlocked, "app_info", some "UsageHistory"⟩,
      ⟨.graceGranted, "app.\"b\"", none⟩, ⟨.countdownExpired, "app\nline", none⟩] := by
    decide +kernel
  rw [hrecords] at hentries
  exact ⟨Audit.holds_onlyLog_empty, _, log, hw, hload, hentries, hbroken, by decide +kernel,
    by decide +kernel⟩

end Engine

end Warden
