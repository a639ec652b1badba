import Warden.Proofs.Engine.Rest
import Warden.Proofs.Keyword.Traffic

namespace Warden.Engine

/-!
# An engine and its timers

The engine sets and cancels timers through its guard.  A timer that has rung is out of reach of any
cancellation, so its event may still come when the part it was meant for is switched off, or when
the engine has stopped.

* `Traffic`, `Move`, `Traffic.step` — an engine, its timers and the channel, and what may happen.
* `Traffic.countdowns`, `countdowns_step` — what a move comes to for the guard and its timers.
* `Traffic.Sound`, `sound_run` — what holds after every possible run.
* `Traffic.Ended`, `Ended.step` — once the engine has stopped, whatever happens leaves it so.
* `inert_run` — parts that are switched off do nothing.
-/

/-- An engine, its pending timers, and the events under way to it. -/
structure Traffic where
  engine : Engine
  timers : Timers
  channel : List PendingTimer
  now : Nat

/-- Something that may happen. -/
inductive Move where
  /-- A call, made with the number of the next timer. -/
  | call (i : Input)
  | wait (span : Nat)
  /-- A pending timer puts its event into the channel. -/
  | ring (t : PendingTimer)
  /-- An event leaves the channel. -/
  | deliver (t : PendingTimer) (host : Host)

namespace Traffic

/-! ### Moves -/

/-- A new engine, without timers. -/
def start (settings : Settings) (stored : Persisted) : Traffic :=
  ⟨.start settings stored, .empty, [], 0⟩

/-- What a call sees, with the number of the next timer. -/
def numbered (s : Traffic) (host : Host) : Host := { host with nextTimer := s.timers.next }

/-- The traffic after a step of its engine, whose calls to the timers are performed. -/
def after (s : Traffic) (o : Outcome Engine Answer) : Outcome Traffic Answer where
  state := { s with
    engine := o.state
    timers := (o.effects.filterMap Effect.timer?).foldl (·.perform s.now ·) s.timers }
  answer := o.answer
  effects := o.effects

/-- A move. -/
def step (s : Traffic) : Move → Outcome Traffic Answer
  | .call i => s.after (s.engine.step ⟨s.numbered i.host, i.call⟩)
  | .wait span => .answering { s with now := s.now + span } .done
  | .ring t =>
    .answering { s with timers := s.timers.remove t.id, channel := t :: s.channel } .done
  | .deliver t host =>
    after { s with channel := s.channel.erase t }
      (s.engine.step ⟨s.numbered host, .timer t.event⟩)

/-- Whether a move is possible: only pending timers ring, and no timer event comes but out of the
channel. -/
def Allows (s : Traffic) : Move → Prop
  | .call i => ∀ event, i.call ≠ .timer event
  | .wait _ => True
  | .ring t => t ∈ s.timers.pending
  | .deliver t _ => t ∈ s.channel

/-- The traffic after a row of moves. -/
def run (s : Traffic) (moves : List Move) : Traffic := moves.foldl (fun s m => (s.step m).state) s

/-- Whether each of a row of moves is possible when its turn comes. -/
def Possible (s : Traffic) : List Move → Prop
  | [] => True
  | m :: rest => s.Allows m ∧ (s.step m).state.Possible rest

variable {s : Traffic} {m : Move} {moves : List Move}

/-! ### The guard and its timers -/

/-- The guard of the engine with its timers. -/
def countdowns (s : Traffic) : Keyword.Traffic :=
  ⟨s.engine.keywords, s.timers, s.channel, s.now⟩

/-- A call that leaves the guard alone and has nothing to do with timers. -/
theorem countdowns_after {o : Outcome Engine Answer} (hguard : o.state.keywords = s.engine.keywords)
    (huntimed : o.effects.filterMap Effect.timer? = []) :
    (s.after o).state.countdowns = s.countdowns := by
  simp only [after, countdowns, hguard, huntimed, List.foldl_nil]

/-- What the log hears is not addressed to the timers. -/
theorem untimed_record (p : Prop) [Decidable p] (r : Audit.Record) :
    (if p then [Effect.record r] else []).filterMap Effect.timer? = [] :=
  (quiet_record p r).untimed

/-- What a call that is not a timer event asks of the guard. -/
def guardMoves (e : Engine) : Call → List Keyword.Move
  | .setKeyword on => if on then [] else [.cancelAll]
  | .content app text => if e.heeds text then [.violate app] else []
  | .deferChallenge app => if e.stopped then [] else [.defer app]
  | .reload s =>
    .setTiming s.countdown s.gracePeriod :: if e.losesKeyword s then [.cancelAll] else []
  | .shutdown => if e.stopped then [] else [.cancelAll]
  | _ => []

/-- None of it is a delivery or the ring of a timer. -/
theorem possible_guardMoves (e : Engine) (k : Keyword.Traffic) (call : Call) :
    k.Possible (guardMoves e call) := by
  -- Only the calls that reach the guard have a row to look at.
  cases call <;> simp only [guardMoves]
  case setKeyword | content | deferChallenge | shutdown =>
    split <;> trivial
  case reload => split <;> trivial
  all_goals trivial

/-- Texts, deferrals and the switch of keyword protection are the guard's own moves. -/
theorem countdowns_of_keyword (s : Traffic) {i : Input} (hpart : i.call.part = .keyword)
    (hcall : ∀ event, i.call ≠ .timer event) :
    (s.step (.call i)).state.countdowns = s.countdowns.run (guardMoves s.engine i.call) := by
  obtain ⟨host, call⟩ := i
  cases call
  case setKeyword on => cases on <;> rfl
  case content app text =>
    show (s.after ((s.engine.content (s.numbered host) app text).map .content)).state.countdowns =
      s.countdowns.run (if s.engine.heeds text then [.violate app] else [])
    cases h : s.engine.heeds text with
    | true =>
      rw [content_of_heeds h]
      rfl
    | false =>
      rw [content_of_not_heeds h]
      rfl
  case deferChallenge app =>
    show (s.after ((s.engine.deferChallenge (s.numbered host) app).map .flag)).state.countdowns =
      s.countdowns.run (if s.engine.stopped then [] else [.defer app])
    cases hs : s.engine.stopped with
    | true =>
      rw [deferChallenge_stopped hs]
      rfl
    | false =>
      rw [deferChallenge_running hs]
      simp only [after, countdowns, Outcome.map, Outcome.also, List.filterMap_append,
        untimed_record, List.append_nil]
      rfl
  case timer event => exact absurd rfl (hcall event)
  all_goals first | rfl | cases hpart

/-- A reload sets the lengths and, where it switches keyword protection off, ends the challenges. -/
theorem countdowns_reload (s : Traffic) (host : Host) (settings : Settings) :
    (s.step (.call ⟨host, .reload settings⟩)).state.countdowns =
      s.countdowns.run (guardMoves s.engine (.reload settings)) := by
  have hguard : (s.engine.reload settings).state.keywords =
      if s.engine.losesKeyword settings then
        (s.engine.keywords.setTiming settings.countdown settings.gracePeriod).cancelAll.state
      else s.engine.keywords.setTiming settings.countdown settings.gracePeriod := by
    rw [reload_state]
    rfl
  -- Only the countdowns that are ended have timers to cancel.
  have huntimed : (s.engine.reload settings).effects.filterMap Effect.timer? =
      if s.engine.losesKeyword settings then
        s.engine.keywords.cancelAll.effects.filterMap Effect.timer? else [] := by
    have hlock := ((s.engine.retune settings).quiet_setAppLock false).untimed
    have htamper := ((s.engine.retune settings).quiet_setTamper false).untimed
    rw [reload_effects, List.filterMap_append, List.filterMap_append]
    split <;> split <;> split <;> simp [hlock, htamper]
  show (s.after ((s.engine.reload settings).map fun _ => .done)).state.countdowns =
    s.countdowns.run (.setTiming settings.countdown settings.gracePeriod ::
      if s.engine.losesKeyword settings then [.cancelAll] else [])
  simp only [after, countdowns, Outcome.map, hguard, huntimed]
  cases s.engine.losesKeyword settings <;> rfl

/-- A shutdown ends the challenges, the first time. -/
theorem countdowns_shutdown (ho : s.countdowns.Orderly) (host : Host) :
    (s.step (.call ⟨host, .shutdown⟩)).state.countdowns =
      s.countdowns.run (guardMoves s.engine .shutdown) := by
  show (s.after (s.engine.shutdown.map fun _ => .done)).state.countdowns =
    s.countdowns.run (if s.engine.stopped then [] else [.cancelAll])
  unfold shutdown
  cases hs : s.engine.stopped with
  | true => rfl
  | false =>
    -- Cancelling all timers after those of all challenges cancels no more.
    have hcancel : ((s.engine.keywords.cancelAll.effects ++ [Effect.timer .cancelAll]).filterMap
        Effect.timer?).foldl (·.perform s.now ·) s.timers =
        (s.engine.keywords.cancelAll.effects.filterMap Effect.timer?).foldl
          (·.perform s.now ·) s.timers := by
      rw [List.filterMap_append, List.foldl_append]
      exact congrArg (·.perform s.now .cancelAll) ho.cancelAll |>.trans ho.cancelAll.symm
    rw [if_neg Bool.false_ne_true]
    simp only [after, countdowns, Outcome.map, Outcome.also, Outcome.within, hcancel]
    rfl

/-- App lock and the settings pages are none of the guard's business. -/
theorem countdowns_of_other (s : Traffic) {i : Input}
    (hpart : i.call.part = .lock ∨ i.call.part = .tamper) :
    (s.step (.call i)).state.countdowns = s.countdowns.run (guardMoves s.engine i.call) := by
  let j : Input := ⟨s.numbered i.host, i.call⟩
  have hguard : (s.engine.step j).state.keywords = s.engine.keywords :=
    s.engine.keywords_of_part (i := j) hpart
  -- No call of these two parts has a move of the guard.
  have hnone : guardMoves s.engine i.call = [] := by
    revert hpart
    cases i.call <;> first | exact fun _ => rfl | rintro (hlock | htamper) <;> contradiction
  rw [hnone]
  exact countdowns_after hguard (untimed_of_part (i := j) hpart)

/-- A call comes to a row of moves of the guard. -/
theorem countdowns_call (ho : s.countdowns.Orderly) (i : Input)
    (hcall : ∀ event, i.call ≠ .timer event) :
    (s.step (.call i)).state.countdowns = s.countdowns.run (guardMoves s.engine i.call) := by
  cases hpart : i.call.part
  case lock => exact s.countdowns_of_other (.inl hpart)
  case tamper => exact s.countdowns_of_other (.inr hpart)
  case keyword => exact s.countdowns_of_keyword hpart hcall
  case whole =>
    obtain ⟨host, call⟩ := i
    cases call
    case reload settings => exact s.countdowns_reload host settings
    case shutdown => exact countdowns_shutdown ho host
    all_goals cases hpart

/-- What the engine lets through of a timer event is delivered to the guard; an engine that has
stopped lets nothing through, but its guard would not heed it either. -/
theorem countdowns_deliver (hr : s.engine.Rests) (t : PendingTimer) (host : Host) :
    (s.step (.deliver t host)).state.countdowns =
      (s.countdowns.step (.deliver t (s.engine.isViolating (s.numbered host)))).state := by
  show (after { s with channel := s.channel.erase t }
    ((s.engine.timer (s.numbered host) t.event).map fun _ => .done)).state.countdowns = _
  cases hs : s.engine.stopped with
  | true =>
    have hempty : s.countdowns.guard.challenges = .empty := hr.keywords (.inl hs)
    rw [timer_stopped hs]
    simp only [Keyword.Traffic.step, deliver_of_empty hempty]
    rfl
  | false =>
    rw [timer_running hs]
    simp only [after, countdowns, Outcome.map, Outcome.also, List.filterMap_append,
      untimed_record, List.append_nil]
    rfl

/-- Each move comes to a row of moves of the guard. -/
theorem countdowns_step (ho : s.countdowns.Orderly) (hr : s.engine.Rests) (hm : s.Allows m) :
    ∃ moves, s.countdowns.Possible moves ∧ (s.step m).state.countdowns = s.countdowns.run moves := by
  -- Calls differ in what they ask of the guard; the other moves are moves of the guard as they
  -- stand.
  cases m with
  | call i => exact ⟨_, possible_guardMoves .., countdowns_call ho i hm⟩
  | wait span => exact ⟨[.wait span], ⟨trivial, trivial⟩, rfl⟩
  | ring t => exact ⟨[.ring t], ⟨hm, trivial⟩, rfl⟩
  | deliver t host => exact ⟨[.deliver t _], ⟨hm, trivial⟩, countdowns_deliver hr t host⟩

/-! ### Possible runs -/

/-- Whether the challenges and the timers are in order, and what is switched off is at rest. -/
structure Sound (s : Traffic) : Prop where
  orderly : s.countdowns.Orderly
  rests : s.engine.Rests

theorem sound_start (settings : Settings) (stored : Persisted) : (start settings stored).Sound :=
  ⟨Keyword.Traffic.orderly_start, rests_start settings stored⟩

/-- No move wakes what is switched off, whether it is possible or not. -/
theorem rests_step (h : s.engine.Rests) (m : Move) : (s.step m).state.engine.Rests := by
  cases m with
  | call i => exact h.step _
  | deliver t host => exact h.step _
  | wait span => exact h
  | ring t => exact h

/-- A possible move keeps both. -/
theorem Sound.step (h : s.Sound) (hm : s.Allows m) : (s.step m).state.Sound := by
  obtain ⟨moves, hp, hmoves⟩ := countdowns_step h.orderly h.rests hm
  refine ⟨?_, rests_step h.rests m⟩
  rw [hmoves]
  exact Keyword.Traffic.orderly_run h.orderly hp

/-- So does every possible run. -/
theorem sound_run (h : s.Sound) (hp : s.Possible moves) : (s.run moves).Sound := by
  induction moves generalizing s with
  | nil => exact h
  | cons m rest ih => exact ih (h.step hp.1) hp.2

/-- Without challenges no timer is pending. -/
theorem Sound.pending (h : s.Sound) (hempty : s.engine.keywords.challenges = .empty) :
    s.timers.pending = [] := by
  refine List.eq_nil_iff_forall_not_mem.2 fun t ht => ?_
  obtain ⟨app, c, hc, -⟩ := h.orderly.owned t ht
  change s.engine.keywords.challenges.get? app = some c at hc
  rw [hempty] at hc
  cases hc

/-! ### Inert parts -/

/-- Whether keyword protection and tamper protection have nothing left where they are switched off,
and no part has where the engine has stopped. -/
structure Inert (s : Traffic) : Prop where
  keyword : s.engine.stopped = true ∨ s.engine.keywordEnabled = false →
    (∀ app, s.engine.challenge? app = none) ∧ s.timers.pending = []
  tamper : s.engine.stopped = true ∨ s.engine.bypass.enabled = false →
    ∀ c, s.engine.isTriggered c = false
  sessions : s.engine.stopped = true → s.engine.sessions.table.size = 0

/-- An engine without challenges tells so for every app. -/
theorem challenge?_of_empty {e : Engine} (h : e.keywords.challenges = .empty) (app : String) :
    e.challenge? app = none := by
  unfold challenge? Keyword.Guard.challenge?
  rw [h]
  rfl

/-- What is at rest and in order has nothing left. -/
theorem Sound.inert (h : s.Sound) : s.Inert where
  keyword hoff := ⟨challenge?_of_empty (h.rests.keywords hoff), h.pending (h.rests.keywords hoff)⟩
  tamper := h.rests.tamper
  sessions hs := by
    rw [h.rests.sessions hs]
    rfl

/-! ### After the end -/

/-- Whether the engine has stopped, with all parts at rest and no timer pending. -/
structure Ended (s : Traffic) : Prop where
  stopped : s.engine.stopped = true
  rests : s.engine.Rests
  pending : s.timers.pending = []

/-- An engine that stops in order leaves no timer behind. -/
theorem Sound.ended (h : s.Sound) (hs : s.engine.stopped = true) : s.Ended :=
  ⟨hs, h.rests, h.pending (h.rests.keywords (.inl hs))⟩

/-- After the end nothing is left of any part. -/
theorem Ended.inert (h : s.Ended) : s.Inert where
  keyword _ := ⟨challenge?_of_empty (h.rests.keywords (.inl h.stopped)), h.pending⟩
  tamper := h.rests.tamper
  sessions hs := by
    rw [h.rests.sessions hs]
    rfl

/-- Whatever happens after the end is quiet. -/
theorem Ended.quiet (h : s.Ended) (m : Move) : Quiet (s.step m).effects := by
  cases m with
  | call i => exact h.rests.quiet h.stopped _
  | deliver t host => exact h.rests.quiet h.stopped _
  | wait span => exact quiet_nil
  | ring t => exact quiet_nil

/-- A step of an engine that has stopped reaches no timer. -/
theorem Ended.after (h : s.Ended) (i : Input) : (s.after (s.engine.step i)).state.Ended := by
  -- What is quiet does not reach the timers.
  have huntimed := (h.rests.quiet h.stopped i).untimed
  refine ⟨(stopped_step s.engine i).2 (.inl h.stopped), h.rests.step i, ?_⟩
  simp only [Traffic.after, huntimed, List.foldl_nil]
  exact h.pending

/-- There is nothing after the end, be it possible or not. -/
theorem Ended.step (h : s.Ended) (m : Move) : (s.step m).state.Ended := by
  cases m with
  | call i => exact h.after _
  | wait span => exact ⟨h.stopped, h.rests, h.pending⟩
  | ring t =>
    refine ⟨h.stopped, h.rests, ?_⟩
    show s.timers.pending.filter (·.id != t.id) = []
    rw [h.pending]
    rfl
  | deliver t host =>
    -- An event that leaves the channel reaches an engine that has stopped.
    have hbefore : ({ s with channel := s.channel.erase t } : Traffic).Ended :=
      ⟨h.stopped, h.rests, h.pending⟩
    exact hbefore.after _

/-- So it stays, whatever comes. -/
theorem Ended.run (h : s.Ended) (moves : List Move) : (s.run moves).Ended := by
  induction moves generalizing s with
  | nil => exact h
  | cons m rest ih => exact ih (h.step m)

/-! ### All runs -/

/-- **What is switched off is inert.** After every possible run, keyword protection that is off has
no challenge and no pending timer, tamper protection that is off knows of no attempt, and an engine
that has stopped has neither nor any session.  From then on nothing brings it back, not even timers
that nobody set: nothing is shown or timed, no app is unlocked, and apps and pages are ignored. -/
theorem inert_run (settings : Settings) (stored : Persisted) (moves : List Move)
    (hp : (start settings stored).Possible moves) :
    let s := (start settings stored).run moves
    s.Inert ∧ (s.engine.stopped = true → ∀ later : List Move,
      let s' := s.run later
      s'.engine.stopped = true ∧ s'.Inert ∧ (∀ m, Quiet (s'.step m).effects) ∧
      (∀ host app, (s'.engine.isUnlocked host app).answer = false) ∧
      (∀ host app foregrounded, (s'.engine.foreground host app foregrounded).answer = .ignored) ∧
      ∀ host n, (s'.engine.navigate host n).answer = .ignored) := by
  intro s
  have hsound : s.Sound := sound_run (sound_start settings stored) hp
  refine ⟨hsound.inert, ?_⟩
  intro hs later s'
  -- The first run is possible and reaches the end in order; the later one may be anything.
  have hended : s'.Ended := (hsound.ended hs).run later
  refine ⟨hended.stopped, hended.inert, hended.quiet, ?_, ?_, ?_⟩
  · intro host app
    exact hended.rests.isUnlocked hended.stopped host app
  · intro host app foregrounded
    rw [foreground_stopped hended.stopped]
    rfl
  · intro host n
    rw [navigate_stopped hended.stopped]
    rfl

/-- The tick of a countdown rings, the engine stops, and only then the tick comes; after that
somebody forges another one. -/
theorem inert_after_late_tick :
    let settings : Settings := { keywords := ["gambling"] }
    let tick : PendingTimer := ⟨1, 1000, .tick "app.web" 1⟩
    let moves : List Move :=
      [.call ⟨silentHost 0, .content "app.web" "gambling"⟩, .wait 1000, .ring tick,
        .call ⟨silentHost 1000, .shutdown⟩]
    let later : List Move :=
      [.deliver tick (silentHost 1001), .call ⟨silentHost 1002, .setKeyword true⟩,
        .call ⟨silentHost 1003, .timer (.tick "app.web" 1)⟩]
    let s := (start settings .empty).run moves
    (start settings .empty).Possible moves ∧ s.engine.stopped = true ∧ s.channel = [tick] ∧
      (s.run later).Inert ∧
      Quiet ((s.run later).step (.call ⟨silentHost 1004, .content "app.web" "gambling"⟩)).effects := by
  intro settings tick moves later s
  -- Every move is possible when its turn comes: the tick is pending before it rings.
  have hp : (start settings .empty).Possible moves :=
    ⟨nofun, trivial, List.mem_singleton_self tick, nofun, trivial⟩
  have hs : s.engine.stopped = true := rfl
  obtain ⟨-, hinert, hquiet, -⟩ := (inert_run settings .empty moves hp).2 hs later
  exact ⟨hp, hs, rfl, hinert, hquiet _⟩

end Traffic

end Warden.Engine
