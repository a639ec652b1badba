import Mathlib.Data.List.Nodup
import Mathlib.Data.List.Perm.Basic
import Warden.Proofs.Keyword.Steps
import Warden.Timers

namespace Warden.Keyword

/-!
# A guard and its timers

A guard sets and cancels timers. A pending timer may ring at any moment; from then on its event is
under way in a channel, where no cancellation reaches it any more, and it is delivered at any later
moment, or never, before or after other events.

* `Traffic`, `Move`, `Traffic.step` — a guard, its timers and the channel, and what may happen.
* `Turn` — everything that a move can come to.
* `Orderly` — each challenge has its own timer under way, and nothing else is pending.
* `Turn.orderly`, `orderly_run` — every turn keeps that order.
* `timers_run` — no timer is lost, none is doubled, and late events change nothing.
-/

/-- A guard, its pending timers, and the events under way to it. -/
structure Traffic where
  guard : Guard
  timers : Timers
  channel : List PendingTimer
  now : Nat

/-- Something that may happen. -/
inductive Move where
  | violate (app : String)
  | defer (app : String)
  | setTiming (countdown : Nat) (grace : Duration)
  | cancelAll
  | wait (span : Nat)
  /-- A pending timer puts its event into the channel. -/
  | ring (t : PendingTimer)
  /-- An event leaves the channel; `violating` tells which apps show restricted content then. -/
  | deliver (t : PendingTimer) (violating : String → Bool)

namespace Traffic

/-! ### Moves -/

/-- A new guard, without timers. -/
def start (countdown : Nat) (grace : Duration) : Traffic :=
  ⟨.start countdown grace, .empty, [], 0⟩

/-- The challenge of an app. -/
def challenge? (s : Traffic) (app : String) : Option Challenge := s.guard.challenge? app

/-- The timers whose events are still to be delivered. -/
def flights (s : Traffic) : List PendingTimer := s.timers.pending ++ s.channel

/-- The traffic after a step of its guard, whose calls to the timers are performed. -/
def after (s : Traffic) (o : Outcome Guard Report) : Outcome Traffic Report where
  state := { s with
    guard := o.state
    timers := (o.effects.filterMap Effect.timer?).foldl (·.perform s.now ·) s.timers }
  answer := o.answer
  effects := o.effects

/-- A move. -/
def step (s : Traffic) : Move → Outcome Traffic Report
  | .violate app => s.after ((s.guard.violate app s.timers.next).map
      (Violation.report s.guard.countdown))
  | .defer app => s.after ((s.guard.defer app s.timers.next).map deferralReport)
  | .setTiming countdown grace =>
    .answering { s with guard := s.guard.setTiming countdown grace } .none
  | .cancelAll => s.after (s.guard.cancelAll.map fun _ => .cancelled)
  | .wait span => .answering { s with now := s.now + span } .none
  | .ring t =>
    .answering { s with timers := s.timers.remove t.id, channel := t :: s.channel } .none
  | .deliver t violating =>
    after { s with channel := s.channel.erase t }
      (s.guard.deliver violating s.timers.next t.event)

/-- Whether a move is possible: only pending timers ring, and only what is in the channel is
delivered. -/
def Allows (s : Traffic) : Move → Prop
  | .ring t => t ∈ s.timers.pending
  | .deliver t _ => t ∈ s.channel
  | _ => True

/-- The traffic after a row of moves. -/
def run (s : Traffic) (moves : List Move) : Traffic := moves.foldl (fun s m => (s.step m).state) s

/-- Whether each of a row of moves is possible when its turn comes. -/
def Possible (s : Traffic) : List Move → Prop
  | [] => True
  | m :: rest => s.Allows m ∧ (s.step m).state.Possible rest

variable {s : Traffic} {m : Move} {moves rest : List Move}

theorem run_append : s.run (moves ++ rest) = (s.run moves).run rest := List.foldl_append ..

/-- Two rows of moves are possible if the first is, and the second where the first one leads. -/
theorem possible_append :
    s.Possible (moves ++ rest) ↔ s.Possible moves ∧ (s.run moves).Possible rest := by
  induction moves generalizing s with
  | nil => exact (and_iff_right trivial).symm
  | cons m moves ih => exact (and_congr_right fun _ => ih).trans and_assoc.symm

/-! ### Changes -/

/-- A generation more is used up. -/
def renew (s : Traffic) : Traffic := { s with guard := s.guard.renewed }

/-- The challenge of an app is gone, and its timer with it unless that has rung. -/
def lose (s : Traffic) (app : String) (c : Challenge) : Traffic :=
  { s with guard := s.guard.without app, timers := s.timers.remove c.timer }

/-- An event is taken out of the channel. -/
def take (s : Traffic) (t : PendingTimer) : Traffic :=
  { s with channel := s.channel.erase t }

/-- An app gets a challenge and the challenge a timer of its own. -/
def launch (s : Traffic) (app : String) (phase : Phase) (deferred : Bool) (generation : Nat)
    (delay : Duration) : Traffic :=
  let c : Challenge := ⟨phase, deferred, generation, s.timers.next⟩
  { s with
    guard := s.guard.having app c
    timers := s.timers.perform s.now (.schedule s.timers.next delay (c.awaited app)) }

/-- The timer that a launch sets. -/
def launched (s : Traffic) (app : String) (phase : Phase) (deferred : Bool) (generation : Nat)
    (delay : Duration) : PendingTimer :=
  ⟨s.timers.next, s.now + delay.millis,
    Challenge.awaited app ⟨phase, deferred, generation, s.timers.next⟩⟩

/-- A pending timer puts its event into the channel. -/
def ring (s : Traffic) (t : PendingTimer) : Traffic :=
  { s with timers := s.timers.remove t.id, channel := t :: s.channel }

/-- All challenges are gone, and what has rung is all that is left of their timers. -/
def clear (s : Traffic) : Traffic :=
  { s with
    guard := { s.guard with challenges := .empty }
    timers := { s.timers with pending := [] } }

/-- Whether a timer is that of a challenge. -/
def Owned (s : Traffic) (t : PendingTimer) : Prop :=
  ∃ app c, s.challenge? app = some c ∧ t.id = c.timer

variable {app other : String} {c d : Challenge} {t u : PendingTimer}

@[simp] theorem challenge?_renew : s.renew.challenge? app = s.challenge? app := rfl

@[simp] theorem challenge?_take : (s.take t).challenge? app = s.challenge? app := rfl

/-- The app whose challenge is gone has none; all others keep theirs. -/
@[simp] theorem challenge?_lose :
    (s.lose app c).challenge? other = if other = app then none else s.challenge? other :=
  Guard.challenge?_without

/-- The app that a challenge is launched for has that one; all others keep theirs. -/
@[simp] theorem challenge?_launch {phase : Phase} {deferred : Bool} {generation : Nat}
    {delay : Duration} : (s.launch app phase deferred generation delay).challenge? other =
      if other = app then some ⟨phase, deferred, generation, s.timers.next⟩
      else s.challenge? other :=
  Guard.challenge?_having

/-- Who still has a challenge when that of an app is gone. -/
theorem challenge?_lose_eq_some :
    (s.lose app c).challenge? other = some d ↔ other ≠ app ∧ s.challenge? other = some d := by
  rw [challenge?_lose]
  split
  next heq => simp [heq]
  next hne => exact (and_iff_right hne).symm

/-- What is still to be delivered is pending or in the channel. -/
theorem mem_flights : t ∈ s.flights ↔ t ∈ s.timers.pending ∨ t ∈ s.channel := List.mem_append

section Launch

variable {phase : Phase} {deferred : Bool} {generation : Nat} {delay : Duration}

/-- A launch adds one timer to those under way. -/
theorem flights_launch_perm :
    (s.launch app phase deferred generation delay).flights.Perm
      (s.launched app phase deferred generation delay :: s.flights) := by
  show (s.timers.pending ++ [s.launched app phase deferred generation delay] ++ s.channel).Perm _
  rw [List.append_assoc]
  exact List.perm_middle

/-- After a launch the new timer is under way, and what was before. -/
theorem mem_flights_launch :
    t ∈ (s.launch app phase deferred generation delay).flights ↔
      t = s.launched app phase deferred generation delay ∨ t ∈ s.flights :=
  flights_launch_perm.mem_iff.trans List.mem_cons

@[simp] theorem launched_app :
    (s.launched app phase deferred generation delay).event.app = app :=
  Challenge.awaited_app ..

@[simp] theorem launched_generation :
    (s.launched app phase deferred generation delay).event.generation = generation :=
  Challenge.awaited_generation ..

end Launch

/-! ### Order -/

/-- The order among challenges and timers. -/
structure Orderly (s : Traffic) : Prop where
  distinct : (s.flights.map PendingTimer.id).Nodup
  numbered : ∀ t ∈ s.flights, t.id ≤ s.timers.last
  /-- The timer of a challenge is under way with the event that the challenge waits for. -/
  awaited : ∀ app c, s.challenge? app = some c →
    ∃ t ∈ s.flights, t.id = c.timer ∧ t.event = c.awaited app
  /-- No other timer of the app carries the same generation. -/
  single : ∀ app c, s.challenge? app = some c → ∀ t ∈ s.flights, t.event.app = app →
    t.event.generation = c.generation → t.id = c.timer
  owned : ∀ t ∈ s.timers.pending, s.Owned t
  generation_le : ∀ app c, s.challenge? app = some c → c.generation ≤ s.guard.lastGeneration
  event_le : ∀ t ∈ s.flights, t.event.generation ≤ s.guard.lastGeneration
  generation_inj : ∀ app c other d, s.challenge? app = some c → s.challenge? other = some d →
    c.generation = d.generation → app = other

/-- Where there are no challenges and no timers, all is in order. -/
theorem orderly_start {countdown : Nat} {grace : Duration} : (start countdown grace).Orderly := by
  constructor
  case distinct => exact List.nodup_nil
  case generation_inj =>
    intro app c other d hc
    cases hc
  case numbered | owned | event_le =>
    intro t ht
    cases ht
  case awaited | single | generation_le =>
    intro app c hc
    cases hc

namespace Orderly

/-- Two events under way with one number are one. -/
theorem eq_of_id (h : s.Orderly) (ht : t ∈ s.flights) (hu : u ∈ s.flights) (hid : t.id = u.id) :
    t = u := List.inj_on_of_nodup_map h.distinct ht hu hid

/-- A timer under way that has the number of a challenge carries its event. -/
theorem event_of_id (h : s.Orderly) (hc : s.challenge? app = some c) (ht : t ∈ s.flights)
    (hid : t.id = c.timer) : t.event = c.awaited app := by
  obtain ⟨u, hu, huid, hevent⟩ := h.awaited app c hc
  rw [h.eq_of_id ht hu (hid.trans huid.symm)]
  exact hevent

/-- A timer belongs to one app. -/
theorem app_of_timer (h : s.Orderly) (hc : s.challenge? app = some c)
    (hd : s.challenge? other = some d) (hid : c.timer = d.timer) : app = other := by
  obtain ⟨t, ht, htid, hevent⟩ := h.awaited app c hc
  have hother : t.event = d.awaited other := h.event_of_id hd ht (htid.trans hid)
  rw [hevent] at hother
  have happ := congrArg TimerEvent.app hother
  rwa [Challenge.awaited_app, Challenge.awaited_app] at happ

/-! #### What keeps the order -/

/-- A generation may be used up without a challenge for it. -/
theorem renew (h : s.Orderly) : s.renew.Orderly where
  distinct := h.distinct
  numbered := h.numbered
  awaited := h.awaited
  single := h.single
  owned := h.owned
  generation_le app c hc := Nat.le_succ_of_le (h.generation_le app c hc)
  event_le t ht := Nat.le_succ_of_le (h.event_le t ht)
  generation_inj := h.generation_inj

/-- A challenge may go if its timer goes with it. -/
theorem lose (h : s.Orderly) (hc : s.challenge? app = some c) : (s.lose app c).Orderly := by
  have hsub : (s.lose app c).flights.Sublist s.flights :=
    (List.filter_sublist ..).append (List.Sublist.refl _)
  constructor
  case distinct => exact h.distinct.sublist (hsub.map _)
  case numbered => exact fun t ht => h.numbered t (hsub.subset ht)
  case awaited =>
    intro b d hd
    obtain ⟨hne, hd⟩ := challenge?_lose_eq_some.1 hd
    obtain ⟨t, ht, hid, hevent⟩ := h.awaited b d hd
    -- The timer that went belongs to another app.
    have hkept : t.id ≠ c.timer := fun hgone =>
      hne (h.app_of_timer hd hc (hid.symm.trans hgone))
    refine ⟨t, ?_, hid, hevent⟩
    rcases mem_flights.1 ht with ht | ht
    · exact mem_flights.2 (.inl (List.mem_filter.2 ⟨ht, bne_iff_ne.2 hkept⟩))
    · exact mem_flights.2 (.inr ht)
  case single =>
    intro b d hd t ht
    exact h.single b d (challenge?_lose_eq_some.1 hd).2 t (hsub.subset ht)
  case owned =>
    intro t ht
    obtain ⟨ht, hkept⟩ := List.mem_filter.1 ht
    obtain ⟨b, d, hd, hid⟩ := h.owned t ht
    -- A timer that is still pending is not the one that went, so its app is another one.
    have hne : b ≠ app := by
      rintro rfl
      rw [hc] at hd
      cases hd
      exact bne_iff_ne.1 hkept hid
    exact ⟨b, d, challenge?_lose_eq_some.2 ⟨hne, hd⟩, hid⟩
  case generation_le =>
    exact fun b d hd => h.generation_le b d (challenge?_lose_eq_some.1 hd).2
  case event_le => exact fun t ht => h.event_le t (hsub.subset ht)
  case generation_inj =>
    intro a c b d hc hd
    exact h.generation_inj a c b d (challenge?_lose_eq_some.1 hc).2 (challenge?_lose_eq_some.1 hd).2

/-- An event that belongs to no challenge may be taken out of the channel. -/
theorem take (h : s.Orderly) (hnone : ¬ s.Owned t) : (s.take t).Orderly := by
  have hsub : (s.take t).flights.Sublist s.flights :=
    (List.Sublist.refl _).append List.erase_sublist
  constructor
  case distinct => exact h.distinct.sublist (hsub.map _)
  case numbered => exact fun u hu => h.numbered u (hsub.subset hu)
  case awaited =>
    intro app c hc
    obtain ⟨u, hu, hid, hevent⟩ := h.awaited app c hc
    -- The event that goes belongs to nobody, so it is not the one that is waited for.
    have hne : u ≠ t := by
      rintro rfl
      exact hnone ⟨app, c, hc, hid⟩
    refine ⟨u, ?_, hid, hevent⟩
    exact mem_flights.2 ((mem_flights.1 hu).imp_right (List.mem_erase_of_ne hne).2)
  case single => exact fun app c hc u hu => h.single app c hc u (hsub.subset hu)
  case owned => exact h.owned
  case generation_le => exact h.generation_le
  case event_le => exact fun u hu => h.event_le u (hsub.subset hu)
  case generation_inj => exact h.generation_inj

/-- An app without a challenge may get one with a new timer, in a generation that nobody else
uses. -/
theorem launch {phase : Phase} {deferred : Bool} {generation : Nat} {delay : Duration}
    (h : s.Orderly) (hnone : s.challenge? app = none)
    (hle : generation ≤ s.guard.lastGeneration)
    (hevents : ∀ t ∈ s.flights, t.event.app = app → t.event.generation ≠ generation)
    (hothers : ∀ b d, s.challenge? b = some d → d.generation ≠ generation) :
    (s.launch app phase deferred generation delay).Orderly := by
  -- The new timer has the largest number so far.
  have hnext (t : PendingTimer) (ht : t ∈ s.flights) : t.id < s.timers.next :=
    Nat.lt_succ_of_le (h.numbered t ht)
  constructor
  case distinct =>
    refine ((flights_launch_perm.map PendingTimer.id).nodup_iff).2
      (List.nodup_cons.2 ⟨?_, h.distinct⟩)
    intro hin
    obtain ⟨t, ht, hid⟩ := List.mem_map.1 hin
    exact absurd hid (Nat.ne_of_lt (hnext t ht))
  case numbered =>
    intro t ht
    rcases mem_flights_launch.1 ht with rfl | ht
    · exact Nat.le_refl _
    · exact Nat.le_of_lt (hnext t ht)
  case awaited =>
    intro b d hd
    rw [challenge?_launch] at hd
    split at hd
    next heq =>
      cases hd
      rw [heq]
      exact ⟨_, mem_flights_launch.2 (.inl rfl), rfl, rfl⟩
    next hne =>
      obtain ⟨t, ht, hid, hevent⟩ := h.awaited b d hd
      exact ⟨t, mem_flights_launch.2 (.inr ht), hid, hevent⟩
  case single =>
    intro b d hd t ht happ hgen
    rw [challenge?_launch] at hd
    split at hd
    next heq =>
      cases hd
      rcases mem_flights_launch.1 ht with rfl | ht
      · rfl
      · -- What was under way before carries another generation.
        exact absurd hgen (hevents t ht (happ.trans heq))
    next hne =>
      rcases mem_flights_launch.1 ht with rfl | ht
      · exact absurd (happ.symm.trans launched_app) hne
      · exact h.single b d hd t ht happ hgen
  case owned =>
    intro t ht
    rcases List.mem_append.1 ht with ht | ht
    · -- A timer that was pending before has an owner, which cannot be the app without a challenge.
      obtain ⟨b, d, hd, hid⟩ := h.owned t ht
      have hne : b ≠ app := by
        rintro rfl
        rw [hnone] at hd
        cases hd
      exact ⟨b, d, by rw [challenge?_launch, if_neg hne]; exact hd, hid⟩
    · rw [List.mem_singleton.1 ht]
      exact ⟨app, _, challenge?_launch.trans (if_pos rfl), rfl⟩
  case generation_le =>
    intro b d hd
    rw [challenge?_launch] at hd
    split at hd
    · cases hd
      exact hle
    · exact h.generation_le b d hd
  case event_le =>
    intro t ht
    rcases mem_flights_launch.1 ht with rfl | ht
    · rw [launched_generation]
      exact hle
    · exact h.event_le t ht
  case generation_inj =>
    intro a c' b d hc hd hgen
    rw [challenge?_launch] at hc hd
    split at hc <;> split at hd
    next ha hb => rw [ha, hb]
    next ha hb =>
      cases hc
      exact absurd hgen.symm (hothers b d hd)
    next ha hb =>
      cases hd
      exact absurd hgen (hothers a c' hc)
    next ha hb => exact h.generation_inj a c' b d hc hd hgen

/-- A timer may ring at any moment. -/
theorem ring (h : s.Orderly) (ht : t ∈ s.timers.pending) : (s.ring t).Orderly := by
  have hflight : t ∈ s.flights := mem_flights.2 (.inl ht)
  -- The event changes its place, but what is under way stays the same.
  have hmem (u : PendingTimer) : u ∈ (s.ring t).flights ↔ u ∈ s.flights := by
    show u ∈ s.timers.pending.filter (·.id != t.id) ++ t :: s.channel ↔ _
    rw [mem_flights, List.mem_append, List.mem_filter, List.mem_cons, bne_iff_ne]
    constructor
    · rintro (⟨hu, -⟩ | rfl | hu)
      · exact .inl hu
      · exact .inl ht
      · exact .inr hu
    · rintro (hu | hu)
      · by_cases hid : u.id = t.id
        · exact .inr (.inl (h.eq_of_id (mem_flights.2 (.inl hu)) hflight hid))
        · exact .inl ⟨hu, hid⟩
      · exact .inr (.inr hu)
  constructor
  case distinct =>
    have hsub : ((s.timers.remove t.id).pending ++ s.channel).Sublist s.flights :=
      (List.filter_sublist ..).append (List.Sublist.refl _)
    refine ((List.perm_middle.map PendingTimer.id).nodup_iff).2
      (List.nodup_cons.2 ⟨?_, h.distinct.sublist (hsub.map _)⟩)
    intro hin
    obtain ⟨u, hu, hid⟩ := List.mem_map.1 hin
    rcases List.mem_append.1 hu with hpending | hchannel
    · exact bne_iff_ne.1 (List.mem_filter.1 hpending).2 hid
    · -- The timer cannot have been pending and in the channel at once.
      obtain rfl := h.eq_of_id (mem_flights.2 (.inr hchannel)) hflight hid
      exact List.disjoint_of_nodup_append (List.Nodup.of_map _ h.distinct) ht hchannel
  case numbered => exact fun u hu => h.numbered u ((hmem u).1 hu)
  case awaited =>
    intro app c hc
    obtain ⟨u, hu, hid, hevent⟩ := h.awaited app c hc
    exact ⟨u, (hmem u).2 hu, hid, hevent⟩
  case single => exact fun app c hc u hu => h.single app c hc u ((hmem u).1 hu)
  case owned => exact fun u hu => h.owned u (List.mem_of_mem_filter hu)
  case generation_le => exact h.generation_le
  case event_le => exact fun u hu => h.event_le u ((hmem u).1 hu)
  case generation_inj => exact h.generation_inj

/-- All challenges may go at once, with all pending timers. -/
theorem clear (h : s.Orderly) : s.clear.Orderly := by
  have hsub : s.clear.flights.Sublist s.flights := List.sublist_append_right ..
  constructor
  case distinct => exact h.distinct.sublist (hsub.map _)
  case numbered => exact fun t ht => h.numbered t (hsub.subset ht)
  case event_le => exact fun t ht => h.event_le t (hsub.subset ht)
  case owned =>
    intro t ht
    cases ht
  case generation_inj =>
    intro app c other d hc
    cases hc
  case awaited | single | generation_le =>
    intro app c hc
    cases hc

end Orderly

/-! ### What a move can come to -/

/-- What a move can come to: the traffic after it, the answer and the effects. -/
inductive Turn (s : Traffic) : Move → Outcome Traffic Report → Prop
  | started {app : String} (hnone : s.challenge? app = none) :
    Turn s (.violate app)
      ⟨s.renew.launch app (.counting s.guard.countdown) false (s.guard.lastGeneration + 1)
          Guard.second,
        .started s.guard.countdown,
        [.timer (.schedule s.timers.next Guard.second (.tick app (s.guard.lastGeneration + 1))),
          Guard.shown app s.guard.countdown]⟩
  | absorbed {app : String} {c : Challenge} (hc : s.challenge? app = some c) :
    Turn s (.violate app) ⟨s, .absorbed c.phase, []⟩
  | deferred {app : String} {c : Challenge} {n : Nat} (hc : s.challenge? app = some c)
      (hp : c.phase = .counting n) (hd : c.deferred = false) :
    Turn s (.defer app)
      ⟨(s.lose app c).renew.launch app .grace true (s.guard.lastGeneration + 1) s.guard.grace,
        .deferred,
        .timer (.cancel c.timer) ::
          .timer (.schedule s.timers.next s.guard.grace
            (.grace app (s.guard.lastGeneration + 1))) ::
          Guard.hidden app 0 ::
          ((s.lose app c).renew.launch app .grace true (s.guard.lastGeneration + 1)
            s.guard.grace).guard.reshow⟩
  | refused {app : String}
      (h : ∀ c, s.challenge? app = some c → c.deferred = true ∨ c.phase = .grace) :
    Turn s (.defer app) ⟨s.renew, .refused, []⟩
  | timed {countdown : Nat} {grace : Duration} :
    Turn s (.setTiming countdown grace)
      ⟨{ s with guard := s.guard.setTiming countdown grace }, .none, []⟩
  | cancelled :
    Turn s .cancelAll
      ⟨s.clear, .cancelled, s.guard.challenges.entries.flatMap fun e => Guard.ending e.1 e.2⟩
  | waited {span : Nat} : Turn s (.wait span) ⟨{ s with now := s.now + span }, .none, []⟩
  | rung {t : PendingTimer} (ht : t ∈ s.timers.pending) : Turn s (.ring t) ⟨s.ring t, .none, []⟩
  | stale {t : PendingTimer} {violating : String → Bool} (ht : t ∈ s.channel)
      (hnone : ¬ s.Owned t) :
    Turn s (.deliver t violating) ⟨s.take t, .stale, []⟩
  | ticked {t : PendingTimer} {violating : String → Bool} {app : String} {c : Challenge} {n : Nat}
      (ht : t ∈ s.channel) (hc : s.challenge? app = some c) (hid : t.id = c.timer)
      (hp : c.phase = .counting (n + 1)) (hn : 0 < n) :
    Turn s (.deliver t violating)
      ⟨((s.lose app c).take t).launch app (.counting n) c.deferred c.generation Guard.second,
        .ticked n,
        [.timer (.schedule s.timers.next Guard.second (.tick app c.generation)),
          .surface (.update (.keyword app n))]⟩
  | expired {t : PendingTimer} {violating : String → Bool} {app : String} {c : Challenge} {n : Nat}
      (ht : t ∈ s.channel) (hc : s.challenge? app = some c) (hid : t.id = c.timer)
      (hp : c.phase = .counting n) (hn : n ≤ 1) :
    Turn s (.deliver t violating)
      ⟨(s.lose app c).take t, .expired,
        .surface (.goHome (.countdownExpired app)) :: Guard.hidden app 0 ::
          (s.guard.without app).reshow⟩
  | resumed {t : PendingTimer} {violating : String → Bool} {app : String} {c : Challenge}
      (ht : t ∈ s.channel) (hc : s.challenge? app = some c) (hid : t.id = c.timer)
      (hp : c.phase = .grace) (hv : violating app = true) :
    Turn s (.deliver t violating)
      ⟨((s.lose app c).take t).renew.launch app (.counting s.guard.countdown) c.deferred
          (s.guard.lastGeneration + 1) Guard.second,
        .resumed s.guard.countdown,
        [.timer (.schedule s.timers.next Guard.second (.tick app (s.guard.lastGeneration + 1))),
          Guard.shown app s.guard.countdown]⟩
  | resolved {t : PendingTimer} {violating : String → Bool} {app : String} {c : Challenge}
      (ht : t ∈ s.channel) (hc : s.challenge? app = some c) (hid : t.id = c.timer)
      (hp : c.phase = .grace) (hv : violating app = false) :
    Turn s (.deliver t violating) ⟨(s.lose app c).take t, .resolved, []⟩

/-- A challenge whose timer has rung has no pending timer to lose. -/
theorem Orderly.lose_of_rung (h : s.Orderly) (app : String) (ht : t ∈ s.channel)
    (hid : t.id = c.timer) : s.lose app c = { s with guard := s.guard.without app } := by
  have hkeep : s.timers.pending.filter (·.id != c.timer) = s.timers.pending := by
    refine List.filter_eq_self.2 fun u hu => bne_iff_ne.2 fun huid => ?_
    obtain rfl := h.eq_of_id (mem_flights.2 (.inl hu)) (mem_flights.2 (.inr ht))
      (huid.trans hid.symm)
    exact List.disjoint_of_nodup_append (List.Nodup.of_map _ h.distinct) hu ht
  simp only [Traffic.lose, Timers.remove, hkeep]

/-- Cancelling timers one after the other. -/
theorem foldl_cancel (timers : Timers) (now : Nat) (ids : List TimerId) :
    (ids.map Timer.Call.cancel).foldl (·.perform now ·) timers =
      { timers with pending := timers.pending.filter fun t => !ids.contains t.id } := by
  -- On the numbers; a number less, and the timers with it.
  induction ids generalizing timers with
  | nil => simp
  | cons id ids ih =>
    rw [List.map_cons, List.foldl_cons, ih, Timers.perform, Timers.remove, List.filter_filter]
    congr 1
    refine List.filter_congr fun t _ => ?_
    rw [List.contains_cons, Bool.not_or, Bool.and_comm]
    rfl

/-- What a cancellation asks of the timers is that each challenge's own is cancelled. -/
theorem cancelAll_calls (g : Guard) :
    g.cancelAll.effects.filterMap Effect.timer? =
      (g.challenges.entries.map fun e => e.2.timer).map Timer.Call.cancel := by
  unfold Guard.cancelAll
  -- On the challenges: the end of each of them cancels one timer.
  induction g.challenges.entries with
  | nil => rfl
  | cons e entries ih =>
    have hending : (Guard.ending e.1 e.2).filterMap Effect.timer? = [.cancel e.2.timer] := by
      unfold Guard.ending
      cases e.2.phase <;> rfl
    rw [List.flatMap_cons, List.filterMap_append, hending, ih]
    rfl

/-- Cancelling the timers of all challenges leaves none pending. -/
theorem Orderly.cancelAll (h : s.Orderly) :
    (s.guard.cancelAll.effects.filterMap Effect.timer?).foldl (·.perform s.now ·) s.timers =
      { s.timers with pending := [] } := by
  rw [cancelAll_calls, foldl_cancel]
  congr 1
  refine List.filter_eq_nil_iff.2 fun t ht => ?_
  -- Whatever is pending is owned, so its number is among those that are cancelled.
  obtain ⟨app, c, hc, hid⟩ := h.owned t ht
  have hmem : t.id ∈ s.guard.challenges.entries.map fun e => e.2.timer :=
    List.mem_map.2 ⟨(app, c), AppTable.mem_entries.2 hc, hid.symm⟩
  simpa using hmem

/-- A deferral is granted or refused. -/
theorem turn_defer (s : Traffic) (app : String) : Turn s (.defer app) (s.step (.defer app)) := by
  rcases s.guard.deferrable_or app with ⟨c, n, hc, hd, hp⟩ | hno
  · convert Turn.deferred hc hp hd using 1
    simp only [step, Guard.defer_accepted hc hd hp, after, Outcome.map, launch, lose, renew,
      Guard.having_renewed_without, List.filterMap_cons, Effect.timer?, Guard.hidden,
      Guard.reshow_timer]
    rfl
  · simp only [step, Guard.defer_refused hno]
    exact .refused hno

/-- The event that a challenge waits for is delivered. -/
theorem turn_deliver_own (h : s.Orderly) (hc : s.challenge? app = some c) (ht : t ∈ s.channel)
    (hid : t.id = c.timer) (violating : String → Bool) :
    Turn s (.deliver t violating) (s.step (.deliver t violating)) := by
  -- The event says in which phase the challenge was when the timer was set, and the number that it
  -- still is.
  have hevent : t.event = c.awaited app := h.event_of_id hc (mem_flights.2 (.inr ht)) hid
  have hlose := h.lose_of_rung app ht hid
  cases hp : c.phase with
  | counting n =>
    by_cases hn : n ≤ 1
    · convert Turn.expired ht hc hid hp hn using 1
      simp only [step, hevent, Guard.deliver_last hc hp hn, after, hlose, take,
        List.filterMap_cons, Effect.timer?, Guard.hidden, Guard.reshow_timer]
      rfl
    · obtain ⟨k, rfl⟩ : ∃ k, n = k + 1 := ⟨n - 1, by omega⟩
      have hk : 0 < k := by omega
      convert Turn.ticked ht hc hid hp hk using 1
      simp only [step, hevent, Guard.deliver_tick hc hp hk, after, hlose, take, launch,
        Guard.having_without]
      rfl
  | grace =>
    cases hv : violating app with
    | true =>
      convert Turn.resumed ht hc hid hp hv using 1
      simp only [step, hevent, Guard.deliver_grace hc hp, hv, if_true, after, hlose, take, renew,
        launch, Guard.having_renewed_without]
      rfl
    | false =>
      convert Turn.resolved ht hc hid hp hv using 1
      simp only [step, hevent, Guard.deliver_grace hc hp, hv, Bool.false_eq_true, if_false, after,
        hlose, take]
      rfl

/-- The turns are all there is. -/
theorem turn_step (h : s.Orderly) (hm : s.Allows m) : Turn s m (s.step m) := by
  cases m with
  | violate app =>
    cases hc : s.challenge? app with
    | none =>
      simp only [step, Guard.violate_idle hc]
      exact .started hc
    | some c =>
      simp only [step, Guard.violate_live hc]
      exact .absorbed hc
  | defer app => exact turn_defer s app
  | setTiming countdown grace => exact .timed
  | cancelAll =>
    convert Turn.cancelled (s := s) using 1
    simp only [step, after, Outcome.map, h.cancelAll]
    rfl
  | wait span => exact .waited
  | ring t => exact .rung hm
  | deliver t violating =>
    have ht : t ∈ s.channel := hm
    -- An event whose number no challenge has noted is stale, whatever it is about.
    by_cases hown : s.Owned t
    · obtain ⟨app, c, hc, hid⟩ := hown
      exact turn_deliver_own h hc ht hid violating
    · -- An event of the present generation would be the challenge's own.
      have hstale : ∀ c, s.guard.challenge? t.event.app = some c →
          t.event ≠ c.awaited t.event.app := by
        intro c hc hevent
        have hgen := congrArg TimerEvent.generation hevent
        rw [Challenge.awaited_generation] at hgen
        exact hown ⟨_, c, hc, h.single _ c hc t (mem_flights.2 (.inr ht)) rfl hgen⟩
      simp only [step, Guard.deliver_stale hstale]
      exact .stale ht hown

/-! ### What a turn keeps -/

namespace Orderly

/-- A challenge in a generation of its own. -/
theorem launch_new {phase : Phase} {deferred : Bool} {delay : Duration} (h : s.Orderly)
    (hnone : s.challenge? app = none) :
    (s.renew.launch app phase deferred (s.guard.lastGeneration + 1) delay).Orderly := by
  refine h.renew.launch hnone (Nat.le_refl _) ?_ ?_
  · -- All generations so far are older than the new one.
    intro t ht _
    exact Nat.ne_of_lt (Nat.lt_succ_of_le (h.event_le t ht))
  · intro b d hd
    exact Nat.ne_of_lt (Nat.lt_succ_of_le (h.generation_le b d hd))

/-- A challenge goes when its event is delivered. -/
theorem lose_take (h : s.Orderly) (hc : s.challenge? app = some c) (hid : t.id = c.timer) :
    ((s.lose app c).take t).Orderly := by
  refine (h.lose hc).take ?_
  -- The timer belonged to the challenge that is gone, and a timer belongs to one app.
  rintro ⟨b, d, hd, hbd⟩
  obtain ⟨hne, hd⟩ := challenge?_lose_eq_some.1 hd
  exact hne (h.app_of_timer hd hc (hbd.symm.trans hid))

/-- A countdown goes on when its event is delivered. -/
theorem relaunch {phase : Phase} {delay : Duration} (h : s.Orderly)
    (hc : s.challenge? app = some c) (ht : t ∈ s.channel) (hid : t.id = c.timer) :
    (((s.lose app c).take t).launch app phase c.deferred c.generation delay).Orderly := by
  refine (h.lose_take hc hid).launch (by simp) (h.generation_le app c hc) ?_ ?_
  · -- The only event of this generation is the one that is delivered.
    intro u hu happ hgen
    have hsub : ((s.lose app c).take t).flights.Sublist s.flights :=
      (List.filter_sublist ..).append List.erase_sublist
    have huid : u.id = c.timer := h.single app c hc u (hsub.subset hu) happ hgen
    rcases mem_flights.1 hu with hu | hu
    · exact bne_iff_ne.1 (List.mem_filter.1 hu).2 huid
    · have hnodup : s.channel.Nodup := (List.nodup_append.1 (List.Nodup.of_map _ h.distinct)).2.1
      obtain ⟨hne, hu⟩ := hnodup.mem_erase_iff.1 hu
      exact hne (h.eq_of_id (mem_flights.2 (.inr hu)) (mem_flights.2 (.inr ht))
        (huid.trans hid.symm))
  · intro b d hd hgen
    rw [challenge?_take, challenge?_lose_eq_some] at hd
    exact hd.1 (h.generation_inj b d app c hd.2 hc hgen)

end Orderly

variable {o : Outcome Traffic Report}

/-- Every turn keeps the order. -/
theorem Turn.orderly (h : s.Orderly) (hturn : Turn s m o) : o.state.Orderly := by
  -- One case for each turn; a turn is made of the changes above.
  cases hturn with
  | started hnone => exact h.launch_new hnone
  | absorbed hc => exact h
  | deferred hc hp hd => exact (h.lose hc).launch_new (by simp)
  | refused hno => exact h.renew
  | timed | waited =>
    exact ⟨h.distinct, h.numbered, h.awaited, h.single, h.owned, h.generation_le, h.event_le,
      h.generation_inj⟩
  | cancelled => exact h.clear
  | rung ht => exact h.ring ht
  | stale ht hnone => exact h.take hnone
  | ticked ht hc hid hp hn => exact h.relaunch hc ht hid
  | expired ht hc hid hp hn => exact h.lose_take hc hid
  | resumed ht hc hid hp hv => exact (h.lose_take hc hid).launch_new (by simp)
  | resolved ht hc hid hp hv => exact h.lose_take hc hid

/-- No turn takes a generation back. -/
theorem Turn.lastGeneration_le (hturn : Turn s m o) :
    s.guard.lastGeneration ≤ o.state.guard.lastGeneration := by
  cases hturn with
  | started | deferred | refused | resumed => exact Nat.le_succ _
  | _ => exact Nat.le_refl _

/-- A generation is either kept or new. -/
theorem Turn.generation (hturn : Turn s m o) (hd : o.state.challenge? app = some d) :
    (∃ c, s.challenge? app = some c ∧ c.generation = d.generation) ∨
      s.guard.lastGeneration < d.generation := by
  cases hturn with
  -- Turns that touch no challenge, the one that ends all, and those that launch or lose one.
  | absorbed | refused | timed | waited | rung | stale => exact .inl ⟨d, hd, rfl⟩
  | cancelled => cases hd
  | started hnone =>
    rw [challenge?_launch] at hd
    split at hd
    · cases hd
      exact .inr (Nat.lt_succ_self _)
    · exact .inl ⟨d, hd, rfl⟩
  | deferred hc hp hd' =>
    rw [challenge?_launch] at hd
    split at hd
    · cases hd
      exact .inr (Nat.lt_succ_self _)
    · rw [challenge?_renew, challenge?_lose_eq_some] at hd
      exact .inl ⟨d, hd.2, rfl⟩
  | ticked ht hc hid hp hn =>
    rw [challenge?_launch] at hd
    split at hd
    next heq =>
      cases hd
      rw [heq]
      exact .inl ⟨_, hc, rfl⟩
    · rw [challenge?_take, challenge?_lose_eq_some] at hd
      exact .inl ⟨d, hd.2, rfl⟩
  | resumed ht hc hid hp hv =>
    rw [challenge?_launch] at hd
    split at hd
    · cases hd
      exact .inr (Nat.lt_succ_self _)
    · rw [challenge?_renew, challenge?_take, challenge?_lose_eq_some] at hd
      exact .inl ⟨d, hd.2, rfl⟩
  | expired | resolved =>
    rw [challenge?_take, challenge?_lose_eq_some] at hd
    exact .inl ⟨d, hd.2, rfl⟩

/-! ### Runs -/

/-- Whatever possible moves are made, the order is kept. -/
theorem orderly_run (h : s.Orderly) (hp : s.Possible moves) : (s.run moves).Orderly := by
  -- On the moves: `turn_step` tells what a move comes to, and `Turn.orderly` that it keeps the
  -- order.
  induction moves generalizing s with
  | nil => exact h
  | cons m moves ih => exact ih ((turn_step h hp.1).orderly h) hp.2

/-- No generation is given out twice. -/
theorem lastGeneration_run_le (h : s.Orderly) (hp : s.Possible moves) :
    s.guard.lastGeneration ≤ (s.run moves).guard.lastGeneration := by
  induction moves generalizing s with
  | nil => exact Nat.le_refl _
  | cons m moves ih =>
    have hturn := turn_step h hp.1
    exact Nat.le_trans hturn.lastGeneration_le (ih (hturn.orderly h) hp.2)

/-- A generation that was given out before belongs to a challenge that has been there since. -/
theorem generation_run (h : s.Orderly) (hp : s.Possible moves)
    (hd : (s.run moves).challenge? app = some d) (hle : d.generation ≤ s.guard.lastGeneration) :
    ∃ c, s.challenge? app = some c ∧ c.generation = d.generation := by
  -- Going back turn by turn, the generation can never have been new.
  induction moves generalizing s with
  | nil => exact ⟨d, hd, rfl⟩
  | cons m moves ih =>
    have hturn := turn_step h hp.1
    have hle' : d.generation ≤ (s.step m).state.guard.lastGeneration :=
      Nat.le_trans hle hturn.lastGeneration_le
    obtain ⟨c', hc', hgen'⟩ := ih (hturn.orderly h) hp.2 hd hle'
    rcases hturn.generation hc' with ⟨c, hc, hgen⟩ | hnew
    · exact ⟨c, hc, hgen.trans hgen'⟩
    · omega

/-! ### No timer is lost or doubled -/

namespace Orderly

/-- A challenge has one event under way that it waits for. -/
theorem own_flight (h : s.Orderly) (hc : s.challenge? app = some c) :
    ∃ t, s.flights.filter (fun t => t.event = c.awaited app) = [t] ∧ t.id = c.timer := by
  obtain ⟨t, ht, hid, hevent⟩ := h.awaited app c hc
  -- There is one by `awaited`; that there is no second one is `single`, with the numbers distinct.
  have hnodup : (s.flights.filter fun t => t.event = c.awaited app).Nodup :=
    (List.Nodup.of_map _ h.distinct).filter _
  refine ⟨t, List.perm_singleton.1 ?_, hid⟩
  refine (List.perm_ext_iff_of_nodup hnodup (List.nodup_singleton t)).2 fun u => ?_
  rw [List.mem_filter, List.mem_singleton, decide_eq_true_eq]
  constructor
  · rintro ⟨hu, huevent⟩
    have happ : u.event.app = app := by rw [huevent, c.awaited_app]
    have hgen : u.event.generation = c.generation := by rw [huevent, c.awaited_generation]
    have huid : u.id = c.timer := h.single app c hc u hu happ hgen
    exact h.eq_of_id hu ht (huid.trans hid.symm)
  · rintro rfl
    exact ⟨ht, hevent⟩

/-- A pending timer is the one that some challenge waits for. -/
theorem pending_event (h : s.Orderly) (ht : t ∈ s.timers.pending) :
    ∃ app c, s.challenge? app = some c ∧ t.event = c.awaited app ∧ t.id = c.timer := by
  obtain ⟨app, c, hc, hid⟩ := h.owned t ht
  exact ⟨app, c, hc, h.event_of_id hc (mem_flights.2 (.inl ht)) hid, hid⟩

/-- An event that no challenge waits for does nothing but leave the channel. -/
theorem deliver_stale (h : s.Orderly) (ht : t ∈ s.channel) (hnone : ¬ s.Owned t)
    (violating : String → Bool) : s.step (.deliver t violating) = ⟨s.take t, .stale, []⟩ := by
  have hturn : Turn s (.deliver t violating) (s.step (.deliver t violating)) := turn_step h ht
  generalize s.step (.deliver t violating) = o at hturn
  cases hturn with
  | stale => rfl
  | ticked _ hc hid | expired _ hc hid | resumed _ hc hid | resolved _ hc hid =>
    exact absurd ⟨_, _, hc, hid⟩ hnone

end Orderly

/-- **No timer is lost, none is doubled.** After every possible run, each challenge has exactly one
event under way that it waits for, with the number it has noted; nothing else is pending; whatever
else is in the channel does nothing when it is delivered; and a generation stands for one unbroken
phase of one challenge. -/
theorem timers_run (countdown : Nat) (grace : Duration) (moves : List Move)
    (hp : (start countdown grace).Possible moves) :
    let s := (start countdown grace).run moves
    (∀ app c, s.challenge? app = some c →
      ∃ t, s.flights.filter (fun t => t.event = c.awaited app) = [t] ∧ t.id = c.timer) ∧
    (∀ t ∈ s.timers.pending,
      ∃ app c, s.challenge? app = some c ∧ t.event = c.awaited app ∧ t.id = c.timer) ∧
    (∀ t ∈ s.channel, (∀ app c, s.challenge? app = some c → t.id ≠ c.timer) → ∀ violating,
      s.step (.deliver t violating) =
        ⟨{ s with channel := s.channel.erase t }, .stale, []⟩) ∧
    ∀ before middle after, moves = before ++ (middle ++ after) → ∀ app c other d,
      ((start countdown grace).run before).challenge? app = some c →
      s.challenge? other = some d → d.generation = c.generation →
      app = other ∧ ∃ c',
        ((start countdown grace).run (before ++ middle)).challenge? app = some c' ∧
          c'.generation = c.generation := by
  intro s
  have h : s.Orderly := orderly_run orderly_start hp
  refine ⟨fun app c hc => h.own_flight hc, fun t ht => h.pending_event ht, ?_, ?_⟩
  · intro t ht hother violating
    exact h.deliver_stale ht (fun ⟨app, c, hc, hid⟩ => hother app c hc hid) violating
  · rintro before middle after rfl app c other d hc hd hgen
    rw [possible_append, possible_append] at hp
    obtain ⟨hbefore, hmiddle, hafter⟩ := hp
    have hfirst : ((start countdown grace).run before).Orderly := orderly_run orderly_start hbefore
    have hsecond : (((start countdown grace).run before).run middle).Orderly :=
      orderly_run hfirst hmiddle
    -- The generation was there after the first stretch, so the challenge at the end goes back to
    -- one there.
    have hle : d.generation ≤ ((start countdown grace).run before).guard.lastGeneration :=
      hgen ▸ hfirst.generation_le app c hc
    have hd' : ((((start countdown grace).run before).run middle).run after).challenge? other =
        some d := by
      rw [← run_append, ← run_append]
      exact hd
    obtain ⟨c₂, hc₂, hgen₂⟩ := generation_run hsecond hafter hd'
      (Nat.le_trans hle (lastGeneration_run_le hfirst hmiddle))
    obtain ⟨c₁, hc₁, hgen₁⟩ := generation_run hfirst hmiddle hc₂ (hgen₂ ▸ hle)
    obtain rfl := hfirst.generation_inj app c other c₁ hc hc₁ (by omega)
    rw [run_append]
    exact ⟨rfl, c₂, hc₂, hgen₂.trans hgen⟩

/-- The tick of a countdown that was deferred while the tick was under way. -/
theorem timers_run_late_tick :
    let tick : PendingTimer := ⟨1, 1000, .tick "app.web" 1⟩
    let moves : List Move := [.violate "app.web", .ring tick, .defer "app.web"]
    let s := (start 15 (.seconds 15)).run moves
    (start 15 (.seconds 15)).Possible moves ∧ s.channel = [tick] ∧
      (s.step (.deliver tick fun _ => true)).answer = .stale := by
  intro tick moves s
  have hp : (start 15 (.seconds 15)).Possible moves :=
    ⟨trivial, List.mem_singleton_self tick, trivial, trivial⟩
  have hother : ∀ app c, s.challenge? app = some c → tick.id ≠ c.timer := by
    intro app c hc hid
    have hmem : (app, c) ∈ [("app.web", Challenge.mk .grace true 2 2)] := AppTable.mem_entries.2 hc
    cases List.mem_singleton.1 hmem
    cases hid
  have hlate := (timers_run 15 (.seconds 15) moves hp).2.2.1 tick (List.mem_singleton_self tick)
    hother fun _ => true
  exact ⟨hp, rfl, congrArg Outcome.answer hlate⟩

end Traffic

end Warden.Keyword
