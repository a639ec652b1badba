import Warden.Proofs.Keyword.Book

namespace Warden.Keyword

/-!
# One app at a time

What becomes of the challenge of an app is a matter of what is done about this app, of the lengths
of countdowns and grace periods, and of nothing else.  A guard in which there is only one app shows
it.

* `Solo`, `Solo.step` — the challenge of one app, told without numbers: a timer of the app either is
  the one that its challenge waits for, or it is not.
* `Book.view` — what a guard with its book is to one app.
* `Book.view_own`, `Book.view_all`, `Book.view_other` — what an act is to the app: the step of the
  solo, or nothing but the countdown shown once more.
* `Reshown` — a trace with some countdowns shown once more.
* `Book.independent_run` — leaving out all acts about other apps changes no more than that.
-/

/-! ### The challenge of one app -/

/-- A timer of an app. -/
structure Booking where
  delay : Duration
  /-- Whether it ends a grace period. -/
  isGrace : Bool
  /-- Whether it is one that the challenge waits for. -/
  awaited : Bool
  deriving DecidableEq

/-- A timer that nothing waits for any more. -/
def Booking.idle (t : Booking) : Booking := { t with awaited := false }

/-- Where the challenge of an app stands, and whether its deferral has been used. -/
abbrev Standing := Option (Phase × Bool)

/-- What a guard is to one app. -/
structure Solo where
  countdown : Nat
  grace : Duration
  standing : Standing
  bookings : List Booking

/-- What an act comes to for one app. -/
@[ext] structure Episode where
  state : Solo
  report : Report
  notices : List Notice

namespace Solo

/-- Nothing changes. -/
def idle (s : Solo) (report : Report) : Episode := ⟨s, report, []⟩

/-- The challenge is gone. -/
def without (s : Solo) : Solo := { s with standing := none, bookings := s.bookings.map .idle }

/-- A phase starts, with a timer of its own. -/
def having (s : Solo) (phase : Phase) (deferred : Bool) (delay : Duration) (isGrace : Bool) : Solo :=
  { s with
    standing := some (phase, deferred)
    bookings := s.bookings.map .idle ++ [⟨delay, isGrace, true⟩] }

/-- A countdown starts. -/
def count (s : Solo) (deferred : Bool) (report : Report) : Episode :=
  ⟨s.having (.counting s.countdown) deferred Guard.second false, report,
    [.timed Guard.second false, .shown s.countdown]⟩

/-- The app shows restricted content. -/
def violate (s : Solo) : Episode :=
  match s.standing with
  | some (phase, _) => s.idle (.absorbed phase)
  | none => s.count false (.started s.countdown)

/-- Its user defers. -/
def defer (s : Solo) : Episode :=
  match s.standing with
  | some (.counting _, false) =>
    ⟨s.having .grace true s.grace true, .deferred, [.timed s.grace true, .hidden 0]⟩
  | _ => s.idle .refused

/-- An event comes that the challenge waits for. -/
def awaited (s : Solo) (violating : Bool) : Episode :=
  match s.standing with
  | none => s.idle .stale
  | some (.counting n, deferred) =>
    if n ≤ 1 then ⟨s.without, .expired, [.sentHome, .hidden 0]⟩
    else
      -- All seconds of a countdown have one generation.
      ⟨{ s with
          standing := some (.counting (n - 1), deferred)
          bookings := s.bookings ++ [⟨Guard.second, false, true⟩] },
        .ticked (n - 1), [.timed Guard.second false, .updated (n - 1)]⟩
  | some (.grace, deferred) =>
    if violating then s.count deferred (.resumed s.countdown) else ⟨s.without, .resolved, []⟩

/-- The timer at a place delivers its event. -/
def deliver (s : Solo) (place : Nat) (violating : Bool) : Episode :=
  match s.bookings[place]? with
  | none => s.idle .none
  | some t => if t.awaited then s.awaited violating else s.idle .stale

/-- Whatever challenge there is ends. -/
def cancelAll (s : Solo) : Episode :=
  ⟨s.without, .cancelled,
    match s.standing with
    | some (.counting n, _) => [.hidden n]
    | _ => []⟩

/-- What an act about this app, or about all apps, comes to. -/
def step (s : Solo) : Act → Episode
  | .violate _ => s.violate
  | .defer _ => s.defer
  | .deliver _ place violating => s.deliver place violating
  | .setTiming countdown grace => idle { s with countdown := max countdown 1, grace } .none
  | .cancelAll => s.cancelAll

end Solo

/-! ### Traces -/

/-- Whether an act concerns an app, alone or with all others. -/
def Act.concerns (app : String) (a : Act) : Bool := a.app?.all (· = app)

/-- What does not concern an app is about another one. -/
theorem Act.exists_of_not_concerns {app : String} {a : Act} (h : a.concerns app = false) :
    ∃ other, a.app? = some other ∧ app ≠ other := by
  unfold concerns at h
  cases ha : a.app? with
  | none =>
    rw [ha] at h
    cases h
  | some other =>
    rw [ha] at h
    exact ⟨other, rfl, Ne.symm (of_decide_eq_false h)⟩

/-- What an app notices, each time with where its challenge stands then. -/
abbrev Trace := List (Notice × Standing)

/-- What an app is told by an act: what it notices, and the answer if the act is about this app. -/
def Episode.told (app : String) (a : Act) (e : Episode) : Trace :=
  (e.notices ++ if a.app? = some app then [Notice.answered e.report] else []).map
    (·, e.state.standing)

namespace Solo

/-- The trace of an app that is alone. -/
def trace (app : String) (s : Solo) : List Act → Trace
  | [] => []
  | a :: rest => (s.step a).told app a ++ (s.step a).state.trace app rest

/-- The app after a row of acts. -/
def run (s : Solo) (acts : List Act) : Solo := acts.foldl (fun s a => (s.step a).state) s

end Solo

/-- Whether an app notices no more than that its countdown is shown as it stands. -/
def IsAgain (x : Notice × Standing) : Prop :=
  ∃ n deferred, x = (.shown n, some (.counting n, deferred))

/-- Whether a trace is another one, with the countdown shown as it stands in some more places. -/
inductive Reshown : Trace → Trace → Prop
  | nil : Reshown [] []
  | same {long short : Trace} (x : Notice × Standing) (h : Reshown long short) :
    Reshown (x :: long) (x :: short)
  | again {long short : Trace} {x : Notice × Standing} (hx : IsAgain x) (h : Reshown long short) :
    Reshown (x :: long) short

section Reshown

variable {long short extra : Trace}

/-- What both traces start with may be left out. -/
theorem Reshown.same_append (h : Reshown long short) (first : Trace) :
    Reshown (first ++ long) (first ++ short) := by
  induction first with
  | nil => exact h
  | cons x rest ih => exact .same x ih

/-- Any number of countdowns may be shown once more. -/
theorem Reshown.again_append (h : Reshown long short) (hextra : ∀ x ∈ extra, IsAgain x) :
    Reshown (extra ++ long) short := by
  induction extra with
  | nil => exact h
  | cons x rest ih =>
    obtain ⟨hx, hrest⟩ := List.forall_mem_cons.1 hextra
    exact .again hx (ih hrest)

end Reshown

/-! ### The view of an app -/

variable {g : Guard} {app other : String} {c : Challenge} {n : Nat}

/-- Where the challenge of an app stands, if it has one. -/
def Guard.standing (g : Guard) (app : String) : Standing :=
  (g.challenge? app).map fun c => (c.phase, c.deferred)

/-- Whether the challenge of an app waits for an event. -/
def Guard.awaits (g : Guard) (app : String) (event : TimerEvent) : Bool :=
  (g.challenge? app).any fun c => event = c.awaited app

/-- The challenge of an app waits for one event. -/
theorem Guard.awaits_iff {event : TimerEvent} :
    g.awaits app event = true ↔ ∃ c, g.challenge? app = some c ∧ event = c.awaited app := by
  simp [awaits, Option.any_eq_true]

/-- What a guard makes of the timers of an app. -/
def Guard.bookings (g : Guard) (app : String) (timers : List (Duration × TimerEvent)) :
    List Booking :=
  timers.map fun t => ⟨t.1, t.2.isGrace, g.awaits app t.2⟩

namespace Book

variable {b : Book} {a : Act} {acts : List Act}

/-- What a guard with its book is to an app. -/
def view (app : String) (b : Book) : Solo :=
  ⟨b.guard.countdown, b.guard.grace, b.guard.standing app, b.guard.bookings app (b.timersOf app)⟩

theorem timersOf_append (g : Guard) (timers rest : List (Duration × TimerEvent)) :
    timersOf ⟨g, timers ++ rest⟩ app = timersOf ⟨g, timers⟩ app ++ timersOf ⟨g, rest⟩ app :=
  List.filter_append ..

/-- What is written about an app is what it was, if nothing was written about it. -/
theorem timersOf_step_of_other (h : b.guard.About other (b.outcome a).state (b.outcome a).effects)
    (hne : app ≠ other) : (b.step a).timersOf app = b.timersOf app := by
  -- What is added to the book is about the other app.
  have hnone : ((b.outcome a).effects.filterMap Effect.booking?).filter
      (fun t => decide (t.2.app = app)) = [] := by
    refine List.filter_eq_nil_iff.2 fun t ht => ?_
    rw [(h.booked t ht).1, decide_eq_true_eq]
    exact Ne.symm hne
  show (b.timers ++ _).filter _ = _
  rw [List.filter_append, hnone, List.append_nil]
  rfl

/-! ### Acts about other apps -/

/-- Acts about other apps change nothing for an app. -/
theorem view_other (h : b.Bounded) (ha : a.app? = some other) (hne : app ≠ other) :
    (b.step a).view app = b.view app := by
  have habout := about_outcome h ha
  have hchallenge : (b.step a).guard.challenge? app = b.guard.challenge? app :=
    habout.others app hne
  have hcountdown : (b.step a).guard.countdown = b.guard.countdown := habout.countdown
  have hgrace : (b.step a).guard.grace = b.guard.grace := habout.grace
  have htimers := timersOf_step_of_other habout hne
  simp only [view, Guard.standing, Guard.bookings, Guard.awaits, hchallenge, hcountdown, hgrace,
    htimers]

/-! ### Changes of the view -/

/-- What an act comes to for an app. -/
def episode (app : String) (b : Book) (a : Act) : Episode :=
  ⟨(b.step a).view app, (b.outcome a).answer, noticed app (b.outcome a).effects⟩

/-- An act is an episode by its outcome. -/
theorem episode_of {o : Outcome Guard Report} (h : b.outcome a = o) :
    b.episode app a =
      ⟨view app ⟨o.state, b.timers ++ o.effects.filterMap Effect.booking?⟩, o.answer,
        noticed app o.effects⟩ := by
  subst h
  rfl

/-- A phase that has used up a generation waits for none of the timers set before. -/
theorem bookings_renewed (h : b.Bounded) (app : String) (phase : Phase) (deferred : Bool)
    (timer : TimerId) :
    Guard.bookings
        (b.guard.renewed.having app ⟨phase, deferred, b.guard.lastGeneration + 1, timer⟩) app
        (b.timersOf app) =
      (b.guard.bookings app (b.timersOf app)).map .idle := by
  unfold Guard.bookings
  rw [List.map_map]
  refine List.map_congr_left fun t ht => ?_
  -- No generation in the book is ahead of the last one, and the phase has a newer one.
  have hold : t.2.generation ≤ b.guard.lastGeneration := h.timers t (mem_timersOf.1 ht).1
  have hnot : Guard.awaits
      (b.guard.renewed.having app ⟨phase, deferred, b.guard.lastGeneration + 1, timer⟩) app t.2 =
      false := by
    rw [← Bool.not_eq_true, Guard.awaits_iff]
    rintro ⟨c, hc, hevent⟩
    rw [Guard.challenge?_having, if_pos rfl] at hc
    obtain rfl := Option.some.inj hc
    rw [hevent, Challenge.awaited_generation] at hold
    exact absurd hold (Nat.not_succ_le_self _)
  simp only [hnot, Function.comp_apply, Booking.idle]

/-- A phase starts, with the event that it waits for written down last. -/
theorem view_having (h : b.Bounded) (app : String) (phase : Phase) (deferred : Bool)
    (timer : TimerId) (delay : Duration) :
    let c : Challenge := ⟨phase, deferred, b.guard.lastGeneration + 1, timer⟩
    view app ⟨b.guard.renewed.having app c, b.timers ++ [(delay, c.awaited app)]⟩ =
      (b.view app).having phase deferred delay (c.awaited app).isGrace := by
  intro c
  have hown : (b.guard.renewed.having app c).challenge? app = some c := by
    rw [Guard.challenge?_having, if_pos rfl]
  have hawaited : (b.guard.renewed.having app c).awaits app (c.awaited app) = true :=
    Guard.awaits_iff.2 ⟨c, hown, rfl⟩
  have hwritten : timersOf ⟨b.guard.renewed.having app c, [(delay, c.awaited app)]⟩ app =
      [(delay, c.awaited app)] := by
    simp [timersOf]
  have hold := bookings_renewed h app phase deferred timer
  simp only [view, timersOf_append, hwritten, Guard.standing, hown]
  simp only [Guard.bookings, List.map_append, List.map_cons, List.map_nil, hawaited] at hold ⊢
  simp only [Solo.having, Solo.mk.injEq]
  exact ⟨rfl, rfl, rfl, congrArg (· ++ _) hold⟩

/-- The challenge of the app is gone, and so is all waiting. -/
theorem view_without (b : Book) (app : String) :
    view app ⟨b.guard.without app, b.timers⟩ = (b.view app).without := by
  have hnone : (b.guard.without app).challenge? app = none := by
    rw [Guard.challenge?_without, if_pos rfl]
  simp only [view, Solo.without, Guard.standing, Guard.bookings, Guard.awaits, hnone,
    List.map_map]
  rfl

/-- A second of a countdown is written down behind those before, and waited for like them. -/
theorem view_ticked (hc : b.guard.challenge? app = some c) (hp : c.phase = .counting n)
    (k : Nat) (timer : TimerId) (delay : Duration) :
    view app ⟨b.guard.having app ⟨.counting k, c.deferred, c.generation, timer⟩,
        b.timers ++ [(delay, .tick app c.generation)]⟩ =
      { b.view app with
        standing := some (.counting k, c.deferred)
        bookings := (b.view app).bookings ++ [⟨delay, false, true⟩] } := by
  let g' := b.guard.having app ⟨.counting k, c.deferred, c.generation, timer⟩
  have hown : g'.challenge? app = some ⟨.counting k, c.deferred, c.generation, timer⟩ := by
    rw [Guard.challenge?_having, if_pos rfl]
  -- The generation stays, so the event that is waited for stays, too.
  have hawaits (event : TimerEvent) : g'.awaits app event = b.guard.awaits app event := by
    simp only [Guard.awaits, hown, hc, Option.any_some, Challenge.awaited, hp]
    rfl
  have hawaited : b.guard.awaits app (.tick app c.generation) = true :=
    Guard.awaits_iff.2 ⟨c, hc, by rw [Challenge.awaited, hp]⟩
  have hwritten : timersOf ⟨g', [(delay, .tick app c.generation)]⟩ app =
      [(delay, .tick app c.generation)] := by
    simp [timersOf, TimerEvent.app]
  simp only [view, timersOf_append]
  simp only [Guard.bookings, Solo.mk.injEq]
  refine ⟨rfl, rfl, ?_, ?_⟩
  · rw [Guard.standing, hown]
    rfl
  · show (timersOf b app ++ timersOf ⟨g', [(delay, .tick app c.generation)]⟩ app).map
      (fun t => (⟨t.1, t.2.isGrace, g'.awaits app t.2⟩ : Booking)) = _
    rw [hwritten]
    simp only [hawaits, List.map_append, List.map_cons, List.map_nil, hawaited]
    rfl

/-! ### Acts about the app itself -/

/-- An app that has a challenge stands where that stands. -/
theorem standing_of (hc : b.guard.challenge? app = some c) :
    (b.view app).standing = some (c.phase, c.deferred) := by
  simp only [view, Guard.standing, hc, Option.map_some]

/-- An app without a challenge stands nowhere. -/
theorem standing_of_none (hc : b.guard.challenge? app = none) : (b.view app).standing = none := by
  simp only [view, Guard.standing, hc, Option.map_none]

/-- An act that changes nothing and asks for nothing. -/
theorem episode_idle {g' : Guard} {report : Report} (h : b.outcome a = ⟨g', report, []⟩)
    (hg : g' = b.guard ∨ g' = b.guard.renewed) :
    b.episode app a = (b.view app).idle report := by
  rw [episode_of h, List.filterMap_nil, List.append_nil]
  rcases hg with rfl | rfl <;> rfl

/-- A countdown starts with a new generation. -/
theorem episode_count (h : b.Bounded) {deferred : Bool} {report : Report}
    (ho : b.outcome a =
      ⟨b.guard.renewed.having app
          ⟨.counting b.guard.countdown, deferred, b.guard.lastGeneration + 1, b.next⟩, report,
        [.timer (.schedule b.next Guard.second (.tick app (b.guard.lastGeneration + 1))),
          Guard.shown app b.guard.countdown]⟩) :
    b.episode app a = (b.view app).count deferred report := by
  have hview := view_having h app (.counting b.guard.countdown) deferred b.next Guard.second
  rw [episode_of ho]
  refine Episode.ext hview rfl ?_
  simp [noticed_cons, Effect.notice?, Overlay.notice?, Guard.shown, TimerEvent.app,
    TimerEvent.isGrace, Solo.count, view]

/-- Restricted content is to its app what it would be without the others. -/
theorem episode_violate (h : b.Bounded) (app : String) :
    b.episode app (.violate app) = (b.view app).violate := by
  cases hc : b.guard.challenge? app with
  | none =>
    rw [Solo.violate, standing_of_none hc]
    refine episode_count h ?_
    rw [outcome, Guard.violate_idle hc]
    rfl
  | some c =>
    rw [Solo.violate, standing_of hc]
    refine episode_idle ?_ (.inl rfl)
    rw [outcome, Guard.violate_live hc]
    rfl

/-- A deferral is to its app what it would be without the others. -/
theorem episode_defer (h : b.Bounded) (app : String) :
    b.episode app (.defer app) = (b.view app).defer := by
  rcases b.guard.deferrable_or app with ⟨c, n, hc, hd, hp⟩ | hno
  · have ho : b.outcome (.defer app) = _ := congrArg (Outcome.map deferralReport)
      (Guard.defer_accepted hc hd hp)
    have hview := view_having h app .grace true b.next b.guard.grace
    rw [Solo.defer, standing_of hc, hd, hp, episode_of ho]
    refine Episode.ext ?_ rfl ?_
    · simp only [Outcome.map, List.filterMap_cons, Effect.booking?, Guard.hidden,
        Guard.booking_reshow]
      exact hview
    · -- The app itself is not counting any more, so it is not brought to the front.
      have hreshow : noticed app (b.guard.renewed.having app
          ⟨.grace, true, b.guard.lastGeneration + 1, b.next⟩).reshow = [] := by
        refine Guard.noticed_reshow_of_not_counting ?_
        rw [Guard.remaining?_having, if_pos rfl]
        rfl
      simp [Outcome.map, noticed_cons, Effect.notice?, Overlay.notice?, Guard.hidden,
        TimerEvent.app, TimerEvent.isGrace, hreshow, view]
  · have ho : b.outcome (.defer app) = _ :=
      congrArg (Outcome.map deferralReport) (Guard.defer_refused hno)
    have hsolo : (b.view app).defer = (b.view app).idle .refused := by
      unfold Solo.defer
      cases hc : b.guard.challenge? app with
      | none => rw [standing_of_none hc]
      | some c =>
        rw [standing_of hc]
        rcases hno c hc with hd | hp
        · rw [hd]
          cases c.phase <;> rfl
        · rw [hp]
    rw [hsolo]
    exact episode_idle ho (.inr rfl)

/-- The event that the challenge of the app waits for is delivered. -/
theorem episode_awaited (h : b.Bounded) {violating : Bool}
    (hc : b.guard.challenge? app = some c)
    (ho : b.outcome a = b.guard.deliver (fun _ => violating) b.next (c.awaited app)) :
    b.episode app a = (b.view app).awaited violating := by
  rw [Solo.awaited, standing_of hc]
  cases hp : c.phase with
  | counting n =>
    dsimp only
    split
    next hn =>
      rw [Guard.deliver_last hc hp hn] at ho
      -- The countdown that comes to the front is that of another app.
      have hreshow : noticed app (b.guard.without app).reshow = [] := by
        refine Guard.noticed_reshow_of_not_counting ?_
        rw [Guard.remaining?_without, if_pos rfl]
      rw [episode_of ho]
      refine Episode.ext ?_ rfl ?_
      · simp only [List.filterMap_cons, Effect.booking?, Guard.hidden, Guard.booking_reshow,
          List.append_nil]
        exact b.view_without app
      · simp [noticed_cons, Effect.notice?, Overlay.notice?, Guard.hidden, hreshow]
    next hn =>
      obtain ⟨k, rfl⟩ : ∃ k, n = k + 1 := ⟨n - 1, by omega⟩
      rw [Guard.deliver_tick hc hp (by omega)] at ho
      rw [episode_of ho, Nat.add_sub_cancel]
      refine Episode.ext (view_ticked hc hp k b.next Guard.second) rfl ?_
      simp [noticed_cons, Effect.notice?, Overlay.notice?, TimerEvent.app, TimerEvent.isGrace]
  | grace =>
    rw [Guard.deliver_grace hc hp] at ho
    dsimp only
    split
    next hv =>
      rw [if_pos hv] at ho
      exact episode_count h ho
    next hv =>
      rw [if_neg hv] at ho
      rw [episode_of ho]
      refine Episode.ext ?_ rfl rfl
      rw [List.filterMap_nil, List.append_nil]
      exact b.view_without app

/-- An event that is delivered is to its app what it would be without the others. -/
theorem episode_deliver (h : b.Bounded) (app : String) (place : Nat) (violating : Bool) :
    b.episode app (.deliver app place violating) = (b.view app).deliver place violating := by
  have hbookings : (b.view app).bookings[place]? = ((b.timersOf app)[place]?).map fun t =>
      ⟨t.1, t.2.isGrace, b.guard.awaits app t.2⟩ := List.getElem?_map ..
  rw [Solo.deliver, hbookings]
  cases hplace : (b.timersOf app)[place]? with
  | none => exact episode_idle (outcome_unwritten hplace) (.inl rfl)
  | some t =>
    have happ := app_of_getElem? hplace
    have ho : b.outcome (.deliver app place violating) =
        b.guard.deliver (fun _ => violating) b.next t.2 := outcome_written hplace
    simp only [Option.map_some]
    -- Numbers differ between the two runs; whether the event is waited for does not.
    split
    next hawaits =>
      obtain ⟨c, hc, hevent⟩ := Guard.awaits_iff.1 hawaits
      rw [hevent] at ho
      exact episode_awaited h hc ho
    next hstale =>
      refine episode_idle (ho.trans (Guard.deliver_stale ?_)) (.inl rfl)
      rw [happ]
      intro c hc hevent
      exact hstale (Guard.awaits_iff.2 ⟨c, hc, hevent⟩)

/-! ### Acts about all apps -/

/-- An app notices the end of its own challenge only. -/
theorem noticed_endings {entries : List (String × Challenge)}
    (hd : (entries.map Prod.fst).Nodup) :
    noticed app (entries.flatMap fun (a, c) => Guard.ending a c) =
      (((entries.lookup app).bind (·.phase.remaining?)).map .hidden).toList := by
  have hending (a : String) (c : Challenge) : noticed app (Guard.ending a c) =
      if a = app then (c.phase.remaining?.map .hidden).toList else [] := by
    unfold Guard.ending
    cases c.phase.remaining? with
    | none => simp [noticed_cons, Effect.notice?]
    | some n =>
      by_cases ha : a = app <;>
        simp [noticed_cons, Effect.notice?, Overlay.notice?, Guard.hidden, ha]
  induction entries with
  | nil => rfl
  | cons entry rest ih =>
    obtain ⟨a, c⟩ := entry
    rw [List.map_cons, List.nodup_cons] at hd
    obtain ⟨hfresh, hrest⟩ := hd
    have happend : noticed app (((a, c) :: rest).flatMap fun (a, c) => Guard.ending a c) =
        noticed app (Guard.ending a c) ++
          noticed app (rest.flatMap fun (a, c) => Guard.ending a c) := by
      rw [List.flatMap_cons, noticed_append]
    rw [happend, hending, ih hrest, List.lookup_cons]
    by_cases ha : a = app
    · subst ha
      have hnone : rest.lookup a = none := by
        rw [List.lookup_eq_none_iff]
        intro entry hentry
        rw [bne_iff_ne]
        intro heq
        exact hfresh (List.mem_map.2 ⟨entry, hentry, heq.symm⟩)
      simp [hnone]
    · have hne : (app == a) = false := beq_false_of_ne (Ne.symm ha)
      rw [if_neg ha, hne, List.nil_append]

/-- The end of all challenges is to an app the end of its own. -/
theorem episode_cancelAll (b : Book) (app : String) :
    b.episode app .cancelAll = (b.view app).cancelAll := by
  have ho : b.outcome .cancelAll = b.guard.cancelAll.map fun _ => .cancelled := rfl
  rw [episode_of ho]
  refine Episode.ext ?_ rfl ?_
  · simp only [Outcome.map, booking_cancelAll, List.append_nil, view, Solo.cancelAll, Solo.without,
      Guard.bookings, List.map_map]
    rfl
  · show noticed app (b.guard.challenges.entries.flatMap fun (a, c) => Guard.ending a c) = _
    rw [noticed_endings b.guard.challenges.distinct]
    show (((b.guard.challenge? app).bind (·.phase.remaining?)).map Notice.hidden).toList = _
    cases hc : b.guard.challenge? app with
    | none =>
      rw [Solo.cancelAll, standing_of_none hc]
      rfl
    | some c =>
      rw [Solo.cancelAll, standing_of hc, Option.bind_some]
      cases c.phase <;> rfl

/-- New lengths are the same for all apps. -/
theorem episode_setTiming (b : Book) (app : String) (countdown : Nat) (grace : Duration) :
    b.episode app (.setTiming countdown grace) = (b.view app).step (.setTiming countdown grace) := by
  have ho : b.outcome (.setTiming countdown grace) =
      ⟨b.guard.setTiming countdown grace, .none, []⟩ := rfl
  rw [episode_of ho, List.filterMap_nil, List.append_nil]
  rfl

/-- An act that concerns an app comes to what the app alone makes of it. -/
theorem episode_own (h : b.Bounded) (ha : a.concerns app = true) :
    b.episode app a = (b.view app).step a := by
  cases a with
  | violate | defer | deliver =>
    obtain rfl := of_decide_eq_true ha
    first
      | exact episode_violate h _
      | exact episode_defer h _
      | exact episode_deliver h _ _ _
  | setTiming countdown grace => exact episode_setTiming b app countdown grace
  | cancelAll => exact b.episode_cancelAll app

/-! ### Traces -/

/-- The trace of an app in a row of acts. -/
def trace (app : String) (b : Book) : List Act → Trace
  | [] => []
  | a :: rest => (b.episode app a).told app a ++ (b.step a).trace app rest

/-- Acts about other apps at most bring the countdown of an app to the front, as it stands. -/
theorem told_other (h : b.Bounded) (ha : a.app? = some other) (hne : app ≠ other) :
    ∀ x ∈ (b.episode app a).told app a, IsAgain x := by
  intro x hx
  have hanswer : ¬ a.app? = some app := by
    rw [ha, Option.some.injEq]
    exact Ne.symm hne
  rw [Episode.told, if_neg hanswer, List.append_nil] at hx
  obtain ⟨notice, hnotice, rfl⟩ := List.mem_map.1 hx
  obtain ⟨n, rfl, hn⟩ := (about_outcome h ha).noticed app hne notice hnotice
  rw [Guard.remaining?_eq_some] at hn
  obtain ⟨c, hc, hp⟩ := Option.map_eq_some_iff.1 hn
  refine ⟨n, c.deferred, ?_⟩
  have hstanding : (b.episode app a).state.standing = some (c.phase, c.deferred) :=
    standing_of (b := b.step a) hc
  rw [hstanding, hp]

/-- To an app, a run is what the app alone makes of the acts that concern it, with its countdown
shown once more now and then. -/
theorem trace_solo (h : b.Bounded) (app : String) (acts : List Act) :
    Reshown (b.trace app acts) ((b.view app).trace app (acts.filter (·.concerns app))) ∧
      (b.run acts).view app = (b.view app).run (acts.filter (·.concerns app)) := by
  induction acts generalizing b with
  | nil => exact ⟨.nil, rfl⟩
  | cons a rest ih =>
    obtain ⟨htrace, hrun⟩ := ih (h.step a)
    cases ha : a.concerns app with
    | true =>
      have hepisode := episode_own h ha
      have hview : (b.step a).view app = ((b.view app).step a).state :=
        congrArg Episode.state hepisode
      rw [hview] at htrace hrun
      rw [List.filter_cons_of_pos ha]
      refine ⟨?_, hrun⟩
      rw [trace, Solo.trace, hepisode]
      exact htrace.same_append _
    | false =>
      obtain ⟨other, hother, hne⟩ := Act.exists_of_not_concerns ha
      rw [view_other h hother hne] at htrace hrun
      rw [List.filter_cons_of_neg (by simp [ha])]
      exact ⟨htrace.again_append (told_other h hother hne), hrun⟩

/-- If all acts concern the app, it is shown once more never. -/
theorem trace_own (h : b.Bounded) (hacts : ∀ a ∈ acts, a.concerns app = true) :
    b.trace app acts = (b.view app).trace app acts := by
  induction acts generalizing b with
  | nil => rfl
  | cons a rest ih =>
    obtain ⟨ha, hrest⟩ := List.forall_mem_cons.1 hacts
    have hepisode := episode_own h ha
    have hview : (b.step a).view app = ((b.view app).step a).state :=
      congrArg Episode.state hepisode
    rw [trace, Solo.trace, ih (h.step a) hrest, hepisode, hview]

/-- **Challenges of different apps are independent.**  In every run of a guard, be its events
delivered in time, late or never, an app gets the same answers, timers with the same delays, the
same updates, hides and ways home, and stands at the same place with the same timers awaited, as in
the run from which all acts about other apps are left out.  All that the others do is that its
countdown, while it is running, may be shown once more as it stands. -/
theorem independent_run (countdown : Nat) (grace : Duration) (app : String) (acts : List Act) :
    let b := start countdown grace
    let kept := acts.filter (·.concerns app)
    Reshown (b.trace app acts) (b.trace app kept) ∧ (b.run acts).view app = (b.run kept).view app := by
  intro b kept
  have hb : b.Bounded := bounded_start countdown grace
  obtain ⟨htrace, hrun⟩ := trace_solo hb app acts
  obtain ⟨-, hkept⟩ := trace_solo hb app kept
  have hown : b.trace app kept = (b.view app).trace app kept :=
    trace_own hb fun a ha => (List.mem_filter.1 ha).2
  -- Both runs come down to that of the app alone.
  have htwice : kept.filter (·.concerns app) = kept := by
    simp only [kept, List.filter_filter, Bool.and_self]
  rw [hown, hrun, hkept, htwice]
  exact ⟨htrace, rfl⟩

/-- The last second of one countdown brings that of the other app to the front again. -/
example :
    let b := start 1 (.seconds 10)
    let acts : List Act := [.violate "app.mail", .setTiming 5 (.seconds 10), .violate "app.web",
      .deliver "app.mail" 0 true]
    (b.trace "app.web" acts).map Prod.fst = [.timed (.seconds 1) false, .shown 5,
      .answered (.started 5), .shown 5] := by
  decide

end Book

end Warden.Keyword
