import Warden.Proofs.Keyword.Display

namespace Warden

/-!
# A guard that keeps a book

Generations and timers are numbered across all apps, so the same life of an app has different
numbers in different runs.  A book of all timer events that the guard has asked for tells them apart
without numbers, as the first, the second, the third one of an app.

* `Keyword.Book`, `Keyword.Act`, `Keyword.Book.step` — a guard with its book, and what may happen.
  Any event in the book may be delivered at any time, more than once, in any order, and even if its
  timer was cancelled.
* `Effect.notice?`, `Keyword.noticed` — what effects mean to one app, without numbers.
* `Keyword.Guard.About` — what a step about one app leaves alone, and what it means to other apps.
* `Keyword.Guard.about_violate`, `about_defer`, `about_deliver` — all steps about one app.
* `Keyword.Book.Bounded`, `Keyword.Book.Bounded.step` — no generation is ahead of the last one.
-/

/-! ### Effects without numbers -/

/-- Whether an event is the end of a grace period. -/
def TimerEvent.isGrace : TimerEvent → Bool
  | .tick _ _ => false
  | .grace _ _ => true

/-- What an app may notice. -/
inductive Keyword.Notice where
  /-- A timer was set, for a second or for the end of a grace period. -/
  | timed (delay : Duration) (isGrace : Bool)
  | shown (remaining : Nat)
  | updated (remaining : Nat)
  | hidden (remaining : Nat)
  | sentHome
  | answered (report : Keyword.Report)
  deriving DecidableEq

/-- What an overlay means to an app. -/
def Overlay.notice? (app : String) (make : Nat → Keyword.Notice) : Overlay → Option Keyword.Notice
  | .keyword a n => if a = app then some (make n) else none
  | _ => none

/-- What an effect means to an app. -/
def Effect.notice? (app : String) : Effect → Option Keyword.Notice
  | .timer (.schedule _ delay event) =>
    if event.app = app then some (.timed delay event.isGrace) else none
  | .surface (.show o _) => o.notice? app .shown
  | .surface (.update o) => o.notice? app .updated
  | .surface (.hide o) => o.notice? app .hidden
  | .surface (.goHome (.countdownExpired a)) => if a = app then some .sentHome else none
  | _ => none

/-- The timer event that an effect asks for, and its delay. -/
def Effect.booking? : Effect → Option (Duration × TimerEvent)
  | .timer (.schedule _ delay event) => some (delay, event)
  | _ => none

namespace Keyword

/-- What effects mean to an app. -/
def noticed (app : String) (effects : List Effect) : List Notice :=
  effects.filterMap (·.notice? app)

@[simp] theorem noticed_nil (app : String) : noticed app [] = [] := rfl

/-- What a row of effects means to an app, effect by effect. -/
theorem noticed_cons (app : String) (x : Effect) (rest : List Effect) :
    noticed app (x :: rest) = (x.notice? app).toList ++ noticed app rest := by
  unfold noticed
  rw [List.filterMap_cons]
  cases x.notice? app <;> rfl

theorem noticed_append (app : String) (effects rest : List Effect) :
    noticed app (effects ++ rest) = noticed app effects ++ noticed app rest :=
  List.filterMap_append ..

/-! ### Steps about one app -/

namespace Guard

variable {g : Guard} {app other : String} {c : Challenge} {timer : TimerId} {n : Nat}
  {violating : String → Bool} {event : TimerEvent} {effects : List Effect}

/-- An app that is counting may be shown again; otherwise nobody notices that a countdown is brought
to the front. -/
theorem noticed_reshow {notice : Notice} (h : notice ∈ noticed app g.reshow) :
    ∃ n, notice = .shown n ∧ g.remaining? app = some n := by
  obtain ⟨x, hx, hnotice⟩ := List.mem_filterMap.1 h
  obtain ⟨a, n, c, rfl, hc, hp⟩ := mem_reshow hx
  simp only [shown, Effect.notice?, Overlay.notice?] at hnotice
  split at hnotice
  next heq =>
    subst heq
    refine ⟨n, (Option.some.inj hnotice).symm, ?_⟩
    rw [remaining?_of hc, hp]
    rfl
  · cases hnotice

/-- An app that is not counting is not brought to the front. -/
theorem noticed_reshow_of_not_counting (h : g.remaining? app = none) :
    noticed app g.reshow = [] := by
  refine List.eq_nil_iff_forall_not_mem.2 fun notice hnotice => ?_
  obtain ⟨n, -, hn⟩ := noticed_reshow hnotice
  rw [h] at hn
  cases hn

/-- Bringing a countdown to the front sets no timer. -/
theorem booking_reshow (g : Guard) : g.reshow.filterMap Effect.booking? = [] := by
  unfold reshow
  split <;> rfl

/-- What a step about one app leaves alone, and what it means to the others. -/
structure About (g : Guard) (app : String) (g' : Guard) (effects : List Effect) : Prop where
  countdown : g'.countdown = g.countdown
  grace : g'.grace = g.grace
  last : g.lastGeneration ≤ g'.lastGeneration
  others : ∀ other, other ≠ app → g'.challenge? other = g.challenge? other
  challenge : ∀ c, g'.challenge? app = some c →
    g.challenge? app = some c ∨ c.generation ≤ g'.lastGeneration
  booked : ∀ t ∈ effects.filterMap Effect.booking?,
    t.2.app = app ∧ t.2.generation ≤ g'.lastGeneration
  noticed : ∀ other, other ≠ app → ∀ notice ∈ noticed other effects,
    ∃ n, notice = .shown n ∧ g'.remaining? other = some n

/-- Nothing at all is about any app. -/
theorem about_idle (g : Guard) (app : String) : g.About app g [] where
  countdown := rfl
  grace := rfl
  last := Nat.le_refl _
  others _ _ := rfl
  challenge _ h := .inl h
  booked := List.forall_mem_nil _
  noticed _ _ := List.forall_mem_nil _

/-- A generation that is used up is about nobody. -/
theorem about_renewed (g : Guard) (app : String) : g.About app g.renewed [] where
  countdown := rfl
  grace := rfl
  last := Nat.le_succ _
  others _ _ := rfl
  challenge _ h := .inl h
  booked := List.forall_mem_nil _
  noticed _ _ := List.forall_mem_nil _

/-- An app gets a challenge. -/
theorem about_having (hc : c.generation ≤ g.lastGeneration)
    (hbooked : ∀ t ∈ effects.filterMap Effect.booking?,
      t.2.app = app ∧ t.2.generation ≤ g.lastGeneration)
    (hnoticed : ∀ other, other ≠ app → ∀ notice ∈ Keyword.noticed other effects,
      ∃ n, notice = .shown n ∧ (g.having app c).remaining? other = some n) :
    g.About app (g.having app c) effects where
  countdown := rfl
  grace := rfl
  last := Nat.le_refl _
  others other hne := by rw [challenge?_having, if_neg hne]
  -- The app has the new challenge now, whose generation has been given out.
  challenge d hd := by
    rw [challenge?_having, if_pos rfl] at hd
    obtain rfl := Option.some.inj hd
    exact .inr hc
  booked := hbooked
  noticed := hnoticed

/-- The challenge of an app is gone. -/
theorem about_without (hbooked : effects.filterMap Effect.booking? = [])
    (hnoticed : ∀ other, other ≠ app → ∀ notice ∈ Keyword.noticed other effects,
      ∃ n, notice = .shown n ∧ (g.without app).remaining? other = some n) :
    g.About app (g.without app) effects where
  countdown := rfl
  grace := rfl
  last := Nat.le_refl _
  others other hne := by rw [challenge?_without, if_neg hne]
  challenge d hd := by
    rw [challenge?_without, if_pos rfl] at hd
    cases hd
  booked t ht := by
    rw [hbooked] at ht
    cases ht
  noticed := hnoticed

/-- A generation that was used up before a step is used up after it. -/
theorem About.of_renewed {g' : Guard} (h : g.renewed.About app g' effects) :
    g.About app g' effects :=
  { h with last := Nat.le_of_succ_le h.last }

/-- A new countdown means nothing to other apps. -/
theorem about_counting (g : Guard) (app : String) (deferred : Bool) (timer : TimerId) :
    g.About app
      (g.renewed.having app ⟨.counting g.countdown, deferred, g.lastGeneration + 1, timer⟩)
      [.timer (.schedule timer second (.tick app (g.lastGeneration + 1))),
        shown app g.countdown] := by
  refine About.of_renewed (about_having (Nat.le_refl _) ?_ ?_)
  · intro t ht
    obtain rfl := List.mem_singleton.1 ht
    exact ⟨rfl, Nat.le_refl _⟩
  · -- The timer and the overlay are both the app's own.
    intro other hne notice hnotice
    simp [noticed_cons, Effect.notice?, Overlay.notice?, shown, TimerEvent.app,
      Ne.symm hne] at hnotice

/-- Restricted content is about its app. -/
theorem about_violate (g : Guard) (app : String) (timer : TimerId) :
    g.About app (g.violate app timer).state (g.violate app timer).effects := by
  cases hc : g.challenge? app with
  | none =>
    rw [violate_idle hc]
    exact g.about_counting app false timer
  | some c =>
    rw [violate_live hc]
    exact g.about_idle app

/-- A deferral is about its app; another one's countdown may come to the front. -/
theorem about_defer (g : Guard) (app : String) (timer : TimerId) :
    g.About app (g.defer app timer).state (g.defer app timer).effects := by
  rcases g.deferrable_or app with ⟨c, n, hc, hd, hp⟩ | hno
  · rw [defer_accepted hc hd hp]
    refine About.of_renewed (about_having (Nat.le_refl _) ?_ ?_)
    · intro t ht
      simp only [List.filterMap_cons, Effect.booking?, hidden, booking_reshow] at ht
      obtain rfl := List.mem_singleton.1 ht
      exact ⟨rfl, Nat.le_refl _⟩
    · intro other hne notice hnotice
      refine noticed_reshow ?_
      simpa [noticed_cons, Effect.notice?, Overlay.notice?, hidden, TimerEvent.app,
        Ne.symm hne] using hnotice
  · rw [defer_refused hno]
    exact g.about_renewed app

/-- A timer event is about its app, and what it sets has the generation of the challenge or a new
one. -/
theorem about_deliver (g : Guard) (violating : String → Bool) (timer : TimerId)
    (event : TimerEvent)
    (hlast : ∀ c, g.challenge? event.app = some c → c.generation ≤ g.lastGeneration) :
    g.About event.app (g.deliver violating timer event).state
      (g.deliver violating timer event).effects := by
  -- By what the event comes to. A tick keeps the generation of its challenge, so that has to be one
  -- given out before.
  have hdelivery := g.delivery violating timer event
  generalize g.deliver violating timer event = o, event.app = app at *
  cases hdelivery with
  | stale => exact g.about_idle app
  | ticked hc =>
    have hgen := hlast _ hc
    refine about_having hgen ?_ ?_
    · intro t ht
      obtain rfl := List.mem_singleton.1 ht
      exact ⟨rfl, hgen⟩
    · intro other hne notice hnotice
      simp [noticed_cons, Effect.notice?, Overlay.notice?, TimerEvent.app,
        Ne.symm hne] at hnotice
  | expired =>
    refine about_without ?_ ?_
    · simp only [List.filterMap_cons, Effect.booking?, hidden, booking_reshow]
    · intro other hne notice hnotice
      refine noticed_reshow ?_
      simpa [noticed_cons, Effect.notice?, Overlay.notice?, hidden,
        Ne.symm hne] using hnotice
  | @resumed c => exact g.about_counting app c.deferred timer
  | resolved => exact about_without rfl fun _ _ => List.forall_mem_nil _

end Guard

/-! ### Books -/

/-- A guard, and all timer events that it has asked for with their delays, the first one first. -/
structure Book where
  guard : Guard
  timers : List (Duration × TimerEvent)

/-- Something that may happen. -/
inductive Act where
  | violate (app : String)
  | defer (app : String)
  /-- The event of an app at a place in its part of the book is delivered; `violating` tells whether
  the app shows restricted content then. -/
  | deliver (app : String) (place : Nat) (violating : Bool)
  | setTiming (countdown : Nat) (grace : Duration)
  | cancelAll
  deriving DecidableEq

/-- The app that an act is about, if it is about one. -/
def Act.app? : Act → Option String
  | .violate app | .defer app | .deliver app _ _ => some app
  | .setTiming _ _ | .cancelAll => none

namespace Book

variable {b : Book} {app other : String} {a : Act} {acts : List Act}

/-- A new guard with an empty book. -/
def start (countdown : Nat) (grace : Duration) : Book := ⟨.start countdown grace, []⟩

/-- The number of the next timer. -/
def next (b : Book) : TimerId := b.timers.length + 1

/-- The part of the book that is about an app. -/
def timersOf (b : Book) (app : String) : List (Duration × TimerEvent) :=
  b.timers.filter fun t => t.2.app = app

/-- What the guard makes of an act.  There is nothing to deliver at a place where nothing is
written. -/
def outcome (b : Book) : Act → Outcome Guard Report
  | .violate app => (b.guard.violate app b.next).map (Violation.report b.guard.countdown)
  | .defer app => (b.guard.defer app b.next).map deferralReport
  | .deliver app place violating =>
    match (b.timersOf app)[place]? with
    | none => .answering b.guard .none
    | some t => b.guard.deliver (fun _ => violating) b.next t.2
  | .setTiming countdown grace => .answering (b.guard.setTiming countdown grace) .none
  | .cancelAll => b.guard.cancelAll.map fun _ => .cancelled

/-- The book after an act. -/
def step (b : Book) (a : Act) : Book :=
  ⟨(b.outcome a).state, b.timers ++ (b.outcome a).effects.filterMap Effect.booking?⟩

/-- The book after a row of acts. -/
def run (b : Book) (acts : List Act) : Book := acts.foldl step b

/-- At a place where nothing is written, nothing happens. -/
theorem outcome_unwritten {place : Nat} {violating : Bool} (h : (b.timersOf app)[place]? = none) :
    b.outcome (.deliver app place violating) = .answering b.guard .none := by
  simp only [outcome, h]

/-- At a place where an event is written, it is delivered. -/
theorem outcome_written {place : Nat} {violating : Bool} {t : Duration × TimerEvent}
    (h : (b.timersOf app)[place]? = some t) :
    b.outcome (.deliver app place violating) =
      b.guard.deliver (fun _ => violating) b.next t.2 := by
  simp only [outcome, h]

/-- The part of the book about an app holds the events about it. -/
theorem mem_timersOf {t : Duration × TimerEvent} :
    t ∈ b.timersOf app ↔ t ∈ b.timers ∧ t.2.app = app := by
  simp [timersOf]

/-! ### Bounds -/

/-- Whether no generation in the book or of a challenge is ahead of the last one. -/
structure Bounded (b : Book) : Prop where
  timers : ∀ t ∈ b.timers, t.2.generation ≤ b.guard.lastGeneration
  challenges : ∀ app c, b.guard.challenge? app = some c → c.generation ≤ b.guard.lastGeneration

/-- An empty book is bounded. -/
theorem bounded_start (countdown : Nat) (grace : Duration) : (start countdown grace).Bounded where
  timers := List.forall_mem_nil _
  challenges _ _ h := by cases h

/-- What is delivered is about the app that it is delivered to. -/
theorem app_of_getElem? {place : Nat} {t : Duration × TimerEvent}
    (h : (b.timersOf app)[place]? = some t) : t.2.app = app :=
  (mem_timersOf.1 (List.mem_of_getElem? h)).2

/-- An act about an app is a step about it. -/
theorem about_outcome (h : b.Bounded) (ha : a.app? = some app) :
    b.guard.About app (b.outcome a).state (b.outcome a).effects := by
  -- Acts without an app are not meant here.
  cases a with
  | violate =>
    obtain rfl := Option.some.inj ha
    exact b.guard.about_violate _ _
  | defer =>
    obtain rfl := Option.some.inj ha
    exact b.guard.about_defer _ _
  | deliver a place violating =>
    obtain rfl := Option.some.inj ha
    cases hplace : (b.timersOf a)[place]? with
    | none =>
      rw [outcome_unwritten hplace]
      exact b.guard.about_idle a
    | some t =>
      have habout := b.guard.about_deliver (fun _ => violating) b.next t.2
        (h.challenges t.2.app)
      rw [app_of_getElem? hplace] at habout
      rw [outcome_written hplace]
      exact habout
  | setTiming | cancelAll => cases ha

/-- Ending all challenges sets no timer. -/
theorem booking_cancelAll (g : Guard) : g.cancelAll.effects.filterMap Effect.booking? = [] := by
  refine List.filterMap_eq_nil_iff.2 fun x hx => ?_
  obtain ⟨entry, -, hending⟩ := List.mem_flatMap.1 hx
  rcases Guard.mem_ending hending with rfl | ⟨n, rfl⟩ <;> rfl

/-- Every act keeps the bound. -/
theorem Bounded.step (h : b.Bounded) (a : Act) : (b.step a).Bounded := by
  -- An act about one app is bounded by what `About` says of it. Of the two others, one leaves the
  -- challenges alone and one ends them.
  cases ha : a.app? with
  | some app =>
    have habout := about_outcome h ha
    constructor
    · intro t ht
      rcases List.mem_append.1 ht with hbefore | hnew
      · exact Nat.le_trans (h.timers t hbefore) habout.last
      · exact (habout.booked t hnew).2
    · intro other c hc
      by_cases hother : other = app
      · subst hother
        rcases habout.challenge c hc with hbefore | hnew
        · exact Nat.le_trans (h.challenges _ c hbefore) habout.last
        · exact hnew
      · change (b.outcome a).state.challenge? other = some c at hc
        rw [habout.others other hother] at hc
        exact Nat.le_trans (h.challenges _ c hc) habout.last
  | none =>
    cases a with
    | setTiming countdown grace =>
      refine ⟨fun t ht => ?_, h.challenges⟩
      exact h.timers t (by simpa [Book.step, outcome, Outcome.answering] using ht)
    | cancelAll =>
      constructor
      · intro t ht
        refine h.timers t ?_
        simpa [Book.step, outcome, Outcome.map, booking_cancelAll] using ht
      · intro app c hc
        cases hc
    | violate | defer | deliver => cases ha

end Book

end Keyword

end Warden
