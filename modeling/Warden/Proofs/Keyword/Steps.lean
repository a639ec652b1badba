import Warden.Keyword.Guard

namespace Warden.Keyword

/-!
# The steps of a guard, case by case

Every step of a guard either changes nothing but the last generation, or it gives an app a challenge
or takes one away.

* `Challenge.awaited` — the one event that a challenge waits for.
* `Guard.renewed`, `Guard.having`, `Guard.without` — the three changes.
* `Report`, `Guard.deliver` — the answers to all steps, and what a timer event comes to.
* `Guard.deliver_stale`, `Guard.deliver_tick`, `Guard.deliver_last`, `Guard.deliver_grace` — only
  the awaited event counts.
* `Guard.Delivery`, `Guard.delivery` — what a timer event may come to, and that it is all there is.
* `Guard.defer_accepted`, `Guard.defer_refused` — only the first deferral of a countdown counts.
-/

/-- The event that a challenge of an app waits for. -/
def Challenge.awaited (app : String) (c : Challenge) : TimerEvent :=
  match c.phase with
  | .counting _ => .tick app c.generation
  | .grace => .grace app c.generation

/-- What a challenge waits for is about its app. -/
@[simp] theorem Challenge.awaited_app (app : String) (c : Challenge) :
    (c.awaited app).app = app := by
  unfold awaited
  cases c.phase <;> rfl

/-- What a challenge waits for was set in its present phase. -/
@[simp] theorem Challenge.awaited_generation (app : String) (c : Challenge) :
    (c.awaited app).generation = c.generation := by
  unfold awaited
  cases c.phase <;> rfl

/-! ### Answers -/

/-- What a guard answers, whatever is asked of it. -/
inductive Report where
  /-- A challenge starts, with the length of a countdown at that moment. -/
  | started (countdown : Nat)
  | absorbed (phase : Phase)
  | deferred
  | refused
  | ticked (remaining : Nat)
  | expired
  /-- A second countdown starts, with the length of a countdown at that moment. -/
  | resumed (countdown : Nat)
  | resolved
  | stale
  | cancelled
  | none
  deriving DecidableEq

/-- The report on restricted content. -/
def Violation.report (countdown : Nat) : Violation → Report
  | .started => .started countdown
  | .alreadyActive phase => .absorbed phase

/-- The report on a deferral. -/
def deferralReport (accepted : Bool) : Report := if accepted then .deferred else .refused

/-- The report on a second gone by. -/
def Tick.report : Tick → Report
  | .ticked n => .ticked n
  | .expired => .expired
  | .stale => .stale

/-- The report on the end of a grace period. -/
def Elapsed.report (countdown : Nat) : Elapsed → Report
  | .resumed => .resumed countdown
  | .resolved => .resolved
  | .stale => .stale

namespace Guard

variable {g : Guard} {app other : String} {c d : Challenge} {timer : TimerId} {n : Nat}
  {violating : String → Bool} {event : TimerEvent}

/-! ### Changes -/

/-- The guard that has used up one more generation. -/
def renewed (g : Guard) : Guard := { g with lastGeneration := g.lastGeneration + 1 }

/-- The guard with a challenge for an app. -/
def having (g : Guard) (app : String) (c : Challenge) : Guard :=
  { g with challenges := g.challenges.insert app c }

/-- The guard without the challenge of an app. -/
def without (g : Guard) (app : String) : Guard := { g with challenges := g.challenges.erase app }

/-- Only the app that gets a challenge notices. -/
@[simp] theorem challenge?_having :
    (g.having app c).challenge? other = if other = app then some c else g.challenge? other :=
  AppTable.get?_insert ..

/-- Only the app that loses its challenge notices. -/
@[simp] theorem challenge?_without :
    (g.without app).challenge? other = if other = app then none else g.challenge? other :=
  AppTable.get?_erase ..

/-- A challenge that is replaced may as well be taken away first. -/
theorem having_without : (g.without app).having app c = g.having app c := by
  have htwice : (g.challenges.erase app).erase app = g.challenges.erase app := by
    simp [AppTable.erase, AppTable.filter, List.filter_filter]
  simp only [having, without, AppTable.insert, htwice]

/-- The same, with a generation used up in between. -/
theorem having_renewed_without :
    (g.without app).renewed.having app c = g.renewed.having app c := having_without (g := g.renewed)

/-- Bringing a countdown to the front calls no timer. -/
theorem reshow_timer (g : Guard) : g.reshow.filterMap Effect.timer? = [] := by
  unfold reshow
  split <;> rfl

/-! ### The front -/

/-- The most urgent countdown is one of those that are running. -/
theorem mostUrgent_mem {entries : List (Nat × String)} {e : Nat × String}
    (h : mostUrgent entries = some e) : e ∈ entries := by
  -- On the list; the most urgent one of the rest has to stand against the head.
  induction entries generalizing e with
  | nil => cases h
  | cons a rest ih =>
    unfold mostUrgent at h
    split at h
    · cases h
      exact List.mem_cons_self
    next b hb =>
      split at h
      · cases h
        exact List.mem_cons_of_mem a (ih hb)
      · cases h
        exact List.mem_cons_self

/-- What is brought to the front is a countdown that is running, as it stands. -/
theorem mem_reshow {e : Effect} (h : e ∈ g.reshow) :
    ∃ app n c, e = shown app n ∧ g.challenge? app = some c ∧ c.phase = .counting n := by
  unfold reshow at h
  split at h
  · cases h
  next n app hurgent =>
    obtain ⟨⟨a, c⟩, hc, hentry⟩ := List.mem_filterMap.1 (mostUrgent_mem hurgent)
    cases hp : c.phase with
    | counting k =>
      simp only [hp, Phase.remaining?, Option.map_some, Option.some.injEq, Prod.mk.injEq] at hentry
      obtain ⟨rfl, rfl⟩ := hentry
      exact ⟨a, k, c, List.mem_singleton.1 h, AppTable.mem_entries.1 hc, hp⟩
    | grace => simp [hp, Phase.remaining?] at hentry

/-- Bringing a countdown to the front sends nobody home. -/
theorem goHome_not_mem_reshow (g : Guard) (reason : HomeReason) :
    .surface (.goHome reason) ∉ g.reshow := by
  intro h
  obtain ⟨app, n, c, he, -⟩ := mem_reshow h
  cases he

/-- The end of a challenge shows nothing and sends nobody home. -/
theorem mem_ending {e : Effect} (h : e ∈ ending app c) :
    e = .timer (.cancel c.timer) ∨ ∃ n, e = hidden app n := by
  rcases List.mem_cons.1 h with h | h
  · exact .inl h
  · obtain ⟨n, -, hn⟩ := Option.map_eq_some_iff.1 (Option.mem_toList.1 h)
    exact .inr ⟨n, hn.symm⟩

/-! ### Restricted content -/

/-- Restricted content in an app without a challenge starts its first countdown. -/
theorem violate_idle (h : g.challenge? app = none) :
    g.violate app timer =
      ⟨g.renewed.having app ⟨.counting g.countdown, false, g.lastGeneration + 1, timer⟩, .started,
        [.timer (.schedule timer second (.tick app (g.lastGeneration + 1))),
          shown app g.countdown]⟩ := by
  unfold violate
  rw [h]
  rfl

/-- Restricted content in an app that has a challenge changes nothing. -/
theorem violate_live (h : g.challenge? app = some c) :
    g.violate app timer = ⟨g, .alreadyActive c.phase, []⟩ := by
  unfold violate
  rw [h]

/-! ### Deferrals -/

/-- A deferral comes during the first countdown of a challenge, or it is of no use. -/
theorem deferrable_or (g : Guard) (app : String) :
    (∃ c n, g.challenge? app = some c ∧ c.deferred = false ∧ c.phase = .counting n) ∨
      ∀ c, g.challenge? app = some c → c.deferred = true ∨ c.phase = .grace := by
  -- There is no challenge, or it has been deferred before, or it is in its grace period; what is
  -- left is a first countdown.
  cases hc : g.challenge? app with
  | none => exact .inr fun c h => by cases h
  | some c =>
    cases hd : c.deferred with
    | true => exact .inr fun d h => .inl (Option.some.inj h ▸ hd)
    | false =>
      cases hp : c.phase with
      | counting n => exact .inl ⟨c, n, rfl, hd, hp⟩
      | grace => exact .inr fun d h => .inr (Option.some.inj h ▸ hp)

/-- The first deferral of a countdown is accepted. -/
theorem defer_accepted (h : g.challenge? app = some c) (hd : c.deferred = false)
    (hp : c.phase = .counting n) :
    g.defer app timer =
      let g' := g.renewed.having app ⟨.grace, true, g.lastGeneration + 1, timer⟩
      ⟨g', true,
        .timer (.cancel c.timer) ::
          .timer (.schedule timer g.grace (.grace app (g.lastGeneration + 1))) ::
          hidden app 0 :: g'.reshow⟩ := by
  have h' : challenge? { g with lastGeneration := g.lastGeneration + 1 } app = some c := h
  unfold defer
  simp only [h', hd, hp, Phase.remaining?]
  rfl

/-- Any other deferral is refused. -/
theorem defer_refused
    (h : ∀ c, g.challenge? app = some c → c.deferred = true ∨ c.phase = .grace) :
    g.defer app timer = ⟨g.renewed, false, []⟩ := by
  unfold defer
  cases hc : g.challenge? app with
  | none =>
    have h' : challenge? { g with lastGeneration := g.lastGeneration + 1 } app = none := hc
    simp only [h']
    rfl
  | some c =>
    have h' : challenge? { g with lastGeneration := g.lastGeneration + 1 } app = some c := hc
    have hno : (c.deferred || c.phase.remaining?.isNone) = true := by
      rcases h c hc with hd | hp
      · simp [hd]
      · simp [hp, Phase.remaining?]
    simp only [h', hno]
    rfl

/-! ### Timer events -/

/-- A timer event reaches the guard. -/
def deliver (g : Guard) (violating : String → Bool) (timer : TimerId) :
    TimerEvent → Outcome Guard Report
  | .tick app generation => (g.tick app generation timer).map Tick.report
  | .grace app generation =>
    (g.elapse app generation violating timer).map (Elapsed.report g.countdown)

/-- An event that no challenge waits for changes nothing. -/
theorem deliver_stale
    (h : ∀ c, g.challenge? event.app = some c → event ≠ c.awaited event.app) :
    g.deliver violating timer event = ⟨g, .stale, []⟩ := by
  cases event with
  | tick app generation =>
    cases hc : g.challenge? app with
    | none => simp only [deliver, tick, hc, Outcome.map, Tick.report]
    | some c =>
      cases hp : c.phase with
      | grace => simp only [deliver, tick, hc, hp, Outcome.map, Tick.report]
      | counting n =>
        have hgen : c.generation ≠ generation := by
          rintro rfl
          exact h c hc (by simp only [Challenge.awaited, hp, TimerEvent.app])
        simp only [deliver, tick, hc, hp, if_pos hgen, Outcome.map, Tick.report]
  | grace app generation =>
    cases hc : g.challenge? app with
    | none => simp only [deliver, elapse, hc, Outcome.map, Elapsed.report]
    | some c =>
      -- An event of this phase and of this generation would be the awaited one.
      have hother : c.phase ≠ .grace ∨ c.generation ≠ generation := by
        by_cases hp : c.phase = .grace
        · refine .inr ?_
          rintro rfl
          exact h c hc (by simp only [Challenge.awaited, hp, TimerEvent.app])
        · exact .inl hp
      simp only [deliver, elapse, hc, if_pos hother, Outcome.map, Elapsed.report]

/-- A second of a countdown that leaves some. -/
theorem deliver_tick (h : g.challenge? app = some c) (hp : c.phase = .counting (n + 1))
    (hn : 0 < n) :
    g.deliver violating timer (c.awaited app) =
      ⟨g.having app ⟨.counting n, c.deferred, c.generation, timer⟩, .ticked n,
        [.timer (.schedule timer second (.tick app c.generation)),
          .surface (.update (.keyword app n))]⟩ := by
  have hmore : ¬ n + 1 ≤ 1 := by omega
  simp only [Challenge.awaited, hp, deliver, tick, h, ne_eq, not_true_eq_false, if_false, hmore,
    Nat.add_sub_cancel]
  rfl

/-- The last second of a countdown. -/
theorem deliver_last (h : g.challenge? app = some c) (hp : c.phase = .counting n) (hn : n ≤ 1) :
    g.deliver violating timer (c.awaited app) =
      ⟨g.without app, .expired,
        .surface (.goHome (.countdownExpired app)) :: hidden app 0 :: (g.without app).reshow⟩ := by
  simp only [Challenge.awaited, hp, deliver, tick, h, ne_eq, not_true_eq_false, if_false, if_pos hn]
  rfl

/-- The end of a grace period. -/
theorem deliver_grace (h : g.challenge? app = some c) (hp : c.phase = .grace) :
    g.deliver violating timer (c.awaited app) =
      if violating app then
        ⟨g.renewed.having app ⟨.counting g.countdown, c.deferred, g.lastGeneration + 1, timer⟩,
          .resumed g.countdown,
          [.timer (.schedule timer second (.tick app (g.lastGeneration + 1))),
            shown app g.countdown]⟩
      else ⟨g.without app, .resolved, []⟩ := by
  simp only [Challenge.awaited, hp, deliver, elapse, h]
  rw [if_neg (by simp)]
  split <;> rfl

/-- What a timer event about an app may come to. -/
inductive Delivery (g : Guard) (violating : String → Bool) (timer : TimerId) (app : String) :
    Outcome Guard Report → Prop
  | stale : Delivery g violating timer app ⟨g, .stale, []⟩
  | ticked {c : Challenge} {n : Nat} (hc : g.challenge? app = some c)
    (hp : c.phase = .counting (n + 1)) (hn : 0 < n) :
    Delivery g violating timer app
      ⟨g.having app ⟨.counting n, c.deferred, c.generation, timer⟩, .ticked n,
        [.timer (.schedule timer second (.tick app c.generation)),
          .surface (.update (.keyword app n))]⟩
  | expired {c : Challenge} {n : Nat} (hc : g.challenge? app = some c)
    (hp : c.phase = .counting n) (hn : n ≤ 1) :
    Delivery g violating timer app
      ⟨g.without app, .expired,
        .surface (.goHome (.countdownExpired app)) :: hidden app 0 :: (g.without app).reshow⟩
  | resumed {c : Challenge} (hc : g.challenge? app = some c) (hp : c.phase = .grace)
    (hv : violating app = true) :
    Delivery g violating timer app
      ⟨g.renewed.having app ⟨.counting g.countdown, c.deferred, g.lastGeneration + 1, timer⟩,
        .resumed g.countdown,
        [.timer (.schedule timer second (.tick app (g.lastGeneration + 1))),
          shown app g.countdown]⟩
  | resolved {c : Challenge} (hc : g.challenge? app = some c) (hp : c.phase = .grace)
    (hv : violating app = false) : Delivery g violating timer app ⟨g.without app, .resolved, []⟩

/-- Nothing else comes of a timer event. -/
theorem delivery (g : Guard) (violating : String → Bool) (timer : TimerId) (event : TimerEvent) :
    g.Delivery violating timer event.app (g.deliver violating timer event) := by
  -- An event is the awaited one or stale; the awaited one does what the phase says.
  by_cases hown : ∃ c, g.challenge? event.app = some c ∧ event = c.awaited event.app
  · obtain ⟨c, hc, hevent⟩ := hown
    generalize event.app = app at *
    subst hevent
    cases hp : c.phase with
    | counting n =>
      by_cases hn : n ≤ 1
      · rw [deliver_last hc hp hn]
        exact .expired hc hp hn
      · obtain ⟨k, rfl⟩ : ∃ k, n = k + 1 := ⟨n - 1, by omega⟩
        have hk : 0 < k := by omega
        rw [deliver_tick hc hp hk]
        exact .ticked hc hp hk
    | grace =>
      rw [deliver_grace hc hp]
      cases hv : violating app with
      | true => exact .resumed hc hp hv
      | false => exact .resolved hc hp hv
  · rw [deliver_stale fun c hc hevent => hown ⟨c, hc, hevent⟩]
    exact .stale

/-- Only the last second of a countdown lets it run out. -/
theorem deliver_expired (h : (g.deliver violating timer event).answer = .expired) :
    g.deliver violating timer event =
      ⟨g.without event.app, .expired,
        .surface (.goHome (.countdownExpired event.app)) :: hidden event.app 0 ::
          (g.without event.app).reshow⟩ := by
  have hdelivery := g.delivery violating timer event
  generalize g.deliver violating timer event = o at h hdelivery
  -- The answer tells the cases apart.
  cases hdelivery with
  | expired => rfl
  | stale | ticked | resumed | resolved => cases h

end Guard

end Warden.Keyword
