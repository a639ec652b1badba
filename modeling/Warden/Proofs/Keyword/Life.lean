import Warden.Proofs.Keyword.Traffic

namespace Warden.Keyword

/-!
# The life of a challenge

What is reported about one challenge, from its start to its end, follows one pattern: seconds are
counted down one by one until the user is sent home, unless the user defers once; then nothing
happens until the grace period is over, and a second countdown that follows cannot be deferred.

* `Stage`, `Stage.Next`, `Life` — the pattern.
* `Traffic.reports`, `IsLife` — what is reported about a challenge in a run.
* `Turn.next`, `Turn.keep` — each turn goes one step along the pattern, or reports nothing.
* `life_of_run`, `run_of_life` — every run keeps to the pattern, and every life it allows is lived.
* `life_cycle` — the two together, and what happens on the screen meanwhile.
-/

/-! ### The pattern -/

/-- Where a challenge stands, and whether it was deferred. -/
inductive Stage where
  | counting (deferred : Bool) (remaining : Nat)
  | grace
  deriving DecidableEq

/-- The phase of a stage. -/
def Stage.phase : Stage → Phase
  | .counting _ n => .counting n
  | .grace => .grace

/-- The stage of a challenge. -/
def Challenge.stage (c : Challenge) : Stage :=
  match c.phase with
  | .counting n => .counting c.deferred n
  | .grace => .grace

/-- What may be reported at a stage, and the stage after it unless that was the end. -/
inductive Stage.Next : Stage → Report → Option Stage → Prop
  | absorbed (st : Stage) : Next st (.absorbed st.phase) (some st)
  | ticked (deferred : Bool) {n : Nat} (hn : 0 < n) :
    Next (.counting deferred (n + 1)) (.ticked n) (some (.counting deferred n))
  | expired (deferred : Bool) : Next (.counting deferred 1) .expired none
  | deferred (n : Nat) : Next (.counting false n) .deferred (some .grace)
  | refused (n : Nat) : Next (.counting true n) .refused (some (.counting true n))
  | refusedInGrace : Next .grace .refused (some .grace)
  | resumed {n : Nat} (hn : 0 < n) : Next .grace (.resumed n) (some (.counting true n))
  | resolved : Next .grace .resolved none
  | cancelled (st : Stage) : Next st .cancelled none

/-- What may be reported from a stage on, until the end or until now. -/
inductive Life : Stage → List Report → Prop
  | soFar (st : Stage) : Life st []
  | ended {st : Stage} {r : Report} (h : st.Next r none) : Life st [r]
  | going {st st' : Stage} {r : Report} {w : List Report} (h : st.Next r (some st'))
      (hw : Life st' w) : Life st (r :: w)

/-- Whether a challenge has seconds left to count, or has used its deferral. -/
def Challenge.Sound (c : Challenge) : Prop :=
  match c.phase with
  | .counting n => 0 < n
  | .grace => c.deferred = true

namespace Challenge

variable {c : Challenge} {n : Nat}

/-- The stage of a challenge tells its phase. -/
theorem stage_phase (c : Challenge) : c.stage.phase = c.phase := by
  unfold stage
  cases c.phase <;> rfl

/-- A challenge that is counting is at a stage that counts. -/
theorem stage_counting (hp : c.phase = .counting n) : c.stage = .counting c.deferred n := by
  rw [stage, hp]

/-- A challenge in its grace period is at that stage. -/
theorem stage_grace (hp : c.phase = .grace) : c.stage = .grace := by
  rw [stage, hp]

/-- A stage that counts tells how many seconds are left, and whether there was a deferral. -/
theorem of_stage_counting {d : Bool} (h : c.stage = .counting d n) :
    c.phase = .counting n ∧ c.deferred = d := by
  cases hp : c.phase with
  | counting k =>
    rw [stage_counting hp] at h
    cases h
    exact ⟨rfl, rfl⟩
  | grace =>
    rw [stage_grace hp] at h
    cases h

/-- The stage of the grace period tells the phase. -/
theorem of_stage_grace (h : c.stage = .grace) : c.phase = .grace := by
  rw [← stage_phase, h]
  rfl

/-- A sound challenge that is counting has seconds left. -/
theorem Sound.remaining_pos (h : c.Sound) (hp : c.phase = .counting n) : 0 < n := by
  rw [Sound, hp] at h
  exact h

/-- A sound challenge in its grace period has used its deferral. -/
theorem Sound.deferred (h : c.Sound) (hp : c.phase = .grace) : c.deferred = true := by
  rw [Sound, hp] at h
  exact h

end Challenge

/-! ### Reports about one app -/

/-- Whether a report says that a challenge is over. -/
def Report.ends : Report → Bool
  | .expired | .resolved | .cancelled => true
  | _ => false

/-- The reports up to the first that says that a challenge is over. -/
def upToEnd : List Report → List Report
  | [] => []
  | r :: rest => if r.ends then [r] else r :: upToEnd rest

/-- Whether the answer to a move is about an app. -/
def Move.concerns (app : String) : Move → Bool
  | .violate a | .defer a => a == app
  | .deliver t _ => t.event.app == app
  | .cancelAll => true
  | _ => false

/-- The answer to a move, if it is about an app and not about an event that came too late. -/
def report? (app : String) (m : Move) (r : Report) : Option Report :=
  if m.concerns app && r != .stale then some r else none

/-- The answer to a move about an app is reported unless it is that of a late event. -/
theorem report?_eq_some {app : String} {m : Move} {a r : Report} :
    report? app m a = some r ↔ m.concerns app = true ∧ a ≠ .stale ∧ a = r := by
  unfold report?
  cases m.concerns app <;> simp

/-- Nothing is reported about other apps, and nothing of late events. -/
theorem report?_eq_none {app : String} {m : Move} {a : Report} :
    report? app m a = none ↔ m.concerns app = false ∨ a = .stale := by
  unfold report?
  cases m.concerns app <;> simp

namespace Traffic

/-- What is reported about an app in a row of moves. -/
def reports (app : String) (s : Traffic) : List Move → List Report
  | [] => []
  | m :: rest => (report? app m (s.step m).answer).toList ++ (s.step m).state.reports app rest

/-- Whether a row of reports is what some run reports about some challenge of an app, from its start
with a length of the countdown to its end or until now. -/
def IsLife (app : String) (countdown : Nat) (w : List Report) : Prop :=
  ∃ n grace before after,
    (start n grace).Possible (before ++ .violate app :: after) ∧
    (((start n grace).run before).step (.violate app)).answer = .started countdown ∧
    w = upToEnd ((((start n grace).run before).step (.violate app)).state.reports app after)

variable {s : Traffic} {m : Move} {moves rest : List Move} {o : Outcome Traffic Report}
  {app : String} {c : Challenge} {st : Stage} {r : Report} {w : List Report}

/-- Of two rows of moves, first what the first reports and then what the second does. -/
theorem reports_append :
    s.reports app (moves ++ rest) = s.reports app moves ++ (s.run moves).reports app rest := by
  induction moves generalizing s with
  | nil => rfl
  | cons m moves ih =>
    rw [List.cons_append, reports, ih, reports, List.append_assoc]
    rfl

/-! ### Sound challenges -/

/-- Whether all challenges are sound. -/
def Sound (s : Traffic) : Prop := ∀ app c, s.challenge? app = some c → c.Sound

/-- A new guard has no challenges, so all of them are sound. -/
theorem sound_start {n : Nat} {grace : Duration} : (start n grace).Sound := by
  intro app c hc
  cases hc

/-- A new sound challenge among sound ones. -/
theorem Sound.launch {phase : Phase} {deferred : Bool} {generation : Nat} {delay : Duration}
    (h : s.Sound) (hnew : Challenge.Sound ⟨phase, deferred, generation, s.timers.next⟩) :
    (s.launch app phase deferred generation delay).Sound := by
  intro b d hd
  rw [challenge?_launch] at hd
  split at hd
  · cases hd
    exact hnew
  · exact h b d hd

/-- Those that are left are still sound. -/
theorem Sound.lose (h : s.Sound) (app : String) (c : Challenge) : (s.lose app c).Sound := by
  intro b d hd
  exact h b d (challenge?_lose_eq_some.1 hd).2

/-- Every turn keeps challenges sound. -/
theorem Turn.sound (h : s.Sound) (hturn : Turn s m o) : o.state.Sound := by
  cases hturn with
  | absorbed | refused | timed | waited | rung | stale => exact h
  | started hnone => exact Sound.launch (s := s.renew) h s.guard.countdown_pos
  -- A challenge gets into its grace period only by a deferral, which it notes.
  | @deferred app c n hc hp hd => exact Sound.launch (s := (s.lose app c).renew) (h.lose app c) rfl
  | cancelled =>
    intro app c hc
    cases hc
  | @ticked t violating app c n ht hc hid hp hn =>
    exact Sound.launch (s := (s.lose app c).take t) (h.lose app c) hn
  | @expired t violating app c n ht hc hid hp hn => exact h.lose app c
  | @resumed t violating app c ht hc hid hp hv =>
    exact Sound.launch (s := ((s.lose app c).take t).renew) (h.lose app c) s.guard.countdown_pos
  | @resolved t violating app c ht hc hid hp hv => exact h.lose app c

/-- Whatever possible moves are made, challenges are sound. -/
theorem sound_run (ho : s.Orderly) (h : s.Sound) (hp : s.Possible moves) : (s.run moves).Sound := by
  induction moves generalizing s with
  | nil => exact h
  | cons m moves ih =>
    have hturn := turn_step ho hp.1
    exact ih (hturn.orderly ho) (hturn.sound h) hp.2

/-! ### One step along the pattern -/

/-- The app of an event is the one whose challenge it belongs to. -/
theorem Orderly.event_app {t : PendingTimer} (h : s.Orderly) (hc : s.challenge? app = some c)
    (ht : t ∈ s.channel) (hid : t.id = c.timer) : t.event.app = app := by
  rw [h.event_of_id hc (mem_flights.2 (.inr ht)) hid, Challenge.awaited_app]

/-- A delivery is about the app whose challenge the event belongs to. -/
theorem Orderly.concerns_iff {t : PendingTimer} {violating : String → Bool} {other : String}
    (h : s.Orderly) (hc : s.challenge? app = some c) (ht : t ∈ s.channel) (hid : t.id = c.timer) :
    Move.concerns other (.deliver t violating) = true ↔ app = other := by
  rw [Move.concerns, h.event_app hc ht hid, beq_iff_eq]

/-- A turn that reports nothing about an app leaves its challenge alone. -/
theorem Turn.keep (ho : s.Orderly) (hturn : Turn s m o) (hr : report? app m o.answer = none) :
    o.state.challenge? app = s.challenge? app := by
  rw [report?_eq_none, ← Bool.not_eq_true] at hr
  cases hturn with
  | absorbed | refused | timed | waited | rung | stale => rfl
  | cancelled => simp [Move.concerns] at hr
  | @started a hnone =>
    have hne : app ≠ a := by
      rintro rfl
      simp [Move.concerns] at hr
    rw [challenge?_launch, if_neg hne, challenge?_renew]
  | @deferred a c n hc hp hd =>
    have hne : app ≠ a := by
      rintro rfl
      simp [Move.concerns] at hr
    rw [challenge?_launch, if_neg hne, challenge?_renew, challenge?_lose, if_neg hne]
  -- The event is not late, so nothing is reported only because it is about another app.
  | @ticked t violating a c n ht hc hid hp hn =>
    have hne : a ≠ app := mt (ho.concerns_iff hc ht hid).2 (hr.resolve_right (by simp))
    rw [challenge?_launch, if_neg hne.symm, challenge?_take, challenge?_lose, if_neg hne.symm]
  | @expired t violating a c n ht hc hid hp hn =>
    have hne : a ≠ app := mt (ho.concerns_iff hc ht hid).2 (hr.resolve_right (by simp))
    rw [challenge?_take, challenge?_lose, if_neg hne.symm]
  | @resumed t violating a c ht hc hid hp hv =>
    have hne : a ≠ app := mt (ho.concerns_iff hc ht hid).2 (hr.resolve_right (by simp))
    rw [challenge?_launch, if_neg hne.symm, challenge?_renew, challenge?_take, challenge?_lose,
      if_neg hne.symm]
  | @resolved t violating a c ht hc hid hp hv =>
    have hne : a ≠ app := mt (ho.concerns_iff hc ht hid).2 (hr.resolve_right (by simp))
    rw [challenge?_take, challenge?_lose, if_neg hne.symm]

/-- A turn that reports something about a challenge takes it one step along the pattern. -/
theorem Turn.next (ho : s.Orderly) (h : s.Sound) (hturn : Turn s m o)
    (hc : s.challenge? app = some c) (hr : report? app m o.answer = some r) :
    c.stage.Next r ((o.state.challenge? app).map Challenge.stage) := by
  obtain ⟨happ, hlate, rfl⟩ := report?_eq_some.1 hr
  have hsound : c.Sound := h app c hc
  -- By the turn. Of those that report, each is about the app whose challenge it touches, so the
  -- challenge at hand is that one.
  cases hturn with
  | timed | waited | rung => cases happ
  | stale => exact absurd rfl hlate
  | @started a hnone =>
    obtain rfl : a = app := beq_iff_eq.1 happ
    rw [hnone] at hc
    cases hc
  | @absorbed a c' hc' =>
    obtain rfl : a = app := beq_iff_eq.1 happ
    obtain rfl : c' = c := Option.some.inj (hc'.symm.trans hc)
    rw [hc, ← c'.stage_phase]
    exact .absorbed c'.stage
  | @deferred a c' n hc' hp hd =>
    obtain rfl : a = app := beq_iff_eq.1 happ
    obtain rfl : c' = c := Option.some.inj (hc'.symm.trans hc)
    rw [challenge?_launch, if_pos rfl, Challenge.stage_counting hp, hd]
    exact .deferred n
  | @refused a hno =>
    obtain rfl : a = app := beq_iff_eq.1 happ
    rw [challenge?_renew, hc]
    cases hp : c.phase with
    | counting n =>
      have hd : c.deferred = true := (hno c hc).resolve_right (by simp [hp])
      rw [Option.map_some, Challenge.stage_counting hp, hd]
      exact .refused n
    | grace =>
      rw [Option.map_some, Challenge.stage_grace hp]
      exact .refusedInGrace
  | cancelled => exact .cancelled c.stage
  | @ticked t violating a c' n ht hc' hid hp hn =>
    obtain rfl : a = app := (ho.concerns_iff hc' ht hid).1 happ
    obtain rfl : c' = c := Option.some.inj (hc'.symm.trans hc)
    rw [challenge?_launch, if_pos rfl, Challenge.stage_counting hp]
    exact .ticked c'.deferred hn
  | @expired t violating a c' n ht hc' hid hp hn =>
    obtain rfl : a = app := (ho.concerns_iff hc' ht hid).1 happ
    obtain rfl : c' = c := Option.some.inj (hc'.symm.trans hc)
    -- A countdown that ran out had one second left at most, and a sound one has some.
    have hlast : n = 1 := by
      have hpos : 0 < n := hsound.remaining_pos hp
      omega
    rw [challenge?_take, challenge?_lose, if_pos rfl, Challenge.stage_counting hp, hlast]
    exact .expired c'.deferred
  | @resumed t violating a c' ht hc' hid hp hv =>
    obtain rfl : a = app := (ho.concerns_iff hc' ht hid).1 happ
    obtain rfl : c' = c := Option.some.inj (hc'.symm.trans hc)
    rw [challenge?_launch, if_pos rfl, Challenge.stage_grace hp, hsound.deferred hp]
    exact .resumed s.guard.countdown_pos
  | @resolved t violating a c' ht hc' hid hp hv =>
    obtain rfl : a = app := (ho.concerns_iff hc' ht hid).1 happ
    obtain rfl : c' = c := Option.some.inj (hc'.symm.trans hc)
    rw [challenge?_take, challenge?_lose, if_pos rfl, Challenge.stage_grace hp]
    exact .resolved

/-! ### Every run keeps to the pattern -/

/-- A report that ends the life is the last one kept. -/
theorem upToEnd_ended (h : st.Next r none) (rest : List Report) : upToEnd (r :: rest) = [r] := by
  have hends : r.ends = true := by cases h <;> rfl
  rw [upToEnd, if_pos hends]

/-- A report that does not end the life is followed by the rest. -/
theorem upToEnd_going {st' : Stage} (h : st.Next r (some st')) (rest : List Report) :
    upToEnd (r :: rest) = r :: upToEnd rest := by
  have hgoes : r.ends = false := by cases h <;> rfl
  rw [upToEnd, hgoes, if_neg Bool.false_ne_true]

/-- What is reported about a challenge from some moment on follows the pattern. -/
theorem life_of_run (ho : s.Orderly) (h : s.Sound) (hc : s.challenge? app = some c)
    (hp : s.Possible moves) : Life c.stage (upToEnd (s.reports app moves)) := by
  -- After the end nothing more is asked, so the induction always has a challenge at hand.
  induction moves generalizing s c with
  | nil => exact .soFar c.stage
  | cons m moves ih =>
    have hturn := turn_step ho hp.1
    have ho' := hturn.orderly ho
    have h' := hturn.sound h
    rw [reports]
    cases hr : report? app m (s.step m).answer with
    | none =>
      have hkeep := (hturn.keep ho hr).trans hc
      exact ih ho' h' hkeep hp.2
    | some r =>
      have hnext := hturn.next ho h hc hr
      rw [Option.toList_some, List.singleton_append]
      cases hc' : (s.step m).state.challenge? app with
      | none =>
        rw [hc'] at hnext
        rw [upToEnd_ended hnext]
        exact .ended hnext
      | some c' =>
        rw [hc'] at hnext
        rw [upToEnd_going hnext]
        exact .going hnext (ih ho' h' hc' hp.2)

/-! ### Every life is lived -/

/-- The timer of a challenge can be brought into the channel, and nothing else happens. -/
theorem exists_channel (ho : s.Orderly) (hc : s.challenge? app = some c) :
    ∃ moves t, s.Possible moves ∧ s.reports app moves = [] ∧ (s.run moves).guard = s.guard ∧
      t ∈ (s.run moves).channel ∧ t.id = c.timer := by
  obtain ⟨t, ht, hid, -⟩ := ho.awaited app c hc
  rcases mem_flights.1 ht with ht | ht
  · exact ⟨[.ring t], t, ⟨ht, trivial⟩, rfl, rfl, List.mem_cons_self, hid⟩
  · exact ⟨[], t, trivial, rfl, rfl, ht, hid⟩

/-- What the timer of a challenge comes to when it is delivered. -/
theorem answer_own {t : PendingTimer} (ho : s.Orderly) (hc : s.challenge? app = some c)
    (ht : t ∈ s.channel) (hid : t.id = c.timer) (violating : String → Bool) :
    (s.step (.deliver t violating)).answer = match c.phase with
      | .counting n => if n ≤ 1 then .expired else .ticked (n - 1)
      | .grace => if violating app then .resumed s.guard.countdown else .resolved := by
  have howner {a : String} {c' : Challenge} (hc' : s.challenge? a = some c')
      (hid' : t.id = c'.timer) : a = app ∧ c' = c := by
    obtain rfl := ho.app_of_timer hc' hc (hid'.symm.trans hid)
    exact ⟨rfl, Option.some.inj (hc'.symm.trans hc)⟩
  have hturn : Turn s (.deliver t violating) (s.step (.deliver t violating)) := turn_step ho ht
  generalize s.step (.deliver t violating) = o at hturn
  -- One case for each thing that an event which is not late may come to.
  cases hturn with
  | stale _ hnone => exact absurd ⟨app, c, hc, hid⟩ hnone
  | @ticked _ _ a c' n _ hc' hid' hp hn =>
    obtain ⟨rfl, rfl⟩ := howner hc' hid'
    rw [hp]
    exact (if_neg (by omega)).symm
  | @expired _ _ a c' n _ hc' hid' hp hn =>
    obtain ⟨rfl, rfl⟩ := howner hc' hid'
    rw [hp]
    exact (if_pos hn).symm
  | @resumed _ _ a c' _ hc' hid' hp hv =>
    obtain ⟨rfl, rfl⟩ := howner hc' hid'
    rw [hp]
    exact (if_pos hv).symm
  | @resolved _ _ a c' _ hc' hid' hp hv =>
    obtain ⟨rfl, rfl⟩ := howner hc' hid'
    rw [hp, hv]
    rfl

/-- What is reported determines the stage after it. -/
theorem next_unique {next next' : Option Stage} (h : st.Next r next) (h' : st.Next r next') :
    next = next' := by
  cases h <;> cases h' <;> rfl

/-- The timer of a challenge may be delivered next, whatever apps show then. -/
theorem exists_deliver (ho : s.Orderly) (hc : s.challenge? app = some c)
    (violating : String → Bool) :
    ∃ moves m, s.Possible (moves ++ [m]) ∧ s.reports app moves = [] ∧
      (s.run moves).challenge? app = some c ∧
      report? app m ((s.run moves).step m).answer = some (match c.phase with
        | .counting n => if n ≤ 1 then .expired else .ticked (n - 1)
        | .grace => if violating app then .resumed s.guard.countdown else .resolved) := by
  obtain ⟨moves, t, hp, hreports, hguard, ht, hid⟩ := exists_channel ho hc
  have ho' : (s.run moves).Orderly := orderly_run ho hp
  have hc' : (s.run moves).challenge? app = some c := by
    rw [challenge?, hguard]
    exact hc
  have hanswer := answer_own ho' hc' ht hid violating
  rw [hguard] at hanswer
  refine ⟨moves, .deliver t violating, possible_append.2 ⟨hp, ht, trivial⟩, hreports, hc', ?_⟩
  rw [report?_eq_some, hanswer]
  refine ⟨(ho'.concerns_iff hc' ht hid).2 rfl, ?_, rfl⟩
  cases c.phase <;> dsimp only <;> split <;> simp

/-- Whatever the pattern allows next can be made to happen next. -/
theorem exists_next {next : Option Stage} (ho : s.Orderly) (hc : s.challenge? app = some c)
    (h : c.stage.Next r next) :
    ∃ moves m, s.Possible (moves ++ [m]) ∧ s.reports app moves = [] ∧
      (s.run moves).challenge? app = some c ∧
      report? app m ((s.run moves).step m).answer = some r := by
  generalize hst : c.stage = st at h
  -- No life has a late event in it.
  have hr : r ≠ .stale := by
    rintro rfl
    cases h
  have hnow (m : Move) (hm : s.Allows m) (happ : m.concerns app = true)
      (hanswer : (s.step m).answer = r) :
      ∃ moves m, s.Possible (moves ++ [m]) ∧ s.reports app moves = [] ∧
        (s.run moves).challenge? app = some c ∧
        report? app m ((s.run moves).step m).answer = some r := by
    exact ⟨[], m, ⟨hm, trivial⟩, rfl, hc, report?_eq_some.2 ⟨happ, hanswer ▸ hr, hanswer⟩⟩
  cases h with
  | absorbed =>
    refine hnow (.violate app) trivial (beq_self_eq_true app) ?_
    simp only [step, Guard.violate_live hc]
    rw [← hst, Challenge.stage_phase]
    rfl
  | deferred n =>
    obtain ⟨hp, hd⟩ := Challenge.of_stage_counting hst
    refine hnow (.defer app) trivial (beq_self_eq_true app) ?_
    simp only [step, Guard.defer_accepted hc hd hp]
    rfl
  | refused n =>
    obtain ⟨hp, hd⟩ := Challenge.of_stage_counting hst
    have hno : ∀ c', s.challenge? app = some c' → c'.deferred = true ∨ c'.phase = .grace := by
      intro c' hc'
      rw [hc] at hc'
      cases hc'
      exact .inl hd
    refine hnow (.defer app) trivial (beq_self_eq_true app) ?_
    simp only [step, Guard.defer_refused hno]
    rfl
  | refusedInGrace =>
    have hno : ∀ c', s.challenge? app = some c' → c'.deferred = true ∨ c'.phase = .grace := by
      intro c' hc'
      rw [hc] at hc'
      cases hc'
      exact .inr (Challenge.of_stage_grace hst)
    refine hnow (.defer app) trivial (beq_self_eq_true app) ?_
    simp only [step, Guard.defer_refused hno]
    rfl
  | cancelled => exact hnow .cancelAll trivial rfl rfl
  -- What is left comes of the timer of the challenge, with the content that decides about the grace
  -- period.
  | @ticked d n hn =>
    have hdeliver := exists_deliver ho hc fun _ => false
    rw [(Challenge.of_stage_counting hst).1] at hdeliver
    have hmore : ¬ n + 1 ≤ 1 := by omega
    simpa only [hmore, if_false, Nat.add_sub_cancel] using hdeliver
  | expired d =>
    have hdeliver := exists_deliver ho hc fun _ => false
    rw [(Challenge.of_stage_counting hst).1] at hdeliver
    exact hdeliver
  | resolved =>
    have hdeliver := exists_deliver ho hc fun _ => false
    rw [Challenge.of_stage_grace hst] at hdeliver
    exact hdeliver
  | @resumed n hn =>
    -- The second countdown has the length that is in force when the grace period ends.
    have hturn : Turn s (.setTiming n s.guard.grace) (s.step (.setTiming n s.guard.grace)) :=
      turn_step ho trivial
    obtain ⟨moves, m, hp, hquiet, hc', hr⟩ := exists_deliver (hturn.orderly ho) hc fun _ => true
    have hlength : (s.step (.setTiming n s.guard.grace)).state.guard.countdown = n :=
      Nat.max_eq_left hn
    rw [Challenge.of_stage_grace hst, hlength] at hr
    exact ⟨.setTiming n s.guard.grace :: moves, m, ⟨trivial, hp⟩, hquiet, hc', hr⟩

/-- Every life that the pattern allows is lived. -/
theorem run_of_life (hw : Life st w) (ho : s.Orderly) (h : s.Sound)
    (hc : s.challenge? app = some c) (hst : c.stage = st) :
    ∃ moves, s.Possible moves ∧ upToEnd (s.reports app moves) = w := by
  -- On the life: each report of it is made to happen, from the stage that the reports before have
  -- led to.
  induction hw generalizing s c with
  | soFar st => exact ⟨[], trivial, rfl⟩
  | ended hnext =>
    subst hst
    obtain ⟨moves, m, hp, hquiet, hc', hr⟩ := exists_next ho hc hnext
    refine ⟨moves ++ [m], hp, ?_⟩
    rw [reports_append, hquiet, reports, hr]
    exact upToEnd_ended hnext _
  | @going st st' r w hnext hw ih =>
    subst hst
    obtain ⟨moves, m, hp, hquiet, hc', hr⟩ := exists_next ho hc hnext
    obtain ⟨hp, hm⟩ := possible_append.1 hp
    have ho' := orderly_run ho hp
    have h' := sound_run ho h hp
    have hturn := turn_step ho' hm.1
    -- The report determines the stage in which the challenge goes on.
    have hstage := next_unique (hturn.next ho' h' hc' hr) hnext
    obtain ⟨c'', hc'', hst'⟩ := Option.map_eq_some_iff.1 hstage
    obtain ⟨moves', hp', hw'⟩ := ih (hturn.orderly ho') (hturn.sound h') hc'' hst'
    refine ⟨moves ++ m :: moves', possible_append.2 ⟨hp, hm.1, hp'⟩, ?_⟩
    rw [reports_append, hquiet, List.nil_append, reports, hr, Option.toList_some,
      List.singleton_append, upToEnd_going hnext, hw']

/-! ### The life cycle -/

/-- A challenge starts with a full countdown. -/
theorem step_started (s : Traffic) {app : String} (hnone : s.challenge? app = none) :
    (s.step (.violate app)).answer = .started s.guard.countdown ∧
      (s.step (.violate app)).state.challenge? app =
        some ⟨.counting s.guard.countdown, false, s.guard.lastGeneration + 1, s.timers.next⟩ := by
  simp only [step, Guard.violate_idle hnone]
  exact ⟨rfl, Guard.challenge?_having.trans (if_pos rfl)⟩

/-- The lives of challenges are those that the pattern allows, for every length of a countdown. -/
theorem isLife_iff {countdown : Nat} :
    IsLife app countdown w ↔ 0 < countdown ∧ Life (.counting false countdown) w := by
  constructor
  · rintro ⟨n, grace, before, after, hp, hstarted, rfl⟩
    obtain ⟨hbefore, hm, hafter⟩ := possible_append.1 hp
    have ho := orderly_run orderly_start hbefore
    have h := sound_run orderly_start sound_start hbefore
    have hturn := turn_step ho hm
    cases hc : ((start n grace).run before).challenge? app with
    | some c =>
      have hlive : (((start n grace).run before).step (.violate app)).answer =
          .absorbed c.phase := by
        simp only [step, Guard.violate_live hc]
        rfl
      rw [hlive] at hstarted
      cases hstarted
    | none =>
      obtain ⟨hlength, hc'⟩ := step_started _ hc
      rw [hlength] at hstarted
      cases hstarted
      exact ⟨Guard.countdown_pos _, life_of_run (hturn.orderly ho) (hturn.sound h) hc' hafter⟩
  · -- The run starts with the challenge, in a guard whose countdown has the length asked for.
    rintro ⟨hpos, hw⟩
    let s₀ := start countdown (.seconds 0)
    have hnone : s₀.challenge? app = none := rfl
    have hturn : Turn s₀ (.violate app) (s₀.step (.violate app)) := turn_step orderly_start trivial
    obtain ⟨hlength, hc⟩ := step_started s₀ hnone
    have hcountdown : s₀.guard.countdown = countdown := Nat.max_eq_left hpos
    rw [hcountdown] at hlength hc
    obtain ⟨after, hp, hafter⟩ := run_of_life hw (hturn.orderly orderly_start)
      (hturn.sound sound_start) hc rfl
    exact ⟨countdown, .seconds 0, [], after, ⟨trivial, hp⟩, hlength, hafter.symm⟩

/-! ### The screen -/

/-- The user of an app is sent home when its countdown runs out, once, and never otherwise. -/
theorem Turn.home (ho : s.Orderly) (hturn : Turn s m o) :
    o.effects.count (.surface (.goHome (.countdownExpired app))) =
      if m.concerns app = true ∧ o.answer = .expired then 1 else 0 := by
  -- A countdown may come to the front beside, which sends nobody home.
  have hreshow (g : Guard) : g.reshow.count (.surface (.goHome (.countdownExpired app))) = 0 :=
    List.count_eq_zero.2 (g.goHome_not_mem_reshow _)
  cases hturn with
  | @expired t violating a c n ht hc hid hp hn =>
    have hconcerns : Move.concerns app (.deliver t violating) = true ↔ a = app :=
      ho.concerns_iff hc ht hid
    by_cases heq : a = app
    · simp [hconcerns, heq, hreshow, Guard.hidden]
    · simp [hconcerns, heq, hreshow, Guard.hidden]
  | cancelled =>
    rw [if_neg (by simp)]
    refine List.count_eq_zero.2 fun hmem => ?_
    obtain ⟨e, -, he⟩ := List.mem_flatMap.1 hmem
    rcases Guard.mem_ending he with he | ⟨n, he⟩ <;> cases he
  | deferred => simp [hreshow, Guard.hidden]
  | _ => simp [Guard.shown]

/-- What is shown of an app is its running countdown, as it stands after the move. -/
theorem Turn.shows {n : Nat} {message : String} (hturn : Turn s m o)
    (h : .surface (.show (.keyword app n) message) ∈ o.effects) :
    ∃ c, o.state.challenge? app = some c ∧ c.phase = .counting n := by
  have hreshow {g : Guard} (h : .surface (.show (.keyword app n) message) ∈ g.reshow) :
      ∃ c, g.challenge? app = some c ∧ c.phase = .counting n := by
    obtain ⟨a, k, c, he, hc, hp⟩ := Guard.mem_reshow h
    cases he
    exact ⟨c, hc, hp⟩
  cases hturn with
  | absorbed | refused | timed | waited | rung | stale | resolved => cases h
  | cancelled =>
    obtain ⟨e, -, he⟩ := List.mem_flatMap.1 h
    rcases Guard.mem_ending he with he | ⟨n, he⟩ <;> cases he
  | started | resumed =>
    simp only [Guard.shown, List.mem_cons, List.not_mem_nil, or_false, reduceCtorEq, false_or] at h
    cases h
    exact ⟨_, challenge?_launch.trans (if_pos rfl), rfl⟩
  | ticked => simp at h
  | deferred =>
    simp only [Guard.hidden, List.mem_cons, reduceCtorEq, false_or, Effect.surface.injEq] at h
    exact hreshow h
  | expired =>
    simp only [Guard.hidden, List.mem_cons, reduceCtorEq, false_or, Effect.surface.injEq] at h
    exact hreshow h

/-- Nothing happens when content is absorbed, a deferral refused or an event late. -/
theorem Turn.quiet (hturn : Turn s m o)
    (h : (∃ phase, o.answer = .absorbed phase) ∨ o.answer = .refused ∨ o.answer = .stale) :
    o.effects = [] := by
  cases hturn with
  | absorbed | refused | stale => rfl
  | _ => simp at h

/-- An event is late unless it is that of the timer that some challenge has noted. -/
theorem Turn.stale_iff {t : PendingTimer} {violating : String → Bool}
    (hturn : Turn s (.deliver t violating) o) : o.answer = .stale ↔ ¬ s.Owned t := by
  cases hturn with
  | stale _ hnone => exact iff_of_true rfl hnone
  | ticked _ hc hid | expired _ hc hid | resumed _ hc hid | resolved _ hc hid =>
    exact iff_of_false (by simp) (not_not_intro ⟨_, _, hc, hid⟩)

/-- After its end a challenge is gone. -/
theorem Turn.gone (ho : s.Orderly) (hturn : Turn s m o) (happ : m.concerns app = true)
    (h : o.answer.ends = true) : o.state.challenge? app = none := by
  -- Three turns end a challenge; the others have answers that do not.
  cases hturn with
  | cancelled => rfl
  | @expired t violating a c n ht hc hid hp hn =>
    obtain rfl : a = app := (ho.concerns_iff hc ht hid).1 happ
    rw [challenge?_take, challenge?_lose, if_pos rfl]
  | @resolved t violating a c ht hc hid hp hv =>
    obtain rfl : a = app := (ho.concerns_iff hc ht hid).1 happ
    rw [challenge?_take, challenge?_lose, if_pos rfl]
  | _ => cases h

/-- **The life cycle of a challenge.** What runs report about a challenge, from its start to its end
or until now, is exactly what the pattern allows.  And in every move of every run: the user of an
app is sent home once if its countdown runs out, and otherwise not; an app is shown its countdown
only while it is counting; whatever is absorbed, refused or late does nothing; only the timer that a
challenge has noted is not late; and after its end a challenge is gone. -/
theorem life_cycle :
    (∀ app countdown w,
      IsLife app countdown w ↔ 0 < countdown ∧ Life (.counting false countdown) w) ∧
    ∀ n grace moves m, (start n grace).Possible (moves ++ [m]) →
      let s := (start n grace).run moves
      let o := s.step m
      (∀ app, o.effects.count (.surface (.goHome (.countdownExpired app))) =
        if m.concerns app = true ∧ o.answer = .expired then 1 else 0) ∧
      (∀ app k message, .surface (.show (.keyword app k) message) ∈ o.effects →
        ∃ c, o.state.challenge? app = some c ∧ c.phase = .counting k) ∧
      ((∃ phase, o.answer = .absorbed phase) ∨ o.answer = .refused ∨ o.answer = .stale →
        o.effects = []) ∧
      (∀ t violating, m = .deliver t violating →
        (o.answer = .stale ↔ ∀ app c, s.challenge? app = some c → t.id ≠ c.timer)) ∧
      ∀ app, m.concerns app = true → o.answer.ends = true → o.state.challenge? app = none := by
  refine ⟨fun app countdown w => isLife_iff, ?_⟩
  intro n grace moves m hp s o
  obtain ⟨hmoves, hm⟩ := possible_append.1 hp
  have ho : s.Orderly := orderly_run orderly_start hmoves
  have hturn : Turn s m o := turn_step ho hm.1
  refine ⟨fun app => hturn.home ho, fun app k message => hturn.shows, hturn.quiet, ?_,
    fun app => hturn.gone ho⟩
  rintro t violating rfl
  rw [hturn.stale_iff]
  constructor
  · intro hnone app c hc hid
    exact hnone ⟨app, c, hc, hid⟩
  · rintro hnone ⟨app, c, hc, hid⟩
    exact hnone app c hc hid

/-- A deferred countdown of three seconds that starts anew with one, and no life in which the second
countdown is deferred as well. -/
theorem life_cycle_deferred :
    IsLife "app.web" 3
        [.ticked 2, .deferred, .absorbed .grace, .resumed 1, .refused, .expired] ∧
      ¬ IsLife "app.web" 3 [.deferred, .resumed 1, .deferred] := by
  refine ⟨(life_cycle.1 _ _ _).2 ⟨by decide, ?_⟩, ?_⟩
  · exact .going (.ticked false (by decide)) (.going (.deferred 2) (.going (.absorbed .grace)
      (.going (.resumed (by decide)) (.going (.refused 1) (.ended (.expired true))))))
  · intro h
    obtain ⟨-, hlife⟩ := (life_cycle.1 _ _ _).1 h
    cases hlife with
    | going hfirst hlife =>
      cases hfirst
      cases hlife with
      | going hsecond hlife =>
        cases hsecond
        cases hlife with
        | ended hthird => cases hthird
        | going hthird => cases hthird

end Traffic

end Warden.Keyword
