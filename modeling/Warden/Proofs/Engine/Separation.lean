import Warden.Proofs.Engine.Shares
import Warden.Proofs.Engine.Traffic

namespace Warden.Engine

/-!
# The parts do not meddle with each other

What happens to two of the three parts is lost on the third.  In every run, whether its moves are
possible or not, each part gives the answers and asks for the effects that it would if all moves
about the other two parts were left out, and if nothing of those parts had been there to begin with.

* `Move.part`, `Move.concerns` — the part that a move is about; clocks, reloads and the end concern
  all parts.
* `Traffic.share`, `Traffic.seen` — the traffic, and an outcome, as one part sees them.
* `Traffic.share_step`, `Traffic.seen_share` — one move.
* `Traffic.trace` — the answers and effects of one part in a run, in their order.
* `Traffic.trace_share` — a part leaves the same trace from all beginnings that look the same to it.
* `Traffic.apart_run` — and in all runs that differ in moves about other parts.
-/

/-! ### Moves -/

/-- The part that a move is about.  Timers are those of keyword protection. -/
def Move.part : Move → Part
  | .call i => i.call.part
  | .wait _ => .whole
  | .ring _ | .deliver _ _ => .keyword

/-- Whether a move concerns a part, alone or with all others. -/
def Move.concerns (g : Part) (m : Move) : Bool := m.part = g || m.part = .whole

/-- A move concerns its own part, and a move of the whole concerns every part. -/
theorem Move.concerns_iff {g : Part} {m : Move} :
    m.concerns g = true ↔ m.part = g ∨ m.part = .whole := by
  simp [concerns]

/-- What a part has to do with. -/
inductive Notice where
  | effect (x : Effect)
  | answer (answer : Answer)
  deriving DecidableEq

namespace Traffic

variable {s s' : Traffic} {g : Part} {m : Move} {moves : List Move}

/-! ### Shares -/

/-- The traffic as one part sees it: the timers are those of keyword protection. -/
def share (s : Traffic) : Part → Traffic
  | .keyword => { s with engine := s.engine.share .keyword }
  | g => ⟨s.engine.share g, .empty, [], 0⟩

/-- An outcome as it looks to one part. -/
def seen (g : Part) (o : Outcome Traffic Answer) : Outcome Traffic Answer :=
  ⟨o.state.share g, o.answer.sight, own g o.effects⟩

/-- Of two engines that look the same to a part, that is all it sees. -/
theorem share_congr (hg : g ≠ .keyword) (h : s.engine.share g = s'.engine.share g) :
    s.share g = s'.share g := by
  cases g with
  | keyword => exact absurd rfl hg
  | _ => simp only [share, h]

/-- What is left of the part itself is left in its share. -/
theorem share_share (s : Traffic) (g : Part) : (s.share g).share g = s.share g := by
  cases g <;> rfl

/-- A step of the engine that looks the same to keyword protection sets and cancels the same
timers. -/
theorem seen_after_keyword {o o' : Outcome Engine Answer}
    (h : Engine.seen .keyword o = Engine.seen .keyword o') :
    seen .keyword ((s.share .keyword).after o) = seen .keyword (s.after o') := by
  simp only [Engine.seen, Outcome.mk.injEq] at h
  obtain ⟨hstate, hanswer, heffects⟩ := h
  have htimers : o.effects.filterMap Effect.timer? = o'.effects.filterMap Effect.timer? := by
    rw [← timers_own, heffects, timers_own]
  simp only [seen, after, share, hstate, hanswer, heffects, htimers]

/-- To the other parts a step looks the same without any timers. -/
theorem seen_after {o o' : Outcome Engine Answer} (hg : g ≠ .keyword)
    (h : Engine.seen g o = Engine.seen g o') :
    seen g ((s.share g).after o) = seen g (s.after o') := by
  simp only [Engine.seen, Outcome.mk.injEq] at h
  obtain ⟨hstate, hanswer, heffects⟩ := h
  have hshare : ((s.share g).after o).state.share g = (s.after o').state.share g :=
    share_congr hg hstate
  simp only [seen, hshare]
  simp only [after, hanswer, heffects]

/-! ### One move -/

/-- A part that a move does not concern neither sees it nor does anything. -/
theorem share_step (hm : m.concerns g = false) :
    (s.step m).state.share g = s.share g ∧ own g (s.step m).effects = [] := by
  rw [← Bool.not_eq_true, Move.concerns_iff, not_or] at hm
  obtain ⟨hg, hwhole⟩ := hm
  -- The engine knows this of its own steps; what is left are the timers.
  have hengine (i : Input) (hi : i.call.part = m.part) :
      (s.engine.step i).state.share g = s.engine.share g ∧ own g (s.engine.step i).effects = [] := by
    rw [← hi] at hg hwhole
    exact ⟨s.engine.share_step hwhole hg, by rw [(s.engine.within_step hwhole).own, if_neg hg]⟩
  cases m with
  | wait span => exact absurd rfl hwhole
  | ring t => exact ⟨share_congr (Ne.symm hg) rfl, rfl⟩
  | deliver t host =>
    obtain ⟨hstate, heffects⟩ := hengine ⟨s.numbered host, .timer t.event⟩ rfl
    exact ⟨share_congr (Ne.symm hg) hstate, heffects⟩
  | call i =>
    obtain ⟨hstate, heffects⟩ := hengine ⟨s.numbered i.host, i.call⟩ rfl
    refine ⟨?_, heffects⟩
    by_cases hkeyword : g = .keyword
    · -- The timers stay as they are, for a call about another part has nothing to do with them.
      subst hkeyword
      have huntimed : (s.engine.step ⟨s.numbered i.host, i.call⟩).effects.filterMap Effect.timer? =
          [] := by
        rw [← timers_own, heffects]
        rfl
      simp only [step, after, share, huntimed, hstate, List.foldl_nil]
    · exact share_congr hkeyword hstate

/-- To a part that a move concerns, it looks the same if nothing of the other parts is there. -/
theorem seen_share (hm : m.concerns g = true) :
    seen g ((s.share g).step m) = seen g (s.step m) := by
  rw [Move.concerns_iff] at hm
  cases m with
  | wait span => cases g <;> rfl
  | ring t =>
    obtain rfl : g = .keyword := (hm.resolve_right nofun).symm
    rfl
  | deliver t host =>
    obtain rfl : g = .keyword := (hm.resolve_right nofun).symm
    exact seen_after_keyword (s := { s with channel := s.channel.erase t })
      (s.engine.seen_share (i := ⟨s.numbered host, .timer t.event⟩) (.inl rfl))
  | call i =>
    by_cases hg : g = .keyword
    · subst hg
      exact seen_after_keyword (s.engine.seen_share (i := ⟨s.numbered i.host, i.call⟩) hm)
    · -- The number of the next timer may differ, but the call does not look at it.
      have hcall : i.call.part ≠ .keyword := by
        rintro hkeyword
        rcases hm with rfl | hwhole
        · exact hg hkeyword
        · cases hkeyword.symm.trans hwhole
      have hengine : (s.share g).engine = s.engine.share g := by cases g <;> rfl
      refine seen_after hg ?_
      rw [hengine, numbered, numbered, (s.engine.share g).step_nextTimer hcall,
        s.engine.step_nextTimer hcall]
      exact s.engine.seen_share hm

/-! ### Traces -/

/-- What a move means for a part: the effects that it asks for, and its answer if the move is about
this part. -/
def notices (g : Part) (s : Traffic) (m : Move) : List Notice :=
  (own g (s.step m).effects).map .effect ++
    if m.part = g then [.answer (s.step m).answer.sight] else []

/-- What a row of moves means for a part. -/
def trace (g : Part) (s : Traffic) : List Move → List Notice
  | [] => []
  | m :: rest => s.notices g m ++ (s.step m).state.trace g rest

/-- A part notices nothing of a move that does not concern it. -/
theorem notices_of_unconcerned (hm : m.concerns g = false) : s.notices g m = [] := by
  have hne : m.part ≠ g := by
    rintro rfl
    simp [Move.concerns] at hm
  rw [notices, (share_step hm).2, if_neg hne]
  rfl

/-- A move keeps alike what looks alike to a part. -/
theorem alike_step (h : s.share g = s'.share g) (m : Move) :
    (s.step m).state.share g = (s'.step m).state.share g ∧ s.notices g m = s'.notices g m := by
  cases hm : m.concerns g with
  | false =>
    refine ⟨?_, ?_⟩
    · rw [(share_step hm).1, (share_step hm).1, h]
    · rw [notices_of_unconcerned hm, notices_of_unconcerned hm]
  | true =>
    have hseen : seen g (s.step m) = seen g (s'.step m) := by
      rw [← seen_share hm, h, seen_share hm]
    simp only [seen, Outcome.mk.injEq] at hseen
    obtain ⟨hstate, hanswer, heffects⟩ := hseen
    refine ⟨hstate, ?_⟩
    simp only [notices, hanswer, heffects]

/-- Two runs from beginnings that look the same to a part go on looking the same. -/
theorem alike_run (h : s.share g = s'.share g) (moves : List Move) :
    (s.run moves).share g = (s'.run moves).share g ∧ s.trace g moves = s'.trace g moves := by
  -- On the moves, from the first one on: both runs go on looking the same.
  induction moves generalizing s s' with
  | nil => exact ⟨h, rfl⟩
  | cons m rest ih =>
    obtain ⟨hstate, hnotices⟩ := alike_step h m
    obtain ⟨hrun, htrace⟩ := ih hstate
    refine ⟨hrun, ?_⟩
    rw [trace, trace, hnotices, htrace]

/-- Moves that do not concern a part may as well not happen. -/
theorem filtered_run (g : Part) (s : Traffic) (moves : List Move) :
    (s.run (moves.filter (·.concerns g))).share g = (s.run moves).share g ∧
      s.trace g (moves.filter (·.concerns g)) = s.trace g moves := by
  -- On the moves, from the first one on, which is kept or left out.
  induction moves generalizing s with
  | nil => exact ⟨rfl, rfl⟩
  | cons m rest ih =>
    cases hm : m.concerns g with
    | true =>
      obtain ⟨hrun, htrace⟩ := ih (s.step m).state
      rw [List.filter_cons_of_pos hm]
      refine ⟨hrun, ?_⟩
      rw [trace, trace, htrace]
    | false =>
      obtain ⟨hrun, htrace⟩ := ih s
      -- The move is lost on the part, so the rest of the run goes as if it had not happened.
      obtain ⟨hrun', htrace'⟩ := alike_run (share_step (s := s) hm).1.symm rest
      rw [List.filter_cons_of_neg (by simp [hm])]
      refine ⟨hrun.trans hrun', ?_⟩
      rw [htrace, htrace', trace, notices_of_unconcerned hm, List.nil_append]

/-- **The parts do not meddle with each other.**  From any beginning and for any row of moves, a
part leaves the same trace of answers and effects, and is left in the same state, if all moves about
other parts are left out, be it from the same beginning or from one in which there is nothing of the
other parts.  In particular nobody but tamper protection notices an open window. -/
theorem apart_run (g : Part) (s : Traffic) (moves : List Move) :
    let kept := moves.filter (·.concerns g)
    s.trace g kept = s.trace g moves ∧ (s.share g).trace g kept = s.trace g moves ∧
      (s.run kept).share g = (s.run moves).share g ∧
      ((s.share g).run kept).share g = (s.run moves).share g := by
  intro kept
  obtain ⟨hrun, htrace⟩ := filtered_run g s moves
  obtain ⟨hrun', htrace'⟩ := alike_run (share_share s g) kept
  exact ⟨htrace, htrace'.trans htrace, hrun, hrun'.trans hrun⟩

end Traffic

end Warden.Engine
