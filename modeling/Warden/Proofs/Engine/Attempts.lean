import Mathlib.Data.List.Induction
import Warden.Proofs.Engine.Run
import Warden.Proofs.Tamper

namespace Warden.Engine

/-!
# Which attempts are pending

Whether a page is already blocked is a matter of what has happened: a report about its category was
answered by blocking it, and since then no page of the category has left the foreground and
protection has not been switched off.

* `Since p q h`, `SinceWhen r q h` — something happened, and since then nothing of another kind.
* `Moment.Blocks`, `Moment.Releases`, `Pending h c` — the statement above, over the history `h`.
* `isTriggered_run` — after any run, the engine knows which attempts are pending.
* `navigate_verdict` — so the history and the present decide about every report.
-/

/-! ### Since -/

section Since

variable {α : Type} {p q : α → Prop} {r : List α → α → Prop} {h : List α} {m : α}

/-- Whether something happened that is told by what was before it, and nothing of another kind has
happened since. -/
def SinceWhen (r : List α → α → Prop) (q : α → Prop) (h : List α) : Prop :=
  ∃ before m after, h = before ++ m :: after ∧ r before m ∧ ∀ x ∈ after, ¬ q x

/-- Whether something happened, and nothing of another kind has happened since. -/
def Since (p q : α → Prop) (h : List α) : Prop :=
  ∃ before m after, h = before ++ m :: after ∧ p m ∧ ∀ x ∈ after, ¬ q x

/-- Nothing has happened before the first moment. -/
theorem not_sinceWhen_nil : ¬ SinceWhen r q [] := by
  rintro ⟨before, m, after, hsplit, -⟩
  cases before <;> cases hsplit

/-- The last moment happens, or it leaves alone what happened before. -/
theorem sinceWhen_concat : SinceWhen r q (h ++ [m]) ↔ r h m ∨ ¬ q m ∧ SinceWhen r q h := by
  constructor
  · rintro ⟨before, x, after, hsplit, hx, hafter⟩
    -- What happened is either the last moment or one before it.
    rcases concat_eq_split.1 hsplit with ⟨-, rfl, rfl⟩ | ⟨rest, rfl, hh⟩
    · exact .inl hx
    · refine .inr ⟨hafter m (by simp), before, x, rest, hh, hx, ?_⟩
      intro y hy
      exact hafter y (List.mem_append_left _ hy)
  · rintro (hm | ⟨hm, before, x, rest, hh, hx, hrest⟩)
    · exact ⟨h, m, [], rfl, hm, by simp⟩
    · refine ⟨before, x, rest ++ [m], concat_eq_split.2 (.inr ⟨rest, rfl, hh⟩), hx, ?_⟩
      intro y hy
      rcases List.mem_append.1 hy with hy | hy
      · exact hrest y hy
      · rw [List.mem_singleton.1 hy]
        exact hm

theorem not_since_nil : ¬ Since p q [] := not_sinceWhen_nil

/-- One more moment, where what happened is told by itself. -/
theorem since_concat : Since p q (h ++ [m]) ↔ p m ∨ ¬ q m ∧ Since p q h := sinceWhen_concat

end Since

/-! ### What a moment means for a category -/

variable {e : Engine} {i : Input} {m : Moment} {c : Category} {host : Host} {n : Navigation}

/-- Whether a page of a category is blocked. -/
def Moment.Blocks (m : Moment) (c : Category) : Prop :=
  ∃ n attempt, m.input.call = .navigate n ∧ n.category = c ∧
    m.outcome.answer = .page (.trigger attempt)

/-- Whether a page of a category leaves the foreground, or protection is switched off. -/
def Moment.Releases (m : Moment) (c : Category) : Prop :=
  match m.input.call with
  | .navigate n => n.category = c ∧ n.foregrounded = false
  | .setTamper on => on = false
  | .reload s => m.engine.losesTamper s = true
  | _ => False

/-- Whether a page of a category has been blocked and is still there, as far as anybody knows. -/
def Pending (h : List Moment) (c : Category) : Prop :=
  Since (fun m => m.Blocks c) (fun m => m.Releases c) h

/-- An attempt is pending after a moment that blocks it, and as long as no later one releases it. -/
theorem pending_concat {h : List Moment} :
    Pending (h ++ [m]) c ↔ m.Blocks c ∨ ¬ m.Releases c ∧ Pending h c := since_concat

/-! ### One call -/

/-- Reports to an engine that has stopped are not looked at. -/
theorem navigate_stopped (hs : e.stopped = true) :
    e.navigate host n = .answering e .ignored := by
  unfold navigate
  rw [hs]
  rfl

/-- Reports to a running engine are decided about after the window has been read, by the second
reading of the clock. -/
theorem navigate_running (hs : e.stopped = false) :
    e.navigate host n = (e.poll host).bind fun _ e' =>
      ((e'.tamper.decide e'.bypass host.later n).within fun (tamper, bypass) =>
        { e' with tamper, bypass }).also
          (afterDecision e'.clearRecents n (e'.tamper.decide e'.bypass host.later n).answer) := by
  unfold navigate
  rw [hs, if_neg Bool.false_ne_true]
  rfl

/-- The verdict is that of the window as the first reading leaves it. -/
theorem navigate_answer (hs : e.stopped = false) : (e.navigate host n).answer =
    (e.tamper.decide (e.bypass.poll host.now).state host.later n).answer := by
  rw [navigate_running hs]
  rfl

/-- The attempts that are known afterwards are those of that verdict. -/
theorem navigate_tamper (hs : e.stopped = false) : (e.navigate host n).state.tamper =
    (e.tamper.decide (e.bypass.poll host.now).state host.later n).state.1 := by
  rw [navigate_running hs]
  rfl

/-- What a reload makes of the attempts: only the switch of tamper protection has a say. -/
theorem reload_triggered (e : Engine) (s : Settings) :
    (e.reload s).state.tamper.triggered = if e.losesTamper s then [] else e.tamper.triggered := by
  rw [reload_state]
  dsimp only
  split <;> rfl

/-- The categories with an answered attempt after a call. -/
def triggeredAfter (e : Engine) (i : Input) : List Category :=
  match i.call with
  | .navigate n => (e.navigate i.host n).state.tamper.triggered
  | .setTamper on => if on then e.tamper.triggered else []
  | .reload s => if e.losesTamper s then [] else e.tamper.triggered
  | .shutdown => if e.stopped then e.tamper.triggered else []
  | _ => e.tamper.triggered

/-- The attempts after a call are those that `triggeredAfter` names. -/
theorem triggered_step (e : Engine) (i : Input) :
    (e.step i).state.tamper.triggered = e.triggeredAfter i := by
  cases hpart : i.call.part
  -- Neither part has anything to do with attempts.
  case lock | keyword =>
    rw [(e.tamper_of_part (i := i) (by simp [hpart])).2]
    obtain ⟨host, call⟩ := i
    cases call <;> first | rfl | cases hpart
  case tamper =>
    obtain ⟨host, call⟩ := i
    cases call
    case setTamper on =>
      show (e.setTamper on).state.tamper.triggered = _
      rw [setTamper_state]
      cases on <;> rfl
    all_goals first | rfl | cases hpart
  case whole =>
    obtain ⟨host, call⟩ := i
    cases call
    case reload s => exact e.reload_triggered s
    case shutdown =>
      simp only [step, triggeredAfter, Outcome.answering, Outcome.map, shutdown]
      split <;> rfl
    all_goals cases hpart

/-- A running engine knows of an attempt after a call if the call answered it, or if it knew of it
before and the call does not end it. -/
theorem isTriggered_step (hs : (e.step i).state.stopped = false) :
    (e.step i).state.isTriggered c = true ↔
      (Moment.mk e i).Blocks c ∨ ¬ (Moment.mk e i).Releases c ∧ e.isTriggered c = true := by
  rw [← Bool.not_eq_true, stopped_step, not_or, Bool.not_eq_true] at hs
  obtain ⟨hrunning, hcall⟩ := hs
  unfold isTriggered Tamper.isTriggered
  rw [triggered_step]
  obtain ⟨host, call⟩ := i
  cases call
  -- The tracker decides what is blocked and what it remembers in one go.
  case navigate n =>
    have hanswer : (e.step ⟨host, .navigate n⟩).answer =
        .page (e.tamper.decide (e.bypass.poll host.now).state host.later n).answer :=
      congrArg Answer.page (navigate_answer hrunning)
    show (e.navigate host n).state.tamper.isTriggered c = true ↔ _
    rw [navigate_tamper hrunning, Tamper.isTriggered_decide]
    simp [Moment.Blocks, Moment.Releases, Moment.outcome, hanswer, Tamper.isTriggered]
  case shutdown => exact absurd rfl hcall
  case setTamper on => cases on <;> simp [triggeredAfter, Moment.Blocks, Moment.Releases]
  case reload s =>
    by_cases hloses : e.losesTamper s = true <;>
      simp [triggeredAfter, Moment.Blocks, Moment.Releases, hloses]
  all_goals simp [triggeredAfter, Moment.Blocks, Moment.Releases]

/-! ### Runs -/

variable {e₀ : Engine} {inputs : List Input}

/-- Only a run without a shutdown leaves a running engine behind. -/
theorem running_before (hs : (e₀.run (inputs ++ [i])).stopped = false) :
    (e₀.run inputs).stopped = false := by
  rw [run_concat, ← Bool.not_eq_true, stopped_step, not_or, Bool.not_eq_true] at hs
  exact hs.1

/-- After any run, a running engine knows of the attempts that are pending. -/
theorem isTriggered_run (hnone : e₀.tamper.triggered = [])
    (hs : (e₀.run inputs).stopped = false) :
    (e₀.run inputs).isTriggered c = true ↔ Pending (e₀.history inputs) c := by
  -- On the calls, the last one apart, which the step lemma is about.
  induction inputs using List.reverseRecOn with
  | nil =>
    refine iff_of_false ?_ not_since_nil
    rw [run_nil, isTriggered, Tamper.isTriggered, hnone]
    exact Bool.false_ne_true
  | append_singleton inputs i ih =>
    -- The step lemma asks for an engine that runs both before and after.
    have hbefore : (e₀.run inputs).stopped = false := running_before hs
    rw [run_concat] at hs ⊢
    rw [isTriggered_step hs, ih hbefore, history_concat]
    exact pending_concat.symm

/-! ### What appears on the screen -/

/-- The actions on the screen after a report: the notice, the way home, and the list of recent apps
if it is to be cleared. -/
def blockingActions (e : Engine) (n : Navigation) : List Surface.Action :=
  [.show (.tamper n.category) n.category.message, .goHome (.tamper n.category)] ++
    if e.clearRecents then [.clearRecents n] else []

/-- Reading the window shows nothing, even if it finds it run out. -/
theorem poll_surface : (e.poll host).effects.filterMap Effect.surface? = [] := by
  have hrecord (w : WindowState) : (expiryRecord w).filterMap Effect.surface? = [] := by
    cases w <;> rfl
  simp only [poll, Outcome.also, Outcome.within, List.filterMap_append, Bypass.poll_surface,
    hrecord, List.append_nil]

/-- An attempt that is answered is blocked on the screen, and nothing else is. -/
theorem navigate_surface (hs : e.stopped = false) :
    (e.navigate host n).effects.filterMap Effect.surface? =
      match (e.navigate host n).answer with
      | .trigger _ => e.blockingActions n
      | _ => [] := by
  have hafter : (e.navigate host n).effects.filterMap Effect.surface? =
      (afterDecision e.clearRecents n (e.navigate host n).answer).filterMap Effect.surface? := by
    rw [navigate_answer hs, navigate_running hs]
    simp only [Outcome.bind, Outcome.also, Outcome.within, List.filterMap_append, poll_surface,
      Tamper.decide_surface, List.nil_append]
    rfl
  rw [hafter]
  cases hd : (e.navigate host n).answer with
  | trigger attempt =>
    -- The notice is about the category of the attempt, which is the one of the page.
    rw [navigate_answer hs, (Tamper.decide_verdict ..).trigger] at hd
    obtain ⟨-, -, -, -, -, rfl⟩ := hd
    unfold blockingActions
    cases e.clearRecents <;> simp [afterDecision, blocking, Effect.surface?]
  | _ => rfl

/-! ### The verdict -/

/-- **What a report comes to.** After any run that leaves the engine running, the history decides
whether an attempt is pending, and the present decides about everything else.  Exactly what is
answered as an attempt appears on the screen.

The clock is read twice while a report is handled; attempts are let through if the window is open at
both readings, that is, at the time of the report if the clock stands still. -/
theorem navigate_verdict (s : Settings) (stored : Persisted) (inputs : List Input) (host : Host)
    (n : Navigation) (hs : ((start s stored).run inputs).stopped = false) :
    let e := (start s stored).run inputs
    Tamper.Verdict (Pending ((start s stored).history inputs) n.category)
        (e.tamper.policy.resolve n.category (host.targeting n) = true)
        (Tamper.Live host n.category)
        (e.bypass.enabled = true ∧ ¬ e.bypass.IsOpenThroughout host.clock)
        n host.later.now (e.navigate host n).answer ∧
      (e.navigate host n).effects.filterMap Effect.surface? =
        match (e.navigate host n).answer with
        | .trigger _ => e.blockingActions n
        | _ => [] := by
  intro e
  -- The past counts only for whether the attempt is known.
  have hpending : e.tamper.isTriggered n.category = true ↔
      Pending ((start s stored).history inputs) n.category := isTriggered_run rfl hs
  refine ⟨?_, navigate_surface hs⟩
  -- What the first reading leaves open, asked at the second one, is open at both.
  rw [navigate_answer hs, ← hpending, Bypass.IsOpenThroughout, ← Bypass.isOpen_polled,
    ← Bypass.poll_enabled e.bypass host.now]
  exact e.tamper.decide_verdict _ host.later n

/-- A second source that reports a blocked page is told that this was known. -/
theorem pending_after_navigate :
    let e₀ := start {} .empty
    let inputs : List Input :=
      [⟨silentHost 0, .navigate (.entering .appInfo .usageHistory)⟩]
    (e₀.run inputs).stopped = false ∧ Pending (e₀.history inputs) .appInfo ∧
      ((e₀.run inputs).navigate (silentHost 5) (.entering .appInfo .intent)).answer =
        .debounced := by
  intro e₀ inputs
  have hverdict := (navigate_verdict {} .empty inputs (silentHost 5)
    (.entering .appInfo .intent) rfl).1
  have hdebounced : ((e₀.run inputs).navigate (silentHost 5)
      (.entering .appInfo .intent)).answer = .debounced := rfl
  exact ⟨rfl, (hverdict.debounced.1 hdebounced).2, hdebounced⟩

end Warden.Engine
