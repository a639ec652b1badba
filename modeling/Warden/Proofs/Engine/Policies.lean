import Mathlib.Data.List.Forall2
import Warden.Proofs.Engine.Closings
import Warden.Proofs.Engine.Values

namespace Warden

/-!
# Stricter policies

Two engines that go through the same run differ only in the categories that count as attempts when
nobody can tell whom a page is about.  The one with more of them may know of attempts that the other
one has let through, and it asks about capabilities that the other one never asks about; still,
whatever the other one takes for an attempt, it takes for an attempt too.

* `Tamper.Decision.isAttempt` — a report is taken for an attempt, a new one or one that is pending.
* `Engine.isAttempt_navigate`, `isTriggered_navigate` — when that is so, and what comes of it.
* `Settings.Stricter`, `Engine.Call.Stricter`, `Engine.Input.Stricter` — the same, but for policies.
* `Engine.Stricter`, `Engine.Stricter.step` — an engine that lets less through, and that it goes on
  to do so.
* `Engine.stricter_run` — a stricter policy never lets more through.
* `Engine.stricter_run_window` — but the window must not run out while a report is handled.
-/

/-! ### What is taken for an attempt -/

namespace Tamper

/-- Whether a report is taken for an attempt, be it a new one or one that is pending. -/
def Decision.isAttempt : Decision → Bool
  | .trigger _ | .debounced => true
  | _ => false

/-- Two of the answers take a report for an attempt. -/
theorem Decision.isAttempt_iff {d : Decision} :
    d.isAttempt = true ↔ (∃ attempt, d = .trigger attempt) ∨ d = .debounced := by
  cases d <;> simp [isAttempt]

/-- A page that is there is taken for an attempt if one is pending, or if all three other facts
speak for it. -/
theorem Verdict.isAttempt {pending targeted live gate : Prop} {n : Navigation} {now : Nat}
    {d : Decision} (h : Verdict pending targeted live gate n now d) :
    d.isAttempt = true ↔ n.foregrounded = true ∧ (pending ∨ targeted ∧ live ∧ gate) := by
  rw [Decision.isAttempt_iff, h.debounced]
  constructor
  · rintro (⟨attempt, hd⟩ | ⟨hin, hpending⟩)
    · obtain ⟨hin, -, htargeted, hlive, hgate, -⟩ := (h.trigger attempt).1 hd
      exact ⟨hin, .inr ⟨htargeted, hlive, hgate⟩⟩
    · exact ⟨hin, .inl hpending⟩
  · rintro ⟨hin, hattempt⟩
    -- What is pending already is not taken for a new attempt, so the two cases exclude each other.
    by_cases hpending : pending
    · exact .inr ⟨hin, hpending⟩
    · obtain ⟨htargeted, hlive, hgate⟩ := hattempt.resolve_left hpending
      exact .inl ⟨_, (h.trigger _).2 ⟨hin, hpending, htargeted, hlive, hgate, rfl⟩⟩

/-- A report settles whether an attempt of its category is pending, and of no other. -/
theorem isTriggered_decide_iff (t : Tamper) (b : Bypass) (host : Host) (n : Navigation)
    (c : Category) :
    (t.decide b host n).state.1.isTriggered c =
      if n.category = c then (t.decide b host n).answer.isAttempt else t.isTriggered c := by
  have hverdict := t.decide_verdict b host n
  rw [Bool.eq_iff_iff, isTriggered_decide]
  -- For its own category the four facts decide, which are those of the answer.
  by_cases hc : n.category = c
  · subst hc
    rw [if_pos rfl, Decision.isAttempt_iff, hverdict.debounced]
    simp
  · simp [hc]

end Tamper

namespace Engine

variable {e e' : Engine} {host : Host} {n : Navigation} {c : Category}

/-- A running engine takes a report for an attempt if its page is there and an attempt is pending,
or if the page is about the protected app, live and not let through. -/
theorem isAttempt_navigate (hs : e.stopped = false) :
    (e.navigate host n).answer.isAttempt = true ↔
      n.foregrounded = true ∧ (e.isTriggered n.category = true ∨
        e.tamper.policy.resolve n.category (host.targeting n) = true ∧
          Tamper.Live host n.category ∧ e.bypass.enabled = true ∧
          ¬ e.bypass.IsOpenThroughout host.clock) := by
  rw [navigate_answer hs, (Tamper.decide_verdict ..).isAttempt, Bypass.isOpen_polled,
    Bypass.poll_enabled]
  rfl

/-- After a report to a running engine, an attempt of its category is pending exactly if it was
taken for one. -/
theorem isTriggered_navigate (hs : e.stopped = false) :
    (e.navigate host n).state.isTriggered c =
      if n.category = c then (e.navigate host n).answer.isAttempt else e.isTriggered c := by
  rw [isTriggered, navigate_tamper hs, navigate_answer hs]
  exact Tamper.isTriggered_decide_iff ..

end Engine

/-! ### The same, but for policies -/

/-- Whether settings ask for the same with a stricter policy. -/
def Settings.Stricter (s s' : Settings) : Prop :=
  ∃ failClosed, s' = { s with failClosed } ∧ s.failClosed ⊆ failClosed

theorem Settings.Stricter.refl (s : Settings) : s.Stricter s :=
  ⟨s.failClosed, rfl, List.Subset.refl _⟩

/-- A stricter policy takes more pages for pages about the protected app. -/
theorem Policy.resolve_mono {p p' : Policy} (h : p.failClosed ⊆ p'.failClosed) {c : Category}
    {targeting : Targeting} (hp : p.resolve c targeting = true) :
    p'.resolve c targeting = true := by
  cases targeting with
  | targeted => rfl
  | notTargeted => cases hp
  | unknown => exact List.contains_iff_mem.2 (h (List.contains_iff_mem.1 hp))

namespace Engine

/-- Whether two calls are the same, but for the policies of settings. -/
inductive Call.Stricter : Call → Call → Prop
  | same (call : Call) : Stricter call call
  | reload {s s' : Settings} (h : s.Stricter s') : Stricter (.reload s) (.reload s')

/-- Whether two inputs are the same, but for the policies of settings. -/
structure Input.Stricter (i i' : Input) : Prop where
  host : i'.host = i.host
  call : i.call.Stricter i'.call

/-- Whether values are the same but for a stricter policy. -/
def Values.Stricter (v v' : Values) : Prop :=
  ∃ policy : Policy, v' = { v with policy } ∧ v.policy.failClosed ⊆ policy.failClosed

/-- Settings that are the same but for policies give values that are the same but for policies. -/
theorem Values.stricter_ofSettings {s s' : Settings} (h : s.Stricter s') :
    (ofSettings s).Stricter (ofSettings s') := by
  obtain ⟨failClosed, rfl, hsub⟩ := h
  refine ⟨.ofList failClosed, rfl, fun c hc => ?_⟩
  exact Category.mem_inOrder.2 (hsub (Category.mem_inOrder.1 hc))

/-- Calls that are the same but for policies leave values that are the same but for policies. -/
theorem Values.Stricter.after {v v' : Values} {call call' : Call} (h : v.Stricter v')
    (hcall : call.Stricter call') : (v.after call).Stricter (v'.after call') := by
  cases hcall with
  | reload hs => exact stricter_ofSettings hs
  | same =>
    obtain ⟨policy, rfl, hsub⟩ := h
    -- Apart from a reload no call sets a policy, and what it does with the other values is the same
    -- for both.
    cases call with
    | reload s => exact ⟨_, rfl, List.Subset.refl _⟩
    | unprotect app =>
      by_cases hin : v.protectedApps.contains app = true
      · simp only [Values.after, if_pos hin]
        exact ⟨policy, rfl, hsub⟩
      · simp only [Values.after, if_neg hin]
        exact ⟨policy, rfl, hsub⟩
    | _ => exact ⟨policy, rfl, hsub⟩

/-! ### Two engines -/

/-- Whether two engines agree on all that decides about a page, but for a stricter policy and for
more attempts that are pending. -/
structure Stricter (e e' : Engine) : Prop where
  stopped : e'.stopped = e.stopped
  values : e.values.Stricter e'.values
  completion : e'.bypass.stored.completion = e.bypass.stored.completion
  triggered : ∀ c, e.isTriggered c = true → e'.isTriggered c = true

/-- Two new engines agree on everything but their policies. -/
theorem stricter_start {s s' : Settings} (h : s.Stricter s') (stored : Persisted) :
    (start s stored).Stricter (start s' stored) where
  stopped := rfl
  values := Values.stricter_ofSettings h
  completion := rfl
  triggered _ hc := by cases hc

namespace Stricter

variable {e e' : Engine} {i i' : Input} {host : Host} {n : Navigation} {c : Category} {now : Nat}

/-- Both engines block attempts, or neither does. -/
theorem enabled (h : e.Stricter e') : e'.bypass.enabled = e.bypass.enabled := by
  obtain ⟨policy, hvalues, -⟩ := h.values
  exact congrArg Values.tamperEnabled hvalues

/-- The window is equally long for both. -/
theorem duration (h : e.Stricter e') : e'.bypass.duration = e.bypass.duration := by
  obtain ⟨policy, hvalues, -⟩ := h.values
  exact congrArg Values.bypassDuration hvalues

/-- The policy of the second engine counts all that the first one's counts. -/
theorem policy (h : e.Stricter e') :
    e.tamper.policy.failClosed ⊆ e'.tamper.policy.failClosed := by
  obtain ⟨policy, hvalues, hsub⟩ := h.values
  have hpolicy : e'.tamper.policy = policy := congrArg Values.policy hvalues
  rw [hpolicy]
  exact hsub

/-- The window is the same. -/
theorem isOpen (h : e.Stricter e') : e'.bypass.IsOpen now ↔ e.bypass.IsOpen now := by
  unfold Bypass.IsOpen
  rw [h.completion, h.duration]

/-- A reading leaves the same challenge on record. -/
theorem poll_completion (h : e.Stricter e') :
    (e'.bypass.poll now).state.stored.completion = (e.bypass.poll now).state.stored.completion := by
  by_cases hopen : e.bypass.IsOpen now
  · rw [Bypass.poll_state_of_isOpen hopen, Bypass.poll_state_of_isOpen (h.isOpen.2 hopen)]
    exact h.completion
  · rw [Bypass.poll_state_of_not_isOpen hopen,
      Bypass.poll_state_of_not_isOpen (mt h.isOpen.1 hopen)]
    rfl

/-- What one engine takes for an attempt, the other one takes for an attempt too. -/
theorem isAttempt (h : e.Stricter e') (hattempt : (e.navigate host n).answer.isAttempt = true) :
    (e'.navigate host n).answer.isAttempt = true := by
  cases hs : e.stopped with
  | true =>
    rw [navigate_stopped hs] at hattempt
    cases hattempt
  | false =>
    rw [isAttempt_navigate hs] at hattempt
    rw [isAttempt_navigate (h.stopped.trans hs), h.enabled, Bypass.IsOpenThroughout, h.isOpen,
      h.isOpen]
    -- Pending in one is pending in the other, and a page that counts for one counts for the other.
    obtain ⟨hin, hpending | ⟨htargeted, hrest⟩⟩ := hattempt
    · exact ⟨hin, .inl (h.triggered _ hpending)⟩
    · exact ⟨hin, .inr ⟨Policy.resolve_mono h.policy htargeted, hrest⟩⟩

/-- After the same report, what is pending in the first engine is pending in the second. -/
theorem triggered_navigate (h : e.Stricter e')
    (hc : (e.navigate host n).state.isTriggered c = true) :
    (e'.navigate host n).state.isTriggered c = true := by
  cases hs : e.stopped with
  | true =>
    rw [navigate_stopped hs] at hc
    rw [navigate_stopped (h.stopped.trans hs)]
    exact h.triggered c hc
  | false =>
    rw [isTriggered_navigate hs] at hc
    rw [isTriggered_navigate (h.stopped.trans hs)]
    -- A report settles its own category in both engines and leaves the others as they were.
    by_cases hcategory : n.category = c
    · rw [if_pos hcategory] at hc ⊢
      exact h.isAttempt hc
    · rw [if_neg hcategory] at hc ⊢
      exact h.triggered c hc

/-- The engines stop together. -/
theorem stopped_step (h : e.Stricter e') (hcall : i.call.Stricter i'.call) :
    (e'.step i').state.stopped = (e.step i).state.stopped := by
  have hend : i'.call = .shutdown ↔ i.call = .shutdown := by
    generalize i.call = call, i'.call = call' at hcall
    cases hcall with
    | same => rfl
    | reload => simp
  rw [Bool.eq_iff_iff, Engine.stopped_step, Engine.stopped_step, h.stopped, hend]

/-- Settings that are the same but for policies switch the same off. -/
theorem losesTamper {s s' : Settings} (h : e.Stricter e') (hs : s.Stricter s') :
    e'.losesTamper s' = e.losesTamper s := by
  obtain ⟨failClosed, rfl, -⟩ := hs
  rw [Engine.losesTamper, Engine.losesTamper, h.enabled]

/-- A reload leaves the same challenge on record. -/
theorem completion_reload {s s' : Settings} (h : e.Stricter e') (hs : s.Stricter s') :
    e'.completionAfter ⟨host, .reload s'⟩ = e.completionAfter ⟨host, .reload s⟩ := by
  dsimp only [completionAfter]
  rw [h.losesTamper hs, h.completion]

/-- For both engines, the window runs out between the same readings. -/
theorem runsOutBetween (h : e.Stricter e') (hi : i.Stricter i') :
    (Moment.mk e' i').RunsOutBetween ↔ (Moment.mk e i).RunsOutBetween := by
  obtain ⟨host, call⟩ := i
  obtain ⟨host', call'⟩ := i'
  obtain ⟨rfl, hcall⟩ := hi
  have hasks : e'.asksGate call' = e.asksGate call := by
    cases hcall with
    | reload => rfl
    | same =>
      cases call
      case navigate n => exact congrArg Bool.not h.stopped
      all_goals rfl
  exact and_congr (by rw [hasks]) (and_congr h.isOpen (not_congr h.isOpen))

/-- After the same call, the same challenge is on record in both engines. -/
theorem completion_step (h : e.Stricter e') (hi : i.Stricter i')
    (hbetween : ¬ (Moment.mk e i).RunsOutBetween) :
    (e'.step i').state.bypass.stored.completion = (e.step i).state.bypass.stored.completion := by
  rw [Engine.completion_step hbetween, Engine.completion_step (mt (h.runsOutBetween hi).1 hbetween)]
  obtain ⟨host, call⟩ := i
  obtain ⟨host', call'⟩ := i'
  obtain ⟨rfl, hcall⟩ := hi
  cases hcall with
  | reload hs => exact h.completion_reload hs
  | same =>
    -- Reading a window that has run out forgets it, so both engines have to read at the same calls.
    have hreads : e'.reads call = e.reads call := by
      cases call
      case navigate n => exact congrArg Bool.not h.stopped
      all_goals rfl
    cases call
    case complete | clearBypass => rfl
    case setTamper on =>
      cases on with
      | true => exact h.completion
      | false => rfl
    case reload s => exact h.completion_reload (.refl s)
    all_goals
      dsimp only [completionAfter]
      rw [hreads, h.poll_completion, h.completion]

/-- After reloads that differ in policies only, what is pending in the first engine is pending in
the second. -/
theorem triggered_reload {s s' : Settings} (h : e.Stricter e') (hs : s.Stricter s')
    (hc : (e.reload s).state.isTriggered c = true) :
    (e'.reload s').state.isTriggered c = true := by
  unfold isTriggered Tamper.isTriggered at hc ⊢
  rw [reload_triggered] at hc ⊢
  rw [h.losesTamper hs]
  cases hloses : e.losesTamper s with
  | true =>
    rw [hloses] at hc
    cases hc
  | false =>
    rw [hloses] at hc
    exact h.triggered c hc

/-- After the same call, what is pending in the first engine is pending in the second. -/
theorem triggered_step (h : e.Stricter e') (hi : i.Stricter i')
    (hc : (e.step i).state.isTriggered c = true) : (e'.step i').state.isTriggered c = true := by
  obtain ⟨host, call⟩ := i
  obtain ⟨host', call'⟩ := i'
  obtain ⟨rfl, hcall⟩ := hi
  cases hcall with
  | reload hs => exact h.triggered_reload hs hc
  | same =>
    cases call
    case navigate n => exact h.triggered_navigate hc
    case reload s => exact h.triggered_reload (.refl s) hc
    all_goals
      unfold isTriggered Tamper.isTriggered at hc ⊢
      rw [Engine.triggered_step] at hc ⊢
    case setTamper on =>
      cases on with
      | true => exact h.triggered c hc
      | false => cases hc
    -- Of the other calls only the end forgets attempts, and it does so in both engines.
    case shutdown =>
      cases hs : e.stopped with
      | true =>
        simp only [triggeredAfter, hs, h.stopped.trans hs, if_true] at hc ⊢
        exact h.triggered c hc
      | false =>
        simp only [triggeredAfter, hs] at hc
        cases hc
    all_goals exact h.triggered c hc

/-- Each call keeps the one engine as strict as the other, at least. -/
theorem step (h : e.Stricter e') (hi : i.Stricter i')
    (hbetween : ¬ (Moment.mk e i).RunsOutBetween) :
    (e.step i).state.Stricter (e'.step i').state where
  stopped := h.stopped_step hi.call
  values := by
    rw [values_step, values_step]
    exact h.values.after hi.call
  completion := h.completion_step hi hbetween
  triggered _ hc := h.triggered_step hi hc

/-- Over a whole run the second engine stays as strict as the first. -/
theorem run {inputs inputs' : List Input} (h : e.Stricter e')
    (hi : List.Forall₂ Input.Stricter inputs inputs')
    (hbetween : ∀ m ∈ e.history inputs, ¬ m.RunsOutBetween) :
    (e.run inputs).Stricter (e'.run inputs') := by
  -- On the two runs, call by call; no call may have the window run out between its readings.
  induction hi generalizing e e' with
  | nil => exact h
  | cons hi _ ih =>
    obtain ⟨hfirst, hrest⟩ := List.forall_mem_cons.1 hbetween
    exact ih (h.step hi hfirst) hrest

end Stricter

/-- **A stricter policy never lets more through.** Let two engines go through the same run, except
that at the start and with each reload the policy of the second one counts at least the categories
of the first one's.  Then after the run the second one has an attempt pending in each category in
which the first one has, and it takes every report for an attempt that the first one takes for one.

The clock may jump between the calls as it likes.  What must not happen in the run is that the
window runs out while a report is handled, between its two readings of the clock: it never does
where the clock stands still during a call (`Moment.not_runsOutBetween_of_still`). -/
theorem stricter_run (s s' : Settings) (stored : Persisted) (inputs inputs' : List Input)
    (hs : s.Stricter s') (hi : List.Forall₂ Input.Stricter inputs inputs')
    (hbetween : ∀ m ∈ (start s stored).history inputs, ¬ m.RunsOutBetween) :
    let e := (start s stored).run inputs
    let e' := (start s' stored).run inputs'
    (∀ c, e.isTriggered c = true → e'.isTriggered c = true) ∧
    ∀ host n, (e.navigate host n).answer.isAttempt = true →
      (e'.navigate host n).answer.isAttempt = true := by
  intro e e'
  have h : e.Stricter e' := (stricter_start hs stored).run hi hbetween
  exact ⟨h.triggered, fun host n => h.isAttempt⟩

/-- A page that nobody can tell about is let through by one policy and blocked by the other, and
then both know that a page of its category is an attempt. -/
theorem stricter_run_unknown :
    let strict : Settings := {}
    let lax : Settings := { strict with failClosed := [] }
    let page : Navigation := .entering .appInfo .usageHistory
    let sure : Host := { silentHost 5 with targeting := fun _ => .targeted }
    let inputs : List Input := [⟨silentHost 0, .navigate page⟩, ⟨silentHost 1, .reload lax⟩]
    let inputs' : List Input := [⟨silentHost 0, .navigate page⟩, ⟨silentHost 1, .reload strict⟩]
    let e := (start lax .empty).run inputs
    let e' := (start strict .empty).run inputs'
    lax.Stricter strict ∧ List.Forall₂ Input.Stricter inputs inputs' ∧
      (∀ m ∈ (start lax .empty).history inputs, ¬ m.RunsOutBetween) ∧
      e.isTriggered .appInfo = false ∧ e'.isTriggered .appInfo = true ∧
      (e.navigate sure page).answer = .trigger ⟨.appInfo, true, 5⟩ ∧
      (e'.navigate sure page).answer.isAttempt = true := by
  intro strict lax page sure inputs inputs' e e'
  have hs : lax.Stricter strict := ⟨Category.all, rfl, List.nil_subset _⟩
  have hi : List.Forall₂ Input.Stricter inputs inputs' :=
    .cons ⟨rfl, .same _⟩ (.cons ⟨rfl, .reload hs⟩ .nil)
  have hbetween : ∀ m ∈ (start lax .empty).history inputs, ¬ m.RunsOutBetween :=
    List.forall_mem_cons.2 ⟨Moment.not_runsOutBetween_of_still rfl,
      List.forall_mem_singleton.2 (Moment.not_runsOutBetween_of_still rfl)⟩
  have hattempt : (e.navigate sure page).answer = .trigger ⟨.appInfo, true, 5⟩ := rfl
  refine ⟨hs, hi, hbetween, rfl, rfl, hattempt, ?_⟩
  refine (stricter_run lax strict .empty inputs inputs' hs hi hbetween).2 sure page ?_
  rw [hattempt]
  rfl

/-- Without that, the stricter policy may let more through: it takes a report for one that is
pending, while the other one asks for the gate and forgets a window that runs out at that moment.
When the clock goes back, only the stricter one still knows of the window. -/
theorem stricter_run_window :
    let strict : Settings := {}
    let lax : Settings := { strict with failClosed := [] }
    let page : Navigation := .entering .appInfo .usageHistory
    let other : Navigation := .entering .deviceAdminSettings .usageHistory
    let sure (clock : Clock) : Host :=
      { silentHost 0 with
        clock
        capability := fun _ => some true
        targeting := fun _ => .targeted }
    let back : Nat := 299999
    let inputs : List Input := [⟨silentHost 0, .navigate page⟩, ⟨silentHost 0, .complete⟩,
      ⟨sure ⟨299999, 300000⟩, .navigate page⟩]
    lax.Stricter strict ∧
      (((start lax .empty).run inputs).navigate (sure back) other).answer.isAttempt = true ∧
      (((start strict .empty).run inputs).navigate (sure back) other).answer.isAttempt = false := by
  intro strict lax page other sure back inputs
  exact ⟨⟨Category.all, rfl, List.nil_subset _⟩, rfl, rfl⟩

end Engine

end Warden
