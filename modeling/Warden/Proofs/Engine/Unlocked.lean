import Mathlib.Data.List.Chain
import Mathlib.Data.List.Induction
import Warden.Proofs.Engine.Run
import Warden.Proofs.Sessions

namespace Warden.Engine

/-!
# Who is unlocked

Whether an app counts as unlocked is a matter of what has happened: its PIN was entered, nothing has
ended that since, and it was never out of sight for as long as the timeout.  Entries that are over
but still in the table, or already swept, make no difference.

* `Moment.grants`, `Moment.ends`, `Moment.observes` — what a moment of the history means for an app.
* `Unlocked timeout h app t` — the statement above, over the history `h`.
* `isOpen_run` — after any run, the open sessions are those of the apps that are unlocked.
* `isUnlocked_iff` — so the engine answers what the history says.
-/

variable {e : Engine} {i : Input} {m : Moment} {h : List Moment} {app : String} {timeout t : Nat}

/-! ### What a moment means for an app -/

/-- Whether the PIN of an app is entered while the engine runs. -/
def Moment.grants (m : Moment) (app : String) : Bool :=
  match m.input.call with
  | .grant a => a == app && !m.engine.stopped
  | _ => false

/-- Whether whatever session an app has is ended. -/
def Moment.ends (m : Moment) (app : String) : Bool :=
  match m.input.call with
  | .revoke a => a == app
  | .unprotect a => a == app && m.engine.isProtected app
  | .setProtected apps => !apps.contains app
  | .reload s => !s.protectedApps.contains app || m.engine.losesAppLock s
  | .setAppLock on => !on
  | .screenOff => m.engine.relockOnScreenOff
  | .shutdown => true
  | _ => false

/-- Whether an app is seen, which keeps an open session open. -/
def Moment.observes (m : Moment) (app : String) : Bool :=
  match m.input.call with
  | .touch a => a == app
  | .isUnlocked a => a == app
  | .foreground a foregrounded => a == app && m.engine.consults a foregrounded
  | _ => false

/-- Whether an app that is seen at `start` and observed in later moments is never out of sight for a
timeout until `t`. -/
def SeenThrough (timeout start : Nat) (after : List Moment) (app : String) (t : Nat) : Prop :=
  (start :: ((after.filter fun m => m.observes app).map Moment.now ++ [t])).IsChain
    fun seen next => next - seen < timeout

/-- Whether an app is unlocked at a time: its PIN was entered for the last time at some moment, none
of the later moments has ended that, and it has been seen through until that time. -/
def Unlocked (timeout : Nat) (h : List Moment) (app : String) (t : Nat) : Prop :=
  ∃ before grant after, h = before ++ grant :: after ∧ grant.grants app = true ∧
    (∀ m ∈ after, m.grants app = false ∧ m.ends app = false) ∧
    SeenThrough timeout grant.now after app t

/-! ### One more moment -/

/-- Without a moment after the first sight, there is one span to measure. -/
theorem seenThrough_nil {start : Nat} :
    SeenThrough timeout start [] app t ↔ t - start < timeout := by
  unfold SeenThrough
  exact List.isChain_pair

/-- One more moment cuts the last span in two if it sees the app, and does nothing otherwise. -/
theorem seenThrough_concat {start : Nat} {after : List Moment} :
    SeenThrough timeout start (after ++ [m]) app t ↔
      if m.observes app then SeenThrough timeout start after app m.now ∧ t - m.now < timeout
      else SeenThrough timeout start after app t := by
  unfold SeenThrough
  rw [List.filter_append, List.map_append, List.append_assoc]
  cases hobs : m.observes app with
  | true =>
    have hlast : [m].filter (fun m => m.observes app) = [m] := by simp [hobs]
    rw [hlast, List.map_singleton, List.singleton_append, ← List.cons_append,
      List.isChain_append_cons_cons]
    simp
  | false => simp [hobs]

/-- Nobody is unlocked before anything has happened. -/
theorem not_unlocked_nil : ¬ Unlocked timeout [] app t := by
  rintro ⟨before, grant, after, hsplit, -⟩
  cases before <;> cases hsplit

/-- A grant is the last one, and nothing counts but the time since. -/
theorem unlocked_of_grants (hg : m.grants app = true) :
    Unlocked timeout (h ++ [m]) app t ↔ t - m.now < timeout := by
  rw [← show SeenThrough timeout m.now [] app t ↔ t - m.now < timeout from seenThrough_nil]
  constructor
  · rintro ⟨before, grant, after, hsplit, -, hafter, hseen⟩
    rcases concat_eq_split.1 hsplit with ⟨rfl, -, rfl⟩ | ⟨rest, rfl, -⟩
    · exact hseen
    · -- The last moment would come after the last grant, and it is a grant itself.
      have hnot : m.grants app = false := (hafter m (by simp)).1
      rw [hg] at hnot
      cases hnot
  · intro hseen
    exact ⟨h, m, [], rfl, hg, by simp, hseen⟩

/-- A moment that is no grant must not end the session, and if it sees the app, it cuts the time in
two. -/
theorem unlocked_of_not_grants (hg : m.grants app = false) :
    Unlocked timeout (h ++ [m]) app t ↔ m.ends app = false ∧
      if m.observes app then Unlocked timeout h app m.now ∧ t - m.now < timeout
      else Unlocked timeout h app t := by
  constructor
  · rintro ⟨before, grant, after, hsplit, hgrant, hafter, hseen⟩
    rcases concat_eq_split.1 hsplit with ⟨-, -, rfl⟩ | ⟨rest, rfl, hh⟩
    · rw [hg] at hgrant
      cases hgrant
    · have hkeep : ∀ x ∈ rest, x.grants app = false ∧ x.ends app = false :=
        fun x hx => hafter x (List.mem_append_left _ hx)
      refine ⟨(hafter m (by simp)).2, ?_⟩
      rw [seenThrough_concat] at hseen
      by_cases hobs : m.observes app = true
      · rw [if_pos hobs] at hseen ⊢
        exact ⟨⟨before, grant, rest, hh, hgrant, hkeep, hseen.1⟩, hseen.2⟩
      · rw [if_neg hobs] at hseen ⊢
        exact ⟨before, grant, rest, hh, hgrant, hkeep, hseen⟩
  · rintro ⟨hends, hrest⟩
    have hextend {before grant after} (hh : h = before ++ grant :: after)
        (hgrant : grant.grants app = true)
        (hkeep : ∀ x ∈ after, x.grants app = false ∧ x.ends app = false)
        (hseen : SeenThrough timeout grant.now (after ++ [m]) app t) :
        Unlocked timeout (h ++ [m]) app t := by
      refine ⟨before, grant, after ++ [m], concat_eq_split.2 (.inr ⟨after, rfl, hh⟩), hgrant, ?_,
        hseen⟩
      intro x hx
      rcases List.mem_append.1 hx with hx | hx
      · exact hkeep x hx
      · rw [List.mem_singleton.1 hx]
        exact ⟨hg, hends⟩
    split at hrest
    next hobs =>
      obtain ⟨⟨before, grant, after, hh, hgrant, hkeep, hseen⟩, ht⟩ := hrest
      refine hextend hh hgrant hkeep ?_
      rw [seenThrough_concat, if_pos hobs]
      exact ⟨hseen, ht⟩
    next hobs =>
      obtain ⟨before, grant, after, hh, hgrant, hkeep, hseen⟩ := hrest
      refine hextend hh hgrant hkeep ?_
      rw [seenThrough_concat, if_neg hobs]
      exact hseen

/-! ### One call -/

/-- A stopped engine without sessions gets none. -/
theorem sessionsAfter_of_stopped (hs : e.stopped = true) (htable : e.sessions.table = .empty) :
    (e.sessionsAfter i).table = .empty := by
  obtain ⟨host, call⟩ := i
  have hkeep (p : String → Session → Bool) : (e.sessions.keep p).1.table = .empty :=
    Sessions.keep_of_empty htable
  cases call
  case unprotect app =>
    simp only [sessionsAfter]
    split
    · exact hkeep _
    · exact htable
  case setAppLock on => cases on <;> first | rfl | exact htable
  case foreground | isUnlocked =>
    simpa [sessionsAfter, consults, hs, Sessions.check_of_empty htable] using htable
  case touch | grant | shutdown => simpa [sessionsAfter, hs] using htable
  case screenOff =>
    simp only [sessionsAfter]
    split
    · rfl
    · exact htable
  case reload s =>
    simp only [sessionsAfter]
    split
    · rfl
    · exact (hkeep fun a _ => s.protectedApps.contains a)
  case setProtected | revoke | sweep => exact hkeep _
  all_goals exact htable

/-- Once the engine has stopped, there are no sessions any more. -/
theorem table_step_of_stopped (hidle : e.stopped = true → e.sessions.table = .empty)
    (hstop : (e.step i).state.stopped = true) : (e.step i).state.sessions.table = .empty := by
  rw [sessions_step]
  cases hs : e.stopped with
  | true => exact sessionsAfter_of_stopped hs (hidle hs)
  | false =>
    rw [stopped_step, hs] at hstop
    have hcall : i.call = .shutdown := hstop.resolve_left Bool.false_ne_true
    simp only [sessionsAfter, hcall, hs]
    rfl

/-- A reload that keeps the timeout. -/
theorem sessionsAfter_reload {host : Host} {s : Settings}
    (ht : s.sessionTimeout.word = e.sessions.timeout) :
    e.sessionsAfter ⟨host, .reload s⟩ =
      if e.losesAppLock s then e.sessions.clear.1
      else (e.sessions.retain s.protectedApps.contains).1 := by
  have hsame : (e.sessions.retain s.protectedApps.contains).1.setTimeout s.sessionTimeout =
      (e.sessions.retain s.protectedApps.contains).1 := Sessions.setTimeout_eq_self ht
  simp only [sessionsAfter, hsame]
  rfl

/-- A grant opens the session for as long as the timeout, whatever was there before. -/
theorem isOpen_of_grants (hg : (Moment.mk e i).grants app = true) :
    (e.sessionsAfter i).IsOpen app t ↔ t - i.now < e.sessions.timeout := by
  obtain ⟨host, call⟩ := i
  cases call
  case grant a =>
    simp only [Moment.grants, Bool.and_eq_true, beq_iff_eq, Bool.not_eq_true'] at hg
    obtain ⟨rfl, hs⟩ := hg
    simp only [sessionsAfter, hs, Bool.false_eq_true, if_false]
    exact Sessions.isOpen_grant_self
  all_goals cases hg

/-- Whatever ends a session leaves none that is open at any time. -/
theorem not_isOpen_of_ends (hidle : e.stopped = true → e.sessions.table = .empty)
    (ht : ∀ s, i.call = .reload s → s.sessionTimeout.word = e.sessions.timeout)
    (hends : (Moment.mk e i).ends app = true) : ¬ (e.sessionsAfter i).IsOpen app t := by
  obtain ⟨host, call⟩ := i
  -- One case for each kind of call that ends a session; the others end none.
  cases call
  case revoke a =>
    cases beq_iff_eq.1 hends
    exact fun ho => (Sessions.isOpen_revoke.1 ho).1 rfl
  case unprotect a =>
    simp only [Moment.ends, Bool.and_eq_true, beq_iff_eq] at hends
    obtain ⟨rfl, hprot⟩ := hends
    simp only [sessionsAfter, hprot, if_true]
    exact fun ho => (Sessions.isOpen_revoke.1 ho).1 rfl
  case setProtected apps =>
    simp only [Moment.ends, Bool.not_eq_true'] at hends
    intro ho
    have hkept : apps.contains app = true := (Sessions.isOpen_retain.1 ho).1
    rw [hends] at hkept
    cases hkept
  case reload s =>
    rw [sessionsAfter_reload (ht s rfl)]
    simp only [Moment.ends, Bool.or_eq_true, Bool.not_eq_true'] at hends
    split
    · exact Sessions.not_isOpen_clear
    next hon =>
      intro ho
      have hkept : s.protectedApps.contains app = true := (Sessions.isOpen_retain.1 ho).1
      rw [hends.resolve_right hon] at hkept
      cases hkept
  case setAppLock on =>
    simp only [Moment.ends, Bool.not_eq_true'] at hends
    subst hends
    exact Sessions.not_isOpen_clear
  case screenOff =>
    have hrelock : e.relockOnScreenOff = true := hends
    simp only [sessionsAfter, hrelock, if_true]
    exact Sessions.not_isOpen_clear
  case shutdown =>
    simp only [sessionsAfter]
    split
    next hs => exact Sessions.not_isOpen (by rw [hidle hs]; rfl)
    · exact Sessions.not_isOpen_clear
  all_goals cases hends

/-- An observation that finds the session open moves its beginning to the present; one that comes
too late takes it away. -/
theorem isOpen_of_observes (hidle : e.stopped = true → e.sessions.table = .empty)
    (hobs : (Moment.mk e i).observes app = true) :
    (e.sessionsAfter i).IsOpen app t ↔
      e.sessions.IsOpen app i.now ∧ t - i.now < e.sessions.timeout := by
  obtain ⟨host, call⟩ := i
  cases call
  case touch a =>
    cases beq_iff_eq.1 hobs
    simp only [sessionsAfter]
    split
    next hs =>
      have hnone (t : Nat) : ¬ e.sessions.IsOpen app t :=
        Sessions.not_isOpen (by rw [hidle hs]; rfl)
      exact iff_of_false (hnone t) fun ho => hnone _ ho.1
    · exact Sessions.isOpen_check_self
  case isUnlocked a =>
    cases beq_iff_eq.1 hobs
    exact Sessions.isOpen_check_self
  case foreground a foregrounded =>
    simp only [Moment.observes, Bool.and_eq_true, beq_iff_eq] at hobs
    obtain ⟨rfl, hconsults⟩ := hobs
    simp only [sessionsAfter, hconsults, if_true]
    exact Sessions.isOpen_check_self
  all_goals cases hobs

/-- All other calls leave the question as it was; a sweep takes away only what is over by then. -/
theorem isOpen_of_other (hclock : i.now ≤ t)
    (ht : ∀ s, i.call = .reload s → s.sessionTimeout.word = e.sessions.timeout)
    (hg : (Moment.mk e i).grants app = false) (hends : (Moment.mk e i).ends app = false)
    (hobs : (Moment.mk e i).observes app = false) :
    (e.sessionsAfter i).IsOpen app t ↔ e.sessions.IsOpen app t := by
  obtain ⟨host, call⟩ := i
  -- The calls that could touch a session are either about another app or do nothing as things
  -- stand.
  cases call
  case unprotect a =>
    simp only [sessionsAfter]
    split
    next hprot =>
      have hne : app ≠ a := by
        rintro rfl
        simp [Moment.ends, hprot] at hends
      rw [Sessions.isOpen_revoke, and_iff_right hne]
    · rfl
  case revoke a =>
    have hne : app ≠ a := fun h => by simp [Moment.ends, h] at hends
    exact Sessions.isOpen_revoke.trans (and_iff_right hne)
  case setProtected apps =>
    simp only [Moment.ends, Bool.not_eq_false'] at hends
    exact Sessions.isOpen_retain.trans (and_iff_right hends)
  case reload s =>
    simp only [Moment.ends, Bool.or_eq_false_iff, Bool.not_eq_false'] at hends
    rw [sessionsAfter_reload (ht s rfl), hends.2, if_neg Bool.false_ne_true]
    exact Sessions.isOpen_retain.trans (and_iff_right hends.1)
  case setAppLock on =>
    simp only [Moment.ends, Bool.not_eq_false'] at hends
    subst hends
    rfl
  case foreground a foregrounded =>
    simp only [sessionsAfter]
    split
    next hconsults =>
      have hne : app ≠ a := fun h => by simp [Moment.observes, h, hconsults] at hobs
      exact Sessions.isOpen_check_of_ne hne
    · rfl
  case touch a =>
    have hne : app ≠ a := fun h => by simp [Moment.observes, h] at hobs
    simp only [sessionsAfter]
    split
    · rfl
    · exact Sessions.isOpen_check_of_ne hne
  case isUnlocked a =>
    have hne : app ≠ a := fun h => by simp [Moment.observes, h] at hobs
    exact Sessions.isOpen_check_of_ne hne
  case grant a =>
    simp only [sessionsAfter]
    split
    · rfl
    next hs =>
      have hne : app ≠ a := fun h => by simp [Moment.grants, h, hs] at hg
      exact Sessions.isOpen_grant_of_ne hne
  case screenOff =>
    have hrelock : e.relockOnScreenOff = false := hends
    simp only [sessionsAfter, hrelock, Bool.false_eq_true, if_false]
  case sweep => exact Sessions.isOpen_sweep hclock
  case shutdown => cases hends
  all_goals rfl

/-! ### Runs -/

/-- No call moves the timeout, as long as reloads bring the same one. -/
theorem timeout_sessionsAfter
    (ht : ∀ s, i.call = .reload s → s.sessionTimeout.word = e.sessions.timeout) :
    (e.sessionsAfter i).timeout = e.sessions.timeout := by
  obtain ⟨host, call⟩ := i
  cases call
  case reload s =>
    rw [sessionsAfter_reload (ht s rfl)]
    split <;> rfl
  case setAppLock on => cases on <;> rfl
  case foreground | touch =>
    simp only [sessionsAfter, Sessions.touch]
    split
    all_goals first | rfl | exact Sessions.check_timeout
  case isUnlocked => exact Sessions.check_timeout
  case unprotect | grant | screenOff | shutdown =>
    simp only [sessionsAfter]
    split <;> rfl
  all_goals rfl

variable {e₀ : Engine} {inputs : List Input}

/-- Whether the timeout stays what it is at the start. -/
def KeepTimeout (e₀ : Engine) (inputs : List Input) : Prop :=
  ∀ i ∈ inputs, ∀ s, i.call = .reload s → s.sessionTimeout.word = e₀.sessions.timeout

/-- So it is the same after every run. -/
theorem timeout_run (ht : KeepTimeout e₀ inputs) :
    (e₀.run inputs).sessions.timeout = e₀.sessions.timeout := by
  induction inputs using List.reverseRecOn with
  | nil => rfl
  | append_singleton inputs i ih =>
    have hbefore := ih fun j hj => ht j (List.mem_append_left _ hj)
    rw [run_concat, sessions_step, timeout_sessionsAfter, hbefore]
    rw [hbefore]
    exact ht i (by simp)

/-- An engine that has stopped on the way has no sessions in the end. -/
theorem table_run_of_stopped (hnone : e₀.sessions.table = .empty) :
    (e₀.run inputs).stopped = true → (e₀.run inputs).sessions.table = .empty := by
  induction inputs using List.reverseRecOn with
  | nil => exact fun _ => hnone
  | append_singleton inputs i ih =>
    rw [run_concat]
    exact table_step_of_stopped ih

/-- After any run, the open sessions are those of the apps that are unlocked, at every later
time. -/
theorem isOpen_run (hnone : e₀.sessions.table = .empty) (ht : KeepTimeout e₀ inputs)
    (hclock : (inputs.map Input.now).Pairwise (· ≤ ·)) (hnow : ∀ i ∈ inputs, i.now ≤ t) :
    (e₀.run inputs).sessions.IsOpen app t ↔
      Unlocked e₀.sessions.timeout (e₀.history inputs) app t := by
  -- Every step either sets the time that counts or hands the question on to an earlier time.
  induction inputs using List.reverseRecOn generalizing t with
  | nil =>
    exact iff_of_false (Sessions.not_isOpen (by rw [run_nil, hnone]; rfl)) not_unlocked_nil
  | append_singleton inputs i ih =>
    have htBefore : KeepTimeout e₀ inputs := fun j hj => ht j (List.mem_append_left _ hj)
    rw [List.map_append, List.pairwise_append] at hclock
    obtain ⟨hclock, -, hlast⟩ := hclock
    have hle : ∀ j ∈ inputs, j.now ≤ i.now :=
      fun j hj => hlast j.now (List.mem_map_of_mem hj) i.now (by simp)
    have hit : i.now ≤ t := hnow i (by simp)
    have hreload : ∀ s, i.call = .reload s →
        s.sessionTimeout.word = (e₀.run inputs).sessions.timeout := by
      rw [timeout_run htBefore]
      exact ht i (by simp)
    have hidle : (e₀.run inputs).stopped = true → (e₀.run inputs).sessions.table = .empty :=
      table_run_of_stopped hnone
    -- What went before is asked at one of two times: that of the last moment, or the one in
    -- question.
    have ihNow := ih htBefore hclock hle
    have ihLater : (e₀.run inputs).sessions.IsOpen app t ↔
        Unlocked e₀.sessions.timeout (e₀.history inputs) app t :=
      ih htBefore hclock fun j hj => (hle j hj).trans hit
    rw [run_concat, sessions_step, history_concat]
    cases hg : (Moment.mk (e₀.run inputs) i).grants app with
    | true => rw [isOpen_of_grants hg, unlocked_of_grants hg, timeout_run htBefore]; rfl
    | false =>
      rw [unlocked_of_not_grants hg]
      cases hends : (Moment.mk (e₀.run inputs) i).ends app with
      | true => exact iff_of_false (not_isOpen_of_ends hidle hreload hends) (by simp)
      | false =>
        rw [and_iff_right rfl]
        cases hobs : (Moment.mk (e₀.run inputs) i).observes app with
        | true =>
          rw [isOpen_of_observes hidle hobs, if_pos rfl, ihNow, timeout_run htBefore]
          rfl
        | false =>
          rw [isOpen_of_other hit hreload hg hends hobs, if_neg Bool.false_ne_true]
          exact ihLater

/-- **Who is unlocked.** In every run in which the clock never goes back and the timeout stays the
same, the engine answers that an app is unlocked exactly if the history says so. -/
theorem isUnlocked_iff (s : Settings) (stored : Persisted) (inputs : List Input) (host : Host)
    (app : String) (ht : KeepTimeout (start s stored) inputs)
    (hclock : (inputs.map Input.now ++ [host.now]).Pairwise (· ≤ ·)) :
    (((start s stored).run inputs).isUnlocked host app).answer = true ↔
      Unlocked s.sessionTimeout.word ((start s stored).history inputs) app host.now := by
  rw [List.pairwise_append] at hclock
  obtain ⟨hclock, -, hlast⟩ := hclock
  have hnow : ∀ i ∈ inputs, i.now ≤ host.now :=
    fun i hi => hlast i.now (List.mem_map_of_mem hi) host.now (by simp)
  exact Sessions.check_answer.trans (isOpen_run rfl ht hclock hnow)

/-- An app that was unlocked and seen once more stays unlocked until a full timeout later. -/
theorem isUnlocked_after_touch :
    let e₀ := start {} .empty
    let inputs : List Input :=
      [⟨silentHost 0, .grant "app.mail"⟩, ⟨silentHost 29000, .touch "app.mail"⟩]
    KeepTimeout e₀ inputs ∧ (inputs.map Input.now ++ [58999]).Pairwise (· ≤ ·) ∧
      Unlocked 30000 (e₀.history inputs) "app.mail" 58999 ∧
      ¬ Unlocked 30000 (e₀.history inputs) "app.mail" 59000 := by
  intro e₀ inputs
  have ht : KeepTimeout e₀ inputs := by
    intro i hi s hcall
    simp only [inputs, List.mem_cons, List.not_mem_nil, or_false] at hi
    rcases hi with rfl | rfl <;> cases hcall
  -- The engine is asked at both times, and its answers are read back as statements about the
  -- history.
  refine ⟨ht, by decide, ?_, ?_⟩
  · exact (isUnlocked_iff {} .empty inputs (silentHost 58999) "app.mail" ht (by decide)).1 rfl
  · intro hu
    exact Bool.false_ne_true
      ((isUnlocked_iff {} .empty inputs (silentHost 59000) "app.mail" ht (by decide)).2 hu)

end Warden.Engine
