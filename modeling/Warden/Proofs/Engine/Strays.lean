import Warden.Proofs.Engine.Dismissal
import Warden.Proofs.Engine.Expiry

namespace Warden.Engine

/-!
# Sessions of apps that are not locked

What ends the protection of an app ends its session too.  So all sessions are of apps that are
locked otherwise, unless the PIN of an app was entered that is not: such a session stays, and counts
once the app is locked.

* `Tidy e` — all sessions are of protected apps, and there are none while app lock is off.
* `Moment.Strays`, `Stray h app` — the PIN of an app is entered that is not locked.
* `contains_step`, `not_contains_of_ends` — when an entry appears and when it goes.
* `ends_of_rules` — what ends the protection of an app ends its session.
* `enforced_or_stray` — whose sessions there are.
* `tidy_until_stray` — so the sessions are tidy unless the PIN of an app is entered that is not
  locked, and whoever is locked anew has to enter a PIN, except with such a session.
-/

variable {e e₀ : Engine} {i : Input} {m : Moment} {h : List Moment} {app : String}
  {inputs : List Input}

/-! ### Entries -/

/-- An entry is made by entering the PIN of its app, and in no other way. -/
theorem contains_step (hgrant : (Moment.mk e i).grants app = false)
    (h : (e.step i).state.sessions.table.contains app = true) :
    e.sessions.table.contains app = true := by
  rw [sessions_step_eq_after] at h
  refine Sessions.contains_after (fun j hj => Bool.eq_false_iff.2 fun hj' => ?_) h
  rw [grants_of_sessionInputs hj hj'] at hgrant
  cases hgrant

/-- Nor is one made over a run without a PIN. -/
theorem contains_run (hgrant : ∀ m ∈ e.history inputs, m.grants app = false)
    (h : (e.run inputs).sessions.table.contains app = true) :
    e.sessions.table.contains app = true := by
  induction inputs generalizing e with
  | nil => exact h
  | cons i rest ih =>
    rw [history, List.forall_mem_cons] at hgrant
    exact contains_step hgrant.1 (ih hgrant.2 h)

/-- The PIN of an app leaves it with an entry. -/
theorem contains_of_grants (hgrant : (Moment.mk e i).grants app = true) :
    (e.step i).state.sessions.table.contains app = true := by
  rw [sessions_step]
  obtain ⟨host, call⟩ := i
  cases call
  case grant a =>
    simp only [Moment.grants, Bool.and_eq_true, beq_iff_eq, Bool.not_eq_true'] at hgrant
    obtain ⟨rfl, hs⟩ := hgrant
    simp [sessionsAfter, hs, Sessions.grant, AppTable.contains]
  all_goals cases hgrant

/-- What ends the session of an app removes its entry. -/
theorem not_contains_of_ends (hidle : e.stopped = true → e.sessions.table = .empty)
    (hends : (Moment.mk e i).ends app = true) :
    (e.step i).state.sessions.table.contains app = false := by
  have hrevoked (s : Sessions) : (s.revoke app).1.table.contains app = false := by
    simp [Sessions.revoke, AppTable.contains]
  have hretained {apps : AppSet} (hnot : apps.contains app = false) (s : Sessions) :
      (s.retain apps.contains).1.table.contains app = false := by
    simp [Sessions.retain, Sessions.keep, AppTable.contains, AppTable.get?_filter, hnot]
  rw [sessions_step]
  obtain ⟨host, call⟩ := i
  -- One case for each kind of call that ends a session.
  cases call
  case revoke a =>
    cases beq_iff_eq.1 hends
    exact hrevoked _
  case unprotect a =>
    simp only [Moment.ends, Bool.and_eq_true, beq_iff_eq] at hends
    obtain ⟨rfl, hprot⟩ := hends
    simp only [sessionsAfter, hprot, if_true]
    exact hrevoked _
  case setProtected apps => exact hretained (by simpa [Moment.ends] using hends) _
  case reload s =>
    simp only [Moment.ends, Bool.or_eq_true, Bool.not_eq_true'] at hends
    simp only [sessionsAfter]
    split
    · rfl
    next hon => exact hretained (hends.resolve_right hon) _
  case setAppLock on =>
    cases on with
    | true => cases hends
    | false => rfl
  case screenOff =>
    have hrelock : e.relockOnScreenOff = true := hends
    simp only [sessionsAfter, hrelock, if_true]
    rfl
  case shutdown =>
    simp only [sessionsAfter]
    split
    next hs =>
      rw [hidle hs]
      rfl
    · rfl
  all_goals cases hends

/-- Where no app has an entry, there is none. -/
theorem eq_empty_of_contains {t : AppTable Session} (hnone : ∀ app, t.contains app = false) :
    t = .empty := by
  obtain ⟨entries, distinct⟩ := t
  cases entries with
  | nil => rfl
  | cons entry rest =>
    have hentry := hnone entry.1
    simp [AppTable.contains, AppTable.get?] at hentry

/-! ### The end of protection -/

/-- Entering a PIN changes nothing that app lock goes by. -/
theorem rules_of_grants (hgrant : (Moment.mk e i).grants app = true) :
    (e.step i).state.rules = e.rules := by
  rw [rules_step]
  obtain ⟨host, call⟩ := i
  cases call
  case grant a => rfl
  all_goals cases hgrant

/-- A PIN is accepted only while the engine runs. -/
theorem running_of_grants (hgrant : m.grants app = true) : m.engine.stopped = false := by
  unfold Moment.grants at hgrant
  split at hgrant
  · simpa using (Bool.and_eq_true_iff.1 hgrant).2
  · cases hgrant

/-- What ends the protection of an app ends its session. -/
theorem ends_of_rules (hbefore : m.engine.rules.Enforces app)
    (hafter : ¬ (m.engine.rules.after m.input.call).Enforces app) : m.ends app = true := by
  -- Whatever ends protection takes the prompt of the app away or leaves it behind.
  by_cases hd : m.Dismisses app
  · obtain ⟨-, hd⟩ := hd
    obtain ⟨e, host, call⟩ := m
    cases call
    case grant a => exact absurd hbefore hafter
    case setAppLock on =>
      obtain rfl : on = false := hd
      rfl
    case reload s => exact Bool.or_eq_true_iff.2 (.inr hd)
    all_goals exact hd.elim
  · have hforsakes := forsakes_of_rules hbefore hafter hd
    obtain ⟨e, host, call⟩ := m
    cases call
    case unprotect a =>
      obtain rfl : a = app := hforsakes
      exact Bool.and_eq_true_iff.2 ⟨beq_self_eq_true a, hbefore.1⟩
    case setProtected apps =>
      have hdropped : apps.contains app = false := hforsakes
      simp [Moment.ends, hdropped]
    case setAppLock on =>
      obtain rfl : on = false := hforsakes.1
      rfl
    case reload s =>
      cases hloses : e.losesAppLock s with
      | true => simp [Moment.ends, hloses]
      | false =>
        have hdropped : s.protectedApps.contains app = false := by
          simpa [Moment.Forsakes, hloses] using hforsakes
        simp [Moment.ends, hdropped]
    case shutdown => rfl
    all_goals exact hforsakes.elim

/-! ### Strays -/

/-- Whether all sessions are of protected apps, and there are none while app lock is off. -/
structure Tidy (e : Engine) : Prop where
  locked app : e.sessions.table.contains app = true → e.isProtected app = true
  off : e.appLockEnabled = false → e.sessions.table = .empty

/-- Whether the PIN of an app is entered that is not locked. -/
def Moment.Strays (m : Moment) (app : String) : Prop :=
  m.grants app = true ∧ ¬ m.engine.rules.Enforces app

/-- Whether the PIN of an app was entered for the last time when it was not locked, and nothing has
ended its session since. -/
def Stray (h : List Moment) (app : String) : Prop :=
  Since (fun m => m.Strays app) (fun m => m.grants app = true ∨ m.ends app = true) h

/-- A session is a stray from its PIN on, until the next PIN or whatever ends it. -/
theorem stray_concat : Stray (h ++ [m]) app ↔
    m.Strays app ∨ ¬ (m.grants app = true ∨ m.ends app = true) ∧ Stray h app := since_concat

/-- Without a PIN of an app that is not locked, there is no stray. -/
theorem not_stray (hnone : ∀ m ∈ h, ¬ m.Strays app) : ¬ Stray h app := by
  rintro ⟨before, m, after, rfl, hstrays, -⟩
  exact hnone m (by simp) hstrays

/-- Whoever has an entry is locked otherwise, or its session is a stray. -/
theorem enforced_or_stray (hnone : e₀.sessions.table = .empty)
    (hentry : (e₀.run inputs).sessions.table.contains app = true) :
    (e₀.run inputs).rules.Enforces app ∨ Stray (e₀.history inputs) app := by
  -- On the calls, the last one apart: an entry is as new as that call, or it was there before.
  induction inputs using List.reverseRecOn with
  | nil =>
    rw [run_nil, hnone] at hentry
    cases hentry
  | append_singleton inputs i ih =>
    rw [run_concat] at hentry ⊢
    rw [history_concat, stray_concat]
    let m : Moment := ⟨e₀.run inputs, i⟩
    cases hgrant : m.grants app with
    | true =>
      -- The entry is as new as the PIN, and who is locked has not changed.
      rw [rules_of_grants hgrant]
      by_cases henforced : m.engine.rules.Enforces app
      · exact .inl henforced
      · exact .inr (.inl ⟨hgrant, henforced⟩)
    | false =>
      -- The entry is still there, so the call has not ended the session.
      have hends : ¬ m.ends app = true := by
        intro hends
        rw [not_contains_of_ends (table_run_of_stopped hnone) hends] at hentry
        cases hentry
      rcases ih (contains_step hgrant hentry) with henforced | hstray
      · left
        by_contra hafter
        rw [rules_step] at hafter
        exact hends (ends_of_rules (m := m) henforced hafter)
      · exact .inr (.inr ⟨not_or.2 ⟨by simp, hends⟩, hstray⟩)

/-- Without strays the sessions are tidy. -/
theorem tidy_of_no_strays (hnone : e₀.sessions.table = .empty)
    (hstrays : ∀ m ∈ e₀.history inputs, ∀ app, ¬ m.Strays app) : (e₀.run inputs).Tidy := by
  have henforced {app : String} (hentry : (e₀.run inputs).sessions.table.contains app = true) :
      (e₀.run inputs).rules.Enforces app :=
    (enforced_or_stray hnone hentry).resolve_right
      (not_stray fun m hm => hstrays m hm app)
  refine ⟨fun app hentry => (henforced hentry).1, fun hoff => ?_⟩
  refine eq_empty_of_contains fun app => Bool.eq_false_iff.2 fun hentry => ?_
  exact Bool.false_ne_true (hoff.symm.trans (henforced hentry).2.1)

/-- A stray leaves sessions that are not tidy. -/
theorem not_tidy_of_strays (hstrays : (Moment.mk e i).Strays app) : ¬ (e.step i).state.Tidy := by
  obtain ⟨hgrant, hloose⟩ := hstrays
  have hentry := contains_of_grants hgrant
  have hrules : (e.step i).state.rules = e.rules := rules_of_grants hgrant
  have hrunning := running_of_grants hgrant
  rintro ⟨hlocked, hoff⟩
  rw [← hrules] at hloose
  refine hloose ⟨hlocked app hentry, ?_, (congrArg Rules.stopped hrules).trans hrunning⟩
  show (e.step i).state.appLockEnabled = true
  cases hon : (e.step i).state.appLockEnabled with
  | true => rfl
  | false =>
    rw [hoff hon] at hentry
    cases hentry

/-- An app that is locked anew, and whose PIN nobody enters afterwards, is blocked unless its
session is a stray. -/
theorem foreground_locked_anew {later : List Input} {host : Host}
    (hnone : e₀.sessions.table = .empty) (hbefore : ¬ (e₀.run inputs).rules.Enforces app)
    (hafter : (e₀.run (inputs ++ [i])).rules.Enforces app)
    (hgrant : ∀ m ∈ (e₀.run (inputs ++ [i])).history later, m.grants app = false)
    (hlater : (e₀.run (inputs ++ [i] ++ later)).rules.Enforces app) :
    let answer := ((e₀.run (inputs ++ [i] ++ later)).foreground host app true).answer
    answer = .block ∨ answer = .allow ∧ Stray (e₀.history inputs) app := by
  intro answer
  let e := e₀.run (inputs ++ [i] ++ later)
  have hconsults : e.consults app true = true := by
    obtain ⟨hprotected, hon, hrunning⟩ := hlater
    have hon : e.appLockEnabled = true := hon
    have hrunning : e.stopped = false := hrunning
    have hprotected : e.isProtected app = true := hprotected
    rw [consults, hon, hrunning, hprotected]
    rfl
  have hanswer : answer = if (e.sessions.check app host.now).2 then .allow else .block := by
    show (e.foreground host app true).answer = _
    rw [foreground_answer, if_pos hconsults]
  cases hcheck : (e.sessions.check app host.now).2 with
  | false => exact .inl (by rw [hanswer, hcheck]; rfl)
  | true =>
    refine .inr ⟨by rw [hanswer, hcheck]; rfl, ?_⟩
    -- An open session has an entry, which was there before the app was locked.
    obtain ⟨session, hsession, -⟩ := Sessions.check_answer.1 hcheck
    have hentry : e.sessions.table.contains app = true := by
      rw [AppTable.contains, hsession]
      rfl
    -- The PIN was not entered by the call that locks the app, for it leaves who is locked as it
    -- was.
    have hanew : (Moment.mk (e₀.run inputs) i).grants app = false := by
      refine Bool.eq_false_iff.2 fun hgrant => hbefore ?_
      rw [run_concat, rules_of_grants hgrant] at hafter
      exact hafter
    have hfirst : (e₀.run (inputs ++ [i])).sessions.table.contains app = true := by
      refine contains_run hgrant ?_
      rw [← run_append]
      exact hentry
    rw [run_concat] at hfirst
    exact (enforced_or_stray hnone (contains_step hanew hfirst)).resolve_left hbefore

/-- **Whose sessions there are.** In every run of an engine,

* all entries are of apps that are locked otherwise, except strays;
* the sessions have been tidy all the time exactly if no PIN was entered of an app that was not
  locked;
* an app that was not locked and is locked by some call is blocked when it comes up, unless its PIN
  was entered after that call, or its session was a stray before it. -/
theorem tidy_until_stray (s : Settings) (stored : Persisted) (inputs : List Input) :
    let e₀ := start s stored
    (∀ app, (e₀.run inputs).sessions.table.contains app = true →
      (e₀.run inputs).rules.Enforces app ∨ Stray (e₀.history inputs) app) ∧
    ((∀ before, before <+: inputs → (e₀.run before).Tidy) ↔
      ∀ m ∈ e₀.history inputs, ∀ app, ¬ m.Strays app) ∧
    ∀ (i : Input) (later : List Input) (host : Host) (app : String),
      ¬ (e₀.run inputs).rules.Enforces app →
      (e₀.run (inputs ++ [i])).rules.Enforces app →
      (∀ m ∈ (e₀.run (inputs ++ [i])).history later, m.grants app = false) →
      (e₀.run (inputs ++ [i] ++ later)).rules.Enforces app →
      let answer := ((e₀.run (inputs ++ [i] ++ later)).foreground host app true).answer
      answer = .block ∨ answer = .allow ∧ Stray (e₀.history inputs) app := by
  intro e₀
  have hnone : e₀.sessions.table = .empty := rfl
  refine ⟨fun app => enforced_or_stray hnone, ⟨fun htidy m hm app hstrays => ?_, ?_⟩,
    fun i later host app => foreground_locked_anew hnone⟩
  · -- The sessions would not be tidy just after the stray.
    obtain ⟨before, i, after, hsplit, rfl⟩ := mem_history.1 hm
    have hprefix : before ++ [i] <+: inputs := ⟨after, by rw [hsplit]; simp⟩
    have hafter := htidy _ hprefix
    rw [run_concat] at hafter
    exact not_tidy_of_strays hstrays hafter
  · -- The moments of a run so far are among those of the whole run.
    rintro hstrays before ⟨rest, rfl⟩
    refine tidy_of_no_strays hnone fun m hm => hstrays m ?_
    obtain ⟨before', i, after, rfl, rfl⟩ := mem_history.1 hm
    exact mem_history.2 ⟨before', i, after ++ rest, by simp, rfl⟩

/-- The PIN of a locked app leaves no stray, so an app that is protected later is blocked. -/
theorem tidy_until_stray_unprotected :
    let e₀ := start { protectedApps := .ofList ["app.mail"] } .empty
    let input (call : Call) : Input := ⟨silentHost 5, call⟩
    let inputs := [input (.grant "app.mail"), input (.unprotect "app.mail")]
    let later := [input (.grant "app.bank")]
    let anew := e₀.run (inputs ++ [input (.protect "app.mail")])
    ¬ (e₀.run inputs).rules.Enforces "app.mail" ∧ anew.rules.Enforces "app.mail" ∧
      (∀ m ∈ anew.history later, m.grants "app.mail" = false) ∧
      (anew.run later).rules.Enforces "app.mail" ∧ ¬ Stray (e₀.history inputs) "app.mail" ∧
      ((anew.run later).foreground (silentHost 9) "app.mail" true).answer = .block := by
  intro e₀ input inputs later anew
  have hbefore : ¬ (e₀.run inputs).rules.Enforces "app.mail" := by decide +kernel
  have hafter : anew.rules.Enforces "app.mail" := by decide +kernel
  have hgrant : ∀ m ∈ anew.history later, m.grants "app.mail" = false := by decide +kernel
  have hlater : (anew.run later).rules.Enforces "app.mail" := by decide +kernel
  have hstray : ¬ Stray (e₀.history inputs) "app.mail" := by
    refine not_stray fun m hm hstrays => ?_
    simp only [inputs, history, List.mem_cons, List.not_mem_nil, or_false] at hm
    rcases hm with rfl | rfl
    · exact hstrays.2 (by decide +kernel)
    · cases hstrays.1
  obtain ⟨-, -, hanew⟩ :=
    tidy_until_stray { protectedApps := .ofList ["app.mail"] } .empty inputs
  have hanswer := hanew (input (.protect "app.mail")) later (silentHost 9) "app.mail" hbefore
    hafter hgrant (run_append e₀ _ later ▸ hlater)
  rw [run_append] at hanswer
  exact ⟨hbefore, hafter, hgrant, hlater, hstray, hanswer.resolve_right fun h => hstray h.2⟩

/-- **A stray opens an app that was locked after it.** The PIN of an app is entered before the app
is protected, or while app lock is off; afterwards the app comes up without a prompt. -/
theorem stray_opens :
    let e₀ := start {} .empty
    let e₁ := start { protectedApps := .ofList ["app.mail"] } .empty
    let input (call : Call) : Input := ⟨silentHost 5, call⟩
    let early := e₀.run [input (.grant "app.mail")]
    let off := e₁.run [input (.setAppLock false), input (.grant "app.mail")]
    let opened (e : Engine) := (e.foreground (silentHost 6) "app.mail" true).answer
    early.sessions.table.contains "app.mail" = true ∧ early.isProtected "app.mail" = false ∧
      off.sessions.table.contains "app.mail" = true ∧ off.appLockEnabled = false ∧
      opened (early.run [input (.protect "app.mail")]) = .allow ∧
      opened (early.run [input (.setProtected (.ofList ["app.mail"]))]) = .allow ∧
      opened (early.run [input (.reload { protectedApps := .ofList ["app.mail"] })]) = .allow ∧
      opened (off.run [input (.setAppLock true)]) = .allow := by
  decide +kernel

end Warden.Engine
