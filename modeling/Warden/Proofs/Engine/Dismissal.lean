import Mathlib.Data.List.Induction
import Warden.Proofs.Engine.Prompts

namespace Warden.Engine

/-!
# Prompts that stay

The engine remembers one prompt, the one that it showed last.  So a prompt goes away as it should
only until the prompt of another app comes up, and whatever ends the protection of an app without
switching app lock off leaves its prompt where it is.

* `Prompted h app` — the prompt of an app is on the screen after the history `h`.
* `Buried h app` — another prompt has come up since.
* `remembers_run` — a prompt on the screen is the remembered one, or it is buried.
* `prompt_stays_iff_buried` — when a prompt stays although its app is unlocked or app lock is off.
* `Moment.Forsakes`, `Forsaken h app` — the protection of an app ends and its prompt stays.
* `prompt_enforced_or_forsaken` — whose prompts are on the screen.
-/

variable {e₀ : Engine} {m : Moment} {h : List Moment} {app : String} {inputs : List Input}

/-! ### Histories -/

/-- Whether the prompt of an app is on the screen after a history. -/
def Prompted (h : List Moment) (app : String) : Prop :=
  .appLock app ∈ Screen.applyAll [] (h.flatMap Moment.actions)

/-- Whether the prompt of another app came up while that of an app was on the screen, and that of
the app has not come up again since. -/
def Buried (h : List Moment) (app : String) : Prop :=
  SinceWhen (fun before m => Prompted before app ∧ ∃ other, other ≠ app ∧ m.Prompts other)
    (fun m => m.Prompts app) h

theorem not_prompted_nil : ¬ Prompted [] app := List.not_mem_nil

/-- One more moment brings the prompt up, or leaves it unless it is to go away. -/
theorem prompted_concat :
    Prompted (h ++ [m]) app ↔ m.Prompts app ∨ ¬ m.Dismisses app ∧ Prompted h app := by
  unfold Prompted
  rw [List.flatMap_append, Screen.applyAll_append, List.flatMap_singleton, mem_actions]

/-- A prompt is buried by the next one of another app, until it comes up again itself. -/
theorem buried_concat : Buried (h ++ [m]) app ↔
    (Prompted h app ∧ ∃ other, other ≠ app ∧ m.Prompts other) ∨
      ¬ m.Prompts app ∧ Buried h app := sinceWhen_concat

/-! ### The remembered prompt and the others -/

/-- What the engine remembers after a history, as far as an app is concerned: its prompt is on the
screen if it is the remembered one or buried, and it is not both. -/
structure Remembers (pending : Option String) (h : List Moment) (app : String) : Prop where
  prompted : Prompted h app ↔ pending = some app ∨ Buried h app
  unburied : pending = some app → ¬ Buried h app

/-- One moment keeps this up, whatever it is. -/
theorem Remembers.step (hr : Remembers m.engine.pendingLock h app) :
    Remembers m.outcome.state.pendingLock (h ++ [m]) app := by
  obtain ⟨hprompted, hunburied⟩ := hr
  have hstep : m.outcome.state.pendingLock = some app ↔ _ := pendingLock_step m
  by_cases happ : m.Prompts app
  · -- The prompt comes up, so it is the remembered one, and nothing has come up after it.
    have hpending : m.outcome.state.pendingLock = some app := hstep.2 (.inl happ)
    have hnot : ¬ Buried (h ++ [m]) app := by
      rw [buried_concat]
      rintro (⟨-, other, hne, hother⟩ | ⟨hnot, -⟩)
      · exact hne (happ.eq hother)
      · exact hnot happ
    exact ⟨iff_of_true (prompted_concat.2 (.inl happ)) (.inl hpending), fun _ => hnot⟩
  rw [or_iff_right happ] at hstep
  by_cases hother : ∃ other, m.Prompts other
  · -- Another prompt comes up, and buries this one if it is there.
    obtain ⟨other, hother⟩ := hother
    have hne : other ≠ app := by
      rintro rfl
      exact happ hother
    have hpending : m.outcome.state.pendingLock ≠ some app :=
      fun hsome => (hstep.1 hsome).1 other hother
    have hbefore : Prompted (h ++ [m]) app ↔ Prompted h app := by
      rw [prompted_concat, or_iff_right happ, and_iff_right hother.not_dismisses]
    have hburied : Buried (h ++ [m]) app ↔ Prompted h app := by
      rw [buried_concat, and_iff_left ⟨other, hne, hother⟩, and_iff_right happ]
      exact or_iff_left_of_imp fun hb => hprompted.2 (.inr hb)
    refine ⟨?_, fun hsome => absurd hsome hpending⟩
    rw [hbefore, hburied, or_iff_right hpending]
  · -- No prompt comes up, so what is buried stays buried.
    have hnone (a : String) : ¬ m.Prompts a := fun ha => hother ⟨a, ha⟩
    have hburied : Buried (h ++ [m]) app ↔ Buried h app := by
      rw [buried_concat, and_iff_right happ]
      exact or_iff_right fun ⟨_, a, _, ha⟩ => hnone a ha
    rw [and_iff_right hnone] at hstep
    refine ⟨?_, ?_⟩
    · rw [prompted_concat, or_iff_right happ, hprompted, hstep, hburied, and_or_left]
      refine or_congr_right (and_iff_right_of_imp fun hb hd => ?_)
      exact hunburied hd.1 hb
    · rw [hstep, hburied]
      exact fun hsome => hunburied hsome.2

/-- After any run, the prompt of an app is on the screen if it is the remembered one or buried. -/
theorem remembers_run (hnone : e₀.pendingLock = none) (inputs : List Input) :
    Remembers (e₀.run inputs).pendingLock (e₀.history inputs) app := by
  -- On the calls, the last one apart, which the step lemma is about.
  induction inputs using List.reverseRecOn with
  | nil =>
    have hpending : (e₀.run []).pendingLock ≠ some app := by
      rw [run_nil, hnone]
      exact Option.some_ne_none app ∘ Eq.symm
    have hburied : ¬ Buried (e₀.history []) app := not_sinceWhen_nil
    exact ⟨iff_of_false not_prompted_nil (not_or.2 ⟨hpending, hburied⟩), fun _ => hburied⟩
  | append_singleton inputs i ih =>
    rw [run_concat, history_concat]
    exact Remembers.step (m := ⟨e₀.run inputs, i⟩) ih

/-! ### When a prompt is to go away -/

/-- Whoever switches app lock off takes the remembered prompt away. -/
theorem dismisses_of_switched_off (hon : m.engine.appLockEnabled = true)
    (hoff : m.outcome.state.appLockEnabled = false) (hpending : m.engine.pendingLock = some app) :
    m.Dismisses app := by
  obtain ⟨e, host, call⟩ := m
  have hafter : (e.rules.after call).appLockEnabled = false :=
    (congrArg Rules.appLockEnabled (e.rules_step ⟨host, call⟩)).symm.trans hoff
  rw [Rules.appLockEnabled_after] at hafter
  refine ⟨hpending, ?_⟩
  -- Only two calls switch app lock off; after any other one it is on as before.
  cases call
  case setAppLock on => exact hafter
  case reload s =>
    have hon : e.appLockEnabled = true := hon
    have hoff : s.appLockEnabled = false := hafter
    show e.losesAppLock s = true
    rw [losesAppLock, hon, hoff]
    rfl
  all_goals exact absurd (hon.symm.trans hafter) (by decide)

/-- While app lock is off, no prompt is remembered. -/
theorem pendingLock_run (hnone : e₀.pendingLock = none)
    (hoff : (e₀.run inputs).appLockEnabled = false) : (e₀.run inputs).pendingLock = none := by
  induction inputs using List.reverseRecOn with
  | nil => exact hnone
  | append_singleton inputs i ih =>
    rw [run_concat] at hoff ⊢
    let m : Moment := ⟨e₀.run inputs, i⟩
    refine Option.eq_none_iff_forall_ne_some.2 fun app hsome => ?_
    rcases (pendingLock_step m).1 hsome with happ | ⟨-, hnot, hold⟩
    · -- A prompt comes up only while app lock is on, and this leaves it on.
      have hon : m.outcome.state.appLockEnabled = true :=
        (congrArg Rules.appLockEnabled happ.rules).trans happ.enforces.2.1
      exact Bool.false_ne_true (hoff.symm.trans hon)
    · cases hon : (e₀.run inputs).appLockEnabled with
      | true => exact hnot (dismisses_of_switched_off hon hoff hold)
      | false =>
        have hnothing : m.engine.pendingLock = none := ih hon
        rw [hnothing] at hold
        cases hold

/-- What is to take a prompt away leaves it there exactly if it is buried. -/
theorem prompted_concat_iff_buried (hr : Remembers m.engine.pendingLock h app)
    (hprompts : ¬ m.Prompts app) (hdismisses : m.engine.pendingLock = some app → m.Dismisses app) :
    Prompted (h ++ [m]) app ↔ Buried h app := by
  rw [prompted_concat, or_iff_right hprompts, hr.prompted]
  constructor
  · rintro ⟨hnot, hsome | hburied⟩
    · exact absurd (hdismisses hsome) hnot
    · exact hburied
  · intro hburied
    exact ⟨fun hd => hr.unburied hd.1 hburied, .inr hburied⟩

/-- **When a prompt stays.** After any run, entering the PIN of an app takes its prompt away, and
switching app lock off takes all prompts away, by itself or with new settings, except those that
are buried: those of apps after which another app got its prompt. -/
theorem prompt_stays_iff_buried (s : Settings) (stored : Persisted) (inputs : List Input)
    (host : Host) (app : String) (hs : ((start s stored).run inputs).stopped = false) :
    let e₀ := start s stored
    let screen (call : Call) := Screen.applyAll [] (e₀.actions (inputs ++ [⟨host, call⟩]))
    (.appLock app ∈ screen (.grant app) ↔ Buried (e₀.history inputs) app) ∧
      (.appLock app ∈ screen (.setAppLock false) ↔ Buried (e₀.history inputs) app) ∧
      ∀ settings : Settings, settings.appLockEnabled = false →
        (.appLock app ∈ screen (.reload settings) ↔ Buried (e₀.history inputs) app) := by
  intro e₀ screen
  have hr : Remembers (e₀.run inputs).pendingLock (e₀.history inputs) app :=
    remembers_run rfl inputs
  -- All three calls are meant to take the remembered prompt away, and none of them shows one.
  have hscreen {call : Call} (hcall : ∀ a foregrounded, call ≠ .foreground a foregrounded)
      (hdismisses : (e₀.run inputs).pendingLock = some app →
        Moment.Dismisses ⟨e₀.run inputs, host, call⟩ app) :
      .appLock app ∈ screen call ↔ Buried (e₀.history inputs) app := by
    show Prompted (e₀.history (inputs ++ [⟨host, call⟩])) app ↔ _
    rw [history_concat]
    exact prompted_concat_iff_buried hr (not_prompts hcall app) hdismisses
  refine ⟨?_, ?_, ?_⟩
  · exact hscreen nofun fun hsome => ⟨hsome, rfl, hs⟩
  · exact hscreen nofun fun hsome => ⟨hsome, rfl⟩
  · intro settings hoff
    refine hscreen nofun fun hsome => ⟨hsome, ?_⟩
    show (e₀.run inputs).losesAppLock settings = true
    cases hon : (e₀.run inputs).appLockEnabled with
    | true => rw [losesAppLock, hon, hoff]; rfl
    | false =>
      -- App lock was off already, so there is nothing to remember.
      rw [pendingLock_run rfl hon] at hsome
      cases hsome

/-- A prompt that came up once more after that of another app goes away with its PIN, and with app
lock. -/
theorem prompt_gone_after_return :
    let e₀ := start { protectedApps := .ofList ["app.mail", "app.bank"] } .empty
    let opened (app : String) : Input := ⟨silentHost 0, .foreground app true⟩
    let inputs : List Input := [opened "app.mail", opened "app.bank"] ++ [opened "app.mail"]
    let screen (call : Call) :=
      Screen.applyAll [] (e₀.actions (inputs ++ [⟨silentHost 5, call⟩]))
    (e₀.run inputs).stopped = false ∧ ¬ Buried (e₀.history inputs) "app.mail" ∧
      .appLock "app.mail" ∉ screen (.grant "app.mail") ∧
      .appLock "app.mail" ∉ screen (.setAppLock false) ∧
      .appLock "app.mail" ∉ screen (.reload { appLockEnabled := false }) := by
  intro e₀ opened inputs screen
  have hs : (e₀.run inputs).stopped = false := by decide +kernel
  have hburied : ¬ Buried (e₀.history inputs) "app.mail" := by
    rw [history_concat, buried_concat]
    rintro (⟨-, other, hne, ⟨_, hcall⟩, -⟩ | ⟨hnot, -⟩)
    · cases hcall
      exact hne rfl
    · exact hnot ⟨⟨true, rfl⟩, by decide +kernel⟩
  obtain ⟨hgrant, hoff, hreload⟩ :=
    prompt_stays_iff_buried { protectedApps := .ofList ["app.mail", "app.bank"] } .empty inputs
      (silentHost 5) "app.mail" hs
  exact ⟨hs, hburied, mt hgrant.1 hburied, mt hoff.1 hburied,
    mt (hreload { appLockEnabled := false } rfl).1 hburied⟩

/-- **A buried prompt stays.** The prompt of the mail is on the screen when that of the bank comes
up; afterwards neither the PIN of the mail nor the end of app lock takes it away. -/
theorem buried_prompt_stays :
    let e₀ := start { protectedApps := .ofList ["app.mail", "app.bank"] } .empty
    let opened (app : String) : Input := ⟨silentHost 0, .foreground app true⟩
    let inputs : List Input := [opened "app.mail", opened "app.bank"]
    (e₀.run inputs).stopped = false ∧
      ∀ call ∈ [Call.grant "app.mail", .setAppLock false, .reload { appLockEnabled := false }],
        .appLock "app.mail" ∈
          Screen.applyAll [] (e₀.actions (inputs ++ [⟨silentHost 5, call⟩])) := by
  decide +kernel

/-! ### Prompts of apps that are not locked -/

/-- Whether a call ends the protection of an app and leaves its prompt where it is. -/
def Moment.Forsakes (m : Moment) (app : String) : Prop :=
  match m.input.call with
  | .unprotect a => a = app
  | .setProtected apps => apps.contains app = false
  | .setAppLock on => on = false ∧ m.engine.pendingLock ≠ some app
  | .reload s =>
    if m.engine.losesAppLock s then m.engine.pendingLock ≠ some app
    else s.protectedApps.contains app = false
  | .shutdown => True
  | _ => False

/-- Whether the protection of an app ended while its prompt was on the screen, and since then that
has neither come up again nor been taken away. -/
def Forsaken (h : List Moment) (app : String) : Prop :=
  SinceWhen (fun before m => Prompted before app ∧ m.Forsakes app)
    (fun m => m.Prompts app ∨ m.Dismisses app) h

/-- A prompt is forsaken by a moment that finds it on the screen, until it comes up again or goes
away. -/
theorem forsaken_concat : Forsaken (h ++ [m]) app ↔
    (Prompted h app ∧ m.Forsakes app) ∨
      ¬ (m.Prompts app ∨ m.Dismisses app) ∧ Forsaken h app := sinceWhen_concat

/-- What leaves a prompt behind does not take it away. -/
theorem Moment.Forsakes.not_dismisses (hf : m.Forsakes app) : ¬ m.Dismisses app := by
  rintro ⟨hpending, hd⟩
  unfold Moment.Forsakes at hf
  split at hf
  next hcall => rw [hcall] at hd; exact hd
  next hcall => rw [hcall] at hd; exact hd
  next hcall => exact hf.2 hpending
  next s hcall =>
    rw [hcall] at hd
    have hloses : m.engine.losesAppLock s = true := hd
    rw [if_pos hloses] at hf
    exact hf hpending
  next hcall => rw [hcall] at hd; exact hd
  · exact hf

/-- What ends the protection of an app takes its prompt away or leaves it behind. -/
theorem forsakes_of_rules (hbefore : m.engine.rules.Enforces app)
    (hafter : ¬ (m.engine.rules.after m.input.call).Enforces app) (hd : ¬ m.Dismisses app) :
    m.Forsakes app := by
  obtain ⟨e, host, call⟩ := m
  obtain ⟨hprotected, hon, hrunning⟩ := hbefore
  cases call
  case protect a =>
    refine absurd ⟨?_, hon, hrunning⟩ hafter
    show (e.protectedApps.insert a).contains app = true
    rw [AppSet.contains_insert, Bool.or_eq_true]
    exact .inr hprotected
  -- If it is another app that is unprotected, this one is as locked as before.
  case unprotect a =>
    by_contra hother
    have hkept : (e.protectedApps.erase a).contains app = true := by
      rw [AppSet.contains_erase, Bool.and_eq_true, bne_iff_ne]
      exact ⟨fun heq => hother heq.symm, hprotected⟩
    refine hafter ?_
    show Rules.Enforces (if e.isProtected a then
      { e.rules with protectedApps := e.protectedApps.erase a } else e.rules) app
    split
    · exact ⟨hkept, hon, hrunning⟩
    · exact ⟨hprotected, hon, hrunning⟩
  case setProtected apps =>
    cases hkeeps : apps.contains app with
    | true => exact absurd ⟨hkeeps, hon, hrunning⟩ hafter
    | false => exact hkeeps
  case setAppLock on =>
    cases on with
    | true => exact absurd ⟨hprotected, rfl, hrunning⟩ hafter
    | false => exact ⟨rfl, fun hpending => hd ⟨hpending, rfl⟩⟩
  case reload s =>
    show if e.losesAppLock s then e.pendingLock ≠ some app else s.protectedApps.contains app = false
    cases hloses : e.losesAppLock s with
    | true =>
      rw [if_pos rfl]
      exact fun hpending => hd ⟨hpending, hloses⟩
    | false =>
      rw [if_neg Bool.false_ne_true]
      have hon : e.appLockEnabled = true := hon
      have hon' : s.appLockEnabled = true := by
        rw [losesAppLock, hon, Bool.true_and, Bool.not_eq_false'] at hloses
        exact hloses
      cases hkeeps : s.protectedApps.contains app with
      | true => exact absurd ⟨hkeeps, hon', hrunning⟩ hafter
      | false => rfl
  case shutdown => trivial
  all_goals exact absurd ⟨hprotected, hon, hrunning⟩ hafter

/-- A forsaken prompt is on the screen. -/
theorem prompted_of_forsaken (hforsaken : Forsaken h app) : Prompted h app := by
  induction h using List.reverseRecOn with
  | nil => exact absurd hforsaken not_sinceWhen_nil
  | append_singleton h m ih =>
    rw [prompted_concat]
    -- The prompt was there when it was forsaken, and nothing has taken it away since.
    rcases forsaken_concat.1 hforsaken with ⟨hprompted, hforsakes⟩ | ⟨hnot, hforsaken⟩
    · exact .inr ⟨hforsakes.not_dismisses, hprompted⟩
    · exact .inr ⟨fun hd => hnot (.inr hd), ih hforsaken⟩

/-- After any run, a prompt on the screen is that of an app that is locked, or forsaken. -/
theorem enforces_or_forsaken (inputs : List Input)
    (hprompted : Prompted (e₀.history inputs) app) :
    (e₀.run inputs).rules.Enforces app ∨ Forsaken (e₀.history inputs) app := by
  -- On the calls, the last one apart: a prompt on the screen has just come up, or it was there
  -- before.
  induction inputs using List.reverseRecOn with
  | nil => exact absurd hprompted not_prompted_nil
  | append_singleton inputs i ih =>
    rw [history_concat] at hprompted ⊢
    rw [run_concat]
    let m : Moment := ⟨e₀.run inputs, i⟩
    show m.outcome.state.rules.Enforces app ∨ Forsaken (e₀.history inputs ++ [m]) app
    by_cases happ : m.Prompts app
    · left
      rw [happ.rules]
      exact happ.enforces
    obtain ⟨hd, hbefore⟩ := (prompted_concat.1 hprompted).resolve_left happ
    have hnot : ¬ (m.Prompts app ∨ m.Dismisses app) := not_or.2 ⟨happ, hd⟩
    rw [forsaken_concat, and_iff_right hbefore, and_iff_right hnot]
    rcases ih hbefore with henforces | hforsaken
    · -- The app was locked: it still is, or this call has left its prompt behind.
      have hrules : m.outcome.state.rules = m.engine.rules.after m.input.call := rules_step ..
      by_cases hafter : m.outcome.state.rules.Enforces app
      · exact .inl hafter
      · rw [hrules] at hafter
        exact .inr (.inl (forsakes_of_rules henforces hafter hd))
    · exact .inr (.inr hforsaken)

/-- **Whose prompts are on the screen.** After any run, each prompt on the screen is that of an app
that is protected while app lock is on and the engine runs, unless it is forsaken: the app is not
protected any more, or the engine has stopped, or app lock was switched off while the prompt was not
the remembered one.  A forsaken prompt stays on the screen until it comes up once more or is taken
away. -/
theorem prompt_enforced_or_forsaken (s : Settings) (stored : Persisted) (inputs : List Input)
    (app : String) :
    let e₀ := start s stored
    let screen := Screen.applyAll [] (e₀.actions inputs)
    (.appLock app ∈ screen →
      (e₀.run inputs).rules.Enforces app ∨ Forsaken (e₀.history inputs) app) ∧
      (Forsaken (e₀.history inputs) app → .appLock app ∈ screen) := by
  intro e₀ screen
  exact ⟨enforces_or_forsaken inputs, prompted_of_forsaken⟩

/-- Of two prompts, the one whose app is protected no longer is forsaken, and the other one is that
of a locked app. -/
theorem one_prompt_forsaken :
    let e₀ := start { protectedApps := .ofList ["app.mail", "app.bank"] } .empty
    let opened (app : String) : Input := ⟨silentHost 0, .foreground app true⟩
    let before : List Input := [opened "app.mail", opened "app.bank"]
    let inputs : List Input := before ++ [⟨silentHost 5, .unprotect "app.bank"⟩]
    let screen := Screen.applyAll [] (e₀.actions inputs)
    .appLock "app.mail" ∈ screen ∧ ¬ Forsaken (e₀.history inputs) "app.mail" ∧
      (e₀.run inputs).rules.Enforces "app.mail" ∧
      Forsaken (e₀.history inputs) "app.bank" ∧ .appLock "app.bank" ∈ screen := by
  intro e₀ opened before inputs screen
  have hmail : .appLock "app.mail" ∈ screen := by decide +kernel
  have hforsaken : Forsaken (e₀.history inputs) "app.bank" := by
    rw [history_concat, forsaken_concat]
    refine .inl ⟨?_, rfl⟩
    show .appLock "app.bank" ∈ Screen.applyAll [] (e₀.actions before)
    decide +kernel
  have hnot : ¬ Forsaken (e₀.history inputs) "app.mail" := by
    -- Two of the calls end no protection, and the third one ends that of the other app.
    rintro ⟨start, m, rest, hsplit, ⟨-, hforsakes⟩, -⟩
    have hm : m ∈ e₀.history inputs := by
      rw [hsplit]
      simp
    simp only [inputs, before, history, List.cons_append, List.nil_append, List.mem_cons,
      List.not_mem_nil, or_false] at hm
    rcases hm with rfl | rfl | rfl
    · exact hforsakes
    · exact hforsakes
    · exact absurd (show "app.bank" = "app.mail" from hforsakes) (by decide)
  obtain ⟨henforced, -⟩ := prompt_enforced_or_forsaken
    { protectedApps := .ofList ["app.mail", "app.bank"] } .empty inputs "app.mail"
  obtain ⟨-, hshown⟩ := prompt_enforced_or_forsaken
    { protectedApps := .ofList ["app.mail", "app.bank"] } .empty inputs "app.bank"
  exact ⟨hmail, hnot, (henforced hmail).resolve_right hnot, hforsaken, hshown hforsaken⟩

/-- **A prompt is left behind.** Whatever ends the protection of the mail while its prompt is on the
screen, the prompt stays there, unless app lock is switched off. -/
theorem prompt_left_behind :
    let e₀ := start { protectedApps := .ofList ["app.mail"] } .empty
    let opened : Input := ⟨silentHost 0, .foreground "app.mail" true⟩
    ∀ call ∈ [Call.unprotect "app.mail", .setProtected .empty, .reload {}, .shutdown],
      let inputs : List Input := [opened, ⟨silentHost 5, call⟩]
      .appLock "app.mail" ∈ Screen.applyAll [] (e₀.actions inputs) ∧
        ¬ (e₀.run inputs).rules.Enforces "app.mail" := by
  decide +kernel

end Warden.Engine
