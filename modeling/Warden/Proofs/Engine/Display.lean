import Mathlib.Data.List.Induction
import Warden.Proofs.Engine.Attempts
import Warden.Proofs.Engine.Countdowns
import Warden.Proofs.Keyword.Display

namespace Warden.Engine

/-!
# The screen of the engine

The engine never looks at the screen, yet after any run the countdowns there are the running ones.

* `Moment.actions`, `actions` — what a moment and what a run do to the screen.
* `FollowedBy` — a step keeps the countdowns on the screen up to date.
* `followedBy_step` — every call does.
* `Moment.Yields` — a countdown makes room for the others.
* `screen_run` — what is on the screen after any run, and what is in front.
-/

variable {e : Engine} {i : Input} {α β : Type} {host : Host} {app : String}

/-! ### Actions -/

/-- What a moment does to the screen. -/
def Moment.actions (m : Moment) : List Surface.Action := m.outcome.effects.filterMap Effect.surface?

/-- What a run does to the screen. -/
def actions (e : Engine) (inputs : List Input) : List Surface.Action :=
  (e.history inputs).flatMap Moment.actions

/-- One more call adds its own actions at the end. -/
theorem actions_concat (e : Engine) (inputs : List Input) (i : Input) :
    e.actions (inputs ++ [i]) = e.actions inputs ++ Moment.actions ⟨e.run inputs, i⟩ := by
  simp only [actions, history_concat, List.flatMap_append, List.flatMap_cons, List.flatMap_nil,
    List.append_nil]

/-! ### Steps that keep up -/

/-- Whether a step keeps the countdowns on the screen up to date. -/
def FollowedBy (e : Engine) (o : Outcome Engine α) : Prop :=
  Keyword.Follows e.keywords o.state.keywords (o.effects.filterMap Effect.surface?)

/-- A step that has nothing to do with countdowns. -/
theorem followedBy_foreign {o : Outcome Engine α}
    (hg : ∀ app, o.state.keywords.remaining? app = e.keywords.remaining? app)
    (h : ∀ a ∈ o.effects.filterMap Effect.surface?, a.IsForeign) : e.FollowedBy o :=
  Keyword.follows_foreign hg h

/-- A step of the guard is one of the engine. -/
theorem followedBy_within {o : Outcome Keyword.Guard α} {put : Keyword.Guard → Engine}
    (hput : ∀ g, (put g).keywords = g) (h : Keyword.FollowedBy e.keywords o) :
    e.FollowedBy (o.within put) := by
  unfold FollowedBy Outcome.within
  rw [hput]
  exact h

/-- What goes to the log or to the timers is not seen on the screen. -/
theorem FollowedBy.also {o : Outcome Engine α} {effects : List Effect} (h : e.FollowedBy o)
    (hnone : effects.filterMap Effect.surface? = []) : e.FollowedBy (o.also effects) := by
  unfold FollowedBy Outcome.also
  rw [List.filterMap_append, hnone, List.append_nil]
  exact h

/-- Two steps in a row keep up if each of them does. -/
theorem FollowedBy.bind {o : Outcome Engine α} {next : α → Engine → Outcome Engine β}
    (h : e.FollowedBy o) (hnext : o.state.FollowedBy (next o.answer o.state)) :
    e.FollowedBy (o.bind next) := by
  unfold FollowedBy Outcome.bind
  rw [List.filterMap_append]
  exact h.append hnext

/-- A step that only answers keeps up. -/
theorem followedBy_answering (e : Engine) (a : α) : e.FollowedBy (.answering e a) :=
  followedBy_foreign (fun _ => rfl) (by simp [Outcome.answering])

/-! ### App lock and settings pages -/

/-- No action is about a countdown if there is none. -/
theorem foreign_of_nil {effects : List Effect} (h : effects.filterMap Effect.surface? = []) :
    ∀ a ∈ effects.filterMap Effect.surface?, a.IsForeign := by
  simp [h]

/-- What the audit log may hear of is not seen on the screen. -/
theorem record_surface (p : Prop) [Decidable p] (r : Audit.Record) :
    (if p then [Effect.record r] else []).filterMap Effect.surface? = [] := by
  split <;> rfl

/-- The prompt for a PIN is not a countdown. -/
theorem setAppLock_foreign (e : Engine) (on : Bool) :
    ∀ a ∈ (e.setAppLock on).effects.filterMap Effect.surface?, a.IsForeign := by
  cases on with
  | true => exact foreign_of_nil rfl
  | false =>
    simp only [setAppLock, Bool.false_eq_true, if_false]
    split
    · exact foreign_of_nil rfl
    · simp [Effect.surface?, Surface.Action.IsForeign, Overlay.countdown?]

/-- App lock shows and hides prompts, and nothing else. -/
theorem foreign_of_lock (h : i.call.part = .lock) :
    ∀ a ∈ (e.step i).effects.filterMap Effect.surface?, a.IsForeign := by
  obtain ⟨host, call⟩ := i
  cases call
  case setAppLock on => exact e.setAppLock_foreign on
  -- Three guards come before the prompt; each of them shows nothing.
  case foreground app foregrounded =>
    simp only [step, foreground, Outcome.map]
    split
    · exact foreign_of_nil rfl
    · split
      · exact foreign_of_nil rfl
      · split
        · exact foreign_of_nil rfl
        · simp [Effect.surface?, Surface.Action.IsForeign, Overlay.countdown?]
  case grant app =>
    simp only [step, Outcome.map, grant]
    split
    · exact foreign_of_nil rfl
    · split
      · simp [Effect.surface?, Surface.Action.IsForeign, Overlay.countdown?]
      · exact foreign_of_nil rfl
  all_goals first | exact foreign_of_nil rfl | cases h

/-- The switch of tamper protection shows nothing. -/
theorem setTamper_surface (e : Engine) (on : Bool) :
    (e.setTamper on).effects.filterMap Effect.surface? = [] := by
  cases on with
  | true => rfl
  | false =>
    simp only [setTamper, Outcome.also, Outcome.within, Bypass.setEnabled, Bool.false_eq_true,
      if_false, List.filterMap_append, Bypass.clear_surface, record_surface, List.append_nil]

/-- A page that is blocked gets a notice, and its user is sent home. -/
theorem navigate_surface_or (e : Engine) (host : Host) (n : Navigation) :
    (e.navigate host n).effects.filterMap Effect.surface? = [] ∨
      (e.navigate host n).effects.filterMap Effect.surface? = e.blockingActions n := by
  cases hs : e.stopped with
  | true =>
    left
    unfold navigate
    rw [hs]
    rfl
  | false =>
    rw [navigate_surface hs]
    split
    · exact .inr rfl
    · exact .inl rfl

/-- Settings pages are covered by notices, and by nothing else. -/
theorem surface_of_tamper (h : i.call.part = .tamper) :
    (e.step i).effects.filterMap Effect.surface? = [] ∨
      ∃ n, (e.step i).effects.filterMap Effect.surface? = e.blockingActions n := by
  obtain ⟨host, call⟩ := i
  -- Only a report about a page may block one; the other calls read, switch or clear.
  cases call
  case navigate n => exact (e.navigate_surface_or host n).imp_right fun hn => ⟨n, hn⟩
  case setTamper on => exact .inl (e.setTamper_surface on)
  case withinBypass => exact .inl poll_surface
  case remainingBypass => exact .inl poll_surface
  case gate =>
    left
    simp only [step, gate, Outcome.map, Outcome.bind, Outcome.within, Bypass.gate,
      List.filterMap_append, poll_surface, Bypass.poll_surface, List.nil_append]
  case status =>
    left
    simp only [step, status, Outcome.map, Outcome.bind, remainingBypass, Outcome.answering,
      List.append_nil, poll_surface]
  case confirm c => exact .inl (Bypass.confirm_surface ..)
  case clearBypass =>
    left
    simp only [step, clearBypass, Outcome.map, Outcome.also, Outcome.within, List.filterMap_append,
      Bypass.clear_surface, List.nil_append]
    exact record_surface _ _
  all_goals first | exact .inl rfl | cases h

/-- A notice is not a countdown. -/
theorem foreign_of_tamper (h : i.call.part = .tamper) :
    ∀ a ∈ (e.step i).effects.filterMap Effect.surface?, a.IsForeign := by
  rcases surface_of_tamper (e := e) h with hnone | ⟨n, hn⟩
  · exact foreign_of_nil hnone
  · rw [hn, blockingActions]
    cases e.clearRecents <;> simp [Surface.Action.IsForeign, Overlay.countdown?]

/-! ### Restricted content -/

/-- Switching keyword protection off hides the countdowns that it ends. -/
theorem followedBy_setKeyword (e : Engine) (on : Bool) : e.FollowedBy (e.setKeyword on) := by
  cases on with
  | true => exact followedBy_foreign (fun _ => rfl) (foreign_of_nil rfl)
  | false => exact followedBy_within (fun _ => rfl) (Keyword.follows_cancelAll e.keywords)

/-- A timer event reaches the guard of a running engine. -/
theorem followedBy_timer (e : Engine) (host : Host) (event : TimerEvent) :
    e.FollowedBy (e.timer host event) := by
  have hdeliver := Keyword.follows_deliver e.keywords (e.isViolating host) host.nextTimer event
  cases hs : e.stopped with
  | true =>
    rw [timer_stopped hs]
    exact e.followedBy_answering ()
  | false =>
    rw [timer_running hs]
    exact FollowedBy.also (o := (e.keywords.deliver (e.isViolating host) host.nextTimer event).within
      fun keywords => { e with keywords }) hdeliver (record_surface _ _)

/-- Texts, deferrals and timer events show what the guard makes of them. -/
theorem followedBy_of_keyword (h : i.call.part = .keyword) : e.FollowedBy (e.step i) := by
  obtain ⟨host, call⟩ := i
  -- Whatever does not reach the guard leaves both sides alone.
  cases call
  case setKeyword on => exact e.followedBy_setKeyword on
  case content app text =>
    show e.FollowedBy (e.content host app text)
    cases h : e.heeds text with
    | true =>
      rw [content_of_heeds h]
      exact Keyword.follows_violate e.keywords app host.nextTimer
    | false =>
      rw [content_of_not_heeds h]
      exact e.followedBy_answering none
  case deferChallenge app =>
    show e.FollowedBy (e.deferChallenge host app)
    cases hs : e.stopped with
    | true =>
      rw [deferChallenge_stopped hs]
      exact e.followedBy_answering false
    | false =>
      rw [deferChallenge_running hs]
      refine FollowedBy.also ?_ (record_surface _ _)
      exact Keyword.follows_defer e.keywords app host.nextTimer
  case timer event => exact e.followedBy_timer host event
  all_goals first | exact followedBy_foreign (fun _ => rfl) (foreign_of_nil rfl) | cases h

/-! ### The whole engine -/

/-- A switch keeps up if setting it does. -/
theorem followedBy_switch {now wanted : Bool} {move : Engine → Bool → Outcome Engine Unit}
    (hmove : ∀ e on, FollowedBy e (move e on)) (e : Engine) :
    e.FollowedBy (switch now wanted move e) := by
  unfold switch
  split
  · exact e.followedBy_answering ()
  · exact hmove e wanted

/-- New settings leave the running countdowns as they are, unless a switch ends them. -/
theorem followedBy_reload (e : Engine) (s : Settings) : e.FollowedBy (e.reload s) := by
  have hLock (e : Engine) (on : Bool) : e.FollowedBy (e.setAppLock on) :=
    followedBy_foreign (fun _ => by rw [setAppLock_state]) (e.setAppLock_foreign on)
  have hTamper (e : Engine) (on : Bool) : e.FollowedBy (e.setTamper on) :=
    followedBy_foreign (fun _ => by rw [setTamper_state]) (foreign_of_nil (e.setTamper_surface on))
  -- The new lengths are those of countdowns to come, so the engine that has them shows the same.
  have hretune {o : Outcome Engine Unit} (h : (e.retune s).FollowedBy o) : e.FollowedBy o :=
    fun screen hs => h screen ⟨hs.distinct, hs.mem⟩
  exact hretune ((followedBy_switch hLock _).bind
    ((followedBy_switch hTamper _).bind (followedBy_switch followedBy_setKeyword _)))

/-- Shutting down takes all countdowns off the screen. -/
theorem followedBy_shutdown (e : Engine) : e.FollowedBy e.shutdown := by
  unfold shutdown
  split
  · exact e.followedBy_answering ()
  · -- Shutting down ends the challenges as switching off does, and shows nothing else.
    exact (followedBy_within (fun _ => rfl) (Keyword.follows_cancelAll e.keywords)).also rfl

/-- Every call keeps the countdowns on the screen up to date. -/
theorem followedBy_step (e : Engine) (i : Input) : e.FollowedBy (e.step i) := by
  cases hpart : i.call.part
  case lock =>
    have hguard := e.keywords_of_part (.inl hpart)
    exact followedBy_foreign (fun _ => by rw [hguard]) (foreign_of_lock hpart)
  case tamper =>
    have hguard := e.keywords_of_part (.inr hpart)
    exact followedBy_foreign (fun _ => by rw [hguard]) (foreign_of_tamper hpart)
  case keyword => exact followedBy_of_keyword hpart
  case whole =>
    obtain ⟨host, call⟩ := i
    cases call
    case reload s => exact e.followedBy_reload s
    case shutdown => exact e.followedBy_shutdown
    all_goals cases hpart

/-! ### Runs -/

/-- The actions of a run take the countdowns of a screen along. -/
theorem follows_run (e₀ : Engine) (inputs : List Input) :
    Keyword.Follows e₀.keywords (e₀.run inputs).keywords (e₀.actions inputs) := by
  -- On the calls, the last one apart: the screen so far is followed by one more step.
  induction inputs using List.reverseRecOn with
  | nil => exact Keyword.follows_foreign (fun _ => rfl) (by simp [actions, history])
  | append_singleton inputs i ih =>
    rw [run_concat, actions_concat]
    exact ih.append ((e₀.run inputs).followedBy_step i)

/-- An app is counting if the guard has seconds left for it. -/
theorem challenge?_eq_counting {n : Nat} :
    e.challenge? app = some (.counting n) ↔ e.keywords.remaining? app = some n :=
  Keyword.Guard.remaining?_eq_some.symm

/-! ### The front -/

/-- Whether a countdown makes room for the others: its user defers it, or it runs out. -/
def Moment.Yields (m : Moment) : Prop :=
  match m.input.call with
  | .deferChallenge _ => m.outcome.answer = .flag true
  | .timer (.tick app generation) => m.engine.stopped = false ∧
      (m.engine.keywords.tick app generation m.input.host.nextTimer).answer = .expired
  | _ => False

/-- Once a countdown has made room, the most urgent of the others is in front of the screen. -/
theorem front_step {other : String} {k : Nat} (h : Moment.Yields ⟨e, i⟩)
    (hother : (e.step i).state.keywords.remaining? other = some k) (screen : Screen) :
    ∃ app n, (e.step i).state.keywords.Front app n ∧
      (screen.applyAll (Moment.actions ⟨e, i⟩)).head? = some (.keyword app n) := by
  obtain ⟨host, call⟩ := i
  unfold Moment.actions Moment.outcome
  -- Only two calls make a countdown yield, and the guard knows who is in front after each of them.
  cases call
  case deferChallenge app =>
    have hanswer : (e.deferChallenge host app).answer = true := Answer.flag.inj h
    change (e.deferChallenge host app).state.keywords.remaining? other = some k at hother
    show ∃ app' n, (e.deferChallenge host app).state.keywords.Front app' n ∧
      (screen.applyAll ((e.deferChallenge host app).effects.filterMap Effect.surface?)).head? = _
    cases hs : e.stopped with
    | true =>
      rw [deferChallenge_stopped hs] at hanswer
      cases hanswer
    | false =>
      rw [deferChallenge_running hs] at hanswer hother ⊢
      simp only [Outcome.also, List.filterMap_append, record_surface, List.append_nil]
      exact Keyword.front_defer hanswer hother screen
  case timer event =>
    cases event with
    | grace app generation => cases h
    | tick app generation =>
      obtain ⟨hs, hexpired⟩ := h
      -- The engine passes the tick on, so what it reports is what the guard found.
      have hexp : (e.keywords.deliver (e.isViolating host) host.nextTimer
          (.tick app generation)).answer = .expired := congrArg Keyword.Tick.report hexpired
      change (e.timer host (.tick app generation)).state.keywords.remaining? other = some k
        at hother
      show ∃ app' n, (e.timer host (.tick app generation)).state.keywords.Front app' n ∧
        (screen.applyAll
          ((e.timer host (.tick app generation)).effects.filterMap Effect.surface?)).head? = _
      rw [timer_running hs] at hother ⊢
      simp only [Outcome.also, Outcome.map, List.filterMap_append, record_surface, List.append_nil]
      exact Keyword.front_deliver hexp hother screen
  all_goals cases h

/-! ### The screen -/

/-- **What is on the screen.** After any run, the countdowns on the screen are those of the apps
that are counting, each once and with the seconds left to it; nothing was ever rendered anew that
was not there; and a call that makes a countdown go away for a while or for good leaves the most
urgent of the others in front of the whole screen, if there is one. -/
theorem screen_run (s : Settings) (stored : Persisted) (inputs : List Input) :
    let e₀ := start s stored
    let e := e₀.run inputs
    let screen := Screen.applyAll [] (e₀.actions inputs)
    (∀ app n, .keyword app n ∈ screen ↔ e.challenge? app = some (.counting n)) ∧
      (screen.filterMap Overlay.countdown?).Nodup ∧
      Screen.Finds [] (e₀.actions inputs) ∧
      ∀ i, Moment.Yields ⟨e, i⟩ → (∃ app n, (e.step i).state.challenge? app = some (.counting n)) →
        ∃ app n, (screen.applyAll (Moment.actions ⟨e, i⟩)).head? = some (.keyword app n) ∧
          (e.step i).state.challenge? app = some (.counting n) ∧
          ∀ other k, (e.step i).state.challenge? other = some (.counting k) →
            n < k ∨ n = k ∧ app ≤ other := by
  intro e₀ e screen
  -- The empty screen shows an engine that has no challenges yet.
  have hstart : Keyword.Shows [] e₀.keywords := ⟨List.Pairwise.nil, fun app n => by
    refine iff_of_false List.not_mem_nil ?_
    exact Option.some_ne_none n ∘ Eq.symm⟩
  obtain ⟨hshows, hfinds⟩ := follows_run e₀ inputs [] hstart
  refine ⟨fun app n => ?_, hshows.distinct.nodup_countdowns, hfinds, fun i hi hothers => ?_⟩
  · rw [challenge?_eq_counting]
    exact hshows.mem app n
  · obtain ⟨other, k, hother⟩ := hothers
    obtain ⟨app, n, ⟨hn, hleast⟩, hhead⟩ := front_step hi (challenge?_eq_counting.1 hother) screen
    refine ⟨app, n, hhead, challenge?_eq_counting.2 hn, fun other k hother => ?_⟩
    exact hleast other k (challenge?_eq_counting.1 hother)

/-- Of two apps with restricted content, the one that came first is brought to the front when the
user of the other defers. -/
theorem screen_run_deferred :
    let e₀ := start { keywords := ["casino"] } .empty
    let inputs : List Input :=
      [⟨silentHost 0, .content "browser" "casino"⟩, ⟨silentHost 0, .content "reader" "casino"⟩]
    let deferral : Input := ⟨silentHost 5, .deferChallenge "reader"⟩
    Moment.Yields ⟨e₀.run inputs, deferral⟩ ∧
      ((Screen.applyAll [] (e₀.actions inputs)).applyAll
        (Moment.actions ⟨e₀.run inputs, deferral⟩)).head? = some (.keyword "browser" 15) ∧
      ∀ other k, ((e₀.run inputs).step deferral).state.challenge? other = some (.counting k) →
        15 < k ∨ 15 = k ∧ "browser" ≤ other := by
  intro e₀ inputs deferral
  -- The deferral is accepted, and the other app is still counting after it.
  have hyields : Moment.Yields ⟨e₀.run inputs, deferral⟩ := by
    show ((e₀.run inputs).step deferral).answer = .flag true
    decide +kernel
  have hcounting : ((e₀.run inputs).step deferral).state.challenge? "browser" =
      some (.counting 15) := by decide +kernel
  have hhead : ((Screen.applyAll [] (e₀.actions inputs)).applyAll
      (Moment.actions ⟨e₀.run inputs, deferral⟩)).head? = some (.keyword "browser" 15) := by
    decide +kernel
  obtain ⟨-, -, -, hfront⟩ := screen_run { keywords := ["casino"] } .empty inputs
  obtain ⟨app, n, happ, -, hleast⟩ := hfront deferral hyields ⟨"browser", 15, hcounting⟩
  rw [hhead] at happ
  cases happ
  exact ⟨hyields, hhead, hleast⟩

end Warden.Engine
