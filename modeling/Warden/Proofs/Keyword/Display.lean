import Warden.Proofs.Keyword.Steps
import Warden.Proofs.Screen

namespace Warden.Keyword

/-!
# Countdowns on the screen

A guard keeps no record of the screen, but its actions keep the countdowns there in step with its
challenges.

* `Guard.remaining?` — the seconds left to an app.
* `Shows s g` — the countdowns on a screen are the running ones of a guard, as they stand.
* `Follows g g' actions` — the actions take every screen that shows `g` to one that shows `g'`.
* `follows_violate`, `follows_defer`, `follows_deliver`, `follows_cancelAll` — the actions of every
  step do.
* `Guard.Front` — the most urgent countdown; `front_defer`, `front_deliver` — it is in front of all
  overlays once another one has gone away.
-/

variable {g g' g'' : Guard} {s : Screen} {app other : String} {c : Challenge} {n k : Nat}
  {timer : TimerId} {generation : Nat} {violating : String → Bool}
  {actions rest : List Surface.Action}

/-! ### The running countdowns -/

namespace Guard

/-- The seconds left to an app while its countdown is running. -/
def remaining? (g : Guard) (app : String) : Option Nat :=
  (g.challenge? app).bind fun c => c.phase.remaining?

/-- An app has seconds left if its challenge is counting. -/
theorem remaining?_eq_some :
    g.remaining? app = some n ↔ (g.challenge? app).map (·.phase) = some (.counting n) := by
  unfold remaining?
  cases g.challenge? app with
  | none => simp
  | some c => cases hp : c.phase <;> simp [hp, Phase.remaining?]

/-- The seconds left are those of the challenge. -/
theorem remaining?_of (hc : g.challenge? app = some c) : g.remaining? app = c.phase.remaining? := by
  rw [remaining?, hc]
  rfl

/-- A new challenge decides about the seconds of its app. -/
@[simp] theorem remaining?_having :
    (g.having app c).remaining? other =
      if other = app then c.phase.remaining? else g.remaining? other := by
  unfold remaining?
  rw [challenge?_having]
  split <;> rfl

/-- An app without a challenge has no seconds left. -/
@[simp] theorem remaining?_without :
    (g.without app).remaining? other = if other = app then none else g.remaining? other := by
  unfold remaining?
  rw [challenge?_without]
  split <;> rfl

@[simp] theorem remaining?_renewed : g.renewed.remaining? app = g.remaining? app := rfl

/-- The running countdowns are those of the apps that have seconds left. -/
theorem mem_running : (n, app) ∈ g.running ↔ g.remaining? app = some n := by
  unfold running
  rw [List.mem_filterMap, remaining?_eq_some]
  constructor
  · rintro ⟨⟨a, c⟩, hc, hentry⟩
    cases hp : c.phase with
    | grace => simp [hp, Phase.remaining?] at hentry
    | counting m =>
      simp only [hp, Phase.remaining?, Option.map_some, Option.some.injEq, Prod.mk.injEq] at hentry
      obtain ⟨rfl, rfl⟩ := hentry
      rw [challenge?, AppTable.mem_entries.1 hc, Option.map_some, hp]
  · intro hphase
    obtain ⟨c, hc, hp⟩ := Option.map_eq_some_iff.1 hphase
    exact ⟨(app, c), AppTable.mem_entries.2 hc, by simp [hp, Phase.remaining?]⟩

/-! ### The most urgent countdown -/

/-- Whether the first of two countdowns goes before the second, or they are the same. -/
def Precedes (a b : Nat × String) : Prop := a.1 < b.1 ∨ a.1 = b.1 ∧ a.2 ≤ b.2

/-- Of two countdowns one goes before the other, unless the other one is more urgent. -/
theorem not_isMoreUrgent {a b : Nat × String} : isMoreUrgent b a = false ↔ Precedes a b := by
  unfold isMoreUrgent Precedes
  rw [← Bool.not_eq_true, Bool.or_eq_true, Bool.and_eq_true, decide_eq_true_eq, beq_iff_eq,
    decide_eq_true_eq, ← String.not_lt]
  by_cases hlt : b.2 < a.2
  · simp only [hlt, and_true, not_true, and_false, or_false]
    omega
  · simp only [hlt, and_false, or_false, not_false_iff, and_true]
    omega

/-- What is more urgent goes before. -/
theorem isMoreUrgent_precedes {a b : Nat × String} (h : isMoreUrgent a b = true) :
    Precedes a b := by
  unfold isMoreUrgent at h
  rw [Bool.or_eq_true, Bool.and_eq_true, decide_eq_true_eq, beq_iff_eq, decide_eq_true_eq] at h
  rcases h with h | ⟨heq, hlt⟩
  · exact .inl h
  · exact .inr ⟨heq, String.not_lt.1 (String.lt_asymm hlt)⟩

/-- The order is transitive. -/
theorem Precedes.trans {a b c : Nat × String} (h : Precedes a b) (h' : Precedes b c) :
    Precedes a c := by
  -- By seconds or by names, for each of the two.
  rcases h with h | ⟨heq, hle⟩ <;> rcases h' with h' | ⟨heq', hle'⟩
  · exact .inl (by omega)
  · exact .inl (by omega)
  · exact .inl (by omega)
  · exact .inr ⟨heq.trans heq', String.le_trans hle hle'⟩

/-- Where anything is running, something is the most urgent. -/
theorem mostUrgent_eq_none {entries : List (Nat × String)} :
    mostUrgent entries = none ↔ entries = [] := by
  cases entries with
  | nil => exact iff_of_true rfl rfl
  | cons a rest =>
    refine iff_of_false ?_ (List.cons_ne_nil a rest)
    unfold mostUrgent
    split
    · exact Option.some_ne_none a
    · split <;> exact Option.some_ne_none _

/-- The most urgent countdown of a list goes before all others. -/
theorem mostUrgent_precedes {entries : List (Nat × String)} {e a : Nat × String}
    (h : mostUrgent entries = some e) (ha : a ∈ entries) : Precedes e a := by
  -- On the list, as the most urgent one is found.
  induction entries generalizing e a with
  | nil => cases ha
  | cons b rest ih =>
    have hself (x : Nat × String) : Precedes x x := .inr ⟨rfl, String.le_refl x.2⟩
    unfold mostUrgent at h
    split at h
    next hnone =>
      cases h
      rw [mostUrgent_eq_none.1 hnone] at ha
      rw [List.mem_singleton.1 ha]
      exact hself b
    next d hd =>
      -- By induction `d` goes before the rest; the head is compared with `d` alone.
      split at h
      next hurgent =>
        cases h
        rcases List.mem_cons.1 ha with rfl | ha
        · exact isMoreUrgent_precedes hurgent
        · exact ih hd ha
      next hurgent =>
        cases h
        have hbd : Precedes b d := not_isMoreUrgent.1 (Bool.eq_false_iff.2 hurgent)
        rcases List.mem_cons.1 ha with rfl | ha
        · exact hself a
        · exact hbd.trans (ih hd ha)

/-- Whether a countdown is the most urgent one that is running. -/
def Front (g : Guard) (app : String) (n : Nat) : Prop :=
  g.remaining? app = some n ∧ ∀ other k, g.remaining? other = some k → Precedes (n, app) (k, other)

/-- The most urgent countdown is brought to the front, if any is running. -/
theorem exists_front (h : g.remaining? app = some n) :
    ∃ other k, g.Front other k ∧ g.reshow = [shown other k] := by
  unfold reshow
  cases hurgent : mostUrgent g.running with
  | none =>
    -- Only an empty list has no most urgent countdown.
    have hmem : (n, app) ∈ g.running := mem_running.2 h
    rw [mostUrgent_eq_none.1 hurgent] at hmem
    cases hmem
  | some e =>
    obtain ⟨k, other⟩ := e
    refine ⟨other, k, ⟨mem_running.1 (mostUrgent_mem hurgent), fun b m hb => ?_⟩, rfl⟩
    exact mostUrgent_precedes hurgent (mem_running.2 hb)

end Guard

/-! ### Actions that follow a guard -/

/-- Whether the countdowns on a screen are the running ones of a guard, each once and as it
stands. -/
structure Shows (s : Screen) (g : Guard) : Prop where
  distinct : s.Distinct
  mem app n : .keyword app n ∈ s ↔ g.remaining? app = some n

/-- Whether actions take every screen that shows a guard to one that shows another guard, and render
nothing anew that is not there. -/
def Follows (g g' : Guard) (actions : List Surface.Action) : Prop :=
  ∀ s : Screen, Shows s g → Shows (s.applyAll actions) g' ∧ s.Finds actions

/-- What follows a guard through one step, and then through another, follows it through both. -/
theorem Follows.append (h : Follows g g' actions) (h' : Follows g' g'' rest) :
    Follows g g'' (actions ++ rest) := by
  intro s hs
  obtain ⟨hs', hfinds⟩ := h s hs
  obtain ⟨hs'', hfinds'⟩ := h' _ hs'
  rw [Screen.applyAll_append]
  exact ⟨hs'', hfinds.append hfinds'⟩

/-- Actions that have nothing to do with countdowns follow a guard that counts as before. -/
theorem follows_foreign (hg : ∀ app, g'.remaining? app = g.remaining? app)
    (h : ∀ a ∈ actions, a.IsForeign) : Follows g g' actions := by
  intro s hs
  refine ⟨⟨hs.distinct.applyAll actions, fun app n => ?_⟩, Screen.finds_of_foreign h⟩
  rw [hg, ← hs.mem]
  -- Only membership is left, for which the screen need not show anything; so it may vary in the
  -- induction on the actions.
  clear hs hg
  induction actions generalizing s with
  | nil => rfl
  | cons a rest ih =>
    exact (ih (fun b hb => h b (List.mem_cons_of_mem a hb)) (s.apply a)).trans
      (Screen.mem_foreign (h a List.mem_cons_self))

/-- For a single action it is enough to look at what is on the screen after it. -/
theorem follows_singleton {a : Surface.Action}
    (hmem : ∀ s : Screen, Shows s g → ∀ other k,
      .keyword other k ∈ s.apply a ↔ g'.remaining? other = some k)
    (hfinds : ∀ s : Screen, Shows s g → ∀ o, a = .update o → ∃ p ∈ s, p.same o = true) :
    Follows g g' [a] := by
  intro s hs
  rw [Screen.applyAll_singleton]
  exact ⟨⟨hs.distinct.apply a, hmem s hs⟩, Screen.finds_singleton (hfinds s hs)⟩

/-- A countdown is shown as it stands. -/
theorem follows_show {message : String} (hn : g'.remaining? app = some n)
    (hg : ∀ other ≠ app, g'.remaining? other = g.remaining? other) :
    Follows g g' [.show (.keyword app n) message] := by
  refine follows_singleton (fun s hs other k => ?_) (fun s hs o h => by cases h)
  rw [Screen.mem_show, hs.mem]
  by_cases h : other = app
  · subst h
    simp [Overlay.same, hn, eq_comm]
  · simp [Overlay.same, h, hg other h]

/-- The countdown of an app goes away, whatever it showed. -/
theorem follows_hide (hnone : g'.remaining? app = none)
    (hg : ∀ other ≠ app, g'.remaining? other = g.remaining? other) :
    Follows g g' [.hide (.keyword app n)] := by
  refine follows_singleton (fun s hs other k => ?_) (fun s hs o h => by cases h)
  rw [Screen.mem_hide, hs.mem]
  by_cases h : other = app
  · subst h
    simp [Overlay.same, hnone]
  · simp [Overlay.same, h, hg other h]

/-- A countdown that is on the screen is rendered anew. -/
theorem follows_update (hk : g.remaining? app = some k) (hn : g'.remaining? app = some n)
    (hg : ∀ other ≠ app, g'.remaining? other = g.remaining? other) :
    Follows g g' [.update (.keyword app n)] := by
  -- What is there shows `k`: an overlay is known by its app, not by its seconds.
  have hthere (s : Screen) (hs : Shows s g) : ∃ q ∈ s, q.same (.keyword app n) = true :=
    ⟨_, (hs.mem app k).2 hk, Overlay.same_keyword.2 rfl⟩
  refine follows_singleton (fun s hs other m => ?_) (fun s hs o h => ?_)
  · rw [Screen.mem_update, hs.mem, and_iff_left (hthere s hs)]
    by_cases h : other = app
    · subst h
      simp [Overlay.same, hn, eq_comm]
    · simp [Overlay.same, h, hg other h]
  · cases h
    exact hthere s hs

/-- Bringing the most urgent countdown to the front changes nothing else. -/
theorem follows_reshow (g : Guard) : Follows g g (g.reshow.filterMap Effect.surface?) := by
  -- With nothing running, nothing is brought to the front.
  by_cases hrun : ∃ app n, g.remaining? app = some n
  · obtain ⟨app, n, hn⟩ := hrun
    obtain ⟨other, k, hfront, hreshow⟩ := Guard.exists_front hn
    rw [hreshow]
    exact follows_show hfront.1 fun _ _ => rfl
  · have hnone : g.running = [] := by
      refine List.eq_nil_iff_forall_not_mem.2 fun ⟨n, app⟩ hmem => hrun ⟨app, n, ?_⟩
      exact Guard.mem_running.1 hmem
    rw [Guard.reshow, hnone]
    exact follows_foreign (fun _ => rfl) (by simp [Guard.mostUrgent])

/-! ### The steps of a guard -/

/-- Whether the actions of a step follow the guard. -/
def FollowedBy {α : Type} (g : Guard) (o : Outcome Guard α) : Prop :=
  Follows g o.state (o.effects.filterMap Effect.surface?)

/-- Restricted content shows the countdown that it starts. -/
theorem follows_violate (g : Guard) (app : String) (timer : TimerId) :
    FollowedBy g (g.violate app timer) := by
  cases hc : g.challenge? app with
  | none =>
    rw [Guard.violate_idle hc]
    refine follows_show (by simp [Phase.remaining?]) fun other hne => ?_
    rw [Guard.remaining?_having, if_neg hne, Guard.remaining?_renewed]
  | some c =>
    rw [Guard.violate_live hc]
    exact follows_foreign (fun _ => rfl) (by simp)

/-- A countdown goes away, and the most urgent of the others comes to the front. -/
theorem follows_hide_reshow (hnone : g'.remaining? app = none)
    (hg : ∀ other ≠ app, g'.remaining? other = g.remaining? other) :
    Follows g g' (.hide (.keyword app n) :: g'.reshow.filterMap Effect.surface?) :=
  (follows_hide hnone hg).append (follows_reshow g')

/-- A deferral hides the countdown that is put off, if it is granted. -/
theorem follows_defer (g : Guard) (app : String) (timer : TimerId) :
    FollowedBy g (g.defer app timer) := by
  rcases g.deferrable_or app with ⟨c, n, hc, hd, hp⟩ | hno
  · rw [Guard.defer_accepted hc hd hp]
    refine follows_hide_reshow (by simp [Phase.remaining?]) fun other hne => ?_
    rw [Guard.remaining?_having, if_neg hne, Guard.remaining?_renewed]
  · rw [Guard.defer_refused hno]
    exact follows_foreign (fun _ => rfl) (by simp)

/-- The event of a timer shows, updates or hides the countdown of its app, as the challenge goes. -/
theorem follows_deliver (g : Guard) (violating : String → Bool) (timer : TimerId)
    (event : TimerEvent) : FollowedBy g (g.deliver violating timer event) := by
  have hdelivery := g.delivery violating timer event
  generalize g.deliver violating timer event = o, event.app = app at hdelivery ⊢
  cases hdelivery with
  | stale => exact follows_foreign (fun _ => rfl) (by simp)
  | @ticked c n hc hp =>
    refine follows_update (k := n + 1) (by rw [Guard.remaining?_of hc, hp]; rfl)
      (by simp [Phase.remaining?]) fun other hne => ?_
    rw [Guard.remaining?_having, if_neg hne]
  | expired =>
    have hhome : Follows g g [.goHome (.countdownExpired app)] :=
      follows_foreign (fun _ => rfl) (by simp [Surface.Action.IsForeign])
    refine hhome.append (follows_hide_reshow (by simp) fun other hne => ?_)
    rw [Guard.remaining?_without, if_neg hne]
  | resumed =>
    refine follows_show (by simp [Phase.remaining?]) fun other hne => ?_
    rw [Guard.remaining?_having, if_neg hne, Guard.remaining?_renewed]
  | resolved hc hp =>
    -- A challenge in its grace period has no countdown on the screen.
    refine follows_foreign (fun other => ?_) (by simp)
    rw [Guard.remaining?_without]
    split
    next heq => rw [heq, Guard.remaining?_of hc, hp]; rfl
    · rfl

/-- Ending a challenge hides its countdown, if it is running. -/
theorem ending_surface (app : String) (c : Challenge) :
    (Guard.ending app c).filterMap Effect.surface? =
      (c.phase.remaining?.map fun n => .hide (.keyword app n)).toList := by
  unfold Guard.ending
  cases c.phase <;> rfl

/-- Ending all challenges hides the countdowns that are running. -/
theorem cancelAll_surface (g : Guard) :
    g.cancelAll.effects.filterMap Effect.surface? =
      (g.running.map fun e => Overlay.keyword e.2 e.1).map .hide := by
  unfold Guard.cancelAll Guard.running
  generalize g.challenges.entries = entries
  -- On the entries: an entry in its grace period has nothing on the screen, and is not among the
  -- running ones.
  induction entries with
  | nil => rfl
  | cons e rest ih =>
    obtain ⟨app, c⟩ := e
    rw [List.flatMap_cons, List.filterMap_append, ih, ending_surface]
    cases hn : c.phase.remaining? <;> simp [hn]

/-- The end of all challenges hides all countdowns. -/
theorem follows_cancelAll (g : Guard) : FollowedBy g g.cancelAll := by
  have hnone (app : String) : g.cancelAll.state.remaining? app = none := rfl
  unfold FollowedBy
  rw [cancelAll_surface]
  intro s hs
  refine ⟨⟨hs.distinct.applyAll _, fun app n => ?_⟩, Screen.finds_of_no_update (by simp)⟩
  rw [hnone]
  refine iff_of_false (fun hmem => ?_) (Option.some_ne_none n ∘ Eq.symm)
  obtain ⟨hthere, hleft⟩ := Screen.mem_hideAll.1 hmem
  -- Whatever countdown is there is a running one, and all of those are hidden.
  have hrunning : (n, app) ∈ g.running := Guard.mem_running.2 ((hs.mem app n).1 hthere)
  have hhidden := hleft _ (List.mem_map_of_mem hrunning)
  rw [Overlay.same_self] at hhidden
  cases hhidden

/-! ### The front -/

/-- The countdown that is brought to the front is in front of the whole screen. -/
theorem head?_reshow (h : g.remaining? app = some n) (s : Screen) :
    ∃ other k, g.Front other k ∧
      (s.applyAll (g.reshow.filterMap Effect.surface?)).head? = some (.keyword other k) := by
  obtain ⟨other, k, hfront, hreshow⟩ := Guard.exists_front h
  exact ⟨other, k, hfront, by rw [hreshow]; rfl⟩

/-- After a deferral that counts, the most urgent countdown is in front. -/
theorem front_defer (hacc : (g.defer app timer).answer = true)
    (h : (g.defer app timer).state.remaining? other = some n) (s : Screen) :
    ∃ app' k, (g.defer app timer).state.Front app' k ∧
      (s.applyAll ((g.defer app timer).effects.filterMap Effect.surface?)).head? =
        some (.keyword app' k) := by
  rcases g.deferrable_or app with ⟨c, m, hc, hd, hp⟩ | hno
  · rw [Guard.defer_accepted hc hd hp] at h ⊢
    exact head?_reshow h (s.apply (.hide (.keyword app 0)))
  · rw [Guard.defer_refused hno] at hacc
    cases hacc

/-- After a countdown has run out, the most urgent one of the others is in front. -/
theorem front_deliver {event : TimerEvent}
    (hexp : (g.deliver violating timer event).answer = .expired)
    (h : (g.deliver violating timer event).state.remaining? other = some n) (s : Screen) :
    ∃ app' k, (g.deliver violating timer event).state.Front app' k ∧
      (s.applyAll ((g.deliver violating timer event).effects.filterMap Effect.surface?)).head? =
        some (.keyword app' k) := by
  rw [Guard.deliver_expired hexp] at h ⊢
  exact head?_reshow h ((s.apply (.goHome (.countdownExpired event.app))).apply
    (.hide (.keyword event.app 0)))

end Warden.Keyword
