import Warden.Surface

namespace Warden

/-!
# What is on the screen

What each action makes of the overlays on the screen, seen as a set of overlays.

* `Overlay.same_self`, `Overlay.same_comm`, `Overlay.same_trans` — being the same overlay is an
  equivalence.
* `Screen.mem_show`, `Screen.mem_update`, `Screen.mem_hide` — which overlays are there after an
  action.
* `Screen.Distinct` — no overlay is there twice; `Distinct.applyAll` keeps it so.
* `Surface.Action.IsForeign` — an action has nothing to do with countdowns.
* `Surface.Action.SparesPrompts` — an action leaves the prompts for PINs alone.
* `Screen.Finds` — every rendering anew finds its overlay.
-/

/-! ### Identity -/

namespace Overlay

variable {o p q : Overlay} {app : String} {n : Nat}

/-- Every overlay is the same as itself. -/
@[simp] theorem same_self (o : Overlay) : o.same o = true := by
  cases o <;> simp [same]

/-- It does not matter which of two overlays is asked about the other. -/
theorem same_comm (o p : Overlay) : o.same p = p.same o := by
  cases o <;> cases p <;> simp only [same, Bool.beq_comm]

/-- Overlays that are the same as a third one are the same. -/
theorem same_trans (h : o.same p = true) (h' : p.same q = true) : o.same q = true := by
  cases o <;> cases p <;> cases q <;> simp_all [same]

/-- The app of a countdown. -/
def countdown? : Overlay → Option String
  | .keyword app _ => some app
  | _ => none

/-- The same as a countdown is every countdown of its app, whatever time it shows. -/
theorem same_keyword : p.same (.keyword app n) = true ↔ p.countdown? = some app := by
  cases p <;> simp [same, countdown?]

/-- The same the other way round. -/
theorem keyword_same : (keyword app n).same p = true ↔ p.countdown? = some app := by
  rw [same_comm, same_keyword]

/-- The app of a prompt. -/
def prompt? : Overlay → Option String
  | .appLock app => some app
  | _ => none

/-- The same as a prompt is the prompt of its app. -/
theorem appLock_same : (appLock app).same p = true ↔ p.prompt? = some app := by
  cases p with
  | appLock a =>
    rw [same, prompt?, beq_iff_eq, Option.some.injEq]
    exact eq_comm
  | _ => simp [same, prompt?]

end Overlay

/-! ### Overlays after an action -/

/-- Whether an action has nothing to do with countdowns, and renders nothing anew. -/
def Surface.Action.IsForeign : Surface.Action → Prop
  | .show o _ | .hide o => o.countdown? = none
  | .update _ => False
  | .goHome _ | .clearRecents _ => True

/-- Whether an action leaves the prompts for PINs alone. -/
def Surface.Action.SparesPrompts : Surface.Action → Prop
  | .show o _ | .update o | .hide o => o.prompt? = none
  | .goHome _ | .clearRecents _ => True

namespace Screen

variable {s : Screen} {o p : Overlay} {message : String} {a : Surface.Action}
  {actions rest : List Surface.Action} {app : String} {n : Nat}

/-- Removing an overlay leaves all that are not the same. -/
theorem mem_without : p ∈ s.without o ↔ p ∈ s ∧ p.same o = false := by
  simp [without]

/-- An overlay that is shown takes the place of one that is the same. -/
theorem mem_show : p ∈ s.apply (.show o message) ↔ p = o ∨ p ∈ s ∧ p.same o = false := by
  rw [apply, List.mem_cons, mem_without]

/-- An overlay that is hidden goes, in whatever state it is. -/
theorem mem_hide : p ∈ s.apply (.hide o) ↔ p ∈ s ∧ p.same o = false := mem_without

/-- An overlay that is rendered anew takes the place of one that is the same, if there is one;
otherwise nothing happens. -/
theorem mem_update :
    p ∈ s.apply (.update o) ↔
      p = o ∧ (∃ q ∈ s, q.same o = true) ∨ p ∈ s ∧ p.same o = false := by
  simp only [apply, List.mem_map]
  constructor
  · rintro ⟨q, hq, rfl⟩
    cases hsame : q.same o
    · exact .inr ⟨hq, hsame⟩
    · exact .inl ⟨rfl, q, hq, hsame⟩
  · rintro (⟨rfl, q, hq, hsame⟩ | ⟨hp, hsame⟩)
    · exact ⟨q, hq, if_pos hsame⟩
    · exact ⟨p, hp, if_neg (by simp [hsame])⟩

/-- A foreign action leaves the countdowns as they are. -/
theorem mem_foreign (h : a.IsForeign) : .keyword app n ∈ s.apply a ↔ .keyword app n ∈ s := by
  -- What is no countdown is the same as none.
  have hother {o : Overlay} (ho : o.countdown? = none) :
      (Overlay.keyword app n).same o = false := by
    rw [← Bool.not_eq_true, Overlay.keyword_same, ho]
    exact Option.some_ne_none app ∘ Eq.symm
  cases a with
  | «show» o message =>
    rw [mem_show, hother h, or_iff_right, and_iff_left rfl]
    rintro rfl
    cases h
  | hide o => rw [mem_hide, hother h, and_iff_left rfl]
  | update o => exact h.elim
  | goHome reason => rfl
  | clearRecents navigation => rfl

/-- An action that is not about a prompt leaves the prompts as they are. -/
theorem mem_of_spares (h : a.SparesPrompts) : .appLock app ∈ s.apply a ↔ .appLock app ∈ s := by
  -- What is no prompt is neither the same as one nor one itself.
  have hother {o : Overlay} (ho : o.prompt? = none) : (Overlay.appLock app).same o = false := by
    rw [← Bool.not_eq_true, Overlay.appLock_same, ho]
    exact Option.some_ne_none app ∘ Eq.symm
  have hne {o : Overlay} (ho : o.prompt? = none) : .appLock app ≠ o := by
    rintro rfl
    cases ho
  cases a with
  | «show» o message => rw [mem_show, hother h, and_iff_left rfl, or_iff_right (hne h)]
  | update o =>
    rw [mem_update, hother h, and_iff_left rfl, or_iff_right]
    exact fun hsame => hne h hsame.1
  | hide o => rw [mem_hide, hother h, and_iff_left rfl]
  | goHome reason => rfl
  | clearRecents navigation => rfl

/-- Actions that are not about prompts leave the prompts as they are. -/
theorem mem_applyAll_of_spares (h : ∀ a ∈ actions, a.SparesPrompts) :
    .appLock app ∈ s.applyAll actions ↔ .appLock app ∈ s := by
  induction actions generalizing s with
  | nil => rfl
  | cons a rest ih =>
    rw [List.forall_mem_cons] at h
    exact (ih h.2).trans (mem_of_spares h.1)

/-- A prompt is shown beside those of other apps. -/
theorem mem_show_prompt {other : String} :
    .appLock app ∈ s.apply (.show (.appLock other) message) ↔ app = other ∨ .appLock app ∈ s := by
  rw [mem_show, Overlay.appLock.injEq]
  by_cases happ : app = other
  · simp [happ]
  · simp [happ, Overlay.same]

/-- Hiding a prompt leaves those of other apps where they are. -/
theorem mem_hide_prompt {other : String} :
    .appLock app ∈ s.apply (.hide (.appLock other)) ↔ app ≠ other ∧ .appLock app ∈ s := by
  rw [mem_hide, and_comm]
  by_cases happ : app = other
  · simp [happ, Overlay.same]
  · simp [happ, Overlay.same]

/-- What is left after several overlays were removed. -/
theorem mem_hideAll {overlays : List Overlay} :
    p ∈ s.applyAll (overlays.map .hide) ↔ p ∈ s ∧ ∀ o ∈ overlays, p.same o = false := by
  -- On the overlays that go, one after another.
  induction overlays generalizing s with
  | nil => exact (and_iff_left fun o ho => by cases ho).symm
  | cons o rest ih =>
    show p ∈ (s.apply (.hide o)).applyAll (rest.map .hide) ↔ _
    rw [ih, mem_hide, List.forall_mem_cons, and_assoc]

/-! ### No overlay twice -/

/-- Whether no overlay is on the screen twice. -/
def Distinct (s : Screen) : Prop := s.Pairwise fun o p => o.same p = false

/-- No action puts an overlay on the screen twice. -/
theorem Distinct.apply (h : s.Distinct) (a : Surface.Action) : (s.apply a).Distinct := by
  cases a with
  | «show» o message =>
    -- The overlay that was the same has gone before.
    refine List.pairwise_cons.2 ⟨fun p hp => ?_, h.filter _⟩
    rw [Overlay.same_comm]
    exact (mem_without.1 hp).2
  | update o =>
    refine List.pairwise_map.2 (h.imp fun {p q} hpq => ?_)
    -- At most one of two overlays is the one that is rendered anew.
    cases hp : p.same o <;> cases hq : q.same o
    · exact hpq
    · exact hp
    · rw [if_pos rfl, if_neg Bool.false_ne_true, Overlay.same_comm]
      exact hq
    · rw [Overlay.same_comm] at hq
      exact absurd (Overlay.same_trans hp hq) (by simp [hpq])
  | hide o => exact h.filter _
  | goHome reason => exact h
  | clearRecents navigation => exact h

@[simp] theorem applyAll_singleton : s.applyAll [a] = s.apply a := rfl

theorem applyAll_append : s.applyAll (actions ++ rest) = (s.applyAll actions).applyAll rest :=
  List.foldl_append ..

/-- No row of actions puts an overlay on the screen twice. -/
theorem Distinct.applyAll (h : s.Distinct) (actions : List Surface.Action) :
    (s.applyAll actions).Distinct := by
  induction actions generalizing s with
  | nil => exact h
  | cons a rest ih => exact ih (h.apply a)

/-- Where no overlay is twice, each app has at most one countdown. -/
theorem Distinct.nodup_countdowns (h : s.Distinct) :
    (s.filterMap Overlay.countdown?).Nodup := by
  refine List.Pairwise.filterMap _ (fun o p hop app happ other hother => ?_) h
  -- Two countdowns of one app would be the same overlay.
  rintro rfl
  cases o <;> cases p <;> simp_all [Overlay.countdown?, Overlay.same]

/-! ### Rendering anew -/

/-- Whether every overlay that is rendered anew is on the screen at that moment. -/
def Finds (s : Screen) (actions : List Surface.Action) : Prop :=
  ∀ before o after, actions = before ++ .update o :: after →
    ∃ p ∈ s.applyAll before, p.same o = true

/-- A single action finds its overlay if that is on the screen. -/
theorem finds_singleton (h : ∀ o, a = .update o → ∃ p ∈ s, p.same o = true) : s.Finds [a] := by
  intro before o after hsplit
  cases before with
  | nil => exact h o (List.cons.inj hsplit).1
  | cons b before => cases before <;> cases (List.cons.inj hsplit).2

/-- Where nothing is rendered anew, there is nothing to find. -/
theorem finds_of_no_update (h : ∀ o, .update o ∉ actions) : s.Finds actions := by
  rintro before o after rfl
  exact (h o (by simp)).elim

/-- Actions that have nothing to do with countdowns render nothing anew. -/
theorem finds_of_foreign (h : ∀ a ∈ actions, a.IsForeign) : s.Finds actions :=
  finds_of_no_update fun o hmem => h (.update o) hmem

/-- A row of actions finds its overlays if each of its two parts does, the second on the screen that
the first one leaves. -/
theorem Finds.append (h : s.Finds actions) (hrest : (s.applyAll actions).Finds rest) :
    s.Finds (actions ++ rest) := by
  intro before o after hsplit
  -- The rendering stands in one of the two parts; at the seam it is the first action of the second.
  rcases List.append_eq_append_iff.1 hsplit with
    ⟨middle, rfl, hmiddle⟩ | ⟨middle, hactions, hmiddle⟩
  · rw [applyAll_append]
    exact hrest middle o after hmiddle
  · cases middle with
    | nil =>
      rw [List.append_nil] at hactions
      subst hactions
      exact hrest [] o after hmiddle.symm
    | cons a middle =>
      obtain ⟨rfl, -⟩ := List.cons.inj hmiddle
      exact h before o middle hactions

end Screen

end Warden
