import Warden.Proofs.Bypass
import Warden.Tamper

namespace Warden.Tamper

/-!
# What a report about a page comes to

Four facts decide about a report: whether its attempt is pending, that is, answered and not over;
whether the page is about the protected app; whether the capability behind it is active; and whether
the gate is shut for attempts.

* `Live host c` — the third of these facts, as the host reports it.
* `Verdict` — for each answer, when it is given.
* `decide_verdict` — the answers of `decide` are these.
* `isTriggered_decide` — what is pending after a report.
-/

variable {t : Tamper} {b : Bypass} {host : Host} {n : Navigation} {c : Category}

/-! ### The capability behind a page -/

/-- Whether the capability that a category guards, if it guards one, is reported active. -/
def Live (host : Host) (c : Category) : Prop :=
  ∀ capability, c.guarded? = some capability → host.capability capability = some true

/-- The capability of a category is found active if it is reported so, or if there is none to
report. -/
theorem guardActive_answer (b : Bypass) (host : Host) (c : Category) :
    (guardActive b host c).answer = true ↔ Live host c := by
  unfold guardActive Live
  cases c.guarded? with
  | none => simp
  | some capability =>
    simp only [Bypass.confirm_answer, Option.some.injEq, forall_eq']
    cases host.capability capability <;> simp

/-- Asking for it does not move the switch. -/
@[simp] theorem guardActive_enabled : (guardActive b host c).state.enabled = b.enabled := by
  unfold guardActive
  split
  · rfl
  · exact Bypass.confirm_enabled ..

/-- Nor does it open or close the window. -/
theorem isOpen_guardActive {now : Nat} :
    (guardActive b host c).state.IsOpen now ↔ b.IsOpen now := by
  unfold guardActive
  split
  · rfl
  · exact Bypass.isOpen_confirm ..

theorem guardActive_surface :
    (guardActive b host c).effects.filterMap Effect.surface? = [] := by
  unfold guardActive
  split
  · rfl
  · exact Bypass.confirm_surface ..

/-- The gate that is asked after the capability is the gate before it. -/
theorem guarded_gate (b : Bypass) (host : Host) (c : Category) :
    ((guardActive b host c).state.gate host.now).answer = true ↔
      b.enabled = true ∧ ¬ b.IsOpen host.now := by
  rw [Bypass.gate_answer, guardActive_enabled, isOpen_guardActive]

/-! ### The answer -/

/-- When each answer to a report is given. -/
structure Verdict (pending targeted live gate : Prop) (n : Navigation) (now : Nat) (d : Decision) :
    Prop where
  released : d = .released ↔ n.foregrounded = false ∧ pending
  ignored : d = .ignored ↔ n.foregrounded = false ∧ ¬ pending
  debounced : d = .debounced ↔ n.foregrounded = true ∧ pending
  notTargeted : d = .suppressed .notTargeted ↔ n.foregrounded = true ∧ ¬ pending ∧ ¬ targeted
  capabilityInactive : d = .suppressed .capabilityInactive ↔
    n.foregrounded = true ∧ ¬ pending ∧ targeted ∧ ¬ live
  gateClosed : d = .suppressed .gateClosed ↔
    n.foregrounded = true ∧ ¬ pending ∧ targeted ∧ live ∧ ¬ gate
  trigger (attempt : Attempt) : d = .trigger attempt ↔
    n.foregrounded = true ∧ ¬ pending ∧ targeted ∧ live ∧ gate ∧ attempt = ⟨n.category, true, now⟩

/-- The answer to a report is the one that the four facts ask for. -/
theorem decide_verdict (t : Tamper) (b : Bypass) (host : Host) (n : Navigation) :
    Verdict (t.isTriggered n.category = true)
      (t.policy.resolve n.category (host.targeting n) = true) (Live host n.category)
      (b.enabled = true ∧ ¬ b.IsOpen host.now) n host.now (t.decide b host n).answer := by
  rw [← guarded_gate b host n.category, ← guardActive_answer b]
  unfold decide
  dsimp only
  -- The four facts are looked at one after the other, and the first one that fails gives the
  -- answer.
  cases hin : n.foregrounded
  · cases hp : t.isTriggered n.category <;> constructor <;> simp [hin]
  cases hp : t.isTriggered n.category
  · cases ht : t.policy.resolve n.category (host.targeting n)
    · constructor <;> simp [hin]
    cases hl : (guardActive b host n.category).answer
    · constructor <;> simp [hin]
    cases hg : ((guardActive b host n.category).state.gate host.now).answer
    · constructor <;> simp [hin]
    · constructor <;> simp [hin, eq_comm]
  · constructor <;> simp [hin]

/-! ### The state -/

/-- No report moves the switch of tamper protection. -/
theorem decide_enabled : (t.decide b host n).state.2.enabled = b.enabled := by
  -- Whoever gets as far as the gate has asked for the capability and read the window.
  have hgate : ((guardActive b host n.category).state.gate host.now).state.enabled = b.enabled :=
    (Bypass.poll_enabled _ _).trans guardActive_enabled
  unfold decide
  dsimp only
  split
  · rfl
  split
  · rfl
  split
  · rfl
  split
  · exact guardActive_enabled
  split <;> exact hgate

/-- No report moves the policy. -/
theorem decide_policy : (t.decide b host n).state.1.policy = t.policy := by
  unfold decide
  dsimp only
  split
  · rfl
  split
  · rfl
  split
  · rfl
  split
  · rfl
  split <;> rfl

/-- An attempt that is noted is pending, with those before it. -/
theorem isTriggered_arm {d : Category} :
    (t.arm c).isTriggered d = true ↔ c = d ∨ t.isTriggered d = true := by
  simp only [isTriggered, arm, List.contains_iff_mem, List.mem_cons]
  rw [eq_comm (a := d)]

/-- One that is released is not. -/
theorem isTriggered_release {d : Category} :
    (t.release c).isTriggered d = true ↔ c ≠ d ∧ t.isTriggered d = true := by
  simp only [isTriggered, release, List.contains_iff_mem, List.mem_filter, bne_iff_ne]
  rw [and_comm, ne_comm]

/-- An attempt that is answered is pending from then on, until its page leaves the foreground. -/
theorem isTriggered_decide (t : Tamper) (b : Bypass) (host : Host) (n : Navigation) (c : Category) :
    (t.decide b host n).state.1.isTriggered c = true ↔
      (n.category = c ∧ ∃ attempt, (t.decide b host n).answer = .trigger attempt) ∨
        ¬ (n.category = c ∧ n.foregrounded = false) ∧ t.isTriggered c = true := by
  unfold decide
  dsimp only
  -- A page that leaves releases its category; one that comes arms it only at the end of the
  -- decision.
  cases hin : n.foregrounded
  · rw [Bool.not_false, if_pos rfl, isTriggered_release]
    split <;> simp
  · rw [Bool.not_true, if_neg Bool.false_ne_true]
    split
    · simp
    split
    · simp
    split
    · simp
    split
    · simp
    · rw [isTriggered_arm]
      simp

/-- Deciding alone shows nothing. -/
theorem decide_surface (t : Tamper) (b : Bypass) (host : Host) (n : Navigation) :
    (t.decide b host n).effects.filterMap Effect.surface? = [] := by
  unfold decide
  dsimp only
  split
  · rfl
  split
  · rfl
  split
  · rfl
  have hgate : ((guardActive b host n.category).state.gate host.now).effects.filterMap
      Effect.surface? = [] := Bypass.poll_surface
  split
  · exact guardActive_surface
  · split <;> simp only [List.filterMap_append, guardActive_surface, hgate, List.append_nil]

end Warden.Tamper
