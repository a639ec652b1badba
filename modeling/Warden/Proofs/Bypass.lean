import Warden.Bypass

namespace Warden.Bypass

/-!
# The open window

The bypass window is open at a time if a challenge was completed less than its length before.

* `IsOpen b t` — the window is open at the time `t`.
* `IsOpenThroughout b c` — it is open at both readings of the clock `c` in one step.
* `poll_isActive`, `gate_answer` — what readings of it answer.
* `isOpen_polled` — what a reading leaves open.
* `confirm_answer`, `isOpen_confirm` — a report about a capability is believed, and it
  leaves the window alone.
* `poll_duration`, `clear_duration`, `confirm_duration` — none of them moves its length.
-/

/-! ### The window -/

variable {b : Bypass} {now t : Nat}

/-- Whether the window is open at a time. -/
def IsOpen (b : Bypass) (t : Nat) : Prop :=
  ∃ last, b.stored.completion = some last ∧ t - last < b.duration

/-- Whether the window is open at both readings of the clock in one step. -/
def IsOpenThroughout (b : Bypass) (clock : Clock) : Prop :=
  b.IsOpen clock.first ∧ b.IsOpen clock.second

/-- While the clock stands still there is only one time to be open at. -/
theorem isOpenThroughout_still : b.IsOpenThroughout (t : Clock) ↔ b.IsOpen t := and_self_iff

/-- A reading finds the window active if and only if it is open. -/
theorem poll_isActive : (b.poll now).answer.isActive = true ↔ b.IsOpen now := by
  unfold poll IsOpen
  cases b.stored.completion with
  | none => simp [WindowState.isActive]
  | some last => by_cases h : now - last < b.duration <;> simp [h, WindowState.isActive, store]

/-- A reading never moves the switch. -/
@[simp] theorem poll_enabled (b : Bypass) (now : Nat) : (b.poll now).state.enabled = b.enabled := by
  unfold poll
  split
  · rfl
  · split <;> rfl

/-- What is open after a reading was open when it was read: a reading closes what has run out, and
nothing else. -/
theorem isOpen_polled : (b.poll now).state.IsOpen t ↔ b.IsOpen now ∧ b.IsOpen t := by
  unfold poll
  split
  next hnone => simp [IsOpen, hnone]
  next last hlast =>
    split
    next hopen =>
      -- The reading leaves the window as it is.
      exact (and_iff_right ⟨last, hlast, hopen⟩).symm
    -- The completion has run out, so the window was not open when it was read.
    next hover =>
      refine iff_of_false (by simp [IsOpen, store]) ?_
      rintro ⟨⟨last', hlast', hopen⟩, -⟩
      cases hlast.symm.trans hlast'
      exact hover hopen

/-- A reading closes nothing that is open. -/
theorem isOpen_poll : (b.poll now).state.IsOpen now ↔ b.IsOpen now := by
  rw [isOpen_polled, and_self]

/-- Attempts are blocked while protection is on and the window is not open. -/
theorem gate_answer : (b.gate now).answer = true ↔ b.enabled = true ∧ ¬ b.IsOpen now := by
  unfold gate
  rw [← poll_isActive]
  simp [and_comm]

/-- Closing tells whether there was something to close. -/
theorem clear_answer (b : Bypass) : b.clear.answer = b.stored.completion.isSome := by
  unfold clear
  split
  next h => exact h.symm
  next h => exact (Bool.not_eq_true _ ▸ h).symm

/-- Closing is stored if there was something to close. -/
theorem clear_effects (b : Bypass) :
    b.clear.effects =
      if b.stored.completion.isSome then [.save { b.stored with completion := none }] else [] := by
  unfold clear
  split <;> rfl

/-- A report about a capability is believed; without one, nothing is confirmed. -/
theorem confirm_answer (c : Capability) (report : Option Bool) :
    (b.confirm c report).answer = report.getD false := by
  unfold confirm
  dsimp only
  split <;> rfl

@[simp] theorem confirm_enabled (c : Capability) (report : Option Bool) :
    (b.confirm c report).state.enabled = b.enabled := by
  unfold confirm
  dsimp only
  split <;> rfl

/-- A report about a capability leaves the window alone. -/
theorem isOpen_confirm (c : Capability) (report : Option Bool) :
    (b.confirm c report).state.IsOpen t ↔ b.IsOpen t := by
  unfold confirm
  dsimp only
  split <;> rfl

/-! ### The length -/

/-- No reading moves the length. -/
@[simp] theorem poll_duration (b : Bypass) (now : Nat) :
    (b.poll now).state.duration = b.duration := by
  unfold poll
  split
  · rfl
  · split <;> rfl

@[simp] theorem clear_duration (b : Bypass) : b.clear.state.duration = b.duration := by
  unfold clear
  split <;> rfl

@[simp] theorem confirm_duration (c : Capability) (report : Option Bool) :
    (b.confirm c report).state.duration = b.duration := by
  unfold confirm
  dsimp only
  split <;> rfl

/-! ### Nothing on the screen -/

/-- A reading shows nothing. -/
theorem poll_surface : (b.poll now).effects.filterMap Effect.surface? = [] := by
  unfold poll
  split
  · rfl
  · split <;> rfl

theorem clear_surface : b.clear.effects.filterMap Effect.surface? = [] := by
  unfold clear
  split <;> rfl

/-- A report shows nothing. -/
theorem confirm_surface (c : Capability) (report : Option Bool) :
    (b.confirm c report).effects.filterMap Effect.surface? = [] := by
  unfold confirm
  dsimp only
  split <;> rfl

end Warden.Bypass
