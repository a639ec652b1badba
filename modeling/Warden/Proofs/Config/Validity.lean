import Warden.Config.Validity
import Warden.Proofs.Fallible

namespace Warden.Config

/-!
# Configurations that make sense

What the check of a configuration comes to, value by value.

* `checkPositive_ok_iff` — a duration that must not be zero.
* `validate_ok_iff` — the four durations and the length of a countdown.
* `settings_of_validate` — what makes sense gives an engine something to run with.
-/

variable {c : Config} {k : Key}

/-- A duration that has to be positive is one that can be read and is not zero. -/
theorem checkPositive_ok_iff :
    c.checkPositive k = .ok () ↔ ∃ d, c.duration k = .ok d ∧ 0 < d.millis := by
  unfold checkPositive
  rw [Fallible.bind_ok_iff]
  refine exists_congr fun d => and_congr_right fun _ => ?_
  by_cases hzero : d.millis = 0
  · rw [if_pos hzero]
    exact iff_of_false (fun h => by cases h) (by omega)
  · rw [if_neg hzero]
    exact iff_of_true rfl (Nat.pos_of_ne_zero hzero)

/-- A configuration makes sense if its four durations are durations, the first two of them and the
length of a countdown are not zero. -/
theorem validate_ok_iff :
    c.validate = .ok () ↔
      (∃ d, c.duration .sessionTimeout = .ok d ∧ 0 < d.millis) ∧
      (∃ d, c.duration .sweepInterval = .ok d ∧ 0 < d.millis) ∧
      (∃ d, c.duration .bypassDuration = .ok d) ∧ (∃ d, c.duration .gracePeriod = .ok d) ∧
      0 < c.keyword.countdown := by
  unfold validate
  simp only [Fallible.bind_ok_iff]
  -- The checks are made one after the other, so all of them have passed at the end.
  constructor
  · rintro ⟨_, htimeout, _, hsweep, bypass, hbypass, grace, hgrace, hcountdown⟩
    refine ⟨checkPositive_ok_iff.1 htimeout, checkPositive_ok_iff.1 hsweep, ⟨bypass, hbypass⟩,
      ⟨grace, hgrace⟩, Nat.pos_of_ne_zero fun hzero => ?_⟩
    rw [if_pos hzero] at hcountdown
    cases hcountdown
  · rintro ⟨htimeout, hsweep, ⟨bypass, hbypass⟩, ⟨grace, hgrace⟩, hcountdown⟩
    refine ⟨(), checkPositive_ok_iff.2 htimeout, (), checkPositive_ok_iff.2 hsweep, bypass, hbypass,
      grace, hgrace, ?_⟩
    rw [if_neg (Nat.ne_of_gt hcountdown)]
    rfl

/-- What makes sense is enough to run an engine with. -/
theorem settings_of_validate (h : c.validate = .ok ()) :
    ∃ s, c.settings = .ok s ∧ c.duration .sessionTimeout = .ok s.sessionTimeout ∧
      c.duration .bypassDuration = .ok s.bypassDuration ∧ 0 < s.sessionTimeout.millis := by
  obtain ⟨⟨timeout, htimeout, hpos⟩, ⟨sweep, hsweep, -⟩, ⟨bypass, hbypass⟩, ⟨grace, hgrace⟩, -⟩ :=
    validate_ok_iff.1 h
  unfold settings
  rw [htimeout, hsweep, hbypass, hgrace]
  exact ⟨_, rfl, rfl, rfl, hpos⟩

end Warden.Config
