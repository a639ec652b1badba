namespace Warden.Fallible

/-!
# Steps that may fail

Steps in a row come to a result only if each of them does.

* `bind_ok_iff`, `map_ok_iff` — what the first of two steps has come to.
* `mapError_ok_iff` — another cause of failure makes no difference to success.
-/

variable {ε α β : Type} {x : Except ε α} {b : β}

/-- Two steps come to a result if the second one does from the result of the first. -/
theorem bind_ok_iff {next : α → Except ε β} :
    (x >>= next) = .ok b ↔ ∃ a, x = .ok a ∧ next a = .ok b := by
  cases x with
  | error cause => exact iff_of_false (fun h => by cases h) (fun ⟨_, h, _⟩ => by cases h)
  | ok a => exact ⟨fun h => ⟨a, rfl, h⟩, fun ⟨_, ha, h⟩ => Except.ok.inj ha ▸ h⟩

/-- What is made of a result is a result. -/
theorem map_ok_iff {f : α → β} : x.map f = .ok b ↔ ∃ a, x = .ok a ∧ f a = b := by
  cases x with
  | error cause => exact iff_of_false (fun h => by cases h) (fun ⟨_, h, _⟩ => by cases h)
  | ok a =>
    exact ⟨fun h => ⟨a, rfl, Except.ok.inj h⟩,
      fun ⟨_, ha, h⟩ => congrArg Except.ok (Except.ok.inj ha ▸ h)⟩

/-- Telling a failure in other words does not make it a success. -/
theorem mapError_ok_iff {ε' : Type} {f : ε → ε'} {a : α} : x.mapError f = .ok a ↔ x = .ok a := by
  cases x with
  | error cause => exact iff_of_false (fun h => by cases h) (fun h => by cases h)
  | ok b =>
    exact ⟨fun h => congrArg Except.ok (Except.ok.inj h),
      fun h => congrArg Except.ok (Except.ok.inj h)⟩

end Warden.Fallible
