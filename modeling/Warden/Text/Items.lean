import Warden.Text.Blank

namespace Warden.Text

/-!
# Lists in one line

A list written in one line, its items between commas. Blanks around an item do not belong to it,
and empty items do not count.

* `items s` — the items of a text.
-/

/-- The items of a list whose items are separated by commas. -/
def items (s : String) : List String :=
  (((splitOn ',' s.toList).map trimList).filter fun cs => !cs.isEmpty).map String.ofList

/-- An item is never empty. -/
theorem ne_empty_of_mem_items {s item : String} (h : item ∈ items s) : item ≠ "" := by
  simp only [items, List.mem_map, List.mem_filter] at h
  obtain ⟨cs, ⟨-, hcs⟩, rfl⟩ := h
  intro he
  have : cs = [] := by simpa using congrArg String.toList he
  simp [this] at hcs

end Warden.Text
