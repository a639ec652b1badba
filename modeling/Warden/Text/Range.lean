namespace Warden.Text

/-!
# Character ranges

A class of characters is kept as a list of inclusive code point ranges in increasing order.

* `inRanges table n` — whether one of the ranges holds `n`; the search stops at the first range
  that starts beyond `n`.
* `isIncreasing table` — whether the ranges are in order, apart from each other, and not empty.
* `inRanges_iff` — for such tables the search finds exactly what is in one of the ranges.
-/

/-- Whether an increasing list of inclusive ranges holds `n`. -/
def inRanges : List (Nat × Nat) → Nat → Bool
  | [], _ => false
  | (lo, hi) :: rest, n => if n < lo then false else n ≤ hi || inRanges rest n

/-- Whether ranges that all lie from `least` on are in increasing order. -/
def isIncreasingFrom (least : Nat) : List (Nat × Nat) → Bool
  | [] => true
  | (lo, hi) :: rest => least ≤ lo && lo ≤ hi && isIncreasingFrom (hi + 1) rest

/-- Whether ranges are in increasing order. -/
def isIncreasing (table : List (Nat × Nat)) : Bool := isIncreasingFrom 0 table

/-- All ranges lie from the least bound on. -/
theorem le_of_mem_of_isIncreasingFrom {least : Nat} {table : List (Nat × Nat)}
    (h : isIncreasingFrom least table = true) {r : Nat × Nat} (hr : r ∈ table) :
    least ≤ r.1 := by
  induction table generalizing least with
  | nil => simp at hr
  | cons p rest ih =>
    simp only [isIncreasingFrom, Bool.and_eq_true, decide_eq_true_eq] at h
    rcases List.mem_cons.1 hr with rfl | hr
    · exact h.1.1
    · have := ih h.2 hr; omega

/-- The search may stop early, as no later range starts lower. -/
theorem inRanges_iff_of_isIncreasingFrom {least : Nat} {table : List (Nat × Nat)}
    (h : isIncreasingFrom least table = true) (n : Nat) :
    inRanges table n = true ↔ ∃ r ∈ table, r.1 ≤ n ∧ n ≤ r.2 := by
  induction table generalizing least with
  | nil => simp [inRanges]
  | cons p rest ih =>
    obtain ⟨lo, hi⟩ := p
    simp only [isIncreasingFrom, Bool.and_eq_true, decide_eq_true_eq] at h
    have hrest : (∃ r ∈ (lo, hi) :: rest, r.1 ≤ n ∧ n ≤ r.2) ↔
        (lo ≤ n ∧ n ≤ hi) ∨ ∃ r ∈ rest, r.1 ≤ n ∧ n ≤ r.2 := by simp
    rw [hrest, inRanges]
    split
    next hlt =>
      refine iff_of_false (by simp) ?_
      rintro (hr | ⟨r, hr, hb⟩)
      · omega
      · have := le_of_mem_of_isIncreasingFrom h.2 hr; omega
    next hge =>
      rw [Bool.or_eq_true, decide_eq_true_eq, ih h.2]
      exact or_congr_left (by omega)

/-- In an increasing table the search finds exactly what is in one of the ranges. -/
theorem inRanges_iff {table : List (Nat × Nat)} (h : isIncreasing table = true) (n : Nat) :
    inRanges table n = true ↔ ∃ r ∈ table, r.1 ≤ n ∧ n ≤ r.2 :=
  inRanges_iff_of_isIncreasingFrom h n

end Warden.Text
