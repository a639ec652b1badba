import Warden.Number.Unsigned

namespace Warden.Number

/-!
# Digits and their value

A row of digits is read as the number that it stands for, if that is within the bound.

* `readDigits_digits` — what a row of digits is read as.
* `readUnsigned_toDigits` — a number that was written is read back.
-/

variable {bound n m : Nat} {ds : List Char}

/-- Digits that follow make a number no smaller. -/
theorem le_ofDigitChars (ds : List Char) (n : Nat) : n ≤ Nat.ofDigitChars 10 ds n := by
  induction ds generalizing n with
  | nil => exact Nat.le_refl n
  | cons d ds ih =>
    rw [Nat.ofDigitChars_cons]
    exact Nat.le_trans (by omega) (ih _)

/-- More digits make a number no smaller, so the first one beyond the bound settles it. -/
theorem readDigits_digits (hds : ∀ d ∈ ds, d.isDigit = true) (hn : n ≤ bound) :
    readDigits bound n ds =
      if Nat.ofDigitChars 10 ds n ≤ bound then .ok (Nat.ofDigitChars 10 ds n)
      else .error .tooLarge := by
  -- On the digits, from the first one on, with the value of those before them.
  induction ds generalizing n with
  | nil => rw [readDigits, Nat.ofDigitChars_nil, if_pos hn]
  | cons d ds ih =>
    rw [readDigits, if_pos (hds d List.mem_cons_self), Nat.ofDigitChars_cons]
    show (if 10 * n + digitValue d ≤ bound then readDigits bound (10 * n + digitValue d) ds
      else _) = if Nat.ofDigitChars 10 ds (10 * n + digitValue d) ≤ bound then _ else _
    by_cases hle : 10 * n + digitValue d ≤ bound
    · rw [if_pos hle]
      exact ih (fun e he => hds e (List.mem_cons_of_mem d he)) hle
    · have hbeyond := le_ofDigitChars ds (10 * n + digitValue d)
      rw [if_neg hle, if_neg (by omega)]

/-- A row of digits is read as its value, which is within the bound. -/
theorem readDigits_ok_iff (hds : ∀ d ∈ ds, d.isDigit = true) :
    readDigits bound 0 ds = .ok m ↔ Nat.ofDigitChars 10 ds 0 = m ∧ m ≤ bound := by
  rw [readDigits_digits hds (Nat.zero_le bound)]
  split
  next hle => exact ⟨fun h => by cases h; exact ⟨rfl, hle⟩, fun h => congrArg _ h.1⟩
  next hnot => exact iff_of_false (fun h => by cases h) fun h => hnot (h.1 ▸ h.2)

/-- Whatever is read is within the bound. -/
theorem readUnsigned_le {cs : List Char} (h : readUnsigned bound cs = .ok m) : m ≤ bound := by
  unfold readUnsigned at h
  split at h
  · cases h
  · cases h
  · exact readDigits_le (Nat.zero_le bound) h
  · exact readDigits_le (Nat.zero_le bound) h

/-- A number that was written is read back. -/
theorem readUnsigned_toDigits (hn : n ≤ bound) :
    readUnsigned bound (Nat.toDigits 10 n) = .ok n := by
  have hdigits : ∀ d ∈ Nat.toDigits 10 n, d.isDigit = true := fun d hd =>
    Nat.isDigit_of_mem_toDigits (by decide) (by decide) hd
  have hread : readDigits bound 0 (Nat.toDigits 10 n) = .ok n :=
    (readDigits_ok_iff hdigits).2 ⟨Nat.ofDigitChars_ten_toDigits, hn⟩
  -- Neither is there nothing to read, nor does it start with a sign.
  cases hds : Nat.toDigits 10 n with
  | nil => exact absurd hds Nat.toDigits_ne_nil
  | cons d ds =>
    rw [hds] at hdigits hread
    have hsign : d ≠ '+' := by
      rintro rfl
      exact absurd (hdigits '+' List.mem_cons_self) (by decide)
    unfold readUnsigned
    split
    next heq => cases heq
    next heq => exact absurd (List.cons.inj heq).1 hsign
    next heq => exact absurd (List.cons.inj heq).1 hsign
    next => exact hread

end Warden.Number
