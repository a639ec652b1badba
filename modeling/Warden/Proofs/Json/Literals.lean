import Warden.Json.Reader
import Warden.Json.Writer

namespace Warden.Json

/-!
# Literals that are written and read

A string literal is read back as the text it was written from, and a whole number of 64 bits, with
or without a sign, as itself.

* `readLiteral_chars` — strings, whatever characters they have.
* `Ends rest` — a number cannot go on with `rest`.
* `readNumeral_digits`, `readNumeral_minus` — natural numbers, and negative ones.
-/

variable {c e : Char} {rest cs : List Char} {n : Nat}

/-! ### Strings -/

/-- An escape of one letter stands for its character. -/
theorem scanString_short (he : e ≠ 'u') (h : shortEscape? e = some c) :
    scanString ('\\' :: e :: rest) = (scanString rest).map fun (us, r) => (.char c :: us, r) := by
  rw [scanString, h]
  · cases scanString rest <;> rfl
  · intro a b c d r hu
    exact absurd hu he

/-- An escape of four digits stands for its code. -/
theorem scanString_code {a b d : Char} (h : hexCode? a b c d = some n) :
    scanString ('\\' :: 'u' :: a :: b :: c :: d :: rest) =
      (scanString rest).map fun (us, r) => (.code n :: us, r) := by
  rw [scanString, h]
  cases scanString rest <;> rfl

/-- Any other character stands for itself. -/
theorem scanString_plain (hcontrol : ¬ c.toNat < 32) (hslash : c ≠ '\\') (hquote : c ≠ '"') :
    scanString (c :: rest) = (scanString rest).map fun (us, r) => (.char c :: us, r) := by
  rw [scanString, if_neg (by simp [hcontrol, hslash])]
  · cases scanString rest <;> rfl
  all_goals simp_all

/-- The unit that the writing of a character comes to: control characters without a letter of their
own are written by their code. -/
def unitOf (c : Char) : StringUnit :=
  if c.toNat < 32 ∧ c ≠ '\n' ∧ c ≠ '\r' ∧ c ≠ '\t' ∧ c.toNat ≠ 8 ∧ c.toNat ≠ 12 then .code c.toNat
  else .char c

/-- The digits of a control character are those of its code. -/
theorem hexCode_control : ∀ n < 32,
    hexCode? '0' '0' (Nat.digitChar (n / 16)) (Nat.digitChar (n % 16)) = some n := by
  decide

/-- What a character is written as comes to its unit. -/
theorem scanString_escapeChar (c : Char) (rest : List Char) :
    scanString (escapeChar c ++ rest) =
      (scanString rest).map fun (us, r) => (unitOf c :: us, r) := by
  have hofNat {n : Nat} {d : Char} (hd : d.toNat = n) (h : c.toNat = n) : c = d :=
    Char.toNat_inj.1 (h.trans hd.symm)
  unfold escapeChar unitOf
  -- The first five of the characters with a short escape are named, the others known by their code.
  iterate 5
    split
    next h => subst h; exact scanString_short (by decide) rfl
  split
  next h => cases hofNat (d := '\x08') rfl h; exact scanString_short (by decide) rfl
  split
  next h => cases hofNat (d := '\x0c') rfl h; exact scanString_short (by decide) rfl
  split
  next h =>
    rw [if_pos (by simp_all)]
    exact scanString_code (hexCode_control c.toNat h)
  next hquote hslash _ _ _ _ _ h =>
    rw [if_neg fun hcontrol => h hcontrol.1]
    exact scanString_plain h hslash hquote

/-- What a text is written as comes to the units of its characters, and the quote ends it. -/
theorem scanString_chars (cs rest : List Char) :
    scanString (cs.flatMap escapeChar ++ '"' :: rest) = some (cs.map unitOf, rest) := by
  -- On the characters, each of which is one unit.
  induction cs with
  | nil => rfl
  | cons c cs ih =>
    rw [List.flatMap_cons, List.append_assoc, scanString_escapeChar, ih]
    rfl

/-- The code of a control character is no half of a surrogate pair. -/
theorem resolve_control (h : n < 32) (us : List StringUnit) :
    resolve (.code n :: us) = (resolve us).map (Char.ofNat n :: ·) := by
  have htrailing : isTrailing n = false := by
    unfold isTrailing
    simp
    omega
  have hleading : isLeading n = false := by
    unfold isLeading
    simp
    omega
  -- The reader looks one unit ahead, for the other half of a pair.
  cases us with
  | nil => simp [resolve, htrailing, hleading, Except.map]
  | cons u us =>
    cases u with
    | char c =>
      simp only [resolve, htrailing, hleading, Bool.false_eq_true, if_false]
      cases resolve us <;> rfl
    | code m =>
      rw [resolve.eq_def]
      simp only [htrailing, hleading, Bool.false_eq_true, if_false]

/-- The units of a text resolve to the text; no two of them are a surrogate pair. -/
theorem resolve_units (cs : List Char) : resolve (cs.map unitOf) = .ok cs := by
  induction cs with
  | nil => rfl
  | cons c cs ih =>
    rw [List.map_cons, unitOf]
    split
    next h => rw [resolve_control h.1, ih, Char.ofNat_toNat]; rfl
    next => rw [resolve, ih]; rfl

/-- A string literal is read back as its text. -/
theorem readLiteral_chars (cs rest : List Char) :
    readLiteral (cs.flatMap escapeChar ++ '"' :: rest) = some (.text cs, rest) := by
  simp only [readLiteral, scanString_chars, Option.map_some, resolve_units]

/-! ### Whole numbers -/

/-- Whether a number cannot go on with a text. -/
def Ends (rest : List Char) : Prop :=
  ∀ c, rest.head? = some c → c.isDigit = false ∧ c ≠ '.' ∧ c ≠ 'e' ∧ c ≠ 'E'

/-- The digits of a number have its value. -/
theorem digitsValue_toDigits (n : Nat) : digitsValue (Nat.toDigits 10 n) = n :=
  Nat.ofDigitChars_toDigits (by decide) (by decide)

/-- A number starts with its own first digit, whatever follows. -/
theorem head?_toDigits_append (n : Nat) (rest : List Char) :
    (Nat.toDigits 10 n ++ rest).head? = (Nat.toDigits 10 n).head? := by
  rw [List.head?_append, Option.or_of_isSome]
  exact List.isSome_head?.2 Nat.toDigits_ne_nil

/-- No number but zero starts with a zero. -/
theorem head?_toDigits (hn : 0 < n) : (Nat.toDigits 10 n).head? ≠ some '0' := by
  -- On the number: its first digit is that of a tenth of it, and a single digit is not zero.
  induction n using Nat.strongRecOn with
  | ind n ih =>
    rw [Nat.toDigits_eq_if (by decide)]
    split
    next hlt =>
      rw [List.head?_cons, ne_eq, Option.some.injEq, Nat.digitChar_eq_zero]
      omega
    next hge =>
      rw [head?_toDigits_append]
      exact ih (n / 10) (by omega) (by omega)

/-- Digits are scanned up to the first character that is none. -/
theorem scanDigits_append {ds : List Char} (hne : ds ≠ []) (hds : ∀ d ∈ ds, d.isDigit = true)
    (h : Ends rest) : scanDigits (ds ++ rest) = some (ds, rest) := by
  have htake : rest.takeWhile Char.isDigit = [] := by
    cases rest with
    | nil => rfl
    | cons c rest => rw [List.takeWhile_cons_of_neg]; simp [h c rfl]
  have hdrop : rest.dropWhile Char.isDigit = rest := by
    cases rest with
    | nil => rfl
    | cons c rest => rw [List.dropWhile_cons_of_neg]; simp [h c rfl]
  unfold scanDigits
  rw [List.takeWhile_append_of_pos hds, List.dropWhile_append_of_pos hds, htake, hdrop,
    List.append_nil]
  cases ds with
  | nil => exact absurd rfl hne
  | cons d ds => rfl

/-- The digits of a number are scanned as a whole number: it starts with a zero only if it is
one. -/
theorem scanWhole_digits (n : Nat) (h : Ends rest) :
    scanWhole (Nat.toDigits 10 n ++ rest) = some (Nat.toDigits 10 n, rest) := by
  have hdigits : ∀ d ∈ Nat.toDigits 10 n, d.isDigit = true := fun d hd =>
    Nat.isDigit_of_mem_toDigits (by decide) (by decide) hd
  rcases Nat.eq_zero_or_pos n with rfl | hn
  · rfl
  · unfold scanWhole
    split
    next r hr =>
      refine absurd ?_ (head?_toDigits hn)
      rw [← head?_toDigits_append n rest, hr]
      rfl
    next => exact scanDigits_append Nat.toDigits_ne_nil hdigits h

/-- Where no point follows, there is no fraction. -/
theorem scanPart_of_ends (h : Ends rest) : scanPart rest = some ([], rest) := by
  unfold scanPart
  split
  next r => exact absurd rfl (h '.' rfl).2.1
  next => rfl

/-- Where no `e` follows, there is no exponent. -/
theorem scanExponent_of_ends (h : Ends rest) : scanExponent rest = some (none, rest) := by
  cases rest with
  | nil => rfl
  | cons c r =>
    obtain ⟨-, -, he, hE⟩ := h c rfl
    have hneither : ¬ (c = 'e' ∨ c = 'E') := not_or.2 ⟨he, hE⟩
    simp only [scanExponent, if_neg hneither]

/-- A natural number of 64 bits is read back as itself. -/
theorem readNumeral_digits (hn : n ≤ Number.word64) (h : Ends rest) :
    readNumeral (Nat.toDigits 10 n ++ rest) = some (.natural n, rest) := by
  have hsign : (Nat.toDigits 10 n ++ rest).head? ≠ some '-' := by
    rw [head?_toDigits_append]
    intro hhead
    have hdigit := Nat.isDigit_of_mem_toDigits (by decide) (by decide) (List.mem_of_mem_head? hhead)
    revert hdigit
    decide
  have hnegative : ((Nat.toDigits 10 n ++ rest).head? == some '-') = false :=
    beq_false_of_ne hsign
  have hwhole : whole false (Nat.toDigits 10 n) = .natural n := by
    unfold whole
    rw [digitsValue_toDigits, if_pos (by simp [hn])]
  unfold readNumeral
  simp only [hnegative, Bool.false_eq_true, if_false, scanWhole_digits n h, scanPart_of_ends h,
    scanExponent_of_ends h, Option.bind_eq_bind, Option.bind_some, hwhole]
  rfl

/-- A negative number of 64 bits is read back as itself. -/
theorem readNumeral_minus (hpos : 0 < n) (hn : n ≤ Nat.pow 2 63) (h : Ends rest) :
    readNumeral ('-' :: (Nat.toDigits 10 n ++ rest)) = some (.negative n, rest) := by
  have hnegative : (('-' :: (Nat.toDigits 10 n ++ rest)).head? == some '-') = true := rfl
  have hwhole : whole true (Nat.toDigits 10 n) = .negative n := by
    unfold whole
    rw [digitsValue_toDigits, if_neg (by simp), if_pos ⟨rfl, hpos, hn⟩]
  unfold readNumeral
  simp only [hnegative, if_true, List.drop_succ_cons, List.drop_zero, scanWhole_digits n h,
    scanPart_of_ends h, scanExponent_of_ends h, Option.bind_eq_bind, Option.bind_some, hwhole]
  rfl

end Warden.Json
