import Warden.Keyword.Matcher

namespace Warden.Keyword

/-!
# What a search for keywords finds

A keyword of a list occurs in a text where its letters stand, whatever their case, with a word
boundary at both ends. A search finds the occurrence furthest to the left, and of several there the
one whose keyword is the first in the list.

* `OccursAt keyword text i m` — a keyword of a list occurs in a text, as the piece `m`.
* `Finds keywords text m` — which of all occurrences a search is to find.
* `find_eq_some_iff`, `find_exact` — that it does, and on what it depends whether it finds any.
* `StandsAlone`, `WordEnded` — a keyword between spaces, and one that starts and ends like a word.
* `found_alone_iff` — the keywords that are found wherever they stand alone.
-/

variable {keywords others : List String} {keyword : String} {k text before after m : List Char}
  {i : Nat}

/-! ### Occurrences -/

/-- What is looked for: a keyword without the blanks around it. -/
def bare (keyword : String) : List Char := Text.trimList keyword.toList

/-- Whether the piece `m` of a text, between `before` and `after`, is a word of its own, and the one
that is looked for but for the case of its letters. -/
structure Fits (k before m after : List Char) : Prop where
  letters : m.map Text.fold = k.map Text.fold
  opens : Text.isBoundary before.getLast? m.head? = true
  closes : Text.isBoundary m.getLast? after.head? = true

/-- Whether a keyword occurs in a text behind the first `i` characters, as the piece `m`. A blank
keyword occurs nowhere. -/
def OccursAt (keyword : String) (text : List Char) (i : Nat) (m : List Char) : Prop :=
  bare keyword ≠ [] ∧
    ∃ before after, text = before ++ (m ++ after) ∧ before.length = i ∧
      Fits (bare keyword) before m after

/-- Whether a piece of a text is what a search for keywords is to find: a keyword occurs there, none
occurs further to the left, and none that is further up in the list occurs at the same place. -/
def Finds (keywords : List String) (text m : List Char) : Prop :=
  ∃ i earlier keyword later, keywords = earlier ++ keyword :: later ∧ OccursAt keyword text i m ∧
    (∀ other ∈ keywords, ∀ j < i, ∀ n, ¬ OccursAt other text j n) ∧
      ∀ other ∈ earlier, ∀ n, ¬ OccursAt other text i n

/-! ### One keyword at one place -/

/-- What is split off is the beginning of the text with the letters of the keyword. -/
theorem splitPrefix_eq_some_iff :
    splitPrefix k text = some (m, after) ↔
      text = m ++ after ∧ m.map Text.fold = k.map Text.fold := by
  -- On the letters of the keyword, one for each character of the piece.
  induction k generalizing text m with
  | nil =>
    rw [List.map_nil, List.map_eq_nil_iff, splitPrefix, Option.some.injEq, Prod.mk.injEq]
    constructor
    · rintro ⟨rfl, rfl⟩
      exact ⟨rfl, rfl⟩
    · rintro ⟨rfl, rfl⟩
      exact ⟨rfl, rfl⟩
  | cons a k ih =>
    -- A piece with the letters of a keyword that is not empty is not empty either.
    cases m with
    | nil =>
      refine iff_of_false (fun h => ?_) (fun h => by cases h.2)
      cases text with
      | nil => cases h
      | cons c text =>
        rw [splitPrefix] at h
        split at h
        · obtain ⟨_, -, h⟩ := Option.map_eq_some_iff.1 h
          cases h
        · cases h
    | cons b m =>
      cases text with
      | nil => exact iff_of_false (fun h => by cases h) (fun h => by cases h.1)
      | cons c text =>
        have hrest := @ih text m
        simp only [splitPrefix, Text.sameFold, beq_iff_eq, Option.ite_none_right_eq_some,
          Option.map_eq_some_iff, Prod.exists, Prod.mk.injEq, List.cons.injEq, List.cons_append,
          List.map_cons]
        grind

/-- A keyword fits where its letters are followed by a boundary. -/
theorem fitsAt_eq_some_iff :
    fitsAt text k = some m ↔
      ∃ after, text = m ++ after ∧ m.map Text.fold = k.map Text.fold ∧
        Text.isBoundary m.getLast? after.head? = true := by
  unfold fitsAt
  constructor
  · intro h
    split at h
    next n rest hsplit =>
      split at h
      next hcloses =>
        cases h
        obtain ⟨htext, hletters⟩ := splitPrefix_eq_some_iff.1 hsplit
        exact ⟨rest, htext, hletters, hcloses⟩
      next => cases h
    next => cases h
  · rintro ⟨after, htext, hletters, hcloses⟩
    rw [splitPrefix_eq_some_iff.2 ⟨htext, hletters⟩]
    exact if_pos hcloses

/-- A piece with the letters of a keyword is empty only if the keyword is. -/
theorem ne_nil_of_letters (hk : k ≠ []) (h : m.map Text.fold = k.map Text.fold) : m ≠ [] := by
  rintro rfl
  exact hk (List.map_eq_nil_iff.1 h.symm)

/-- Nothing occurs behind the end of a text. -/
theorem OccursAt.lt (h : OccursAt keyword text i m) : i < text.length := by
  obtain ⟨hbare, before, after, rfl, rfl, hfits⟩ := h
  have hlength := List.length_pos_iff.2 (ne_nil_of_letters hbare hfits.letters)
  simp only [List.length_append]
  omega

/-- The piece as which a keyword occurs in a text behind the first `i` characters. -/
def occurrence? (text : List Char) (i : Nat) (keyword : String) : Option (List Char) :=
  if bare keyword ≠ [] ∧ Text.isBoundary (text.take i).getLast? (text.drop i).head? = true then
    fitsAt (text.drop i) (bare keyword)
  else none

/-- What is computed for one keyword at one place is what occurs there. -/
theorem occurrence?_eq_some_iff :
    occurrence? text i keyword = some m ↔ OccursAt keyword text i m := by
  rw [occurrence?, Option.ite_none_right_eq_some, fitsAt_eq_some_iff]
  constructor
  · rintro ⟨⟨hbare, hopens⟩, after, htext, hletters, hcloses⟩
    have hne := ne_nil_of_letters hbare hletters
    -- The piece is not empty, so it starts inside the text.
    have hle : i ≤ text.length := by
      refine Nat.le_of_not_lt fun hlt => hne ?_
      rw [List.drop_of_length_le (Nat.le_of_lt hlt)] at htext
      exact (List.append_eq_nil_iff.1 htext.symm).1
    rw [htext, List.head?_append, Option.or_of_isSome (List.isSome_head?.2 hne)] at hopens
    exact ⟨hbare, text.take i, after, by rw [← htext, List.take_append_drop],
      List.length_take_of_le hle, hletters, hopens, hcloses⟩
  · rintro ⟨hbare, before, after, rfl, rfl, hfits⟩
    have hne := ne_nil_of_letters hbare hfits.letters
    rw [List.take_left, List.drop_left, List.head?_append,
      Option.or_of_isSome (List.isSome_head?.2 hne)]
    exact ⟨⟨hbare, hfits.opens⟩, after, rfl, hfits.letters, hfits.closes⟩

/-- And nothing is computed only if nothing occurs. -/
theorem occurrence?_eq_none_iff :
    occurrence? text i keyword = none ↔ ∀ m, ¬ OccursAt keyword text i m := by
  simp only [Option.eq_none_iff_forall_ne_some, ne_eq, occurrence?_eq_some_iff]

/-! ### The search -/

/-- The blank keywords of a list do not count. -/
theorem findSome?_ofList (f : List Char → Option (List Char)) :
    (Matcher.ofList keywords).keywords.findSome? f =
      keywords.findSome? fun keyword => if bare keyword ≠ [] then f (bare keyword) else none := by
  induction keywords with
  | nil => rfl
  | cons keyword rest ih =>
    show ((bare keyword :: rest.map bare).filter fun k => !k.isEmpty).findSome? f = _
    rw [List.findSome?_cons, ← ih]
    by_cases h : bare keyword = []
    · rw [List.filter_cons_of_neg (by simp [h]), if_neg (Decidable.not_not.2 h)]
      rfl
    · rw [List.filter_cons_of_pos (by simp [h]), List.findSome?_cons, if_pos h]
      rfl

/-- What a search looks at in one place: the occurrences of its keywords there. -/
theorem here_eq (keywords : List String) (before : List Char) (c : Char) (rest : List Char) :
    (if Text.isBoundary before.getLast? (some c) then
      (Matcher.ofList keywords).keywords.findSome? (fitsAt (c :: rest)) else none) =
      keywords.findSome? (occurrence? (before ++ c :: rest) before.length) := by
  rw [findSome?_ofList]
  unfold occurrence?
  rw [List.take_left, List.drop_left, List.head?_cons]
  by_cases h : Text.isBoundary before.getLast? (some c) = true
  · simp only [h, and_true, if_true]
  · simp only [h, Bool.false_eq_true, and_false, if_false]
    exact (List.findSome?_eq_none_iff.2 fun _ _ => rfl).symm

/-- A search goes on to the right as long as nothing occurs. -/
theorem findFrom_eq_some_iff (before rest : List Char) :
    findFrom (Matcher.ofList keywords).keywords before.getLast? rest = some m ↔
      ∃ i, keywords.findSome? (occurrence? (before ++ rest) (before.length + i)) = some m ∧
        ∀ j < i, keywords.findSome? (occurrence? (before ++ rest) (before.length + j)) = none := by
  -- On what is still to be searched; what lies behind counts only by its last character.
  induction rest generalizing before with
  | nil =>
    refine iff_of_false (fun h => by cases h) ?_
    rintro ⟨i, hfound, -⟩
    obtain ⟨keyword, -, hoccurs⟩ := List.exists_of_findSome?_eq_some hfound
    have hlt := (occurrence?_eq_some_iff.1 hoccurs).lt
    rw [List.append_nil] at hlt
    omega
  | cons c rest ih =>
    rw [findFrom, here_eq]
    cases hhere : keywords.findSome? (occurrence? (before ++ c :: rest) before.length) with
    | some n =>
      constructor
      · rintro ⟨⟩
        exact ⟨0, hhere, fun j hj => absurd hj (Nat.not_lt_zero j)⟩
      · rintro ⟨i, hfound, hnone⟩
        cases i with
        | zero => rw [← hfound, Nat.add_zero, hhere]
        | succ i =>
          have := hnone 0 (Nat.succ_pos i)
          rw [Nat.add_zero, hhere] at this
          cases this
    -- Nothing occurs here, so every place moves one further.
    | none =>
      have hrest := ih (before ++ [c])
      rw [List.getLast?_concat, List.append_assoc, List.singleton_append, List.length_append,
        List.length_singleton] at hrest
      rw [hrest]
      simp only [Nat.add_assoc, Nat.add_comm 1]
      constructor
      · rintro ⟨i, hfound, hnone⟩
        refine ⟨i + 1, hfound, fun j hj => ?_⟩
        cases j with
        | zero => exact hhere
        | succ j => exact hnone j (Nat.lt_of_succ_lt_succ hj)
      · rintro ⟨i, hfound, hnone⟩
        cases i with
        | zero =>
          rw [Nat.add_zero, hhere] at hfound
          cases hfound
        | succ i => exact ⟨i, hfound, fun j hj => hnone (j + 1) (Nat.succ_lt_succ hj)⟩

/-- What is found is the first occurrence, and nothing is found only if there is none. -/
theorem find_eq_some_iff {text m : String} :
    (Matcher.ofList keywords).find text = some m ↔ Finds keywords text.toList m.toList := by
  have hsearch := @findFrom_eq_some_iff keywords m.toList [] text.toList
  simp only [List.getLast?_nil, List.nil_append, List.length_nil, Nat.zero_add,
    List.findSome?_eq_some_iff, List.findSome?_eq_none_iff, occurrence?_eq_some_iff,
    occurrence?_eq_none_iff] at hsearch
  -- A list is searched keyword by keyword, so its first keyword that occurs splits it in two.
  rw [Matcher.find, Option.map_eq_some_iff]
  constructor
  · rintro ⟨n, hn, rfl⟩
    rw [String.toList_ofList] at hsearch ⊢
    obtain ⟨i, ⟨earlier, keyword, later, hlist, hoccurs, hearlier⟩, hleft⟩ := hsearch.1 hn
    exact ⟨i, earlier, keyword, later, hlist, hoccurs,
      fun other hother j hj => hleft j hj other hother, hearlier⟩
  · rintro ⟨i, earlier, keyword, later, hlist, hoccurs, hleft, hearlier⟩
    exact ⟨m.toList, hsearch.2 ⟨i, ⟨earlier, keyword, later, hlist, hoccurs, hearlier⟩,
      fun j hj other hother => hleft other hother j hj⟩, String.ofList_toList⟩

/-! ### Whether anything is found -/

/-- Where keywords occur at all, one of the occurrences is the one to find. -/
theorem exists_finds (hmem : keyword ∈ keywords) (h : OccursAt keyword text i m) :
    ∃ n, Finds keywords text n := by
  -- Either something occurs further to the left, or a search of this one place decides.
  induction i using Nat.strongRecOn generalizing keyword m with
  | ind i ih =>
    by_cases hleft : ∃ other ∈ keywords, ∃ j < i, ∃ n, OccursAt other text j n
    · obtain ⟨other, hother, j, hj, n, hoccurs⟩ := hleft
      exact ih j hj hother hoccurs
    · cases hfound : keywords.findSome? (occurrence? text i) with
      | none =>
        have hnone := List.findSome?_eq_none_iff.1 hfound keyword hmem
        exact absurd h (occurrence?_eq_none_iff.1 hnone m)
      | some n =>
        obtain ⟨earlier, first, later, hlist, hfirst, hearlier⟩ :=
          List.findSome?_eq_some_iff.1 hfound
        exact ⟨n, i, earlier, first, later, hlist, occurrence?_eq_some_iff.1 hfirst,
          fun other hother j hj n hoccurs => hleft ⟨other, hother, j, hj, n, hoccurs⟩,
          fun other hother => occurrence?_eq_none_iff.1 (hearlier other hother)⟩

/-- Something is found if and only if some keyword occurs somewhere. -/
theorem isSome_find_iff {text : String} :
    ((Matcher.ofList keywords).find text).isSome ↔
      ∃ keyword ∈ keywords, ∃ i m, OccursAt keyword text.toList i m := by
  constructor
  · intro h
    obtain ⟨m, hm⟩ := Option.isSome_iff_exists.1 h
    obtain ⟨i, earlier, keyword, later, rfl, hoccurs, -, -⟩ := find_eq_some_iff.1 hm
    exact ⟨keyword, List.mem_append_right _ List.mem_cons_self, i, m.toList, hoccurs⟩
  · rintro ⟨keyword, hmem, i, m, hoccurs⟩
    obtain ⟨n, hn⟩ := exists_finds hmem hoccurs
    rw [← String.toList_ofList (l := n)] at hn
    exact Option.isSome_iff_exists.2 ⟨_, find_eq_some_iff.2 hn⟩

/-- Whether a list asks for a keyword: one of its entries is that, apart from blanks around it. -/
def AsksFor (keywords : List String) (k : List Char) : Prop :=
  k ≠ [] ∧ ∃ keyword ∈ keywords, bare keyword = k

/-- A list that asks for more finds something wherever the other one does. -/
theorem isSome_find_mono {text : String} (h : ∀ k, AsksFor keywords k → AsksFor others k)
    (hfound : ((Matcher.ofList keywords).find text).isSome) :
    ((Matcher.ofList others).find text).isSome := by
  obtain ⟨keyword, hmem, i, m, hbare, hoccurs⟩ := isSome_find_iff.1 hfound
  obtain ⟨-, other, hother, hsame⟩ := h (bare keyword) ⟨hbare, keyword, hmem, rfl⟩
  exact isSome_find_iff.2 ⟨other, hother, i, m, hsame ▸ hbare, hsame ▸ hoccurs⟩

/-- Whether a list of keywords is another one in other words: reordered, with entries repeated, with
blank entries added, or with other blanks around its entries. -/
inductive Restated : List String → List String → Prop
  | reordered {keywords others : List String} (h : keywords.Perm others) : Restated keywords others
  | repeated {keyword : String} {keywords : List String} (h : keyword ∈ keywords) :
    Restated keywords (keyword :: keywords)
  | blank {keyword : String} (h : bare keyword = []) (keywords : List String) :
    Restated keywords (keyword :: keywords)
  | trimmed {keywords others : List String} (h : keywords.map bare = others.map bare) :
    Restated keywords others
  | trans {first second third : List String} (h : Restated first second)
    (h' : Restated second third) : Restated first third

/-- In other words a list asks for the same. -/
theorem asksFor_restated (h : Restated keywords others) :
    AsksFor keywords k ↔ AsksFor others k := by
  -- On how the list is put in other words, one step at a time.
  induction h with
  | reordered h => simp only [AsksFor, h.mem_iff]
  | @repeated keyword keywords h =>
    have hmem (other : String) : other ∈ keyword :: keywords ↔ other ∈ keywords :=
      List.mem_cons.trans (or_iff_right_of_imp fun e => e ▸ h)
    simp only [AsksFor, hmem]
  | blank h keywords =>
    simp only [AsksFor, List.mem_cons, exists_eq_or_imp, h]
    exact and_congr_right fun hne => (or_iff_right (Ne.symm hne)).symm
  | trimmed h => simp only [AsksFor, ← List.mem_map, h]
  | trans _ _ ih ih' => exact ih.trans ih'

/-- **What a search for keywords finds.** It finds something exactly if some keyword occurs in the
text, and then the occurrence furthest to the left, of the first keyword in the list that occurs
there. So whether it finds anything does not change if the list is put in other words, and a further
keyword, wherever in the list, takes nothing away. -/
theorem find_exact (keywords : List String) (text : String) :
    (((Matcher.ofList keywords).find text).isSome ↔
        ∃ keyword ∈ keywords, ∃ i m, OccursAt keyword text.toList i m) ∧
      (∀ m, (Matcher.ofList keywords).find text = some m ↔ Finds keywords text.toList m.toList) ∧
      (∀ others, Restated keywords others →
        ((Matcher.ofList others).find text).isSome =
          ((Matcher.ofList keywords).find text).isSome) ∧
      ∀ before keyword after, keywords = before ++ after →
        ((Matcher.ofList keywords).find text).isSome →
          ((Matcher.ofList (before ++ keyword :: after)).find text).isSome := by
  refine ⟨isSome_find_iff, fun m => find_eq_some_iff, fun others h => ?restated, ?added⟩
  case restated =>
    rw [Bool.eq_iff_iff]
    exact ⟨isSome_find_mono fun k => (asksFor_restated h).2,
      isSome_find_mono fun k => (asksFor_restated h).1⟩
  case added =>
    rintro before keyword after rfl
    have hsub := ((List.sublist_cons_self keyword after).append_left before).subset
    exact isSome_find_mono fun k ⟨hne, other, hother, hk⟩ => ⟨hne, other, hsub hother, hk⟩

/-- A keyword that fits, but does not end with the word, is passed over for a later one. -/
example : (Matcher.ofList ["cas", "casino", "casinos"]).find "Le CASINO" = some "CASINO" := by
  decide +kernel

/-! ### Keywords that stand alone -/

/-- Whether a keyword stands alone in a text: next to it there are spaces, or nothing at all. -/
def StandsAlone (k text : List Char) : Prop :=
  ∃ before after, text = before ++ (k ++ after) ∧ (before = [] ∨ before.getLast? = some ' ') ∧
    (after = [] ∨ after.head? = some ' ')

/-- Whether a keyword starts and ends with characters that words are made of. -/
def WordEnded (k : List Char) : Prop :=
  k.head?.any Text.isWord = true ∧ k.getLast?.any Text.isWord = true

/-- Between spaces, or at an end of the text, a keyword that starts and ends like a word is one. -/
theorem fits_of_alone (hk : WordEnded k) (hbefore : before = [] ∨ before.getLast? = some ' ')
    (hafter : after = [] ∨ after.head? = some ' ') : Fits k before k after := by
  -- Neither a space nor the end of a text is part of a word.
  have hopens : before.getLast?.any Text.isWord = false := by
    rcases hbefore with rfl | h
    · rfl
    · rw [h]
      decide
  have hcloses : after.head?.any Text.isWord = false := by
    rcases hafter with rfl | h
    · rfl
    · rw [h]
      decide
  refine ⟨rfl, ?_, ?_⟩
  · rw [Text.isBoundary, hopens, hk.1]
    rfl
  · rw [Text.isBoundary, hcloses, hk.2]
    rfl

/-- A text that is a keyword and nothing else has no place for it but the whole. -/
theorem wordEnded_of_occursAt (h : OccursAt keyword (bare keyword) i m) :
    WordEnded (bare keyword) := by
  obtain ⟨-, before, after, htext, -, hletters, hopens, hcloses⟩ := h
  have hlength := congrArg List.length hletters
  have htotal := congrArg List.length htext
  simp only [List.length_map, List.length_append] at hlength htotal
  obtain rfl : before = [] := List.length_eq_zero_iff.1 (by omega)
  obtain rfl : after = [] := List.length_eq_zero_iff.1 (by omega)
  rw [List.nil_append, List.append_nil] at htext
  rw [htext]
  -- There is nothing on the other side of either boundary.
  exact ⟨by simpa [Text.isBoundary] using hopens, by simpa [Text.isBoundary] using hcloses⟩

/-- **The keywords that are found wherever they stand alone.** A keyword is found by every list that
has it and in every text in which it stands alone exactly if it starts and ends with characters that
words are made of: to a boundary on the side of a space belongs a word on the other side. -/
theorem found_alone_iff (hbare : bare keyword ≠ []) :
    (∀ keywords, keyword ∈ keywords → ∀ text : String,
        StandsAlone (bare keyword) text.toList → ((Matcher.ofList keywords).find text).isSome) ↔
      WordEnded (bare keyword) := by
  constructor
  · intro h
    -- The keyword alone, as the only one of its list, leaves no other occurrence.
    have hfound := h [keyword] List.mem_cons_self (String.ofList (bare keyword))
      ⟨[], [], by simp, .inl rfl, .inl rfl⟩
    obtain ⟨other, hother, i, m, hoccurs⟩ := isSome_find_iff.1 hfound
    rw [List.mem_singleton.1 hother, String.toList_ofList] at hoccurs
    exact wordEnded_of_occursAt hoccurs
  · rintro hk keywords hmem text ⟨before, after, htext, hbefore, hafter⟩
    exact isSome_find_iff.2 ⟨keyword, hmem, before.length, bare keyword, hbare, before, after,
      htext, rfl, fits_of_alone hk hbefore hafter⟩

/-- Blanks around a keyword and punctuation inside it do no harm. -/
theorem dotted_found_alone :
    bare "\ta.b " ≠ [] ∧ WordEnded (bare "\ta.b ") ∧
      ∀ keywords, "\ta.b " ∈ keywords → ∀ text : String,
        StandsAlone (bare "\ta.b ") text.toList → ((Matcher.ofList keywords).find text).isSome := by
  have hbare : bare "\ta.b " ≠ [] := by decide
  have hended : WordEnded (bare "\ta.b ") := ⟨by decide +kernel, by decide +kernel⟩
  exact ⟨hbare, hended, (found_alone_iff hbare).2 hended⟩

/-- A keyword that ends or starts with a symbol is not found where it stands alone, be it the whole
text or a part of it, but it is found where it sticks to another word. -/
theorem symbol_lost_alone :
    (StandsAlone (bare "word++") "word++".toList ∧
      (Matcher.ofList ["word++"]).find "word++" = none) ∧
    (StandsAlone (bare "#word") "see #word here".toList ∧
      (Matcher.ofList ["#word"]).find "see #word here" = none) ∧
    (Matcher.ofList ["#word"]).find "see un#word here" = some "#word" := by
  refine ⟨⟨⟨[], [], by decide, .inl rfl, .inl rfl⟩, by decide +kernel⟩,
    ⟨⟨"see ".toList, " here".toList, by decide, .inr rfl, .inr rfl⟩, by decide +kernel⟩,
    by decide +kernel⟩

end Warden.Keyword
