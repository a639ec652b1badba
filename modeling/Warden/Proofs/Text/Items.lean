import Warden.Proofs.Text.Blank
import Warden.Text.Items

namespace Warden.Text

/-!
# Lists that are written and read back

Items that are put in one line with commas between them are read back if each of them can be an item
at all.

* `IsItem item` — not empty, without a comma, and without blanks at its ends.
* `isItem_of_mem_items` — whatever a line is, its items are such.
* `items_intercalate` — which lists are read back as they were written.
-/

variable {sep : Char} {cs p : List Char} {ps : List (List Char)} {s item : String}
  {list : List String}

/-! ### Pieces -/

/-- The pieces are those of the library. -/
theorem splitOn_eq (sep : Char) (cs : List Char) : splitOn sep cs = cs.splitOn sep := by
  induction cs with
  | nil => rfl
  | cons c cs ih =>
    obtain ⟨q, qs, hqs⟩ := List.exists_cons_of_ne_nil (splitOn_ne_nil sep cs)
    rw [splitOn, List.splitOn_cons_eq_if_modifyHead, ← ih, hqs]
    by_cases h : c = sep
    · rw [if_pos h, if_pos (beq_iff_eq.2 h)]
    · rw [if_neg h, if_neg (mt beq_iff_eq.1 h)]
      rfl

/-- No separator is part of a piece. -/
theorem not_mem_of_mem_splitOn (h : p ∈ splitOn sep cs) : sep ∉ p := by
  -- On the text; a character goes into the first piece unless it separates.
  induction cs generalizing p with
  | nil =>
    rw [List.mem_singleton.1 h]
    exact List.not_mem_nil
  | cons c cs ih =>
    obtain ⟨q, qs, hqs⟩ := List.exists_cons_of_ne_nil (splitOn_ne_nil sep cs)
    rw [splitOn] at h
    rw [hqs] at h ih
    split at h
    · rcases List.mem_cons.1 h with rfl | h
      · exact List.not_mem_nil
      · exact ih h
    next hne =>
      rcases List.mem_cons.1 h with rfl | h
      · exact List.not_mem_cons_of_ne_of_not_mem (Ne.symm hne) (ih List.mem_cons_self)
      · exact ih (List.mem_cons_of_mem q h)

/-! ### Items -/

/-- Whether a text can be an item of a list that is written in one line. -/
structure IsItem (item : String) : Prop where
  nonempty : item ≠ ""
  comma : ',' ∉ item.toList
  trimmed : Trimmed item.toList

/-- Whatever stands in a line, what is cut out of it can be an item. -/
theorem isItem_of_mem_items (h : item ∈ items s) : IsItem item := by
  have hne := ne_empty_of_mem_items h
  simp only [items, List.mem_map, List.mem_filter] at h
  obtain ⟨-, ⟨⟨p, hp, rfl⟩, -⟩, rfl⟩ := h
  refine ⟨hne, ?_, ?_⟩
  · obtain ⟨before, after, -, -, hcut⟩ := exists_trimList p
    have hcomma : ',' ∉ p := not_mem_of_mem_splitOn hp
    rw [hcut, List.mem_append, List.mem_append, not_or, not_or] at hcomma
    rw [String.toList_ofList]
    exact hcomma.2.1
  · rw [String.toList_ofList]
    exact trimmed_trimList p

/-- The lists that are read back as they were written are those of items. -/
theorem items_intercalate : items (",".intercalate list) = list ↔ ∀ item ∈ list, IsItem item := by
  constructor
  · intro h item hitem
    rw [← h] at hitem
    exact isItem_of_mem_items hitem
  · intro h
    cases hlist : list with
    | nil => rfl
    | cons first rest =>
      rw [← hlist]
      have hne : list.map String.toList ≠ [] := by simp [hlist]
      -- No item has a comma in it, so the commas are those between the items.
      have hpieces : splitOn ',' (",".intercalate list).toList = list.map String.toList := by
        rw [String.toList_intercalate, splitOn_eq]
        refine List.splitOn_intercalate ',' (fun p hp => ?_) hne
        obtain ⟨item, hitem, rfl⟩ := List.mem_map.1 hp
        exact (h item hitem).comma
      have htrim : (list.map String.toList).map trimList = list.map String.toList := by
        rw [List.map_map]
        exact List.map_congr_left fun item hitem => trimList_eq_self (h item hitem).trimmed
      have hfilter : (list.map String.toList).filter (fun cs => !cs.isEmpty) =
          list.map String.toList := by
        refine List.filter_eq_self.2 fun p hp => ?_
        obtain ⟨item, hitem, rfl⟩ := List.mem_map.1 hp
        simpa using (h item hitem).nonempty
      rw [items, hpieces, htrim, hfilter, List.map_map]
      exact (List.map_congr_left fun item _ => String.ofList_toList).trans (List.map_id list)

end Warden.Text
