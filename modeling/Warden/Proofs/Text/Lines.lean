import Warden.Text.Lines

namespace Warden.Text

/-!
# Lines of a longer text

A text whose last line has ended gets one more line by what is put behind it.

* `Ended cs` — nothing stands behind the last line feed.
* `Unbroken l` — a text of printed characters, without a line feed or a carriage return.
* `lines_append` — the lines of a text that gets longer.
* `lines_append_torn` — a line that has not ended goes on with what is put behind it.
-/

variable {sep : Char} {cs ds l : List Char}

/-! ### Pieces -/

/-- A character that is no separator is put in front of the first piece. -/
theorem splitOn_cons_of_ne {c : Char} (h : c ≠ sep) (cs : List Char) :
    ∃ p ps, splitOn sep cs = p :: ps ∧ splitOn sep (c :: cs) = (c :: p) :: ps := by
  obtain ⟨p, ps, hps⟩ := List.exists_cons_of_ne_nil (splitOn_ne_nil sep cs)
  exact ⟨p, ps, hps, by rw [splitOn, if_neg h, hps]⟩

/-- A separator separates the pieces on its two sides. -/
theorem splitOn_append (sep : Char) (cs ds : List Char) :
    splitOn sep (cs ++ sep :: ds) = splitOn sep cs ++ splitOn sep ds := by
  induction cs with
  | nil => simp [splitOn]
  | cons c cs ih =>
    by_cases h : c = sep
    · subst h
      rw [List.cons_append, splitOn, if_pos rfl, ih, splitOn, if_pos rfl, List.cons_append]
    · obtain ⟨p, ps, hps, hcons⟩ := splitOn_cons_of_ne h cs
      rw [List.cons_append, splitOn, if_neg h, ih, hps, hcons]
      rfl

/-- A text without a separator is its own single piece. -/
theorem splitOn_of_not_mem (h : sep ∉ cs) : splitOn sep cs = [cs] := by
  induction cs with
  | nil => rfl
  | cons c cs ih =>
    have hne : c ≠ sep := by
      rintro rfl
      exact h List.mem_cons_self
    rw [splitOn, if_neg hne, ih fun hmem => h (List.mem_cons_of_mem c hmem)]

/-! ### Lines -/

/-- All pieces but the last one are lines. -/
theorem linesOfPieces_concat (ps : List (List Char)) (last : List Char) :
    linesOfPieces (ps ++ [last]) = ps.map dropReturn ++ linesOfPieces [last] := by
  induction ps with
  | nil => rfl
  | cons p rest ih =>
    obtain ⟨q, qs, hqs⟩ : ∃ q qs, rest ++ [last] = q :: qs :=
      List.exists_cons_of_ne_nil
        (List.append_ne_nil_of_right_ne_nil rest (List.cons_ne_nil last []))
    have hcons : linesOfPieces (p :: q :: qs) = dropReturn p :: linesOfPieces (q :: qs) := rfl
    rw [List.cons_append, hqs, hcons, ← hqs, ih, List.map_cons, List.cons_append]

/-- The lines of a text that ends with a line feed are all its pieces but the last one. -/
theorem lines_ended (cs : List Char) :
    lines (cs ++ ['\n']) = (splitOn '\n' cs).map dropReturn := by
  rw [lines, splitOn_append]
  exact (linesOfPieces_concat _ []).trans (List.append_nil _)

/-- Whether nothing stands behind the last line feed of a text. -/
def Ended (cs : List Char) : Prop := cs = [] ∨ cs.getLast? = some '\n'

/-- Whether a text has no control characters, so that it is a line of its own. -/
def Unbroken (l : List Char) : Prop := ∀ c ∈ l, 32 ≤ c.toNat

/-- No control character stands in such a text. -/
theorem Unbroken.not_mem {c : Char} (h : Unbroken l) (hc : c.toNat < 32) : c ∉ l :=
  fun hmem => Nat.not_le_of_lt hc (h c hmem)

/-- So it has no carriage return to lose. -/
theorem dropReturn_unbroken (h : Unbroken l) : dropReturn l = l :=
  if_neg fun hlast => h.not_mem (by decide) (List.mem_of_getLast? hlast)

/-- A line more. -/
theorem lines_append (hend : Ended cs) (hl : Unbroken l) :
    lines (cs ++ (l ++ ['\n'])) = lines cs ++ [l] := by
  have hpiece : (splitOn '\n' l).map dropReturn = [l] := by
    rw [splitOn_of_not_mem (hl.not_mem (by decide)), List.map_singleton, dropReturn_unbroken hl]
  -- The line feed that ended the old lines is the one that separates the new line from them.
  rcases hend with rfl | hend
  · rw [List.nil_append, lines_ended, hpiece]
    rfl
  · obtain ⟨start, rfl⟩ : ∃ start, cs = start ++ ['\n'] :=
      List.getLast?_eq_some_iff.1 hend
    rw [← List.append_assoc, lines_ended, List.append_assoc, List.singleton_append, splitOn_append,
      List.map_append, hpiece, lines_ended]

/-! ### Lines that have not ended -/

/-- What stands behind the last separator. -/
theorem exists_lastPiece (sep : Char) (cs : List Char) :
    ∃ last, sep ∉ last ∧ (cs = last ∨ ∃ start, cs = start ++ sep :: last) := by
  -- On the text from its front: a separator there counts only if there is none behind it.
  induction cs with
  | nil => exact ⟨[], List.not_mem_nil, .inl rfl⟩
  | cons c cs ih =>
    obtain ⟨last, hlast, rfl | ⟨start, rfl⟩⟩ := ih
    · by_cases h : c = sep
      · exact ⟨cs, hlast, .inr ⟨[], by rw [h, List.nil_append]⟩⟩
      · exact ⟨c :: cs, List.not_mem_cons_of_ne_of_not_mem (Ne.symm h) hlast, .inl rfl⟩
    · exact ⟨last, hlast, .inr ⟨c :: start, rfl⟩⟩

theorem dropReturn_append (h : Unbroken l) (hne : l ≠ []) : dropReturn (cs ++ l) = cs ++ l := by
  have hlast : (cs ++ l).getLast? = l.getLast? := by
    rw [List.getLast?_append, Option.or_of_isSome]
    exact List.getLast?_isSome.2 hne
  refine if_neg fun hreturn => h.not_mem (by decide) (List.mem_of_getLast? (a := '\r') ?_)
  rw [← hlast, hreturn]

/-- A line that has not ended goes on with what is put behind it. -/
theorem lines_append_torn (hend : ¬ Ended cs) (hl : Unbroken l) (hne : l ≠ []) :
    ∃ start last, last ≠ [] ∧ lines cs = start ++ [last] ∧
      lines (cs ++ (l ++ ['\n'])) = start ++ [last ++ l] := by
  have hfeed : '\n' ∉ l := hl.not_mem (by decide)
  obtain ⟨last, hlast, hcs⟩ := exists_lastPiece '\n' cs
  have htorn : last ≠ [] := by
    rintro rfl
    rcases hcs with rfl | ⟨start, rfl⟩
    · exact hend (.inl rfl)
    · exact hend (.inr List.getLast?_concat)
  -- What stands behind the last line feed is a line although it has not ended.
  have hpiece : linesOfPieces [last] = [last] :=
    if_neg (by simp [htorn])
  have hlonger : splitOn '\n' (last ++ l) = [last ++ l] :=
    splitOn_of_not_mem (by simp [hlast, hfeed])
  rw [← List.append_assoc, lines_ended]
  rcases hcs with rfl | ⟨start, rfl⟩
  · refine ⟨[], cs, htorn, ?_, ?_⟩
    · rw [lines, splitOn_of_not_mem hlast, hpiece, List.nil_append]
    · rw [hlonger, List.map_singleton, dropReturn_append hl hne, List.nil_append]
  · refine ⟨(splitOn '\n' start).map dropReturn, last, htorn, ?_, ?_⟩
    · rw [lines, splitOn_append, splitOn_of_not_mem hlast, linesOfPieces_concat, hpiece]
    · rw [List.append_assoc, List.cons_append, splitOn_append, hlonger, List.map_append,
        List.map_singleton, dropReturn_append hl hne]

end Warden.Text
