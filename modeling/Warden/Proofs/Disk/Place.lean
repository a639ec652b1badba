import Warden.Proofs.Disk.Programs
import Warden.Proofs.Text.Lines

namespace Warden

/-!
# Where the files of a directory are

A file of a directory lies in the place of the directory, under its own name, however the path of
the directory is written.  So two files of different names are in different places, and where a file
can be found its directory is there.

* `Path.IsName` — a name that leads to something of its own.
* `Path.names_join` — the names in the path of a file.
* `Tree.place_join`, `Tree.apart_join` — the place of a file ends in its name.
* `Tree.createDirs_parent` — there is nothing to be made for a file that has a place.
-/

open Fallible

/-! ### Names -/

namespace Path

variable {name : String} {cs : List Char}

/-- Whether a name leads to something of its own in a directory. -/
structure IsName (name : String) : Prop where
  slash : '/' ∉ name.toList
  /-- Dots may stand at the beginning of a name, but here none stands at its end. -/
  last : ∃ c, name.toList.getLast? = some c ∧ c ≠ '.'

/-- The names that stand between slashes. -/
def namesIn (cs : List Char) : List (List Char) := (Text.splitOn '/' cs).filter (!·.isEmpty)

/-- The names of a path are those between its slashes. -/
theorem names_eq (path : String) : names path = namesIn path.toList := rfl

/-- A slash separates the names before it from those behind it. -/
theorem namesIn_append (cs ds : List Char) :
    namesIn (cs ++ '/' :: ds) = namesIn cs ++ namesIn ds := by
  rw [namesIn, Text.splitOn_append, List.filter_append]
  rfl

/-- A name is not empty. -/
theorem IsName.ne_nil (h : IsName name) : name.toList ≠ [] := by
  obtain ⟨c, hlast, -⟩ := h.last
  intro hnil
  rw [hnil] at hlast
  cases hlast

theorem IsName.namesIn (h : IsName name) : namesIn name.toList = [name.toList] := by
  rw [Path.namesIn, Text.splitOn_of_not_mem h.slash, List.filter_cons_of_pos]
  · rfl
  · simpa using h.ne_nil

/-- A name leads neither nowhere nor up. -/
theorem IsName.ne_dots (h : IsName name) : name.toList ≠ ['.'] ∧ name.toList ≠ ['.', '.'] := by
  obtain ⟨c, hlast, hc⟩ := h.last
  constructor <;> intro heq <;> rw [heq] at hlast <;> exact hc (Option.some.inj hlast).symm

/-- The path of a file is that of its directory with a slash behind it, if there is anything. -/
theorem join_eq (h : IsName name) (dir : String) :
    ∃ front : List Char, (join dir name).toList = front ++ name.toList ∧
      (front = [] ∨ ∃ rest, front = rest ++ ['/']) ∧ namesIn front = names dir := by
  have habsolute : isAbsolute name = false := by
    refine Bool.eq_false_iff.2 fun habs => h.slash ?_
    rw [isAbsolute, beq_iff_eq] at habs
    exact List.mem_of_head? habs
  unfold join
  rw [habsolute, Bool.false_or]
  -- The slash is left out if there is no directory, or if it ends in one already.
  split
  next hempty =>
    have hnil : dir.toList = [] := by simpa using hempty
    refine ⟨[], rfl, .inl rfl, ?_⟩
    rw [names_eq, hnil]
  · split
    next hslash =>
      rw [endsInSlash, beq_iff_eq] at hslash
      obtain ⟨rest, hrest⟩ := List.getLast?_eq_some_iff.1 hslash
      exact ⟨dir.toList, String.toList_append, .inr ⟨rest, hrest⟩, rfl⟩
    · refine ⟨dir.toList ++ ['/'], ?_, .inr ⟨_, rfl⟩, ?_⟩
      · simp [String.toList_append]
      · rw [namesIn_append, names_eq]
        exact List.append_nil _

/-- The names in the path of a file: those of its directory, and its own. -/
theorem names_join (h : IsName name) (dir : String) :
    names (join dir name) = names dir ++ [name.toList] := by
  obtain ⟨front, hjoin, hfront, hnames⟩ := join_eq h dir
  rw [names_eq, hjoin, ← hnames]
  rcases hfront with rfl | ⟨rest, rfl⟩
  · exact h.namesIn
  · rw [List.append_assoc, List.singleton_append, namesIn_append, namesIn_append, h.namesIn]
    simp [Path.namesIn, Text.splitOn]

/-! ### The directory of a file -/

/-- What is cut off at the end of a path leads nowhere. -/
theorem namesIn_trimmedBack (cs : List Char) :
    ∃ k, namesIn cs.reverse = namesIn (trimmedBack cs).reverse ++ List.replicate k ['.'] := by
  -- On what is cut off: a slash adds no name, and a slash with a dot adds one dot.
  fun_induction trimmedBack cs with
  | case1 rest ih =>
    obtain ⟨k, hk⟩ := ih
    refine ⟨k, ?_⟩
    rw [List.reverse_cons, namesIn_append, ← hk]
    exact List.append_nil _
  | case2 rest ih =>
    obtain ⟨k, hk⟩ := ih
    refine ⟨k + 1, ?_⟩
    have hreverse : ('.' :: '/' :: rest).reverse = rest.reverse ++ '/' :: ['.'] := by simp
    rw [hreverse, namesIn_append, hk, List.append_assoc, List.replicate_succ']
    rfl
  | case3 cs => exact ⟨0, (List.append_nil _).symm⟩

/-- A path without its end is the beginning of the path. -/
theorem trimmedBack_suffix (cs : List Char) : trimmedBack cs <:+ cs := by
  fun_induction trimmedBack cs with
  | case1 rest ih => exact ih.trans (List.suffix_cons _ _)
  | case2 rest ih => exact (ih.trans (List.suffix_cons _ _)).trans (List.suffix_cons _ _)
  | case3 cs => exact List.suffix_refl _

/-- Only a path from the root is cut off as a whole. -/
theorem head?_of_trimmedBack_nil (hcs : cs ≠ []) (h : trimmedBack cs = []) :
    cs.getLast? = some '/' := by
  fun_induction trimmedBack cs with
  | case1 rest ih =>
    by_cases hrest : rest = []
    · rw [hrest]
      rfl
    · rw [List.getLast?_cons, ih hrest h]
      rfl
  | case2 rest ih =>
    by_cases hrest : rest = []
    · rw [hrest]
      rfl
    · rw [List.getLast?_cons, List.getLast?_cons, ih hrest h]
      rfl
  | case3 cs => exact absurd h hcs

/-- From its end, the path of a file starts with the name, of which nothing is cut off. -/
theorem IsName.trimmedBack (h : IsName name) (rest : List Char) :
    Path.trimmedBack (name.toList.reverse ++ rest) = name.toList.reverse ++ rest := by
  obtain ⟨c, hlast, hdot⟩ := h.last
  obtain ⟨init, hinit⟩ := List.getLast?_eq_some_iff.1 hlast
  have hslash : c ≠ '/' := by
    rintro rfl
    exact h.slash (List.mem_of_getLast? hlast)
  rw [hinit, List.reverse_append, List.reverse_singleton, List.singleton_append, List.cons_append]
  unfold Path.trimmedBack
  split
  next heq => exact absurd (List.cons.inj heq).1 hslash
  next heq => exact absurd (List.cons.inj heq).1 hdot
  · rfl

/-- What is left of the path of a file without its name. -/
theorem IsName.dropWhile (h : IsName name) {rest : List Char}
    (hrest : rest = [] ∨ ∃ front, rest = '/' :: front) :
    (name.toList.reverse ++ rest).dropWhile (· != '/') = rest := by
  rw [List.dropWhile_append_of_pos]
  · rcases hrest with rfl | ⟨front, rfl⟩
    · rfl
    · rw [List.dropWhile_cons_of_neg (by simp)]
  · intro a ha
    rw [List.mem_reverse] at ha
    have hne : a ≠ '/' := by
      rintro rfl
      exact h.slash ha
    simpa using hne

/-- The path of the directory of a file is the beginning of the path of the file, and leads to the
same place as the directory, step by step. -/
theorem parent?_join (h : IsName name) {dir parent : String}
    (hparent : parent? (join dir name) = some parent) :
    (∃ rest, join dir name = parent ++ rest) ∧
      ∃ k, names dir = names parent ++ List.replicate k ['.'] := by
  obtain ⟨front, hjoin, hfront, hnames⟩ := join_eq h dir
  have hreverse : front.reverse = [] ∨ ∃ rest, front.reverse = '/' :: rest := by
    rcases hfront with rfl | ⟨rest, rfl⟩
    · exact .inl rfl
    · exact .inr ⟨rest.reverse, by simp⟩
  have hne : (name.toList.reverse ++ front.reverse).isEmpty = false := by
    simp [h.ne_nil]
  unfold parent? at hparent
  simp only [hjoin, List.reverse_append, h.trimmedBack, h.dropWhile hreverse, hne,
    Bool.false_eq_true, if_false, Option.some.injEq] at hparent
  obtain ⟨k, hk⟩ := namesIn_trimmedBack front.reverse
  rw [List.reverse_reverse, hnames] at hk
  -- Either way, the directory is some beginning of what stands before the name.
  have hcut {cs : List Char} (hparent : String.ofList cs = parent) (hcs : cs <+: front)
      (hnamesIn : namesIn (Path.trimmedBack front.reverse).reverse = namesIn cs) :
      (∃ rest, join dir name = parent ++ rest) ∧
        ∃ k, names dir = names parent ++ List.replicate k ['.'] := by
    obtain ⟨rest, hrest⟩ := hcs
    refine ⟨⟨String.ofList (rest ++ name.toList), String.toList_inj.1 ?_⟩, k, ?_⟩
    · rw [← hparent, hjoin, ← hrest, ← String.ofList_append, String.toList_ofList,
        List.append_assoc]
    · rw [hk, hnamesIn, ← hparent, names_eq, String.toList_ofList]
  split at hparent
  next hroot =>
    rw [Bool.and_eq_true, List.isEmpty_iff, Bool.not_eq_true', List.isEmpty_eq_false_iff] at hroot
    obtain ⟨hnil, hfull⟩ := hroot
    have hlast := head?_of_trimmedBack_nil hfull (List.reverse_eq_nil_iff.1 hnil)
    rw [List.getLast?_reverse] at hlast
    obtain ⟨rest, hrest⟩ := List.head?_eq_some_iff.1 hlast
    exact hcut hparent ⟨rest, by rw [hrest]; rfl⟩ (by rw [hnil]; rfl)
  · have hbefore := List.reverse_prefix.2 (trimmedBack_suffix front.reverse)
    rw [List.reverse_reverse] at hbefore
    exact hcut hparent hbefore rfl

end Path

namespace Tree

variable {t : Tree} {dir name name' path : String} {p p' : Place}

/-! ### Places of files -/

/-- The place of a file of a directory ends in its name, and the directory is there. -/
theorem place_join (h : Path.IsName name) (hplace : t.place (Path.join dir name) = .ok p) :
    ∃ q mode, (Path.names dir).foldlM t.step
        (if Path.isAbsolute (Path.join dir name) then [] else t.here) = .ok q ∧
      t.at? q = some (.directory mode) ∧ p = q ++ [name.toList] := by
  unfold place at hplace
  split at hplace
  · cases hplace
  · rw [Path.names_join h, List.foldlM_append] at hplace
    obtain ⟨q, hq, hstep⟩ := bind_ok_iff.1 hplace
    rw [List.foldlM_cons] at hstep
    obtain ⟨p', hstep, hp⟩ := bind_ok_iff.1 hstep
    obtain rfl : p' = p := Except.ok.inj hp
    -- Of the ways to take one more step only that into a directory is left, for a name leads
    -- neither nowhere nor up.
    unfold step at hstep
    split at hstep
    · cases hstep
    · cases hstep
    next mode hmode =>
      rw [if_neg h.ne_dots.1, if_neg h.ne_dots.2] at hstep
      split at hstep
      · cases hstep
      · exact ⟨q, mode, hq, hmode, (Except.ok.inj hstep).symm⟩

/-- Whether two paths never lead to the same place. -/
def Apart (path path' : String) : Prop :=
  ∀ (t : Tree) p p', t.place path = .ok p → t.place path' = .ok p' → p ≠ p'

/-- Files of different names are in different places. -/
theorem apart_join (h : Path.IsName name) (h' : Path.IsName name') (hne : name ≠ name')
    (dir dir' : String) : Apart (Path.join dir name) (Path.join dir' name') := by
  intro t p p' hplace hplace'
  obtain ⟨q, -, -, -, rfl⟩ := place_join h hplace
  obtain ⟨q', -, -, -, rfl⟩ := place_join h' hplace'
  intro heq
  refine hne (String.toList_inj.1 ?_)
  exact List.singleton_inj.1 (List.append_inj_right' heq rfl)

/-- Dots lead nowhere. -/
theorem foldlM_dots {start : Place} {k : Nat}
    (h : (List.replicate k ['.']).foldlM t.step start = .ok p) : p = start := by
  induction k generalizing start with
  | zero => exact (Except.ok.inj h).symm
  | succ k ih =>
    rw [List.replicate_succ, List.foldlM_cons] at h
    obtain ⟨next, hstep, hrest⟩ := bind_ok_iff.1 h
    have hnext : next = start := by
      unfold step at hstep
      split at hstep
      · cases hstep
      · cases hstep
      · exact (Except.ok.inj hstep).symm
    rw [← hnext]
    exact ih hrest

/-- No disk refuses the beginning of a path that it does not refuse. -/
theorem refused?_append {rest : String} (h : refused? (path ++ rest) = none) (hne : path ≠ "") :
    refused? path = none := by
  unfold refused? at h ⊢
  rw [String.toList_append, String.utf8ByteSize_append] at h
  split at h
  · cases h
  next hnul =>
    split at h
    · cases h
    · split at h
      · cases h
      next hlength =>
        have hclean : ¬ path.toList.contains '\x00' = true := by
          intro hmem
          refine hnul ?_
          rw [List.contains_iff_mem] at hmem ⊢
          exact List.mem_append_left _ hmem
        have hempty : ¬ path.isEmpty = true := by simpa using hne
        rw [if_neg hclean, if_neg hempty, if_neg (by omega)]

/-- Where a path starts does not depend on its end. -/
theorem isAbsolute_append {rest : String} (hne : path ≠ "") :
    Path.isAbsolute (path ++ rest) = Path.isAbsolute path := by
  have hnil : path.toList ≠ [] := by simpa using hne
  obtain ⟨c, cs, hcs⟩ := List.exists_cons_of_ne_nil hnil
  simp [Path.isAbsolute, String.toList_append, hcs]

/-- There is nothing to be made for a file that has a place. -/
theorem createDirs_parent (h : Path.IsName name) (hplace : t.place (Path.join dir name) = .ok p)
    {parent : String} (hparent : Path.parent? (Path.join dir name) = some parent)
    (hne : parent ≠ "") : t.createDirs parent = (.ok (), t) := by
  obtain ⟨⟨rest, hrest⟩, k, hk⟩ := Path.parent?_join h hparent
  obtain ⟨q, mode, hq, hmode, -⟩ := place_join h hplace
  -- The directory is the beginning of the path, and dots at its end do not matter.
  have hdir : t.place parent = .ok q := by
    rw [hrest] at hplace hq
    have hrefused : refused? parent = none := by
      unfold place at hplace
      split at hplace
      · cases hplace
      next hnone => exact refused?_append hnone hne
    rw [hk, List.foldlM_append, isAbsolute_append hne] at hq
    obtain ⟨q', hq', hdots⟩ := bind_ok_iff.1 hq
    rw [foldlM_dots hdots, place, hrefused]
    exact hq'
  have hmade : t.createDir parent = .ok t := by
    unfold createDir
    rw [hdir]
    simp only [bind, Except.bind, hmode]
  -- So the innermost directory is there, and none above it is looked at.
  have hancestors : ∃ above, Path.ancestors parent = parent :: above := by
    unfold Path.ancestors
    cases hlength : parent.length with
    | zero => exact absurd (String.length_eq_zero_iff.1 hlength) hne
    | succ n =>
      rw [Path.ancestorsWithin, if_neg (by simpa using hne)]
      exact ⟨_, rfl⟩
  obtain ⟨above, habove⟩ := hancestors
  rw [createDirs, habove, createFirst]
  simp only [hmade]

end Tree

end Warden
