import Warden.Disk.Tree
import Warden.Proofs.Fallible

namespace Warden.Tree

open Fallible

/-!
# What a change of a tree leaves behind

A file that is written is there and reads as it was written, and new directories hide nothing.

* `at?_put` — what is where once something was put in its place.
* `Extends t t'` — all that is in `t` is in `t'` too; `Extends.find` — and paths lead to it.
* `modify_eq_ok`, `read_modify` — a file that was changed.
* `extends_createDirs` — making directories only adds to a tree.
-/

variable {t t' : Tree} {p q : Place} {n : Node} {path : String} {f : ByteArray → ByteArray}
  {bytes : ByteArray}

/-! ### Nodes -/

/-- What is taken out of a list under one place is not missed at another. -/
theorem lookup_filter {nodes : List (Place × Node)} (h : q ≠ p) :
    (nodes.filter (·.1 != p)).lookup q = nodes.lookup q := by
  induction nodes with
  | nil => rfl
  | cons e rest ih =>
    obtain ⟨r, n⟩ := e
    by_cases hr : r = p
    · subst hr
      rw [List.filter_cons_of_neg (by simp), ih, List.lookup_cons, beq_false_of_ne h]
    · rw [List.filter_cons_of_pos (by simp [hr]), List.lookup_cons, List.lookup_cons, ih]

/-- Nothing but what was put in place is new. -/
theorem at?_put_of_ne (h : q ≠ p) : (t.put p n).at? q = t.at? q := by
  simp only [at?, put, List.lookup_cons, beq_false_of_ne h, lookup_filter h]

/-- What was put in place is there; only the root stays what it is. -/
theorem at?_put_self (h : p ≠ []) : (t.put p n).at? p = some n := by
  have hne : p.isEmpty = false := List.isEmpty_eq_false_iff.2 h
  simp [at?, put, hne]

/-! ### Trees with more in them -/

/-- Whether all that is in a tree is in another one too, and paths start at the same place. -/
structure Extends (t t' : Tree) : Prop where
  here : t'.here = t.here
  at? q n : t.at? q = some n → t'.at? q = some n

theorem Extends.refl (t : Tree) : Extends t t := ⟨rfl, fun _ _ h => h⟩

theorem Extends.trans {t'' : Tree} (h : Extends t t') (h' : Extends t' t'') : Extends t t'' :=
  ⟨h'.here.trans h.here, fun q n hq => h'.at? q n (h.at? q n hq)⟩

/-- Where nothing was, something may be put without loss. -/
theorem extends_put (h : t.at? p = none) : Extends t (t.put p n) := by
  refine ⟨rfl, fun q m hq => ?_⟩
  have hne : q ≠ p := by
    rintro rfl
    rw [h] at hq
    cases hq
  rw [at?_put_of_ne hne, hq]

/-! ### Paths -/

/-- A step looks at nothing but a directory. -/
theorem step_congr {name : List Char}
    (h : ∀ mode, t.at? p = some (.directory mode) → t'.at? p = some (.directory mode))
    (hstep : t.step p name = .ok q) : t'.step p name = .ok q := by
  unfold step at hstep ⊢
  split at hstep
  · cases hstep
  · cases hstep
  next mode hp =>
    rw [h mode hp]
    exact hstep

/-- A way through directories that stay leads where it led. -/
theorem place_congr (hhere : t'.here = t.here)
    (h : ∀ q mode, t.at? q = some (.directory mode) → t'.at? q = some (.directory mode))
    (hplace : t.place path = .ok p) : t'.place path = .ok p := by
  have hfold (names : List (List Char)) (start : Place)
      (hfold : names.foldlM t.step start = .ok p) : names.foldlM t'.step start = .ok p := by
    -- On the steps of the way: each of them looks at one directory, which stays.
    induction names generalizing start with
    | nil => exact hfold
    | cons name rest ih =>
      rw [List.foldlM_cons] at hfold ⊢
      obtain ⟨next, hstep, hrest⟩ := bind_ok_iff.1 hfold
      exact bind_ok_iff.2 ⟨next, step_congr (h start) hstep, ih next hrest⟩
  -- An absolute path starts at the root, any other one where the tree is.
  unfold place at hplace ⊢
  rw [hhere]
  split at hplace
  · cases hplace
  · exact hfold _ _ hplace

/-- With more in the tree, a path leads where it led. -/
theorem Extends.place (h : Extends t t') (hplace : t.place path = .ok p) :
    t'.place path = .ok p :=
  place_congr h.here (fun q mode hq => h.at? q (.directory mode) hq) hplace

/-- A path leads to a file if it leads to its place and does not end in a slash. -/
theorem find_eq_file : t.find path = .ok (p, .file bytes) ↔
    t.place path = .ok p ∧ t.at? p = some (.file bytes) ∧ Path.endsInSlash path = false := by
  unfold find
  rw [bind_ok_iff]
  constructor
  · rintro ⟨q, hplace, h⟩
    split at h
    · cases h
    · cases h
    next old hq =>
      split at h
      · cases h
      next hslash =>
        cases h
        exact ⟨hplace, hq, Bool.eq_false_iff.2 hslash⟩
  · rintro ⟨hplace, hp, hslash⟩
    refine ⟨p, hplace, ?_⟩
    simp [hp, hslash]

/-- With more in the tree, a file is found where it was. -/
theorem Extends.find (h : Extends t t') (hfind : t.find path = .ok (p, .file bytes)) :
    t'.find path = .ok (p, .file bytes) := by
  obtain ⟨hplace, hp, hslash⟩ := find_eq_file.1 hfind
  exact find_eq_file.2 ⟨h.place hplace, h.at? p _ hp, hslash⟩

/-! ### Files -/

/-- What can be read is a file that is found. -/
theorem read_eq_ok : t.read path = .ok bytes ↔ ∃ p, t.find path = .ok (p, .file bytes) := by
  unfold read
  cases hfind : t.find path with
  | error cause => simp [bind, Except.bind]
  | ok found =>
    obtain ⟨p, n⟩ := found
    cases n <;> simp [bind, Except.bind]

/-- What can be read is a file. -/
theorem kind?_of_read (h : t.read path = .ok bytes) : t.kind? path = some .file := by
  obtain ⟨p, hfind⟩ := read_eq_ok.1 h
  rw [kind?, hfind]
  rfl

/-- With more in the tree, a file holds what it held. -/
theorem Extends.read (h : Extends t t') (hread : t.read path = .ok bytes) :
    t'.read path = .ok bytes := by
  obtain ⟨p, hfind⟩ := read_eq_ok.1 hread
  exact read_eq_ok.2 ⟨p, h.find hfind⟩

/-- A file that is put where no directory is can be found there: no way leads through its place. -/
theorem find_put (hplace : t.place path = .ok p) (hslash : Path.endsInSlash path = false)
    (hp : ∀ mode, t.at? p ≠ some (.directory mode)) :
    (t.put p (.file bytes)).find path = .ok (p, .file bytes) := by
  have hroot : p ≠ [] := by
    rintro rfl
    exact hp usualMode rfl
  -- Directories are what ways lead through, and none of them is replaced.
  have hplace' : (t.put p (.file bytes)).place path = .ok p := by
    refine place_congr (t := t) rfl (fun q mode hq => ?_) hplace
    have hne : q ≠ p := by
      rintro rfl
      exact hp mode hq
    rw [at?_put_of_ne hne, hq]
  exact find_eq_file.2 ⟨hplace', at?_put_self hroot, hslash⟩

/-- A file that is changed is there already, or is made empty where nothing is. -/
theorem modify_eq_ok (h : t.modify path f = .ok t') :
    ∃ p old, t.place path = .ok p ∧ Path.endsInSlash path = false ∧
      (t.at? p = some (.file old) ∨ t.at? p = none ∧ old = .empty) ∧
      t' = t.put p (.file (f old)) := by
  unfold modify at h
  obtain ⟨p, hplace, h⟩ := bind_ok_iff.1 h
  split at h
  · cases h
  next hslash =>
    rw [Bool.not_eq_true] at hslash
    split at h
    · cases h
    next old hp =>
      cases h
      exact ⟨p, old, hplace, hslash, .inl hp, rfl⟩
    next hp =>
      cases h
      exact ⟨p, .empty, hplace, hslash, .inr ⟨hp, rfl⟩, rfl⟩

/-- A file that was changed is there, and holds what was made of what it held. -/
theorem read_modify (h : t.modify path f = .ok t') :
    ∃ old, t'.read path = .ok (f old) ∧ ∀ bytes, t.read path = .ok bytes → old = bytes := by
  obtain ⟨p, old, hplace, hslash, hold, rfl⟩ := modify_eq_ok h
  -- What is changed is a file or was missing, in any case no directory.
  have hp : ∀ mode, t.at? p ≠ some (.directory mode) := by
    rcases hold with hold | ⟨hnone, -⟩
    · simp [hold]
    · simp [hnone]
  refine ⟨old, read_eq_ok.2 ⟨p, find_put hplace hslash hp⟩, fun bytes hread => ?_⟩
  obtain ⟨q, hfind⟩ := read_eq_ok.1 hread
  obtain ⟨hq, hfile, -⟩ := find_eq_file.1 hfind
  cases hplace.symm.trans hq
  rcases hold with hold | ⟨hnone, -⟩
  · cases hold.symm.trans hfile
    rfl
  · cases hnone.symm.trans hfile

/-- A file that was changed though it could not be read is made of nothing. -/
theorem read_modify_new (h : t.modify path f = .ok t') (hnone : ∀ bytes, t.read path ≠ .ok bytes) :
    t'.read path = .ok (f .empty) := by
  obtain ⟨p, old, hplace, hslash, hold, rfl⟩ := modify_eq_ok h
  rcases hold with hfile | ⟨hp, rfl⟩
  · exact absurd (read_eq_ok.2 ⟨p, find_eq_file.2 ⟨hplace, hfile, hslash⟩⟩) (hnone old)
  · exact read_eq_ok.2 ⟨p, find_put hplace hslash (by simp [hp])⟩

/-! ### Directories -/

/-- A directory is made where nothing is, or is there already. -/
theorem extends_createDir (h : t.createDir path = .ok t') : Extends t t' := by
  unfold createDir at h
  obtain ⟨p, -, h⟩ := bind_ok_iff.1 h
  split at h
  next hp =>
    cases h
    exact extends_put hp
  · cases h
    exact .refl t
  · cases h

/-- Making the first of several directories makes those above it that are missing, and takes nothing
away. -/
theorem extends_createFirst (t : Tree) (paths : List String) :
    Extends t (t.createFirst paths).2 := by
  -- On the paths, the innermost one first; where it cannot be made, those above it are tried.
  induction paths with
  | nil => exact .refl t
  | cons path above ih =>
    simp only [createFirst]
    split
    · -- The directories above were missing; whatever became of them stays.
      split
      next t' habove =>
        rw [habove] at ih
        split
        next t'' hdir => exact ih.trans (extends_createDir hdir)
        next => exact ih
      next => exact ih
    · split
      next t' hdir => exact extends_createDir hdir
      next => exact .refl t

/-- Making directories only adds to a tree. -/
theorem extends_createDirs (t : Tree) (path : String) : Extends t (t.createDirs path).2 :=
  extends_createFirst t _

end Warden.Tree
