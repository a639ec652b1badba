import Warden.Proofs.Disk.Place
import Warden.Proofs.Disk.Script

namespace Warden

/-!
# What one operation leaves alone

Programs that go on at the same time disturb each other only through the files that they change and
the locks that they take.

* `Tree.Stays file t t'` — places stay, and a file reads as before.
* `Disk.Op.Spares file`, `Tree.stays_perform` — an operation that leaves a file alone.
* `Tree.Locked path t` — the lock on a file is held; `Tree.Locked.perform` — until somebody frees
  it.
* `Tree.locked_of_lock` — whoever gets a lock is the only one who holds it.
-/

open Fallible
open Disk (Op)

/-- Whether an operation leaves a file alone. -/
def Disk.Op.Spares (file : String) : Op → Prop
  | .kind _ | .read _ | .createDirs _ | .unlock _ => True
  | .write path _ | .append path _ | .lock path => Tree.Apart path file
  | .replace .. | .restrict _ => False

/-- Whether an operation frees no lock. -/
def Disk.Op.Holds : Op → Prop
  | .unlock _ | .restrict _ => False
  | _ => True

namespace Tree

variable {t t' t'' : Tree} {p : Place} {path file text : String} {bytes : ByteArray}
  {f : ByteArray → ByteArray}

/-! ### What stays -/

/-- Whether paths lead where they led, and a file reads as before. -/
structure Stays (file : String) (t t' : Tree) : Prop where
  place path p : t.place path = .ok p → t'.place path = .ok p
  read bytes : t.read file = .ok bytes → t'.read file = .ok bytes

theorem Stays.refl (file : String) (t : Tree) : Stays file t t :=
  ⟨fun _ _ h => h, fun _ h => h⟩

/-- A tree with more in it leads where it led, and its files read as before. -/
theorem Extends.stays (h : Extends t t') (file : String) : Stays file t t' :=
  ⟨fun _ _ hplace => h.place hplace, fun _ hread => h.read hread⟩

/-- Locks hide nothing. -/
theorem extends_locked (t : Tree) (locked : List Place) : Extends t { t with locked } :=
  ⟨rfl, fun _ _ h => h⟩

/-- Changing a file moves nothing. -/
theorem place_modify (h : t.modify path f = .ok t') {path' : String}
    (hplace : t.place path' = .ok p) : t'.place path' = .ok p := by
  obtain ⟨p', old, -, -, hold, rfl⟩ := modify_eq_ok h
  refine place_congr (t := t) rfl (fun q mode hq => ?_) hplace
  -- The file that is changed is none of the directories on the way.
  have hne : q ≠ p' := by
    rintro rfl
    rcases hold with hfile | ⟨hnone, -⟩
    · cases hq.symm.trans hfile
    · cases hq.symm.trans hnone
  rw [at?_put_of_ne hne, hq]

/-- Changing a file changes no other one. -/
theorem stays_modify (h : t.modify path f = .ok t') (hapart : Apart path file) :
    Stays file t t' := by
  refine ⟨fun _ _ hplace => place_modify h hplace, fun bytes hread => ?_⟩
  obtain ⟨q, hfind⟩ := read_eq_ok.1 hread
  obtain ⟨hq, hfile, hslash⟩ := find_eq_file.1 hfind
  obtain ⟨p', old, hp', -, -, heq⟩ := modify_eq_ok h
  refine read_eq_ok.2 ⟨q, find_eq_file.2 ⟨place_modify h hq, ?_, hslash⟩⟩
  rw [heq, at?_put_of_ne (hapart t p' q hp' hq).symm, hfile]

/-- A lock that is taken leaves the files alone, and the file of the lock is there. -/
theorem lock_eq_ok {free : Bool} (h : t.lock path = .ok (t', free)) :
    ∃ t₁ p, t.modify path id = .ok t₁ ∧ t₁.place path = .ok p ∧ t₁.locked = t.locked ∧
      free = !t₁.locked.contains p ∧
      t' = if t₁.locked.contains p then t₁ else { t₁ with locked := p :: t₁.locked } := by
  unfold lock at h
  obtain ⟨t₁, hmodify, h⟩ := bind_ok_iff.1 h
  obtain ⟨p, hplace, h⟩ := bind_ok_iff.1 h
  have hlocked : t₁.locked = t.locked := by
    obtain ⟨_, _, -, -, -, rfl⟩ := modify_eq_ok hmodify
    rfl
  refine ⟨t₁, p, hmodify, hplace, hlocked, ?_⟩
  cases hcontains : t₁.locked.contains p with
  | true =>
    rw [if_pos hcontains] at h
    obtain ⟨rfl, rfl⟩ := Prod.mk.inj (Except.ok.inj h)
    exact ⟨rfl, rfl⟩
  | false =>
    rw [if_neg (Bool.eq_false_iff.1 hcontains)] at h
    obtain ⟨rfl, rfl⟩ := Prod.mk.inj (Except.ok.inj h)
    exact ⟨rfl, rfl⟩

/-! ### Operations -/

/-- A change is made, or it fails and nothing has changed. -/
theorem changing_cases (t : Tree) (f : Tree → Except IoCause Tree) :
    (∃ t', f t = .ok t' ∧ t.run (changing f) = (.ok (), t')) ∨
      ∃ cause, t.run (changing f) = (.error cause, t) := by
  cases hf : f t with
  | ok t' => exact .inl ⟨t', rfl, run_changing.2 hf⟩
  | error cause =>
    refine .inr ⟨cause, ?_⟩
    have hget : t.run get = (t, t) := rfl
    unfold changing
    rw [run_bind, hget, hf]
    rfl

/-- So it is with a lock, which is taken or not. -/
theorem lock_cases (t : Tree) (path : String) :
    (∃ t' free, t.lock path = .ok (t', free) ∧ t.run (Disk.lock path) = (.ok free, t')) ∨
      ∃ cause, t.run (Disk.lock path) = (.error cause, t) := by
  have hget : t.run get = (t, t) := rfl
  cases hlock : t.lock path with
  | ok got =>
    refine .inl ⟨got.1, got.2, rfl, ?_⟩
    show t.run (get >>= _) = _
    rw [run_bind, hget, hlock]
    rfl
  | error cause =>
    refine .inr ⟨cause, ?_⟩
    show t.run (get >>= _) = _
    rw [run_bind, hget, hlock]
    rfl

/-- Whoever frees a lock changes nothing else. -/
theorem extends_unlock (t : Tree) (path : String) : Extends t (t.unlock path) := by
  unfold unlock
  split
  · exact extends_locked t _
  · exact .refl t

/-- Freeing a lock moves no file. -/
theorem stays_unlock (t : Tree) (file path : String) : Stays file t (t.unlock path) :=
  (t.extends_unlock path).stays file

/-- An operation that leaves a file alone moves nothing either. -/
theorem stays_perform {op : Op} (h : op.Spares file) (t : Tree) :
    Stays file t (t.run op.perform).2 := by
  -- What is written elsewhere either arrives there or fails.
  have hchanging {path : String} {f : ByteArray → ByteArray} (hapart : Apart path file) :
      Stays file t (t.run (changing fun t => t.modify path f)).2 := by
    rcases t.changing_cases fun t => t.modify path f with ⟨t', hmodify, hrun⟩ | ⟨cause, hrun⟩
    · rw [hrun]
      exact stays_modify hmodify hapart
    · rw [hrun]
      exact .refl file t
  -- One case for each operation; to spare the file is to have another one in mind.
  cases op with
  | kind path | read path => exact .refl file t
  | write path text | append path text => exact hchanging h
  | replace path text | restrict path => exact h.elim
  | createDirs path => exact (extends_createDirs t path).stays file
  | unlock path => exact t.stays_unlock file path
  | lock path =>
    show Stays file t (t.run (Disk.lock path)).2
    rcases t.lock_cases path with ⟨t', free, hlock, hrun⟩ | ⟨cause, hrun⟩
    · obtain ⟨t₁, p, hmodify, -, -, -, rfl⟩ := lock_eq_ok hlock
      have hstays := stays_modify hmodify h
      rw [hrun]
      split
      · exact hstays
      · have hextends := extends_locked t₁ (p :: t₁.locked)
        exact ⟨fun _ _ hp => hextends.place (hstays.place _ _ hp),
          fun _ hr => hextends.read (hstays.read _ hr)⟩
    · rw [hrun]
      exact .refl file t

/-- A file that was put in place is there, and nothing has moved. -/
theorem replace_cases (t : Tree) (path text : String) :
    (∃ t', t.run (Disk.replace path text) = (.ok (), t') ∧ t'.read path = .ok text.toUTF8 ∧
        ∀ path' p, t.place path' = .ok p → t'.place path' = .ok p) ∨
      ∃ cause, t.run (Disk.replace path text) = (.error cause, t) := by
  rcases t.changing_cases fun t => t.modify path fun _ => text.toUTF8 with
    ⟨t', hmodify, hrun⟩ | hfailed
  · obtain ⟨old, hread, -⟩ := read_modify hmodify
    exact .inl ⟨t', hrun, hread, fun _ _ hp => place_modify hmodify hp⟩
  · exact .inr hfailed

/-- A file that can be read can be put in place anew. -/
theorem replace_ok (h : t.read path = .ok bytes) (text : String) :
    ∃ t', t.run (Disk.replace path text) = (.ok (), t') := by
  obtain ⟨p, hfind⟩ := read_eq_ok.1 h
  obtain ⟨hplace, hfile, hslash⟩ := find_eq_file.1 hfind
  refine ⟨t.put p (.file text.toUTF8), run_changing.2 ?_⟩
  unfold modify
  rw [hplace]
  simp only [bind, Except.bind, hslash, hfile]
  rfl

/-! ### Locks -/

/-- Whether the lock on a file is held. -/
def Locked (path : String) (t : Tree) : Prop := ∃ p, t.place path = .ok p ∧ p ∈ t.locked

/-- Making a directory takes and frees no lock. -/
theorem locked_createDir (h : t.createDir path = .ok t') : t'.locked = t.locked := by
  unfold createDir at h
  obtain ⟨p, -, h⟩ := bind_ok_iff.1 h
  split at h <;> cases h <;> rfl

/-- Nor does making those above it. -/
theorem locked_createFirst (t : Tree) (paths : List String) :
    (t.createFirst paths).2.locked = t.locked := by
  -- On the directories, from the innermost one on, which is made last.
  induction paths with
  | nil => rfl
  | cons path above ih =>
    simp only [createFirst]
    split
    · split
      next t' habove =>
        rw [habove] at ih
        split
        next t'' hdir => exact (locked_createDir hdir).trans ih
        next => exact ih
      next => exact ih
    · split
      next t' hdir => exact locked_createDir hdir
      next => rfl

/-- A lock is held until it is freed. -/
theorem Locked.perform {op : Op} (h : t.Locked path) (hop : op.Holds) :
    (t.run op.perform).2.Locked path := by
  obtain ⟨p, hplace, hmem⟩ := h
  have hmodify {path' : String} {f : ByteArray → ByteArray} :
      Locked path (t.run (changing fun t => t.modify path' f)).2 := by
    rcases t.changing_cases fun t => t.modify path' f with ⟨t', hmodify, hrun⟩ | ⟨cause, hrun⟩
    · rw [hrun]
      refine ⟨p, place_modify hmodify hplace, ?_⟩
      obtain ⟨_, _, -, -, -, rfl⟩ := modify_eq_ok hmodify
      exact hmem
    · rw [hrun]
      exact ⟨p, hplace, hmem⟩
  -- The place of the file stays what it is, and no lock is freed.
  cases op with
  | kind path' | read path' => exact ⟨p, hplace, hmem⟩
  | write path' text | append path' text | replace path' text => exact hmodify
  | unlock path' | restrict path' => exact hop.elim
  | createDirs path' =>
    refine ⟨p, (extends_createDirs t path').place hplace, ?_⟩
    show p ∈ (t.createDirs path').2.locked
    rw [createDirs, locked_createFirst]
    exact hmem
  | lock path' =>
    show Locked path (t.run (Disk.lock path')).2
    rcases t.lock_cases path' with ⟨t', free, hlock, hrun⟩ | ⟨cause, hrun⟩
    · obtain ⟨t₁, p', hmodify, -, hlocked, -, rfl⟩ := lock_eq_ok hlock
      rw [hrun]
      have hplace₁ := place_modify hmodify hplace
      rw [← hlocked] at hmem
      split
      · exact ⟨p, hplace₁, hmem⟩
      · exact ⟨p, (extends_locked t₁ _).place hplace₁, List.mem_cons_of_mem p' hmem⟩
    · rw [hrun]
      exact ⟨p, hplace, hmem⟩

/-- Whoever gets a lock is the only one who holds it. -/
theorem locked_of_lock (h : t.run (Disk.lock path) = (.ok true, t')) :
    ¬ t.Locked path ∧ t'.Locked path := by
  rcases t.lock_cases path with ⟨t'', free, hlock, hrun⟩ | ⟨cause, hrun⟩
  · rw [h] at hrun
    obtain ⟨hfree, rfl⟩ := Prod.mk.inj hrun
    obtain rfl := Except.ok.inj hfree
    obtain ⟨t₁, p, hmodify, hplace, hlocked, hcontains, rfl⟩ := lock_eq_ok hlock
    have hfree : t₁.locked.contains p = false := by simpa using hcontains.symm
    -- The file of the lock may be made on the way, but the path leads to the same place then.
    constructor
    · rintro ⟨q, hq, hmem⟩
      obtain rfl : p = q := Except.ok.inj (hplace.symm.trans (place_modify hmodify hq))
      rw [← hlocked, ← List.contains_iff_mem, hfree] at hmem
      cases hmem
    · rw [if_neg (Bool.eq_false_iff.1 hfree)]
      exact ⟨p, (extends_locked t₁ _).place hplace, List.mem_cons_self⟩
  · rw [h] at hrun
    cases hrun

end Tree

end Warden
