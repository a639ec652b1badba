import Warden.Proofs.Disk.Tree

namespace Warden.Tree

/-!
# Programs over a tree

What the operations on a disk come to when the disk is a tree, and how programs that may fail go on.

* `run`, `exec` — what a program comes to.
* `exec_bind`, `exec_doing` — a program goes on where its first part did not fail.
* `run_exists`, `exec_exists`, `run_readText` — looking at a file.
* `run_changing` — a change that goes through.
* `extends_createParent` — making the directory of a file only adds to a tree.
-/

variable {α β : Type} {t t' : Tree} {path text purpose : String} {a : α}

/-- What a program comes to over a tree. -/
def run (t : Tree) (x : StateM Tree α) : α × Tree := StateT.run x t

/-- What a program that may fail comes to over a tree. -/
def exec (t : Tree) (x : ExceptT IoFault (StateM Tree) α) : Except IoFault α × Tree := t.run x.run

/-- What a program comes to is its answer, and the tree it leaves. -/
theorem exec_eq {x : ExceptT IoFault (StateM Tree) α} {r : Except IoFault α}
    (h : (t.exec x).1 = r) : t.exec x = (r, (t.exec x).2) := by
  rw [← h]

/-! ### Going on -/

/-- The second part of a program starts where the first one ends. -/
theorem run_bind (t : Tree) (x : StateM Tree α) (f : α → StateM Tree β) :
    t.run (x >>= f) = (t.run x).2.run (f (t.run x).1) := rfl

/-- If the first part does not fail, the second one goes on from there. -/
theorem exec_bind {x : ExceptT IoFault (StateM Tree) α} (h : t.exec x = (.ok a, t'))
    (f : α → ExceptT IoFault (StateM Tree) β) : t.exec (x >>= f) = t'.exec (f a) := by
  unfold exec at h ⊢
  rw [ExceptT.run_bind, run_bind, h]

/-- A program that does not fail does not fail in its first part. -/
theorem exec_bind_ok {b : β} {x : ExceptT IoFault (StateM Tree) α}
    {f : α → ExceptT IoFault (StateM Tree) β} (h : t.exec (x >>= f) = (.ok b, t')) :
    ∃ a t₁, t.exec x = (.ok a, t₁) ∧ t₁.exec (f a) = (.ok b, t') := by
  cases hx : t.exec x with
  | mk r t₁ =>
    cases r with
    | ok a => exact ⟨a, t₁, rfl, exec_bind hx f ▸ h⟩
    | error fault =>
      -- A fault is what all of it comes to.
      unfold exec at h hx
      rw [ExceptT.run_bind, run_bind, hx] at h
      cases h

/-- A part that cannot fail does not fail. -/
theorem exec_lift {x : StateM Tree α} (h : t.run x = (a, t')) :
    t.exec (liftM x) = (.ok a, t') := by
  show (Except.ok (t.run x).1, (t.run x).2) = _
  rw [h]

/-- An operation with a purpose that comes off is just the operation. -/
theorem exec_doing {x : StateM Tree (Except IoCause α)} (h : t.run x = (.ok a, t')) :
    t.exec (Disk.doing purpose x) = (.ok a, t') := by
  unfold exec Disk.doing
  rw [ExceptT.run_mk, run_bind, h]
  rfl

/-- What comes out of an operation with a purpose is what the operation was good for. -/
theorem exec_doing_ok {x : StateM Tree (Except IoCause α)}
    (h : t.exec (Disk.doing purpose x) = (.ok a, t')) : t.run x = (.ok a, t') := by
  unfold exec Disk.doing at h
  rw [ExceptT.run_mk, run_bind] at h
  cases hx : t.run x with
  | mk r t₁ =>
    rw [hx] at h
    cases r with
    | ok b =>
      cases h
      rfl
    | error cause => cases h

/-- The same for an operation without a purpose. -/
theorem exec_plainly_ok {x : StateM Tree (Except IoCause α)}
    (h : t.exec (Disk.plainly x) = (.ok a, t')) : t.run x = (.ok a, t') := by
  unfold exec Disk.plainly at h
  rw [ExceptT.run_mk, run_bind] at h
  cases hx : t.run x with
  | mk r t₁ =>
    rw [hx] at h
    cases r with
    | ok b =>
      cases h
      rfl
    | error cause => cases h

/-! ### Looking at files -/

/-- Asking whether a file is there changes nothing. -/
theorem run_exists (t : Tree) (path : String) :
    t.run (Disk.exists? path) = ((t.kind? path).isSome, t) := rfl

/-- A file that can be read is there. -/
theorem exec_exists {bytes : ByteArray} (h : t.read path = .ok bytes) :
    t.exec (liftM (Disk.exists? path : StateM Tree Bool)) = (.ok true, t) := by
  refine exec_lift ?_
  rw [run_exists, kind?_of_read h]
  rfl

/-- A text is got back from its bytes. -/
theorem fromUTF8_toUTF8 (s : String) : String.fromUTF8? s.toUTF8 = some s := by
  rw [String.fromUTF8?, String.toUTF8_eq_toByteArray, dif_pos s.isValidUTF8]
  rfl

/-- A file that holds the bytes of a text is read as that text. -/
theorem run_readText (h : t.read path = .ok text.toUTF8) :
    t.run (Disk.readText path) = (.ok text, t) := by
  have hread : t.run (Disk.read path) = (.ok text.toUTF8, t) := congrArg (·, t) h
  unfold Disk.readText
  rw [run_bind, hread]
  simp only [fromUTF8_toUTF8]
  rfl

/-! ### Changes -/

/-- A change comes off if it can be made, and leaves what it makes. -/
theorem run_changing {f : Tree → Except IoCause Tree} :
    t.run (changing f) = (.ok (), t') ↔ f t = .ok t' := by
  have hget : t.run get = (t, t) := rfl
  unfold changing
  rw [run_bind, hget]
  cases hf : f t with
  | ok t₁ =>
    show (Except.ok (), t₁) = _ ↔ _
    simp
  | error cause =>
    show (Except.error cause, t) = _ ↔ _
    simp

/-- Making the directory around a file takes nothing away. -/
theorem extends_createParent (t : Tree) (path : String) :
    Extends t (t.run (Disk.createParent path)).2 := by
  unfold Disk.createParent
  split
  · exact .refl t
  · split
    · exact .refl t
    · exact extends_createDirs t _

end Warden.Tree
