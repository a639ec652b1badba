import Warden.Proofs.Disk.Programs
import Warden.Proofs.Persisted
import Warden.StateFile

namespace Warden.StateFile

/-!
# The state file on a disk

What was saved is loaded again.

* `Holds dir t content?` — the state file has a text, or is not there.
* `load_of_holds` — what is loaded then.
* `Saves dir t p` — saving a state goes through.
* `load_save` — what was saved is loaded.
-/

variable {dir text : String} {t : Tree} {p : Persisted}

/-- Whether the state file in a directory has a text, or is not there. -/
def Holds (dir : String) (t : Tree) : Option String → Prop
  | none => t.kind? (path dir) = none
  | some text => t.read (path dir) = .ok text.toUTF8

/-- The state that a file stands for, if it is there. -/
def initial (content? : Option String) : Persisted := (content?.map Persisted.ofText).getD .empty

/-- Without a file the state is empty. -/
theorem load_missing (h : t.kind? (path dir) = none) : t.exec (load dir) = (.ok .empty, t) := by
  unfold load
  rw [Tree.exec_bind (Tree.exec_lift (t.run_exists (path dir))), h]
  rfl

/-- A file that is there is read, whatever its text. -/
theorem load_text (h : t.read (path dir) = .ok text.toUTF8) :
    t.exec (load dir) = (.ok (.ofText text), t) := by
  unfold load
  rw [Tree.exec_bind (Tree.exec_exists h), if_pos rfl,
    Tree.exec_bind (Tree.exec_doing (Tree.run_readText h))]
  rfl

/-- Any text and no file at all can be loaded. -/
theorem load_of_holds {content? : Option String} (h : Holds dir t content?) :
    t.exec (load dir) = (.ok (initial content?), t) := by
  cases content? with
  | none => exact load_missing h
  | some text => exact load_text h

/-- Whether saving a state goes through: its directory can be made, and the file put in place. -/
def Saves (dir : String) (t : Tree) (p : Persisted) : Prop :=
  (t.run (Disk.createParent (path dir))).1 = .ok () ∧
    ((t.run (Disk.createParent (path dir))).2.run (Disk.replace (path dir) p.text)).1 = .ok ()

/-- A save that goes through leaves a tree in which the file holds the state. -/
theorem read_save (h : Saves dir t p) :
    (t.run (save dir p)).2.read (path dir) = .ok p.text.toUTF8 := by
  obtain ⟨hparent, hreplace⟩ := h
  generalize hcreated : t.run (Disk.createParent (path dir)) = created at hparent hreplace
  generalize hplaced : created.2.run (Disk.replace (path dir) p.text) = placed at hreplace
  obtain ⟨created, t₁⟩ := created
  obtain ⟨placed, t₂⟩ := placed
  cases hparent
  cases hreplace
  have hmodify : t₁.modify (path dir) (fun _ => p.text.toUTF8) = .ok t₂ :=
    Tree.run_changing.1 hplaced
  -- Neither of the two steps fails, so saving ends in the tree after the second one.
  have hsave : t.run (save dir p) = ((), t₂) := by
    unfold save
    rw [Tree.run_bind, hcreated]
    show t₁.run (Disk.replace (path dir) p.text >>= fun _ => pure ()) = _
    rw [Tree.run_bind, hplaced]
    rfl
  obtain ⟨old, hread, -⟩ := Tree.read_modify hmodify
  rw [hsave, hread]

/-- A state that was saved is loaded again. -/
theorem load_save (h : Saves dir t p) (hp : p.Fits) :
    (t.run (save dir p)).2.exec (load dir) = (.ok p, (t.run (save dir p)).2) := by
  rw [load_text (read_save h), Persisted.ofText_text hp]

/-- Whatever was read has times of 64 bits. -/
theorem fits_initial (content? : Option String) : (initial content?).Fits := by
  cases content? with
  | none => exact fun last hlast => by cases hlast
  | some text => exact Persisted.fits_ofText text

end Warden.StateFile
