import Mathlib.Control.Monad.Basic
import Warden.InstanceLock
import Warden.Paths
import Warden.Proofs.Disk.Steps

namespace Warden

/-!
# Paths that all processes understand alike

A path from the root leads to the same place for every process, whatever directory it works in.  The
paths of the program start at the root, whatever the environment holds, unless the directory for
temporary files is asked for and is given by a path that does not.

* `Path.isAbsolute_join` — where a path starts that is put together.
* `Tree.seenFrom`, `Tree.place_seenFrom` — paths in the eyes of a process.
* `Tree.after`, `Tree.Locked.after` — a lock is held until somebody frees it.
* `Paths.LooseTemporary` — the exception; `Paths.isAbsolute_runtimeDirOf` — there is no other one.
* `Paths.resolve_absolute` — the paths of the program, and the lock on the last of them.
-/

open Disk (Op)
open Fallible

/-! ### Where a path starts -/

namespace Path

theorem isAbsolute_join (base part : String) :
    isAbsolute (join base part) = (isAbsolute base || isAbsolute part) := by
  unfold join
  cases hpart : isAbsolute part with
  | true => simp [hpart]
  | false =>
    by_cases hempty : base = ""
    · subst hempty
      exact hpart
    · have hbase : base.isEmpty = false := by simpa using hempty
      rw [hbase, Bool.or_false, if_neg Bool.false_ne_true, Bool.or_false]
      split
      · exact Tree.isAbsolute_append hempty
      · rw [String.append_assoc]
        exact Tree.isAbsolute_append hempty

end Path

/-! ### Working directories -/

namespace Tree

variable {t t' : Tree} {path : String} {a b p : Place} {mode mode' : Nat}

/-- A tree in the eyes of a process that works in a directory. -/
def seenFrom (t : Tree) (dir : Place) : Tree := { t with here := dir }

/-- A path from the root leads to the same place from every directory. -/
theorem place_seenFrom (h : Path.isAbsolute path = true) (t : Tree) (dir : Place) :
    (t.seenFrom dir).place path = t.place path := by
  unfold place
  rw [if_pos h, if_pos h]
  rfl

/-- So a lock under such a path is held in the eyes of all, or of none. -/
theorem locked_seenFrom (h : Path.isAbsolute path = true) (dir : Place) :
    (t.seenFrom dir).Locked path ↔ t.Locked path := by
  unfold Locked
  rw [place_seenFrom h]
  rfl

/-! ### Locks while others are at work -/

/-- Who may enter a directory makes no difference to where paths lead. -/
theorem place_put_directory (h : t.at? p = some (.directory mode)) :
    (t.put p (.directory mode')).place path = t.place path := by
  have hstep : (t.put p (.directory mode')).step = t.step := by
    -- A step asks whether a directory is there, not who may enter it.
    funext q name
    unfold step
    by_cases hq : q = p
    · subst hq
      by_cases hroot : q = []
      · subst hroot
        rfl
      · rw [at?_put_self hroot, h]
    · rw [at?_put_of_ne hq]
  unfold place
  rw [hstep]
  rfl

/-- What is found is in its place. -/
theorem at?_of_find {n : Node} (h : t.find path = .ok (p, n)) : t.at? p = some n := by
  unfold find at h
  obtain ⟨q, -, h⟩ := bind_ok_iff.1 h
  split at h
  · cases h
  next hq =>
    cases h
    exact hq
  next hq =>
    split at h
    · cases h
    · cases h
      exact hq

/-- A lock is held whoever may enter a directory. -/
theorem Locked.restrict (h : t.Locked path) (dir : String) :
    (t.run (Disk.restrict dir)).2.Locked path := by
  show (t.run (changing fun t => t.restrict dir)).2.Locked path
  -- The change may fail, and then nothing has happened.
  rcases t.changing_cases (fun t => t.restrict dir) with ⟨t', hrestrict, hrun⟩ | ⟨cause, hrun⟩
  · rw [hrun]
    obtain ⟨p, hplace, hmem⟩ := h
    unfold Tree.restrict at hrestrict
    obtain ⟨⟨q, n⟩, hfind, hrestrict⟩ := bind_ok_iff.1 hrestrict
    cases n with
    | file bytes =>
      cases hrestrict
      exact ⟨p, hplace, hmem⟩
    | directory mode =>
      cases hrestrict
      exact ⟨p, (place_put_directory (at?_of_find hfind)).trans hplace, hmem⟩
  · rw [hrun]
    exact h

/-- A tree after operations of processes that work in various directories. -/
def after (t : Tree) (acts : List (Place × Op)) : Tree :=
  acts.foldl (fun t act => ((t.seenFrom act.1).run act.2.perform).2) t

/-- A lock is held until somebody frees one, whoever does whatever. -/
theorem Locked.after {acts : List (Place × Op)} (habsolute : Path.isAbsolute path = true)
    (h : t.Locked path) (hacts : ∀ act ∈ acts, ∀ freed, act.2 ≠ .unlock freed) :
    (t.after acts).Locked path := by
  -- Each act sees the tree from a directory of its own, which an absolute path does not notice.
  induction acts generalizing t with
  | nil => exact h
  | cons act rest ih =>
    obtain ⟨dir, op⟩ := act
    obtain ⟨hop, hrest⟩ := List.forall_mem_cons.1 hacts
    refine ih ?_ hrest
    have hseen : (t.seenFrom dir).Locked path := (locked_seenFrom habsolute dir).2 h
    cases op with
    | unlock freed => exact absurd rfl (hop freed)
    | restrict path' => exact hseen.restrict path'
    | kind | read | write | append | replace | createDirs | lock => exact hseen.perform trivial

/-- Whoever takes the lock for a process finds it free and holds it then. -/
theorem locked_of_acquire {pid : Nat}
    (h : t.exec (InstanceLock.acquire path pid) = (.ok true, t')) :
    ¬ t.Locked path ∧ t'.Locked path := by
  unfold InstanceLock.acquire at h
  obtain ⟨free, t₁, hlock, h⟩ := exec_bind_ok h
  have hrun := exec_doing_ok hlock
  cases free with
  | false => cases h
  | true =>
    obtain ⟨hfree, hheld⟩ := locked_of_lock hrun
    refine ⟨hfree, ?_⟩
    -- The number of the process is written once the lock is taken, and that frees nothing.
    obtain ⟨_, t₂, hwrite, hdone⟩ := exec_bind_ok h
    have hrun' := exec_plainly_ok hwrite
    cases hdone
    have hwritten : (t₁.run (Disk.write path (toString pid))).2.Locked path :=
      show (t₁.run (Op.write path (toString pid)).perform).2.Locked path from hheld.perform trivial
    rwa [hrun'] at hwritten

/-- Two processes never hold one lock, whatever directories they work in. -/
theorem acquire_excludes {pid pid' : Nat} {acts : List (Place × Op)}
    (habsolute : Path.isAbsolute path = true)
    (h : (t.seenFrom a).exec (InstanceLock.acquire path pid) = (.ok true, t'))
    (hacts : ∀ act ∈ acts, ∀ freed, act.2 ≠ .unlock freed) :
    (((t'.after acts).seenFrom b).exec (InstanceLock.acquire path pid')).1 ≠ .ok true := by
  intro hsecond
  -- The first process holds the lock all the time; the second one would have to find it free.
  have hheld : (t'.after acts).Locked path := (locked_of_acquire h).2.after habsolute hacts
  exact (locked_of_acquire (exec_eq hsecond)).1 ((locked_seenFrom habsolute b).2 hheld)

end Tree

/-! ### The paths of the program -/

namespace Paths

open Warden.Path (isAbsolute isAbsolute_join)

variable {env : Environment} {name place dir : String}

/-- A variable that has to start at the root is ignored if it does not. -/
theorem isAbsolute_of_absolute? (h : absolute? env name = some dir) : isAbsolute dir = true :=
  (Option.filter_eq_some_iff.1 h).2

/-- So is a variable of the program, after the home directory was put in. -/
theorem isAbsolute_of_ownDir? (h : ownDir? env name = some dir) : isAbsolute dir = true :=
  (Option.filter_eq_some_iff.1 h).2

/-- A directory under the general ones starts at the root, since the home directory does. -/
theorem isAbsolute_generalDir (h : isAbsolute env.home = true) (name place : String) :
    isAbsolute (generalDir env name place) = true := by
  unfold generalDir
  rw [isAbsolute_join, Bool.or_eq_true]
  refine .inl ?_
  cases hdir : absolute? env name with
  | some dir => exact isAbsolute_of_absolute? hdir
  | none =>
    show isAbsolute (Path.join env.home place) = true
    rw [isAbsolute_join, h, Bool.true_or]

/-- A variable of the program takes the place of the directory only if it starts at the root,
too. -/
theorem isAbsolute_getD (own : String) (h : isAbsolute dir = true) :
    isAbsolute ((ownDir? env own).getD dir) = true := by
  cases hown : ownDir? env own with
  | some dir' => exact isAbsolute_of_ownDir? hown
  | none => exact h

/-- Whether the directory for temporary files is asked for, as no other one is given for the lock,
and its path does not start at the root. -/
structure LooseTemporary (env : Environment) : Prop where
  own : absolute? env "PINGUARD_RUNTIME_DIR" = none
  general : absolute? env "XDG_RUNTIME_DIR" = none
  temporary : ∃ dir, env.lookup "TMPDIR" = some dir ∧ isAbsolute dir = false

/-- The directory for temporary files starts where its variable does, which nobody looks at. -/
theorem isAbsolute_temporaryDir :
    isAbsolute (temporaryDir env) = isAbsolute ((env.lookup "TMPDIR").getD "/tmp") := by
  have hname : isAbsolute (appName ++ "-" ++ toString env.user) = false := by
    rw [String.append_assoc, Tree.isAbsolute_append (by decide)]
    decide
  rw [temporaryDir, isAbsolute_join, hname, Bool.or_false]

/-- The directory for the lock is the only one that depends on where a process works. -/
theorem isAbsolute_runtimeDirOf : isAbsolute (runtimeDirOf env) = true ↔ ¬ LooseTemporary env := by
  -- Three variables in turn; the first two count only if they start at the root.
  unfold runtimeDirOf
  split
  next dir hown =>
    exact iff_of_true (isAbsolute_of_absolute? hown) fun h => by cases hown.symm.trans h.own
  next hown =>
    split
    next dir hgeneral =>
      rw [isAbsolute_join, isAbsolute_of_absolute? hgeneral, Bool.true_or]
      exact iff_of_true rfl fun h => by cases hgeneral.symm.trans h.general
    next hgeneral =>
      -- Nobody has looked at this value, so all depends on what it is.
      rw [isAbsolute_temporaryDir]
      constructor
      · rintro habsolute ⟨-, -, dir, hdir, hloose⟩
        rw [hdir] at habsolute
        cases habsolute.symm.trans hloose
      · intro h
        cases hdir : env.lookup "TMPDIR" with
        | none => decide
        | some dir =>
          cases hloose : isAbsolute dir with
          | true => exact hloose
          | false => exact absurd ⟨hown, hgeneral, dir, hdir, hloose⟩ h

/-- **The paths of the program start at the root.** Let the home directory do so, and let the other
variables be whatever they may.

* The directories start at the root; the one for the lock does unless it is the loose one.
* So do the files, which every process finds in the same place, whatever directory it works in.
* The same goes for the file of the lock. Once a process holds the lock, no other one gets it, as
  long as nobody frees a lock, and whatever directories they and all others work in. -/
theorem resolve_absolute (env : Environment) (h : isAbsolute env.home = true) :
    let p := resolve env
    isAbsolute p.configDir = true ∧ isAbsolute p.stateDir = true ∧
    (∀ dir, p.runtimeDir = some dir → (isAbsolute dir = true ↔ ¬ LooseTemporary env)) ∧
    (∀ file ∈ [p.configFile, p.stateFile, p.auditLog], isAbsolute file = true ∧
      ∀ (t : Tree) a b, (t.seenFrom a).place file = (t.seenFrom b).place file) ∧
    (isAbsolute p.instanceLock = true ↔ ¬ LooseTemporary env) ∧
    (¬ LooseTemporary env →
      (∀ (t : Tree) a b,
        (t.seenFrom a).place p.instanceLock = (t.seenFrom b).place p.instanceLock) ∧
      ∀ (t t' : Tree) a b pid pid' (acts : List (Place × Op)),
        (t.seenFrom a).exec (InstanceLock.acquire p.instanceLock pid) = (.ok true, t') →
        (∀ act ∈ acts, ∀ freed, act.2 ≠ .unlock freed) →
        (((t'.after acts).seenFrom b).exec (InstanceLock.acquire p.instanceLock pid')).1 ≠
          .ok true) := by
  intro p
  have hconfig : isAbsolute p.configDir = true :=
    isAbsolute_getD "PINGUARD_CONFIG_DIR" (isAbsolute_generalDir h _ _)
  have hstate : isAbsolute p.stateDir = true :=
    isAbsolute_getD "PINGUARD_STATE_DIR" (isAbsolute_generalDir h _ _)
  have hfile {dir : String} (hdir : isAbsolute dir = true) (name : String) :
      isAbsolute (Path.join dir name) = true := by
    rw [isAbsolute_join, hdir, Bool.true_or]
  have halike {file : String} (hfile : isAbsolute file = true) (t : Tree) (a b : Place) :
      (t.seenFrom a).place file = (t.seenFrom b).place file := by
    rw [Tree.place_seenFrom hfile, Tree.place_seenFrom hfile]
  -- The name of the lock does not start at the root, so its directory has to.
  have hlock : isAbsolute p.instanceLock = true ↔ ¬ LooseTemporary env := by
    have hname : isAbsolute "pinguard.lock" = false := by decide
    show isAbsolute (Path.join (runtimeDirOf env) "pinguard.lock") = true ↔ _
    rw [isAbsolute_join, hname, Bool.or_false, isAbsolute_runtimeDirOf]
  refine ⟨hconfig, hstate, ?_, ?_, hlock, fun htight => ⟨?_, ?_⟩⟩
  · rintro dir hdir
    cases hdir
    exact isAbsolute_runtimeDirOf
  · intro file hmem
    have habsolute : isAbsolute file = true := by
      simp only [List.mem_cons, List.not_mem_nil, or_false] at hmem
      rcases hmem with rfl | rfl | rfl
      · exact hfile hconfig _
      · exact hfile hstate _
      · exact hfile hstate _
    exact ⟨habsolute, halike habsolute⟩
  · exact halike (hlock.2 htight)
  · intro t t' a b pid pid' acts hfirst hacts
    exact Tree.acquire_excludes (hlock.2 htight) hfirst hacts

/-- Several variables that do not start at the root, and a good one for temporary files: a second
process, at work elsewhere, does not get the lock. -/
theorem resolve_absolute_relative_values :
    let env : Environment := {
      lookup := ([("PINGUARD_CONFIG_DIR", "~/config"), ("PINGUARD_STATE_DIR", "state"),
        ("XDG_STATE_HOME", ""), ("PINGUARD_RUNTIME_DIR", "run"), ("TMPDIR", "/tmp")].lookup ·)
      home := "/home/me"
      user := 7 }
    let tree : Tree := ⟨[([['t', 'm', 'p']], .directory 0o777),
      ([['t', 'm', 'p'], "pinguard-7".toList], .directory 0o700)], [], []⟩
    let lock := (resolve env).instanceLock
    let first := (tree.seenFrom [['t', 'm', 'p']]).exec (InstanceLock.acquire lock 1)
    isAbsolute env.home = true ∧ ¬ LooseTemporary env ∧ isAbsolute lock = true ∧
      first.1 = .ok true ∧
      ((first.2.seenFrom []).exec (InstanceLock.acquire lock 2)).1 ≠ .ok true := by
  intro env tree lock first
  have htight : ¬ LooseTemporary env := fun h => by
    obtain ⟨dir, hdir, hloose⟩ := h.temporary
    cases hdir
    cases hloose
  have hfirst : first.1 = .ok true := by decide +kernel
  obtain ⟨-, -, -, -, hlock, hboth⟩ := resolve_absolute env (by decide)
  have hgot : (tree.seenFrom [['t', 'm', 'p']]).exec (InstanceLock.acquire lock 1) =
      (.ok true, first.2) := Tree.exec_eq hfirst
  have hlast := (hboth htight).2 tree first.2 [['t', 'm', 'p']] [] 1 2 [] hgot
    (fun _ h => absurd h List.not_mem_nil)
  exact ⟨by decide, htight, hlock.2 htight, hfirst, hlast⟩

/-- With a loose directory for temporary files two processes have the lock at once, as each of them
has its own, in the directory that it works in. -/
theorem lock_held_twice :
    ∃ (env : Environment) (tree : Tree) (a b : Place),
      let lock := (resolve env).instanceLock
      let first := (tree.seenFrom a).exec (InstanceLock.acquire lock 1)
      let second := (first.2.seenFrom b).exec (InstanceLock.acquire lock 2)
      isAbsolute env.home = true ∧ env.lookup "TMPDIR" = some "tmp" ∧
        (resolve env).runtimeDir = some "tmp/pinguard-7" ∧ isAbsolute "tmp/pinguard-7" = false ∧
        isAbsolute lock = false ∧ first.1 = .ok true ∧ second.1 = .ok true :=
  ⟨{ lookup := ([("TMPDIR", "tmp")].lookup ·), home := "/home/me", user := 7 },
    ⟨[([['a']], .directory 0o755), ([['a'], "tmp".toList], .directory 0o755),
      ([['a'], "tmp".toList, "pinguard-7".toList], .directory 0o700),
      ([['b']], .directory 0o755), ([['b'], "tmp".toList], .directory 0o755),
      ([['b'], "tmp".toList, "pinguard-7".toList], .directory 0o700)], [], []⟩,
    [['a']], [['b']], by decide, by decide, by decide, by decide, by decide, by decide +kernel,
    by decide +kernel⟩

end Paths

end Warden
