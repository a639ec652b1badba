import Warden.Proofs.Disk.Programs

namespace Warden

/-!
# Programs one operation at a time

A program on a disk asks for one operation after another.  Taken apart into these, it can be carried
out while other programs go on in between.

* `Disk.Op` — an operation, as a value.
* `Script` — a program as the operations that it asks for, and how it goes on after each of them.
* `Script.play` — a script in one go; `play_bind` — it goes on where its first part came to.
* `Rules`, `Script.Keeps` — a script that does only what it may do at the stage that it is at.
* `Script.keeps_bind`, `keeps_exceptBind` and so on — how programs keep to rules.
-/

/-! ### Operations -/

namespace Disk

/-- An operation of a disk. -/
inductive Op where
  | kind (path : String)
  | read (path : String)
  | write (path text : String)
  | append (path text : String)
  | replace (path text : String)
  | createDirs (path : String)
  | restrict (path : String)
  | lock (path : String)
  | unlock (path : String)

namespace Op

/-- What an operation gives. -/
@[reducible] def Reply : Op → Type
  | .kind _ => Option NodeKind
  | .read _ => Except IoCause ByteArray
  | .lock _ => Except IoCause Bool
  | .unlock _ => Unit
  | .write .. | .append .. | .replace .. | .createDirs _ | .restrict _ => Except IoCause Unit

/-- An operation as a program. -/
def perform {m : Type → Type} [Disk m] : (op : Op) → m op.Reply
  | .kind path => Disk.kind? path
  | .read path => Disk.read path
  | .write path text => Disk.write path text
  | .append path text => Disk.append path text
  | .replace path text => Disk.replace path text
  | .createDirs path => Disk.createDirs path
  | .restrict path => Disk.restrict path
  | .lock path => Disk.lock path
  | .unlock path => Disk.unlock path

end Op

end Disk

open Disk (Op)

/-! ### Scripts -/

/-- A program on a disk: it is done, or asks for an operation and goes on with what that gives. -/
inductive Script (α : Type) where
  | done (a : α)
  | next (op : Op) (go : op.Reply → Script α)

namespace Script

variable {α β σ ε : Type}

/-- A script, and then another one. -/
protected def bind : Script α → (α → Script β) → Script β
  | .done a, f => f a
  | .next op go, f => .next op fun r => (go r).bind f

instance : Monad Script where
  pure := .done
  bind := Script.bind

instance : Disk Script where
  kind? path := .next (.kind path) .done
  read path := .next (.read path) .done
  write path text := .next (.write path text) .done
  append path text := .next (.append path text) .done
  replace path text := .next (.replace path text) .done
  createDirs path := .next (.createDirs path) .done
  restrict path := .next (.restrict path) .done
  lock path := .next (.lock path) .done
  unlock path := .next (.unlock path) .done

/-- What a script has come to, if it is done. -/
def result? : Script α → Option α
  | .done a => some a
  | .next .. => none

/-- A script with a result is done. -/
theorem result?_eq_some {x : Script α} {a : α} : x.result? = some a ↔ x = .done a := by
  cases x with
  | done b => simp [result?]
  | next op go => simp [result?]

/-- A script in one go. -/
def play {m : Type → Type} [Monad m] [Disk m] : Script α → m α
  | .done a => pure a
  | .next op go => do (go (← op.perform)).play

/-- Two scripts in a row are played one after the other. -/
theorem play_bind {m : Type → Type} [Monad m] [LawfulMonad m] [Disk m] (x : Script α)
    (f : α → Script β) : (x >>= f).play (m := m) = x.play >>= fun a => (f a).play := by
  -- On the first script; its last operation hands over to the second one.
  induction x with
  | done a =>
    rw [play, pure_bind]
    rfl
  | next op go ih =>
    show (op.perform >>= fun r => (go r >>= f).play) = _
    simp only [play, bind_assoc, ih]

end Script

/-! ### Rules -/

/-- Rules for programs: what may be asked for at a stage, what it can give, and which stage comes
after it. -/
structure Rules (σ : Type) where
  permits : σ → Op → Prop
  foresees : σ → (op : Op) → op.Reply → Prop
  after : σ → (op : Op) → op.Reply → σ

namespace Script

variable {α β σ ε ε' : Type}

/-- Whether a script keeps to rules from a stage on, and comes to what is wanted of it. -/
inductive Keeps (R : Rules σ) (Q : σ → α → Prop) : Script α → σ → Prop
  | done {a : α} {s : σ} (h : Q s a) : Keeps R Q (.done a) s
  | next {op : Op} {go : op.Reply → Script α} {s : σ} (h : R.permits s op)
    (hgo : ∀ r, R.foresees s op r → Keeps R Q (go r) (R.after s op r)) : Keeps R Q (.next op go) s

section Keeps

variable {R : Rules σ} {s : σ} {x : Script α}

/-- A program that does nothing keeps to any rules. -/
theorem keeps_pure {Q : σ → α → Prop} {a : α} (h : Q s a) : (pure a : Script α).Keeps R Q s :=
  .done h

/-- What is wanted may be asked for less strictly. -/
theorem Keeps.mono {P Q : σ → α → Prop} (h : x.Keeps R P s) (himp : ∀ s a, P s a → Q s a) :
    x.Keeps R Q s := by
  induction h with
  | done h => exact .done (himp _ _ h)
  | next h _ ih => exact .next h ih

/-- A script keeps to rules if its first part does, and its rest from wherever that ends. -/
theorem keeps_bind {Q : σ → β → Prop} {f : α → Script β}
    (h : x.Keeps R (fun s a => (f a).Keeps R Q s) s) : (x >>= f).Keeps R Q s := by
  -- On how the first part keeps to the rules.
  induction h with
  | done h => exact h
  | next h _ ih => exact .next h ih

/-- A program that only passes a result on keeps to what the result is made of. -/
theorem keeps_map {Q : σ → β → Prop} {f : α → β} (h : x.Keeps R (fun s a => Q s (f a)) s) :
    (f <$> x).Keeps R Q s := keeps_bind (h.mono fun _ _ => keeps_pure)

/-! ### Programs that may fail -/

/-- A program that may fail goes on where its first part did not. -/
theorem keeps_exceptBind {Q : σ → Except ε β → Prop} {x : ExceptT ε Script α}
    {f : α → ExceptT ε Script β}
    (h : x.run.Keeps R (fun s r =>
      match r with
      | .ok a => (f a).run.Keeps R Q s
      | .error e => Q s (.error e)) s) : (x >>= f).run.Keeps R Q s := by
  rw [ExceptT.run_bind]
  refine keeps_bind (h.mono fun s r hr => ?_)
  -- A failure ends the program, and what is wanted of it is wanted at once.
  cases r with
  | ok a => exact hr
  | error e => exact keeps_pure hr

/-- A program that cannot fail is one that does not. -/
theorem keeps_lift {Q : σ → Except ε α → Prop} (h : x.Keeps R (fun s a => Q s (.ok a)) s) :
    (liftM x : ExceptT ε Script α).run.Keeps R Q s := keeps_map h

/-- A failure in other words is wanted in other words. -/
theorem keeps_adapt {Q : σ → Except ε' α → Prop} {x : ExceptT ε Script α} {f : ε → ε'}
    (h : x.run.Keeps R (fun s r => Q s (r.mapError f)) s) : (x.adapt f).run.Keeps R Q s :=
  keeps_map h

/-- What fails on the way tells what was to be done. -/
theorem keeps_doing {Q : σ → Except IoFault α → Prop} {purpose : String}
    {x : Script (Except IoCause α)}
    (h : x.Keeps R (fun s r => Q s (r.mapError fun cause => ⟨some purpose, cause⟩)) s) :
    (Disk.doing purpose x).run.Keeps R Q s := by
  refine keeps_bind (h.mono fun s r hr => ?_)
  cases r <;> exact keeps_pure hr

/-- Or it tells nothing but the cause. -/
theorem keeps_plainly {Q : σ → Except IoFault α → Prop} {x : Script (Except IoCause α)}
    (h : x.Keeps R (fun s r => Q s (r.mapError fun cause => ⟨none, cause⟩)) s) :
    (Disk.plainly x).run.Keeps R Q s := by
  refine keeps_bind (h.mono fun s r hr => ?_)
  cases r <;> exact keeps_pure hr

end Keeps

end Script

end Warden
