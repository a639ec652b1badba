import Warden.Proofs.Program.Race

namespace Warden

/-!
# Programs that nobody disturbs

A program that is taken apart into operations does what it does in one go, as long as nobody comes
in between.

* `Script.play_bind`, `play_exceptSeq`, `play_load` and so on — a script in one go is the program,
  part by part.
* `Program.play_clearWindow`, `play_openService`, `Serving.play_act` — the command and the engine.
* `Race.clear_alone`, `launch_alone`, `act_alone` — races in which the other one stands still.
-/

open Disk (Op)

namespace Script

variable {m : Type → Type} [Monad m] [LawfulMonad m] [Disk m]
variable {α β ε ε' : Type}

/-! ### How programs are made -/

/-- A script of one operation is the operation. -/
theorem play_op (op : Op) : (Script.next op .done).play = (op.perform : m op.Reply) := bind_pure _

/-- Two parts in a row are played in a row, if the second is played whatever the first one
answers. -/
theorem play_seq {x : Script α} {y : m α} {f : α → Script β} {g : α → m β} (h : x.play = y)
    (hf : ∀ a, (f a).play = g a) : (x >>= f).play = y >>= g := by
  rw [play_bind, h]
  exact bind_congr hf

/-- What is done with an answer is done with the answer of the program. -/
theorem play_map {x : Script α} {y : m α} (h : x.play = y) (f : α → β) :
    (f <$> x).play = f <$> y := by
  exact (play_seq h fun _ => rfl).trans (bind_pure_comp f y)

/-- Two parts of which the first may fail are played in a row. -/
theorem play_exceptSeq {x : ExceptT ε Script α} {y : ExceptT ε m α} {f : α → ExceptT ε Script β}
    {g : α → ExceptT ε m β} (h : x.run.play = y.run) (hf : ∀ a, (f a).run.play = (g a).run) :
    (x >>= f).run.play = (y >>= g).run := by
  rw [ExceptT.run_bind, ExceptT.run_bind]
  refine play_seq h fun r => ?_
  -- Behind a failure nothing is done on either side.
  cases r with
  | ok a => exact hf a
  | error e => rfl

/-- A part that cannot fail is played among those that can. -/
theorem play_lift {x : Script α} {y : m α} (h : x.play = y) :
    (liftM x : ExceptT ε Script α).run.play = (liftM y : ExceptT ε m α).run := play_map h _

/-- A failure may be given another wording. -/
theorem play_adapt {x : ExceptT ε Script α} {y : ExceptT ε m α} (h : x.run.play = y.run)
    (f : ε → ε') : (x.adapt f).run.play = (y.adapt f).run := play_map h _

/-- A failure may be caught. -/
theorem play_tryCatch {x : ExceptT ε Script α} {y : ExceptT ε m α}
    {handle : ε → ExceptT ε Script α} {handle' : ε → ExceptT ε m α} (h : x.run.play = y.run)
    (hf : ∀ e, (handle e).run.play = (handle' e).run) :
    (tryCatch x handle).run.play = (tryCatch y handle').run := by
  refine play_seq h fun r => ?_
  cases r with
  | ok a => rfl
  | error e => exact hf e

/-- What is done for each item of a list is played item by item. -/
theorem play_forM {f : α → Script Unit} {g : α → m Unit} (hf : ∀ a, (f a).play = g a)
    (items : List α) : (items.forM f).play = items.forM g := by
  induction items with
  | nil => rfl
  | cons a rest ih => exact play_seq (hf a) fun _ => ih

/-! ### Files -/

/-- The purpose of a step stands in its failure only. -/
theorem play_doing {x : Script (Except IoCause α)} {y : m (Except IoCause α)} (h : x.play = y)
    (purpose : String) : (Disk.doing purpose x).run.play = (Disk.doing purpose y).run := by
  refine play_seq h fun r => ?_
  cases r <;> rfl

theorem play_plainly {x : Script (Except IoCause α)} {y : m (Except IoCause α)} (h : x.play = y) :
    (Disk.plainly x).run.play = (Disk.plainly y).run := by
  refine play_seq h fun r => ?_
  cases r <;> rfl

/-- The first of the programs on files: the directory around a file. -/
theorem play_createParent (path : String) :
    (Disk.createParent path : Script _).play = (Disk.createParent path : m _) := by
  unfold Disk.createParent
  split
  · rfl
  · split
    · rfl
    · exact play_op _

theorem play_exists (path : String) :
    (Disk.exists? path : Script Bool).play = (Disk.exists? path : m Bool) :=
  play_seq (play_op (.kind path)) fun _ => rfl

/-- A file is read as a text by one operation; whether its bytes are one is decided without the
disk. -/
theorem play_readText (path : String) :
    (Disk.readText path : Script _).play = (Disk.readText path : m _) := by
  refine play_seq (play_op (.read path)) fun r => ?_
  cases r with
  | error cause => rfl
  | ok bytes =>
    dsimp only
    split <;> rfl

/-- Loading the state is two operations, or one if there is no file. -/
theorem play_load (dir : String) :
    (StateFile.load dir : ExceptT IoFault Script Persisted).run.play =
      (StateFile.load dir : ExceptT IoFault m Persisted).run := by
  refine play_exceptSeq (play_lift (play_exists _)) fun there => ?_
  split
  · exact play_exceptSeq (play_doing (play_readText _) _) fun _ => rfl
  · rfl

/-- Saving the state is two operations, or one if the directory cannot be made. -/
theorem play_save (dir : String) (p : Persisted) :
    (StateFile.save dir p : Script Unit).play = (StateFile.save dir p : m Unit) := by
  refine play_seq (play_createParent _) fun r => ?_
  cases r with
  | error cause => rfl
  | ok _ => exact play_seq (play_op (.replace _ _)) fun _ => rfl

/-- Lines are added to the log one by one, each with its directory made before it. -/
theorem play_addLines (file : String) (lines : List String) :
    (Audit.addLines file lines : ExceptT IoFault Script Unit).run.play =
      (Audit.addLines file lines : ExceptT IoFault m Unit).run := by
  induction lines with
  | nil => rfl
  | cons line rest ih =>
    exact play_exceptSeq (play_doing (play_createParent _) _) fun _ =>
      play_exceptSeq (play_doing (play_op (.append _ _)) _) fun _ => ih

/-- A report reads the log and adds to it. -/
theorem play_report (dir : String) (r : Audit.Report) (time : Audit.Stamps) :
    (Audit.report dir r time : ExceptT IoFault Script Unit).run.play =
      (Audit.report dir r time : ExceptT IoFault m Unit).run := by
  -- The log is read first, because the lines to add depend on its last one.
  refine play_exceptSeq ?_ fun log => play_addLines _ _
  refine play_exceptSeq (play_lift (play_exists _)) fun there => ?_
  split
  · exact play_doing (play_readText _) _
  · rfl

/-- What a lock needs is the directory around it. -/
theorem play_prepare (path : String) :
    (InstanceLock.prepare path : ExceptT IoFault Script Unit).run.play =
      (InstanceLock.prepare path : ExceptT IoFault m Unit).run :=
  play_doing (play_createParent path) _

/-- Taking a lock is two operations, or one if somebody holds it. -/
theorem play_acquire (path : String) (pid : Nat) :
    (InstanceLock.acquire path pid : ExceptT IoFault Script Bool).run.play =
      (InstanceLock.acquire path pid : ExceptT IoFault m Bool).run := by
  refine play_exceptSeq (play_doing (play_op (.lock path)) _) fun free => ?_
  split
  · exact play_exceptSeq (play_plainly (play_op (.write _ _))) fun _ => rfl
  · rfl

theorem play_holder (path : String) :
    (InstanceLock.holder? path : Script (Option Nat)).play = (InstanceLock.holder? path : m _) := by
  refine play_seq (play_readText path) fun r => ?_
  cases r <;> rfl

end Script

namespace Program

open Script

section Play

variable {m : Type → Type} [Monad m] [LawfulMonad m] [Disk m]

/-! ### The command -/

/-- **The command, operation by operation, is the command.** -/
theorem play_clearWindow (o : Occasion) (l : Loaded) :
    (clearWindow o l : ExceptT Failure Script (List String)).run.play =
      (clearWindow o l : ExceptT Failure m (List String)).run := by
  -- The three parts of the command: the check of the lock, the window on the disk, and what is
  -- written.
  have hcheck : (checkStopped o l : ExceptT Failure Script Unit).run.play =
      (checkStopped o l : ExceptT Failure m Unit).run := by
    refine play_exceptSeq (play_adapt (play_prepare _) _) fun _ =>
      play_exceptSeq (play_adapt (play_acquire _ _) _) fun free => ?_
    split
    · exact play_lift (play_op (.unlock _))
    · rfl
  have hstored : (storedWindow l : ExceptT Failure Script Bypass).run.play =
      (storedWindow l : ExceptT Failure m Bypass).run := by
    unfold storedWindow
    split
    · rfl
    · exact play_exceptSeq (play_adapt (play_load _) _) fun _ => rfl
  refine play_exceptSeq hcheck fun _ => play_exceptSeq hstored fun b => ?_
  dsimp only
  split
  · refine play_exceptSeq (play_lift (play_save _ _)) fun _ => ?_
    split
    · exact play_exceptSeq (play_adapt (play_report _ _ _) _) fun _ => rfl
    · rfl
  · rfl

/-! ### The engine -/

/-- **The start of an engine, operation by operation, is the start of an engine.** -/
theorem play_openService (o : Occasion) (l : Loaded) (package : String) :
    (openService o l package : ExceptT Failure Script Serving).run.play =
      (openService o l package : ExceptT Failure m Serving).run := by
  -- The lock first; whatever fails behind it gives the lock back.
  have hlock (path : String) : (takeLock o path : ExceptT Failure Script Unit).run.play =
      (takeLock o path : ExceptT Failure m Unit).run := by
    refine play_exceptSeq (play_adapt (play_prepare _) _) fun _ =>
      play_exceptSeq (play_adapt (play_acquire _ _) _) fun free => ?_
    split
    · exact play_exceptSeq (play_lift (play_holder path)) fun _ => rfl
    · rfl
  refine play_exceptSeq (hlock _) fun _ => play_tryCatch ?_ fun f =>
    play_exceptSeq (play_lift (play_op (.unlock _))) fun _ => rfl
  split
  · rfl
  · exact play_exceptSeq (play_adapt (play_load _) _) fun _ => rfl

namespace Serving

/-- An effect is carried out operation by operation. -/
theorem play_carryOut (s : Serving) (time : String) (effect : Effect) :
    (carryOut s time effect : Script Unit).play = (carryOut s time effect : m Unit) := by
  cases effect with
  | save q => exact play_save _ _
  | record r =>
    rw [carryOut, carryOut]
    dsimp only
    split
    · exact play_seq (play_report _ _ _) fun _ => rfl
    · rfl
  -- What goes to the screen or to the timers does not touch the disk.
  | surface _ | timer _ => rfl

/-- The effects of a step are carried out one after another. -/
theorem play_settle {α : Type} (s : Serving) (time : String) (step : Outcome Service α) :
    (s.settle time step : Script (Serving × List Wire.Message)).play = (s.settle time step : m _) :=
  play_seq (play_forM (play_carryOut s time) _) fun _ => rfl

/-- An engine closes by its last step, and then gives its lock back. -/
theorem play_close (s : Serving) (time : String) :
    (s.close time : Script (List Wire.Message)).play = (s.close time : m _) := by
  unfold close
  have hend (messages : List Wire.Message) : (do
      Disk.unlock s.lock
      pure messages : Script (List Wire.Message)).play = (do
      Disk.unlock s.lock
      pure messages : m (List Wire.Message)) := play_seq (play_op (.unlock _)) fun _ => rfl
  -- A service that has stopped already has no last step.
  cases s.service.stop with
  | none => exact play_seq rfl hend
  | some step => exact play_seq (play_settle s time step) fun _ => play_seq rfl hend

/-- **What happens to an engine, operation by operation, is what happens to an engine.** -/
theorem play_act (s : Serving) (a : Act) :
    (a.run s : Script (Option Serving)).play = (a.run s : m (Option Serving)) := by
  cases a with
  -- A line of the host may end the engine, which closes then; time that passes does not.
  | hear time line =>
    refine play_seq ?_ fun r => ?_
    · unfold readLine
      split
      dsimp only
      split
      · rfl
      · exact play_seq (play_forM (play_carryOut _ time) _) fun _ => rfl
    · obtain ⟨s', flow, messages⟩ := r
      cases flow with
      | proceed => rfl
      | stop => exact play_seq (play_close s' time) fun _ => rfl
  | pass time span => exact play_seq (play_settle s time _) fun _ => rfl
  | retune time settings =>
    refine play_seq ?_ fun _ => rfl
    unfold reload
    split
    · rfl
    · exact play_settle s time _
  -- Setting the clock is nothing that an operation of a disk could show.
  | setClock now lag => rfl
  | close time => exact play_seq (play_close s time) fun _ => rfl

end Serving

end Play

/-! ### Races in which one stands still -/

/-- What is done with the answer of a run leaves the disk alone. -/
theorem run_map {α β : Type} (t : Tree) (x : StateM Tree α) (f : α → β) :
    t.run (f <$> x) = (f (t.run x).1, (t.run x).2) := rfl

namespace Race

variable {p : Paths}

/-- The command alone comes to what it comes to in one go. -/
theorem command_alone (x : Race) : ∃ n,
    (x.run p (List.replicate n .command)).command = .done (x.tree.run x.command.play).1 ∧
    (x.run p (List.replicate n .command)).tree = (x.tree.run x.command.play).2 := by
  obtain ⟨t, command, engine, watch⟩ := x
  -- On the script that is left of the command: one turn takes one operation off it.
  induction command generalizing t watch with
  | done r => exact ⟨0, rfl, rfl⟩
  | next op go ih =>
    obtain ⟨n, hdone⟩ := ih (t.run op.perform).1 (t.run op.perform).2
      (watch.command op (t.run op.perform).1)
    exact ⟨n + 1, hdone⟩

/-- The engine alone comes to what it comes to in one go. -/
theorem engine_alone (x : Race) : ∃ n,
    (x.run p (List.replicate n .engine)).engine = .done (x.tree.run x.engine.play).1 ∧
    (x.run p (List.replicate n .engine)).tree = (x.tree.run x.engine.play).2 := by
  obtain ⟨t, command, engine, watch⟩ := x
  -- As for the command. Nothing else moves, so what the other one has left stays what it is.
  induction engine generalizing t watch with
  | done r => exact ⟨0, rfl, rfl⟩
  | next op go ih =>
    obtain ⟨n, hdone⟩ := ih (t.run op.perform).1 (t.run op.perform).2
      (watch.engine p op (t.run op.perform).1)
    exact ⟨n + 1, hdone⟩

/-- **A command that nobody disturbs does what the program does.** -/
theorem clear_alone (o : Occasion) (config : Config) (t : Tree) : ∃ n,
    (after p o config t (List.replicate n .command)).report? =
      some (t.run (clearWindow o ⟨config, p⟩).run).1 ∧
    (after p o config t (List.replicate n .command)).tree =
      (t.run (clearWindow o ⟨config, p⟩).run).2 := by
  obtain ⟨n, hcommand, htree⟩ := command_alone (p := p) (start p o config t)
  rw [start, play_clearWindow] at hcommand htree
  exact ⟨n, result?_eq_some.2 hcommand, htree⟩

/-- **An engine that nobody disturbs starts as the program does.** -/
theorem launch_alone {x : Race} (h : x.engine = .done none) (o : Occasion) (config : Config)
    (package : String) : ∃ n,
    let y := x.run p (.launch o config package :: List.replicate n .engine)
    let result := x.tree.run (openService o ⟨config, p⟩ package).run
    y.engine = .done result.1.toOption ∧ y.tree = result.2 := by
  obtain ⟨n, hengine, htree⟩ := engine_alone (p := p) (x.step p (.launch o config package))
  have hplay := play_map (play_openService (m := StateM Tree) o ⟨config, p⟩ package) Except.toOption
  refine ⟨n, ?_⟩
  obtain ⟨t, command, engine, watch⟩ := x
  cases h
  dsimp only [step] at hengine htree
  rw [hplay, run_map] at hengine htree
  exact ⟨hengine, htree⟩

/-- **What happens to an engine that nobody disturbs is what happens to it in the program.** -/
theorem act_alone {x : Race} {s : Serving} (h : x.engine = .done (some s)) (a : Serving.Act) : ∃ n,
    let y := x.run p (.act a :: List.replicate n .engine)
    y.engine = .done (x.tree.run (a.run s)).1 ∧ y.tree = (x.tree.run (a.run s)).2 := by
  obtain ⟨n, hengine, htree⟩ := engine_alone (p := p) (x.step p (.act a))
  refine ⟨n, ?_⟩
  obtain ⟨t, command, engine, watch⟩ := x
  -- The engine stands between two acts, so the act is what it has left.
  cases h
  dsimp only [step] at hengine htree
  rw [Serving.play_act] at hengine htree
  exact ⟨hengine, htree⟩

end Race

end Program

end Warden
