import Warden.Program.Serving
import Warden.Program.Window
import Warden.Proofs.Disk.Steps
import Warden.Proofs.Engine.Challenges

namespace Warden

/-!
# What programs do to the state file and to the lock

Two programs use the state file and the lock of the running engine: the engine itself, and the
command that closes the window.  Each goes through stages, and at each stage it does little.

* `Script.keeps_createParent`, `keeps_load`, `keeps_report` and so on — the parts of which both are
  made.
* `Program.clearRules`, `Program.keeps_clearWindow` — the command.
* `Program.serveRules`, `Program.keeps_openService`, `keeps_readLine` and so on — the engine.
-/

open Disk (Op)

/-- Whether an operation may be asked for, and leaves the stage as it is. -/
def Rules.Allows {σ : Type} (R : Rules σ) (s : σ) (op : Op) : Prop :=
  R.permits s op ∧ ∀ r, R.after s op r = s

namespace Script

/-! ### Parts of programs -/

section Parts

variable {σ α ε : Type} {R : Rules σ} {s : σ} {path dir : String} {time : Audit.Stamps}

/-- An operation that is allowed may come to anything. -/
theorem keeps_allowed {Q : σ → α → Prop} {op : Op} {go : op.Reply → Script α} (h : R.Allows s op)
    (hgo : ∀ r, (go r).Keeps R Q s) : (Script.next op go).Keeps R Q s := by
  refine .next h.1 fun r _ => ?_
  rw [h.2 r]
  exact hgo r

/-- Making the directory around a file is one operation, unless the path names none. -/
theorem keeps_createParent {Q : σ → Except IoCause Unit → Prop} (hnone : Q s (.ok ()))
    (hdir : ∀ dir, Path.parent? path = some dir → dir ≠ "" → R.permits s (.createDirs dir) ∧
      ∀ r, R.foresees s (.createDirs dir) r → Q (R.after s (.createDirs dir) r) r) :
    (Disk.createParent path : Script (Except IoCause Unit)).Keeps R Q s := by
  unfold Disk.createParent
  split
  · exact keeps_pure hnone
  next dir hparent =>
    split
    · exact keeps_pure hnone
    next hne =>
      obtain ⟨hpermits, hQ⟩ := hdir dir hparent (by simpa using hne)
      exact .next hpermits fun r hr => .done (hQ r hr)

/-- Making a directory where that is allowed. -/
theorem keeps_createParent_allowed (h : ∀ dir, R.Allows s (.createDirs dir)) :
    (Disk.createParent path : Script (Except IoCause Unit)).Keeps R (fun s' _ => s' = s) s :=
  keeps_createParent rfl fun dir _ _ => ⟨(h dir).1, fun r _ => (h dir).2 r⟩

/-- The text of a file, as the bytes that were read. -/
def textOf : Except IoCause ByteArray → Except IoCause String
  | .error cause => .error cause
  | .ok bytes =>
    match String.fromUTF8? bytes with
    | some text => .ok text
    | none => .error .notText

/-- What was written as a text is read as that text. -/
theorem textOf_toUTF8 (text : String) : textOf (.ok text.toUTF8) = .ok text := by
  unfold textOf
  simp only [Tree.fromUTF8_toUTF8]

/-- Reading a file as a text is one operation, and what it comes to depends on the bytes alone. -/
theorem keeps_readText {Q : σ → Except IoCause String → Prop} (hpermits : R.permits s (.read path))
    (h : ∀ r, R.foresees s (.read path) r → Q (R.after s (.read path) r) (textOf r)) :
    (Disk.readText path : Script (Except IoCause String)).Keeps R Q s := by
  refine keeps_bind (.next hpermits fun r hr => .done ?_)
  have hQ := h r hr
  cases r with
  | error cause => exact keeps_pure hQ
  | ok bytes =>
    unfold textOf at hQ
    cases htext : String.fromUTF8? bytes with
    | some text =>
      simp only [htext] at hQ ⊢
      exact keeps_pure hQ
    | none =>
      simp only [htext] at hQ ⊢
      exact keeps_pure hQ

/-- Adding lines to a file, where that is allowed. -/
theorem keeps_addLines (hdirs : ∀ dir, R.Allows s (.createDirs dir))
    (happend : ∀ text, R.Allows s (.append path text)) (lines : List String) :
    (Audit.addLines path lines : ExceptT IoFault Script Unit).run.Keeps R
      (fun s' _ => s' = s) s := by
  -- On the lines: for each of them a directory is made and something is appended, both of which are
  -- allowed.
  induction lines with
  | nil => exact keeps_pure rfl
  | cons line rest ih =>
    refine keeps_exceptBind (keeps_doing ((keeps_createParent_allowed hdirs).mono ?_))
    rintro _ (cause | ⟨⟩) rfl
    · rfl
    · refine keeps_exceptBind (keeps_doing (keeps_allowed (happend _) ?_))
      rintro (cause | ⟨⟩)
      · exact .done rfl
      · exact .done ih

/-- Adding an event to the log, where that is allowed. -/
theorem keeps_report (hkind : R.Allows s (.kind (Audit.path dir)))
    (hread : R.Allows s (.read (Audit.path dir))) (hdirs : ∀ dir, R.Allows s (.createDirs dir))
    (happend : ∀ text, R.Allows s (.append (Audit.path dir) text)) (r : Audit.Report) :
    (Audit.report dir r time : ExceptT IoFault Script Unit).run.Keeps R (fun s' _ => s' = s) s := by
  -- The log is read first, if there is one, and then lines are added to it.
  have hload : (Audit.load dir : ExceptT IoFault Script String).run.Keeps R
      (fun s' _ => s' = s) s := by
    refine keeps_exceptBind (keeps_lift (keeps_bind (keeps_allowed hkind fun kind => .done ?_)))
    cases kind with
    | none => exact keeps_pure (keeps_pure rfl)
    | some kind =>
      exact keeps_pure (keeps_doing (keeps_readText hread.1 fun r _ => hread.2 r))
  refine keeps_exceptBind (hload.mono ?_)
  rintro _ (cause | log) rfl
  · rfl
  · exact keeps_addLines hdirs happend _

/-- Loading the stored state. -/
theorem keeps_load {Q : σ → Except IoFault Persisted → Prop}
    (hkind : R.permits s (.kind (StateFile.path dir)))
    (hmissing : Q (R.after s (.kind (StateFile.path dir)) none) (.ok .empty))
    (hthere : ∀ kind, (Disk.readText (StateFile.path dir) : Script (Except IoCause String)).Keeps R
      (fun s' r => Q s' ((r.mapError fun cause =>
        ⟨some ("Failed to read " ++ StateFile.path dir), cause⟩).map .ofText))
      (R.after s (.kind (StateFile.path dir)) (some kind))) :
    (StateFile.load dir : ExceptT IoFault Script Persisted).run.Keeps R Q s := by
  refine keeps_exceptBind (keeps_lift (keeps_bind (.next hkind fun kind _ => .done ?_)))
  cases kind with
  | none => exact keeps_pure (keeps_pure hmissing)
  | some kind =>
    refine keeps_pure (keeps_exceptBind (keeps_doing ((hthere kind).mono ?_)))
    rintro s' (cause | text) hQ
    · exact hQ
    · exact keeps_pure hQ

/-- Saving a state. -/
theorem keeps_save {Q : σ → Unit → Prop} {p : Persisted}
    (h : (Disk.createParent (StateFile.path dir) : Script (Except IoCause Unit)).Keeps R (fun s' r =>
      match r with
      | .error _ => Q s' ()
      | .ok () => R.permits s' (.replace (StateFile.path dir) p.text) ∧
        ∀ r, R.foresees s' (.replace (StateFile.path dir) p.text) r →
          Q (R.after s' (.replace (StateFile.path dir) p.text) r) ()) s) :
    (StateFile.save dir p : Script Unit).Keeps R Q s := by
  refine keeps_bind (h.mono ?_)
  rintro s' (cause | ⟨⟩) hQ
  · exact keeps_pure hQ
  · exact keeps_bind (.next hQ.1 fun r hr => .done (keeps_pure (hQ.2 r hr)))

/-- What a lock needs is the directory around it. -/
theorem keeps_prepare (hdirs : ∀ dir, R.Allows s (.createDirs dir)) :
    (InstanceLock.prepare path : ExceptT IoFault Script Unit).run.Keeps R (fun s' _ => s' = s) s :=
  keeps_doing (keeps_createParent_allowed hdirs)

/-- Taking the lock, where its file may be signed once the lock is there. -/
theorem keeps_acquire (hlock : R.permits s (.lock path))
    (hsign : ∀ text, R.Allows (R.after s (.lock path) (.ok true)) (.write path text)) (pid : Nat) :
    (InstanceLock.acquire path pid : ExceptT IoFault Script Bool).run.Keeps R
      (fun s' r => ∀ free, r = .ok free → s' = R.after s (.lock path) (.ok free)) s := by
  refine keeps_exceptBind (keeps_doing (.next hlock fun r _ => .done ?_))
  -- Only a lock that was free is signed.
  obtain cause | taken := r
  · exact nofun
  cases taken with
  | false =>
    refine keeps_pure ?_
    rintro _ ⟨⟩
    rfl
  | true =>
    refine keeps_exceptBind (keeps_plainly (keeps_allowed (hsign _) ?_))
    rintro (cause | ⟨⟩)
    · exact .done nofun
    · refine .done (keeps_pure ?_)
      rintro _ ⟨⟩
      rfl

/-- What is done for each item keeps the stage if each of the items does. -/
theorem keeps_forM {f : α → Script Unit} {items : List α}
    (h : ∀ a ∈ items, (f a).Keeps R (fun s' _ => s' = s) s) :
    (items.forM f).Keeps R (fun s' _ => s' = s) s := by
  induction items with
  | nil => exact keeps_pure rfl
  | cons a rest ih =>
    refine keeps_bind ((h a List.mem_cons_self).mono ?_)
    rintro _ - rfl
    exact ih fun b hb => h b (List.mem_cons_of_mem a hb)

/-- A failure may be caught at the stage at which it comes. -/
theorem keeps_tryCatch {Q : σ → Except ε α → Prop} {x : ExceptT ε Script α}
    {handle : ε → ExceptT ε Script α}
    (h : x.run.Keeps R (fun s r =>
      match r with
      | .ok a => Q s (.ok a)
      | .error e => (handle e).run.Keeps R Q s) s) : (tryCatch x handle).run.Keeps R Q s := by
  refine keeps_bind (h.mono fun s r hr => ?_)
  cases r with
  | ok a => exact keeps_pure hr
  | error e => exact hr

end Parts

end Script

namespace Program

open Script

variable {p : Paths}

/-! ### The command -/

/-- How far the command that closes the window has come. -/
inductive ClearStage where
  | before
  /-- It holds the lock. -/
  | holding
  /-- It has given the lock back. -/
  | checked
  /-- It has read the state file. -/
  | found
  /-- It has written the state file. -/
  | closed
  deriving DecidableEq

/-- What the command may do at a stage. -/
inductive Clears (p : Paths) : ClearStage → Op → Prop
  | prepare (dir : String) : Clears p .before (.createDirs dir)
  | acquire : Clears p .before (.lock p.instanceLock)
  | sign (text : String) : Clears p .holding (.write p.instanceLock text)
  | release : Clears p .holding (.unlock p.instanceLock)
  | look : Clears p .checked (.kind p.stateFile)
  | read : Clears p .checked (.read p.stateFile)
  | makeDir (dir : String) (h : Path.parent? p.stateFile = some dir) (hne : dir ≠ "") :
    Clears p .found (.createDirs dir)
  | save (q : Persisted) (h : q.completion = none) : Clears p .found (.replace p.stateFile q.text)
  | lookLog : Clears p .closed (.kind p.auditLog)
  | readLog : Clears p .closed (.read p.auditLog)
  | makeLogDir (dir : String) : Clears p .closed (.createDirs dir)
  | log (text : String) : Clears p .closed (.append p.auditLog text)

/-- The rules of the command.  A state file that could be read can be written. -/
def clearRules (p : Paths) : Rules ClearStage where
  permits := Clears p
  foresees
    | .found, .createDirs _, r => r = .ok ()
    | .found, .replace .., r => r = .ok ()
    | _, _, _ => True
  after
    | .before, .lock _, .ok true => .holding
    | .holding, .unlock _, _ => .checked
    | .checked, .read _, .ok _ => .found
    | .found, .replace .., .ok _ => .closed
    | c, _, _ => c

/-- What the command says when it has closed the window. -/
def clearedText : String := "Bypass window cleared"

/-- Whether the window is closed if the command says so. -/
def Honest (c : ClearStage) (r : Except Failure (List String)) : Prop :=
  r = .ok [clearedText] → c = .closed

/-- The check takes the lock, and gives it back before the command goes on. -/
theorem keeps_checkStopped (o : Occasion) (config : Config) :
    (checkStopped o ⟨config, p⟩ : ExceptT Failure Script Unit).run.Keeps (clearRules p)
      (fun c r => r = .ok () → c = .checked) .before := by
  refine keeps_exceptBind (keeps_adapt
    ((keeps_prepare fun dir => ⟨Clears.prepare dir, fun _ => rfl⟩).mono ?_))
  rintro _ (f | ⟨⟩) rfl
  · exact nofun
  -- Somebody else may hold the lock; then the command ends here.
  have hacquire := keeps_acquire (R := clearRules p) (s := .before) Clears.acquire
    (fun text => ⟨Clears.sign text, fun _ => rfl⟩) o.process
  refine keeps_exceptBind (keeps_adapt (hacquire.mono ?_))
  rintro c (f | free) hc
  · exact nofun
  obtain rfl := hc free rfl
  cases free with
  | false => exact keeps_pure nofun
  | true => exact keeps_lift (.next .release fun _ _ => .done fun _ => rfl)

/-- The window comes from the state file, or is empty because there is none. -/
theorem keeps_storedWindow (config : Config) :
    (storedWindow ⟨config, p⟩ : ExceptT Failure Script Bypass).run.Keeps (clearRules p)
      (fun c r => ∀ b, r = .ok b → c = .found ∨ b.stored = .empty) .checked := by
  unfold storedWindow
  split
  · exact keeps_pure nofun
  next duration _ =>
    refine keeps_exceptBind (keeps_adapt (keeps_load .look ?_ fun kind => ?_))
    · refine keeps_pure ?_
      rintro b ⟨⟩
      exact .inr rfl
    · refine keeps_readText .read fun r _ => ?_
      cases htext : textOf r with
      | error cause => exact nofun
      | ok text =>
        obtain ⟨bytes, rfl⟩ : ∃ bytes, r = .ok bytes := by
          cases r with
          | error cause => cases htext
          | ok bytes => exact ⟨bytes, rfl⟩
        exact keeps_pure fun _ _ => .inl rfl

/-- The command reports that it has closed the window only if it has. -/
theorem keeps_clearWindow (o : Occasion) (config : Config) :
    (clearWindow o ⟨config, p⟩ : ExceptT Failure Script (List String)).run.Keeps (clearRules p)
      Honest .before := by
  refine keeps_exceptBind ((keeps_checkStopped o config).mono ?_)
  rintro c (f | ⟨⟩) hc
  · exact nofun
  obtain rfl := hc rfl
  refine keeps_exceptBind ((keeps_storedWindow config).mono ?_)
  rintro c (f | b) hb
  · exact nofun
  dsimp only
  split
  next hcleared =>
    -- Something was there to be closed, so the file was there and was read.
    have hfound : c = .found := by
      refine (hb b rfl).resolve_right fun hempty => ?_
      rw [Bypass.clear_answer, hempty] at hcleared
      cases hcleared
    subst hfound
    have hsave : (StateFile.save p.stateDir b.clear.state.stored : Script Unit).Keeps (clearRules p)
        (fun c _ => c = .closed) .found := by
      refine keeps_save (keeps_createParent ?_ fun dir hdir hne => ⟨.makeDir dir hdir hne, ?_⟩)
      · exact ⟨.save _ (Bypass.clear_completion b), by rintro _ rfl; rfl⟩
      · rintro _ rfl
        exact ⟨.save _ (Bypass.clear_completion b), by rintro _ rfl; rfl⟩
    refine keeps_exceptBind (keeps_lift (hsave.mono ?_))
    rintro _ - rfl
    dsimp only
    split
    · refine keeps_exceptBind (keeps_adapt ((keeps_report ⟨Clears.lookLog, fun _ => rfl⟩
        ⟨Clears.readLog, fun _ => rfl⟩ (fun dir => ⟨Clears.makeLogDir dir, fun _ => rfl⟩)
        (fun text => ⟨Clears.log text, fun _ => rfl⟩) _).mono ?_))
      rintro _ (f | ⟨⟩) rfl
      · exact nofun
      · exact keeps_pure fun _ => rfl
    · exact keeps_pure fun _ => rfl
  · -- With nothing to close, the command says something else.
    refine keeps_pure fun h => ?_
    exact absurd (List.singleton_inj.1 (Except.ok.inj h)) (by decide)

/-! ### The engine -/

/-- How far an engine has come, and which challenges it may have on record. -/
inductive ServeStage where
  | outside
  /-- It holds the lock. -/
  | locked
  /-- It has read the state file. -/
  | loaded (A : Nat → Prop)

/-- What an engine may do at a stage. -/
inductive Serves (p : Paths) : ServeStage → Op → Prop
  | makeDir (e : ServeStage) (dir : String) : Serves p e (.createDirs dir)
  | acquire : Serves p .outside (.lock p.instanceLock)
  | askHolder : Serves p .outside (.read p.instanceLock)
  | sign (text : String) : Serves p .locked (.write p.instanceLock text)
  | look : Serves p .locked (.kind p.stateFile)
  | read : Serves p .locked (.read p.stateFile)
  | save {A : Nat → Prop} (q : Persisted) (hfits : q.Fits) (h : q.Among A) :
    Serves p (.loaded A) (.replace p.stateFile q.text)
  | lookLog {A : Nat → Prop} : Serves p (.loaded A) (.kind p.auditLog)
  | readLog {A : Nat → Prop} : Serves p (.loaded A) (.read p.auditLog)
  | log {A : Nat → Prop} (text : String) : Serves p (.loaded A) (.append p.auditLog text)
  | release {e : ServeStage} (h : e ≠ .outside) : Serves p e (.unlock p.instanceLock)

/-- The challenge in a state file, as it was read. -/
def challengesIn (r : Except IoCause ByteArray) (c : Nat) : Prop :=
  ∃ text, textOf r = .ok text ∧ (Persisted.ofText text).completion = some c

/-- The rules of an engine. -/
def serveRules (p : Paths) : Rules ServeStage where
  permits := Serves p
  foresees _ _ _ := True
  after
    | .outside, .lock _, .ok true => .locked
    | .locked, .kind _, none => .loaded fun _ => False
    | .locked, .read _, r => .loaded (challengesIn r)
    | _, .unlock _, _ => .outside
    | e, _, _ => e

/-! ### An engine that serves -/

/-- Whether an engine serves in the right place, with only some challenges on record. -/
structure Serving.At (p : Paths) (A : Nat → Prop) (s : Serving) : Prop where
  bounded : ∀ c, A c → c ≤ Number.word64
  stored : s.service.stored.Among A
  stateDir : s.stateDir = p.stateDir
  lock : s.lock = p.instanceLock

/-- Whether the engine that is left, if there is one, serves in the right place. -/
def Ready (p : Paths) (e : ServeStage) (s? : Option Serving) : Prop :=
  ∀ s, s? = some s → ∃ A, e = .loaded A ∧ s.At p A

/-- No engine is left, so there is nothing to say about it. -/
theorem ready_none (p : Paths) (e : ServeStage) : Ready p e none := by
  rintro s ⟨⟩

/-- An engine that serves in the right place is one that may be left. -/
theorem Serving.At.ready {A : Nat → Prop} {s : Serving} (h : s.At p A) :
    Ready p (.loaded A) (some s) := by
  rintro _ ⟨⟩
  exact ⟨A, rfl, h⟩

/-- What may happen to an engine that serves. -/
inductive Serving.Act where
  | hear (time line : String)
  | pass (time : String) (span : Nat)
  | retune (time : String) (settings : Settings)
  /-- The clock is set; it moves on by `lag` while the engine takes a step. -/
  | setClock (now lag : Nat)
  | close (time : String)

namespace Serving.Act

/-- What an engine does then.  It is gone at the end, or goes on to serve. -/
def run {m : Type → Type} [Monad m] [Disk m] (s : Serving) : Act → m (Option Serving)
  | .hear time line => do
    match ← s.readLine time line with
    | (s, .proceed, _) => return some s
    | (s, .stop, _) =>
      let _ ← s.close time
      return none
  | .pass time span => return some (← s.advance time span).1
  | .retune time settings => return some (← s.reload time settings).1
  | .setClock now lag => return some { s with service := { s.service.withClock now with lag } }
  | .close time => do
    let _ ← s.close time
    return none

/-- The times of the challenges that the host reports then. -/
def completions (s : Serving) : Act → List Nat
  | .hear _ line => Wire.completions s.service line
  | _ => []

end Serving.Act

section Serving

variable {A : Nat → Prop} {s : Serving} {time : String} {effects : List Effect} {α : Type}

/-- A step changes what the service has on record, not where the engine serves. -/
theorem Serving.At.with_service (h : s.At p A) {service : Service} (hA : service.stored.Among A) :
    ({ s with service } : Serving).At p A := ⟨h.bounded, hA, h.stateDir, h.lock⟩

/-- Each effect is allowed, a save because the state has only known challenges on record. -/
theorem keeps_carryOut (h : s.At p A) {effect : Effect}
    (heffect : ∀ q, effect = .save q → q.Among A) :
    (carryOut s time effect : Script Unit).Keeps (serveRules p) (fun e _ => e = .loaded A)
      (.loaded A) := by
  have hdirs (dir : String) : (serveRules p).Allows (.loaded A) (.createDirs dir) :=
    ⟨Serves.makeDir _ dir, fun _ => rfl⟩
  cases effect with
  | save q =>
    have hq := heffect q rfl
    rw [carryOut, h.stateDir]
    refine keeps_save ((keeps_createParent_allowed hdirs).mono ?_)
    rintro _ (cause | ⟨⟩) rfl
    · rfl
    · exact ⟨Serves.save q (fun c hc => h.bounded c (hq c hc)) hq, fun _ _ => rfl⟩
  | record r =>
    rw [carryOut, h.stateDir]
    dsimp only
    -- The log is written only if it is switched on.
    split
    · refine keeps_bind ((keeps_report ⟨Serves.lookLog, fun _ => rfl⟩
        ⟨Serves.readLog, fun _ => rfl⟩ hdirs (fun text => ⟨Serves.log text, fun _ => rfl⟩) _).mono ?_)
      rintro _ - rfl
      exact keeps_pure rfl
    · exact keeps_pure rfl
  | surface _ | timer _ => exact keeps_pure rfl

/-- The effects of a step are allowed if its saves are. -/
theorem keeps_effects (h : s.At p A) (heffects : ∀ q, Effect.save q ∈ effects → q.Among A) :
    (effects.forM (carryOut s time) : Script Unit).Keeps (serveRules p) (fun e _ => e = .loaded A)
      (.loaded A) := by
  refine keeps_forM fun effect heffect => keeps_carryOut h ?_
  rintro q rfl
  exact heffects q heffect

/-- A step of the service leaves the engine serving, with only known challenges on record. -/
theorem keeps_settle (h : s.At p A) {step : Outcome Service α}
    (hstep : step.Stores A Service.stored) :
    (s.settle time step : Script (Serving × List Wire.Message)).Keeps (serveRules p)
      (fun e r => e = .loaded A ∧ r.1.At p A) (.loaded A) := by
  refine keeps_bind ((keeps_effects h hstep.saved).mono ?_)
  rintro _ - rfl
  exact keeps_pure ⟨rfl, h.with_service hstep.kept⟩

/-- An engine that closes may do its last step, and gives the lock back. -/
theorem keeps_close (h : s.At p A) :
    (s.close time : Script (List Wire.Message)).Keeps (serveRules p) (fun _ _ => True)
      (.loaded A) := by
  unfold Serving.close
  rw [h.lock]
  have hend (messages : List Wire.Message) : (do
      Disk.unlock p.instanceLock
      pure messages : Script (List Wire.Message)).Keeps (serveRules p) (fun _ _ => True)
        (.loaded A) :=
    keeps_bind (.next (.release nofun) fun _ _ => .done (keeps_pure trivial))
  -- A service that has stopped before has no step left.
  cases hstop : s.service.stop with
  | none => exact hend []
  | some step =>
    have hstep : step.Stores A Service.stored := by
      unfold Service.stop Service.call at hstop
      split at hstop
      · obtain rfl := Option.some.inj hstop
        have hshutdown := Engine.stores_shutdown (e := s.service.engine) h.stored
        exact ⟨hshutdown.kept, hshutdown.saved⟩
      · cases hstop
    refine keeps_bind ((keeps_settle h hstep).mono ?_)
    rintro _ r ⟨rfl, -⟩
    exact hend r.2

/-- A line of the host puts on record only the challenges that it reports. -/
theorem keeps_readLine (h : s.At p A) {line : String}
    (hA : ∀ c ∈ Wire.completions s.service line, A c) :
    (s.readLine time line : Script (Serving × Wire.Flow × List Wire.Message)).Keeps (serveRules p)
      (fun e r => e = .loaded A ∧ r.1.At p A) (.loaded A) := by
  obtain ⟨hkept, hsaved⟩ := Wire.stores_handleLine h.stored hA
  unfold Serving.readLine
  generalize Wire.handleLine s.service line = handled at hkept hsaved ⊢
  obtain ⟨service, handled⟩ := handled
  have hnext := h.with_service hkept
  cases handled with
  | none => exact keeps_pure ⟨rfl, hnext⟩
  | some handled =>
    refine keeps_bind ((keeps_effects hnext (hsaved handled rfl)).mono ?_)
    rintro _ - rfl
    exact keeps_pure ⟨rfl, hnext⟩

/-- New settings put no challenge on record. -/
theorem keeps_reload (h : s.At p A) (settings : Settings) :
    (s.reload time settings : Script (Serving × List Wire.Message)).Keeps (serveRules p)
      (fun e r => e = .loaded A ∧ r.1.At p A) (.loaded A) := by
  unfold Serving.reload
  cases hcall : s.service.call fun e _ => e.reload settings with
  | none => exact keeps_pure ⟨rfl, h⟩
  | some step =>
    unfold Service.call at hcall
    split at hcall
    · obtain rfl := Option.some.inj hcall
      exact keeps_settle h (Service.stores_after (Engine.stores_reload h.stored settings))
    · cases hcall

/-- **An engine that serves changes the state file alone, and puts on record only what it was
told.** -/
theorem keeps_act (h : s.At p A) (a : Serving.Act) (hA : ∀ c ∈ a.completions s, A c) :
    (a.run s : Script (Option Serving)).Keeps (serveRules p) (Ready p) (.loaded A) := by
  -- By what happens; only a line of the host can tell of a challenge.
  cases a with
  | hear time line =>
    have htold : ∀ c ∈ Wire.completions s.service line, A c := hA
    refine keeps_bind ((keeps_readLine h htold).mono ?_)
    rintro _ ⟨s', flow, messages⟩ ⟨rfl, hs'⟩
    cases flow with
    | proceed => exact keeps_pure hs'.ready
    | stop => exact keeps_bind ((keeps_close hs').mono fun e _ _ => keeps_pure (ready_none p e))
  | pass time span =>
    refine keeps_bind ((keeps_settle h (Service.stores_advance h.stored span)).mono ?_)
    rintro _ r ⟨rfl, hr⟩
    exact keeps_pure hr.ready
  | retune time settings =>
    refine keeps_bind ((keeps_reload h settings).mono ?_)
    rintro _ r ⟨rfl, hr⟩
    exact keeps_pure hr.ready
  | setClock now lag =>
    have hclock : ({ s with service := { s.service.withClock now with lag } } : Serving).At p A :=
      h.with_service h.stored
    exact keeps_pure hclock.ready
  | close time => exact keeps_bind ((keeps_close h).mono fun e _ _ => keeps_pure (ready_none p e))

end Serving

/-! ### The start of an engine -/

/-- An engine goes on only once it holds the lock. -/
theorem keeps_takeLock (o : Occasion) :
    (takeLock o p.instanceLock : ExceptT Failure Script Unit).run.Keeps (serveRules p)
      (fun e r => r = .ok () → e = .locked) .outside := by
  refine keeps_exceptBind (keeps_adapt
    ((keeps_prepare fun dir => ⟨Serves.makeDir _ dir, fun _ => rfl⟩).mono ?_))
  rintro _ (f | ⟨⟩) rfl
  · exact nofun
  have hacquire := keeps_acquire (R := serveRules p) (s := .outside) Serves.acquire
    (fun text => ⟨Serves.sign text, fun _ => rfl⟩) o.process
  refine keeps_exceptBind (keeps_adapt (hacquire.mono ?_))
  rintro e (f | free) he
  · exact nofun
  obtain rfl := he free rfl
  cases free with
  | false =>
    -- Who holds the lock is asked for the wording of the failure.
    have hask : (InstanceLock.holder? p.instanceLock : Script (Option Nat)).Keeps (serveRules p)
        (fun _ _ => True) .outside := by
      refine keeps_bind (keeps_readText .askHolder fun r _ => ?_)
      split <;> exact keeps_pure trivial
    exact keeps_exceptBind (keeps_lift (hask.mono fun _ _ _ => keeps_pure nofun))
  | true => exact keeps_pure fun _ => rfl

/-- What an engine has on record at the start is what stood in the file, or nothing. -/
theorem keeps_storedState :
    (storedState p.stateDir : ExceptT Failure Script Persisted).run.Keeps (serveRules p)
      (fun e r => e ≠ .outside ∧ ∀ q, r = .ok q → ∃ A, e = .loaded A ∧
        (∀ c, A c → c ≤ Number.word64) ∧ q.Among A) .locked := by
  refine keeps_adapt (keeps_load .look ⟨nofun, ?_⟩ fun kind => ?_)
  · rintro q ⟨⟩
    exact ⟨_, rfl, fun c hc => hc.elim, fun c hc => by cases hc⟩
  · refine keeps_readText .read fun r _ => ⟨nofun, ?_⟩
    cases htext : textOf r with
    | error cause => exact nofun
    | ok text =>
      rintro q ⟨⟩
      refine ⟨_, rfl, ?_, fun c hc => ⟨text, htext, hc⟩⟩
      rintro c ⟨text', htext', hc⟩
      obtain rfl := Except.ok.inj (htext.symm.trans htext')
      exact Persisted.fits_ofText text c hc

/-- An engine that starts has on record only what it has read. -/
theorem keeps_openService (o : Occasion) (config : Config) (package : String) :
    (openService o ⟨config, p⟩ package : ExceptT Failure Script Serving).run.Keeps (serveRules p)
      (fun e r => Ready p e r.toOption) .outside := by
  refine keeps_exceptBind ((keeps_takeLock o).mono ?_)
  rintro e (f | ⟨⟩) he
  · exact ready_none p e
  obtain rfl := he rfl
  -- Whatever fails once the lock is held, the lock is given back.
  have hfails {e : ServeStage} (he : e ≠ .outside) (f : Failure) :
      (do liftM (Disk.unlock p.instanceLock : Script Unit); throw f :
        ExceptT Failure Script Serving).run.Keeps (serveRules p)
        (fun e r => Ready p e r.toOption) e :=
    keeps_exceptBind
      (keeps_lift (.next (.release he) fun _ _ => .done (keeps_pure (ready_none p _))))
  refine keeps_tryCatch ?_
  split
  next f _ => exact keeps_pure (hfails (e := .locked) nofun (.settings f))
  next settings _ =>
    refine keeps_exceptBind (keeps_storedState.mono ?_)
    rintro e (f | stored) ⟨he, hstored⟩
    · exact hfails he f
    · obtain ⟨A, rfl, hbounded, hA⟩ := hstored stored rfl
      have hat : Serving.At p A ⟨.start (.start settings stored) package o.now, p.stateDir,
        config.audit.enabled, p.instanceLock⟩ := ⟨hbounded, hA, rfl, rfl⟩
      exact keeps_pure hat.ready

end Program

end Warden
