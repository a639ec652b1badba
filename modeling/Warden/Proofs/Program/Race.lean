import Warden.Proofs.Program.Conduct

namespace Warden.Program

/-!
# Closing the window while engines come and go

The command that closes the window makes sure that no engine runs, and frees the lock again before
it goes to work.  So an engine may start in between.

* `Race` — the command and an engine on one disk, one operation after another in any order.
* `Watch` — what an onlooker sees of it.
* `Race.Sound` — the invariant.
* `Race.cleared_for_good` — the window stays closed, unless an engine had read the state file before
  the command wrote it.
* `Race.cleared_and_open_again` — in that case the window may not be closed at all.
-/

open Disk (Op)
open Script

/-! ### The race -/

/-- What an onlooker sees of a race. -/
structure Watch where
  /-- Whether the command has made sure that no engine runs. -/
  checked : Bool := false
  /-- Whether the engine that runs took the lock only after that. -/
  late : Bool := false
  /-- Whether it has read the state file. -/
  loaded : Bool := false
  /-- Whether the command has written the state file. -/
  written : Bool := false
  /-- Whether a late engine had read the state file by then. -/
  overtaken : Bool := false
  /-- The times of the challenges that were reported since. -/
  recorded : List Nat := []

namespace Watch

/-- What is seen of an operation of the command. -/
def command (w : Watch) : (op : Op) → op.Reply → Watch
  | .unlock _, _ => { w with checked := true }
  | .replace .., .ok _ =>
    { w with written := true, overtaken := w.loaded && w.late, recorded := [] }
  | _, _ => w

/-- What is seen of an operation of the engine. -/
def engine (p : Paths) (w : Watch) : (op : Op) → op.Reply → Watch
  | .lock _, .ok true => { w with late := w.checked, loaded := false }
  | .kind path, kind? => { w with loaded := w.loaded || path == p.stateFile && kind?.isNone }
  | .read path, _ => { w with loaded := w.loaded || path == p.stateFile }
  | .unlock _, _ => { w with loaded := false }
  | _, _ => w

end Watch

/-- The command and an engine on one disk.  There is no engine if its script is done without one. -/
structure Race where
  tree : Tree
  command : Script (Except Failure (List String))
  engine : Script (Option Serving)
  watch : Watch

/-- What may happen next in a race. -/
inductive Move where
  /-- The command goes one operation further. -/
  | command
  /-- The engine goes one operation further. -/
  | engine
  /-- An engine is started, if there is none. -/
  | launch (o : Occasion) (config : Config) (package : String)
  /-- Something happens to the engine, if it serves. -/
  | act (a : Serving.Act)

namespace Race

/-- The beginning of a race: the command is started on any disk. -/
def start (p : Paths) (o : Occasion) (config : Config) (tree : Tree) : Race where
  tree := tree
  command := (clearWindow o ⟨config, p⟩).run
  engine := .done none
  watch := {}

/-- A move. -/
def step (p : Paths) (x : Race) : Move → Race
  | .command =>
    match x.command with
    | .done _ => x
    | .next op go =>
      let (r, tree) := x.tree.run op.perform
      { x with tree, command := go r, watch := x.watch.command op r }
  | .engine =>
    match x.engine with
    | .done _ => x
    | .next op go =>
      let (r, tree) := x.tree.run op.perform
      { x with tree, engine := go r, watch := x.watch.engine p op r }
  | .launch o config package =>
    match x.engine with
    | .done none => { x with engine := Except.toOption <$> (openService o ⟨config, p⟩ package).run }
    | _ => x
  | .act a =>
    match x.engine with
    | .done (some s) =>
      { x with
        engine := a.run s
        watch := { x.watch with recorded := x.watch.recorded ++ a.completions s } }
    | _ => x

/-- A row of moves. -/
def run (p : Paths) (x : Race) (moves : List Move) : Race := moves.foldl (step p) x

/-- A race after a row of moves. -/
def after (p : Paths) (o : Occasion) (config : Config) (t : Tree) (moves : List Move) : Race :=
  (start p o config t).run p moves

/-- What the command has come to, if it is done. -/
def report? (x : Race) : Option (Except Failure (List String)) := x.command.result?

/-- The engine, if one serves and has nothing to do. -/
def serving? (x : Race) : Option Serving := x.engine.result?.join

/-- What the state file holds. -/
def stored? (p : Paths) (x : Race) : Option Persisted :=
  (x.tree.exec (StateFile.load p.stateDir)).1.toOption

/-! ### The files of a race -/

/-- None of the three names has a slash in it or ends in a dot. -/
theorem isName_lock : Path.IsName "pinguard.lock" := ⟨by decide, 'k', by decide, by decide⟩

theorem isName_state : Path.IsName StateFile.fileName := ⟨by decide, 'n', by decide, by decide⟩

theorem isName_log : Path.IsName Audit.fileName := ⟨by decide, 'l', by decide, by decide⟩

section Files

variable (p : Paths)

/-- The lock is in another place than the state file. -/
theorem apart_lock : Tree.Apart p.instanceLock p.stateFile :=
  Tree.apart_join isName_lock isName_state (by decide) _ _

theorem apart_log : Tree.Apart p.auditLog p.stateFile :=
  Tree.apart_join isName_log isName_state (by decide) _ _

end Files

/-! ### The invariant -/

/-- Whether the command has made sure that no engine runs. -/
def HasChecked : ClearStage → Prop
  | .before | .holding => False
  | .checked | .found | .closed => True

/-- Whether the state file and the engine know only of some challenges. -/
structure Fresh (p : Paths) (t : Tree) (recorded : List Nat) (e : ServeStage) : Prop where
  file : ∃ q : Persisted, t.read p.stateFile = .ok q.text.toUTF8 ∧ q.Fits ∧ q.Among (· ∈ recorded)
  engine : ∀ A, e = .loaded A → ∀ c, A c → c ∈ recorded

/-- The invariant of a race, with the stages of the command and of the engine. -/
structure Sound (p : Paths) (x : Race) (c : ClearStage) (e : ServeStage) : Prop where
  command : x.command.Keeps (clearRules p) Honest c
  engine : x.engine.Keeps (serveRules p) (Ready p) e
  holding : c = .holding → x.tree.Locked p.instanceLock ∧ e = .outside
  running : e ≠ .outside → x.tree.Locked p.instanceLock
  checked : HasChecked c → x.watch.checked = true
  /-- As the lock was free, only a late engine can run. -/
  late : HasChecked c → e ≠ .outside → x.watch.late = true
  loaded : ∀ A, e = .loaded A → x.watch.loaded = true
  found : c = .found → ∃ bytes, x.tree.read p.stateFile = .ok bytes
  closed : c = .closed → x.watch.written = true
  written : x.watch.written = true → x.watch.overtaken = false →
    Fresh p x.tree x.watch.recorded e

variable {p : Paths} {x : Race} {c : ClearStage} {e : ServeStage}

/-- At the beginning neither of them has done anything. -/
theorem sound_start (o : Occasion) (config : Config) (t : Tree) :
    Sound p (start p o config t) .before .outside where
  command := keeps_clearWindow o config
  engine := .done fun _ h => by cases h
  holding h := by cases h
  running h := absurd rfl h
  checked h := h.elim
  late h := h.elim
  loaded A h := by cases h
  found h := by cases h
  closed h := by cases h
  written h := by cases h

/-- What leaves the state file and the lock alone disturbs nobody. -/
theorem Sound.disturb (h : Sound p x c e) (op : Op) (hspares : op.Spares p.stateFile)
    (hholds : op.Holds) : Sound p { x with tree := (x.tree.run op.perform).2 } c e where
  command := h.command
  engine := h.engine
  holding hc := ⟨(h.holding hc).1.perform hholds, (h.holding hc).2⟩
  running he := (h.running he).perform hholds
  checked := h.checked
  late := h.late
  loaded := h.loaded
  found hc := by
    obtain ⟨bytes, hread⟩ := h.found hc
    exact ⟨bytes, (Tree.stays_perform hspares x.tree).read bytes hread⟩
  closed := h.closed
  written hw ho := by
    obtain ⟨⟨q, hread, hfits, hq⟩, hengine⟩ := h.written hw ho
    exact ⟨⟨q, (Tree.stays_perform hspares x.tree).read _ hread, hfits, hq⟩, hengine⟩

/-! ### Operations of the command -/

/-- An operation of the command after which it is at the same stage. -/
theorem Sound.command_quiet (h : Sound p x c e) {op : Op}
    {go : op.Reply → Script (Except Failure (List String))}
    (hgo : (go (x.tree.run op.perform).1).Keeps (clearRules p) Honest c)
    (hspares : op.Spares p.stateFile) (hholds : op.Holds) :
    Sound p { x with
      tree := (x.tree.run op.perform).2
      command := go (x.tree.run op.perform).1 } c e :=
  { h.disturb op hspares hholds with command := hgo }

/-- The command gets the lock, or stays where it is. -/
theorem Sound.command_acquire (h : Sound p x .before e)
    {go : Except IoCause Bool → Script (Except Failure (List String))}
    (hgo : ∀ r, (go r).Keeps (clearRules p) Honest
      ((clearRules p).after .before (.lock p.instanceLock) r))
    {r : Except IoCause Bool} {t : Tree}
    (hrun : x.tree.run (Op.lock p.instanceLock).perform = (r, t)) :
    ∃ c, Sound p { x with tree := t, command := go r } c e := by
  have hdisturb := h.disturb (.lock p.instanceLock) (apart_lock p) trivial
  have hkeeps := hgo r
  rw [hrun] at hdisturb
  rcases r with cause | _ | _
  · exact ⟨.before, { hdisturb with command := hkeeps }⟩
  · exact ⟨.before, { hdisturb with command := hkeeps }⟩
  · -- An engine that runs would hold the lock.
    obtain ⟨hfree, hlocked⟩ := Tree.locked_of_lock hrun
    have he : e = .outside := by
      by_contra hne
      exact hfree (h.running hne)
    exact ⟨.holding, { hdisturb with
      command := hkeeps
      holding := fun _ => ⟨hlocked, he⟩
      found := fun hc => by cases hc
      closed := fun hc => by cases hc }⟩

/-- The command frees the lock, and an engine may start. -/
theorem Sound.command_release (h : Sound p x .holding e)
    {y : Script (Except Failure (List String))}
    (hy : y.Keeps (clearRules p) Honest .checked) :
    Sound p { x with
      tree := (x.tree.run (Op.unlock p.instanceLock).perform).2
      command := y
      watch := { x.watch with checked := true } } .checked e := by
  obtain rfl := (h.holding rfl).2
  have hstays := x.tree.stays_unlock p.stateFile p.instanceLock
  exact {
    command := hy
    engine := h.engine
    holding := fun hc => by cases hc
    running := fun he => absurd rfl he
    checked := fun _ => rfl
    late := fun _ he => absurd rfl he
    loaded := h.loaded
    found := fun hc => by cases hc
    closed := fun hc => by cases hc
    written := fun hw ho => by
      obtain ⟨⟨q, hread, hfits, hq⟩, hengine⟩ := h.written hw ho
      exact ⟨⟨q, hstays.read _ hread, hfits, hq⟩, hengine⟩ }

/-- The command reads the state file. -/
theorem Sound.command_read (h : Sound p x .checked e)
    {go : Except IoCause ByteArray → Script (Except Failure (List String))}
    (hgo : ∀ r, (go r).Keeps (clearRules p) Honest
      ((clearRules p).after .checked (.read p.stateFile) r)) :
    ∃ c, Sound p { x with command := go (x.tree.read p.stateFile) } c e := by
  have hkeeps := hgo (x.tree.read p.stateFile)
  cases hread : x.tree.read p.stateFile with
  | error cause =>
    rw [hread] at hkeeps
    exact ⟨.checked, { h with command := hkeeps }⟩
  | ok bytes =>
    rw [hread] at hkeeps
    exact ⟨.found, { h with
      command := hkeeps
      holding := fun hc => by cases hc
      found := fun _ => ⟨bytes, hread⟩
      closed := fun hc => by cases hc }⟩

/-- There is nothing to be made for a state file that could be read. -/
theorem Sound.run_makeDir (h : Sound p x .found e) {dir : String}
    (hparent : Path.parent? p.stateFile = some dir) (hne : dir ≠ "") :
    (x.tree.run (Op.createDirs dir).perform).1 = .ok () := by
  obtain ⟨bytes, hread⟩ := h.found rfl
  obtain ⟨place, hfind⟩ := Tree.read_eq_ok.1 hread
  have hmade := Tree.createDirs_parent isName_state (Tree.find_eq_file.1 hfind).1 hparent hne
  exact congrArg Prod.fst hmade

/-- The command writes the state file.  Only an engine that has read it knows what it was. -/
theorem Sound.command_save (h : Sound p x .found e) {q : Persisted} (hq : q.completion = none)
    {go : Except IoCause Unit → Script (Except Failure (List String))}
    (hgo : (go (.ok ())).Keeps (clearRules p) Honest
      .closed) {r : Except IoCause Unit} {t : Tree}
    (hrun : x.tree.run (Op.replace p.stateFile q.text).perform = (r, t)) :
    Sound p { x with
      tree := t
      command := go r
      watch := x.watch.command (.replace p.stateFile q.text) r } .closed e := by
  obtain ⟨bytes, hread⟩ := h.found rfl
  have hholds (hlocked : x.tree.Locked p.instanceLock) : t.Locked p.instanceLock := by
    have hstill : (x.tree.run (Op.replace p.stateFile q.text).perform).2.Locked p.instanceLock :=
      hlocked.perform trivial
    rwa [hrun] at hstill
  rcases x.tree.replace_cases p.stateFile q.text with ⟨t', hrun', hread', -⟩ | ⟨cause, hrun'⟩
  · obtain ⟨rfl, rfl⟩ := Prod.mk.inj (hrun.symm.trans hrun')
    exact {
      command := hgo
      engine := h.engine
      holding := fun hc => by cases hc
      running := fun he => hholds (h.running he)
      checked := fun _ => h.checked trivial
      late := fun _ he => h.late trivial he
      loaded := h.loaded
      found := fun hc => by cases hc
      closed := fun _ => rfl
      written := fun _ ho => by
        refine ⟨⟨q, hread', Persisted.among_of_none hq, Persisted.among_of_none hq⟩, fun A he => ?_⟩
        -- An engine that has read the state file is late, as the lock was free.
        have hlate := h.late trivial (by rw [he]; exact nofun)
        have hover : (x.watch.loaded && x.watch.late) = false := ho
        rw [h.loaded A he, hlate] at hover
        cases hover }
  · obtain ⟨t', hrun''⟩ := Tree.replace_ok hread q.text
    cases hrun'.symm.trans hrun''

/-- **What an operation of the command preserves.** -/
theorem sound_command (h : Sound p x c e) : ∃ c', Sound p (x.step p .command) c' e := by
  unfold step
  have hkeeps := h.command
  cases hcommand : x.command with
  | done r => exact ⟨c, h⟩
  | next op go =>
    rw [hcommand] at hkeeps
    cases hkeeps with
    | next hdoes hgo =>
      dsimp only
      -- One case for each operation that the rules of the command permit.
      cases hdoes with
      | prepare dir => exact ⟨.before, h.command_quiet (hgo _ trivial) trivial trivial⟩
      | acquire => exact h.command_acquire (fun r => hgo r trivial) rfl
      | sign text => exact ⟨.holding, h.command_quiet (hgo _ trivial) (apart_lock p) trivial⟩
      | release => exact ⟨.checked, h.command_release (hgo _ trivial)⟩
      | look => exact ⟨.checked, h.command_quiet (hgo _ trivial) trivial trivial⟩
      | read => exact h.command_read fun r => hgo r trivial
      | makeDir dir hparent hne =>
        have hmade := h.run_makeDir hparent hne
        exact ⟨.found, h.command_quiet (hgo _ hmade) trivial trivial⟩
      | save q hq =>
        exact ⟨.closed, h.command_save hq (hgo _ rfl) rfl⟩
      | lookLog | readLog => exact ⟨.closed, h.command_quiet (hgo _ trivial) trivial trivial⟩
      | makeLogDir dir => exact ⟨.closed, h.command_quiet (hgo _ trivial) trivial trivial⟩
      | log text => exact ⟨.closed, h.command_quiet (hgo _ trivial) (apart_log p) trivial⟩

/-! ### Operations of the engine -/

/-- An operation of the engine after which it is at the same stage. -/
theorem Sound.engine_quiet (h : Sound p x c e) {op : Op} {go : op.Reply → Script (Option Serving)}
    (hgo : (go (x.tree.run op.perform).1).Keeps (serveRules p) (Ready p) e)
    (hspares : op.Spares p.stateFile) (hholds : op.Holds) {loaded : Bool}
    (hloaded : x.watch.loaded = true → loaded = true) :
    Sound p { x with
      tree := (x.tree.run op.perform).2
      engine := go (x.tree.run op.perform).1
      watch := { x.watch with loaded } } c e :=
  { h.disturb op hspares hholds with
    engine := hgo
    loaded := fun A he => hloaded (h.loaded A he) }

/-- The engine gets the lock, or stays where it is. -/
theorem Sound.engine_acquire (h : Sound p x c .outside)
    {go : Except IoCause Bool → Script (Option Serving)}
    (hgo : ∀ r, (go r).Keeps (serveRules p) (Ready p)
      ((serveRules p).after .outside (.lock p.instanceLock) r))
    {r : Except IoCause Bool} {t : Tree}
    (hrun : x.tree.run (Op.lock p.instanceLock).perform = (r, t)) :
    ∃ e, Sound p { x with
      tree := t
      engine := go r
      watch := x.watch.engine p (.lock p.instanceLock) r } c e := by
  have hdisturb := h.disturb (.lock p.instanceLock) (apart_lock p) trivial
  have hkeeps := hgo r
  rw [hrun] at hdisturb
  rcases r with cause | _ | _
  · exact ⟨.outside, { hdisturb with engine := hkeeps }⟩
  · exact ⟨.outside, { hdisturb with engine := hkeeps }⟩
  · -- Only from now on is the engine one that runs, and it knows of nothing yet.
    obtain ⟨hfree, hlocked⟩ := Tree.locked_of_lock hrun
    exact ⟨.locked, { hdisturb with
      engine := hkeeps
      holding := fun hc => absurd (h.holding hc).1 hfree
      running := fun _ => hlocked
      late := fun hc _ => h.checked hc
      loaded := fun A he => by cases he
      written := fun hw ho => ⟨(hdisturb.written hw ho).file, fun A he => by cases he⟩ }⟩

/-- The engine looks for the state file. -/
theorem Sound.engine_look (h : Sound p x c .locked) {go : Option NodeKind → Script (Option Serving)}
    (hgo : ∀ r, (go r).Keeps (serveRules p) (Ready p)
      ((serveRules p).after .locked (.kind p.stateFile) r)) (r : Option NodeKind) :
    ∃ e, Sound p { x with
      engine := go r
      watch := x.watch.engine p (.kind p.stateFile) r } c e := by
  have hkeeps := hgo r
  cases r with
  | some kind => exact ⟨.locked, { h with engine := hkeeps, loaded := fun A he => by cases he }⟩
  | none =>
    exact ⟨.loaded fun _ => False, { h with
      engine := hkeeps
      holding := fun hc => by cases (h.holding hc).2
      running := fun _ => h.running nofun
      late := fun hc _ => h.late hc nofun
      loaded := fun _ _ => by simp [Watch.engine]
      written := fun hw ho => by
        refine ⟨(h.written hw ho).file, ?_⟩
        rintro _ ⟨⟩ c ⟨⟩ }⟩

/-- The engine reads the state file, and knows what is in it. -/
theorem Sound.engine_read (h : Sound p x c .locked)
    {go : Except IoCause ByteArray → Script (Option Serving)}
    (hgo : ∀ r, (go r).Keeps (serveRules p) (Ready p)
      ((serveRules p).after .locked (.read p.stateFile) r)) :
    Sound p { x with
      engine := go (x.tree.read p.stateFile)
      watch := x.watch.engine p (.read p.stateFile) (x.tree.read p.stateFile) } c
      (.loaded (challengesIn (x.tree.read p.stateFile))) :=
  { h with
    engine := hgo _
    holding := fun hc => by cases (h.holding hc).2
    running := fun _ => h.running nofun
    late := fun hc _ => h.late hc nofun
    loaded := fun _ _ => by simp [Watch.engine]
    written := fun hw ho => by
      obtain ⟨q, hread, hfits, hq⟩ := (h.written hw ho).file
      refine ⟨⟨q, hread, hfits, hq⟩, ?_⟩
      rintro _ ⟨⟩ c ⟨text, htext, hc⟩
      rw [hread, textOf_toUTF8] at htext
      obtain rfl := Except.ok.inj htext
      rw [Persisted.ofText_text hfits] at hc
      exact hq c hc }

/-- The engine writes what it knows to the state file. -/
theorem Sound.engine_save {A : Nat → Prop} (h : Sound p x c (.loaded A)) {q : Persisted}
    (hfits : q.Fits) (hq : q.Among A) {go : Except IoCause Unit → Script (Option Serving)}
    (hgo : ∀ r, (go r).Keeps (serveRules p) (Ready p) (.loaded A))
    {r : Except IoCause Unit} {t : Tree}
    (hrun : x.tree.run (Op.replace p.stateFile q.text).perform = (r, t)) :
    Sound p { x with tree := t, engine := go r } c (.loaded A) := by
  have hholds (hlocked : x.tree.Locked p.instanceLock) : t.Locked p.instanceLock := by
    have hstill : (x.tree.run (Op.replace p.stateFile q.text).perform).2.Locked p.instanceLock :=
      hlocked.perform trivial
    rwa [hrun] at hstill
  rcases x.tree.replace_cases p.stateFile q.text with ⟨t', hrun', hread, -⟩ | ⟨cause, hrun'⟩
  · -- It writes no challenge that it does not know.
    obtain ⟨rfl, rfl⟩ := Prod.mk.inj (hrun.symm.trans hrun')
    exact { h with
      engine := hgo _
      holding := fun hc => by cases (h.holding hc).2
      running := fun he => hholds (h.running he)
      found := fun _ => ⟨_, hread⟩
      written := fun hw ho => by
        have hengine := (h.written hw ho).engine
        exact ⟨⟨q, hread, hfits, hq.mono (hengine A rfl)⟩, hengine⟩ }
  · obtain ⟨rfl, rfl⟩ := Prod.mk.inj (hrun.symm.trans hrun')
    exact { h with engine := hgo _ }

/-- The engine frees the lock. -/
theorem Sound.engine_release (h : Sound p x c e) (he : e ≠ .outside) {y : Script (Option Serving)}
    (hy : y.Keeps (serveRules p) (Ready p) .outside) :
    Sound p { x with
      tree := (x.tree.run (Op.unlock p.instanceLock).perform).2
      engine := y
      watch := { x.watch with loaded := false } } c .outside := by
  have hstays := x.tree.stays_unlock p.stateFile p.instanceLock
  exact {
    command := h.command
    engine := hy
    holding := fun hc => absurd (h.holding hc).2 he
    running := fun he => absurd rfl he
    checked := h.checked
    late := fun _ he => absurd rfl he
    loaded := fun A he => by cases he
    found := fun hc => by
      obtain ⟨bytes, hread⟩ := h.found hc
      exact ⟨bytes, hstays.read bytes hread⟩
    closed := h.closed
    written := fun hw ho => by
      obtain ⟨q, hread, hq⟩ := (h.written hw ho).file
      exact ⟨⟨q, hstays.read _ hread, hq⟩, fun A he => by cases he⟩ }

/-- **What an operation of the engine preserves.** -/
theorem sound_engine (h : Sound p x c e) : ∃ e', Sound p (x.step p .engine) c e' := by
  unfold step
  have hkeeps := h.engine
  cases hengine : x.engine with
  | done r => exact ⟨e, h⟩
  | next op go =>
    rw [hengine] at hkeeps
    cases hkeeps with
    | next hdoes hgo =>
      dsimp only
      -- One case for each operation that the rules of the engine permit.
      cases hdoes with
      | makeDir e dir =>
        have hafter := hgo (x.tree.run (Op.createDirs dir).perform).1 trivial
        have hsame (r : Except IoCause Unit) : (serveRules p).after e (.createDirs dir) r = e := by
          cases e <;> rfl
        rw [hsame] at hafter
        exact ⟨e, h.engine_quiet hafter trivial trivial id⟩
      | acquire => exact h.engine_acquire (fun r => hgo r trivial) rfl
      | askHolder =>
        exact ⟨.outside, h.engine_quiet (hgo _ trivial) trivial trivial fun hl => by simp [hl]⟩
      | sign text => exact ⟨.locked, h.engine_quiet (hgo _ trivial) (apart_lock p) trivial id⟩
      | look => exact h.engine_look (fun r => hgo r trivial) _
      | read => exact ⟨_, h.engine_read fun r => hgo r trivial⟩
      | save q hfits hq => exact ⟨_, h.engine_save hfits hq (fun r => hgo r trivial) rfl⟩
      | lookLog | readLog =>
        exact ⟨_, h.engine_quiet (hgo _ trivial) trivial trivial fun hl => by simp [hl]⟩
      | log text => exact ⟨_, h.engine_quiet (hgo _ trivial) (apart_log p) trivial id⟩
      | release he =>
        refine ⟨.outside, h.engine_release he ?_⟩
        have hafter := hgo () trivial
        cases e <;> exact hafter

/-! ### Other moves -/

/-- **What an engine that is started preserves.** -/
theorem sound_launch (h : Sound p x c e) (o : Occasion) (config : Config) (package : String) :
    ∃ e', Sound p (x.step p (.launch o config package)) c e' := by
  unfold step
  dsimp only
  split
  · refine ⟨.outside, { h with
      engine := keeps_map (keeps_openService o config package)
      holding := fun hc => ⟨(h.holding hc).1, rfl⟩
      running := fun he => absurd rfl he
      late := fun _ he => absurd rfl he
      loaded := fun A he => by cases he
      written := fun hw ho => ⟨(h.written hw ho).file, fun A he => by cases he⟩ }⟩
  · exact ⟨e, h⟩

/-- What the host reports happens at a time of 64 bits. -/
theorem completions_le (s : Serving) (a : Serving.Act) :
    ∀ c ∈ a.completions s, c ≤ Number.word64 := by
  intro c hc
  cases a with
  | hear time line =>
    -- Only a line may tell of a challenge, at the time of the host.
    simp only [Serving.Act.completions, Wire.completions] at hc
    split at hc
    · split at hc
      · obtain rfl := List.mem_singleton.1 hc
        exact Nat.le_of_lt_succ (Nat.mod_lt _ (by decide))
      · cases hc
    · cases hc
  | _ => cases hc

/-- **What happens to an engine preserves the invariant.** -/
theorem sound_act (h : Sound p x c e) (a : Serving.Act) :
    ∃ e', Sound p (x.step p (.act a)) c e' := by
  unfold step
  dsimp only
  have hkeeps := h.engine
  split
  next s hengine =>
    rw [hengine] at hkeeps
    cases hkeeps with
    | done hserves =>
      obtain ⟨A, rfl, hs⟩ := hserves s rfl
      -- What the host reports is added to what the engine knows.
      let A' (c : Nat) : Prop := A c ∨ c ∈ a.completions s
      have hs' : s.At p A' := { hs with
        bounded := fun c hc => hc.elim (hs.bounded c) (completions_le s a c)
        stored := hs.stored.mono fun _ => .inl }
      exact ⟨.loaded A', { h with
        engine := keeps_act hs' a fun _ => .inr
        holding := fun hc => by cases (h.holding hc).2
        running := fun _ => h.running nofun
        late := fun hc _ => h.late hc nofun
        loaded := fun _ _ => h.loaded A rfl
        written := fun hw ho => by
          obtain ⟨⟨q, hread, hfits, hq⟩, hA⟩ := h.written hw ho
          refine ⟨⟨q, hread, hfits, hq.mono fun c hc => List.mem_append_left _ hc⟩, ?_⟩
          rintro _ ⟨⟩ c (hc | hc)
          · exact List.mem_append_left _ (hA A rfl c hc)
          · exact List.mem_append_right _ hc }⟩
  · exact ⟨e, h⟩

/-- No move breaks the invariant, whoever makes it. -/
theorem sound_step (h : Sound p x c e) (m : Move) : ∃ c' e', Sound p (x.step p m) c' e' := by
  cases m with
  | command =>
    obtain ⟨c', h'⟩ := sound_command h
    exact ⟨c', e, h'⟩
  | engine => exact ⟨c, sound_engine h⟩
  | launch o config package => exact ⟨c, sound_launch h o config package⟩
  | act a => exact ⟨c, sound_act h a⟩

/-- The invariant holds all along. -/
theorem sound_after (o : Occasion) (config : Config) (t : Tree) (moves : List Move) :
    ∃ c e, Sound p (after p o config t moves) c e := by
  unfold after
  -- On the moves, the last one apart, which the step lemma is about.
  induction moves using List.reverseRecOn with
  | nil => exact ⟨.before, .outside, sound_start o config t⟩
  | append_singleton moves m ih =>
    obtain ⟨c, e, h⟩ := ih
    rw [run, List.foldl_append]
    exact sound_step h m

/-! ### The end of the command -/

/-- Once the command is done, nothing more is seen of it. -/
theorem done_step {r : Except Failure (List String)} (h : x.command = .done r) (m : Move) :
    (x.step p m).command = .done r ∧ (x.step p m).watch.overtaken = x.watch.overtaken := by
  have hwatch (op : Op) (r : op.Reply) : (x.watch.engine p op r).overtaken = x.watch.overtaken := by
    unfold Watch.engine
    split <;> rfl
  unfold step
  cases m with
  | command =>
    rw [h]
    exact ⟨h, rfl⟩
  | engine =>
    dsimp only
    split
    · exact ⟨h, rfl⟩
    · exact ⟨h, hwatch _ _⟩
  | launch o config package | act a =>
    dsimp only
    split <;> exact ⟨h, rfl⟩

/-- Nor is anything seen of it over a whole row of moves. -/
theorem done_run {r : Except Failure (List String)} (h : x.command = .done r) (moves : List Move) :
    (x.run p moves).command = .done r ∧ (x.run p moves).watch.overtaken = x.watch.overtaken := by
  induction moves generalizing x with
  | nil => exact ⟨h, rfl⟩
  | cons m rest ih =>
    obtain ⟨hdone, hwatch⟩ := done_step (p := p) h m
    obtain ⟨hdone', hwatch'⟩ := ih hdone
    exact ⟨hdone', hwatch'.trans hwatch⟩

/-! ### Races on a small disk -/

/-- Directories of a small disk. -/
def smallPaths : Paths := ⟨"/config", "/state", some "/run"⟩

/-- A small disk, on which a challenge was completed a second ago. -/
def smallDisk : Tree where
  nodes := [
    (["state".toList], .directory Tree.privateMode),
    (["run".toList], .directory Tree.privateMode),
    (["state".toList, StateFile.fileName.toList],
      .file (Persisted.text { completion := some 5000 }).toUTF8)]
  locked := []

/-- A second later. -/
def smallOccasion : Occasion := ⟨⟨fun _ => none, "/home", 0⟩, 1, 6000, "noon"⟩

/-- A configuration without a log. -/
def smallConfig : Config := { audit := { enabled := false } }

/-- A part of the life of the command, which has eight operations. -/
def smallClear (count : Nat) : List Move := List.replicate count .command

/-- An engine starts. -/
def smallLaunch : List Move :=
  .launch smallOccasion smallConfig "org.example.app" :: List.replicate 5 .engine

/-- The host reports something to the engine, which takes note of it. -/
def smallReport (line : String) : List Move :=
  .act (.hear "noon" line) :: List.replicate 2 .engine

/-- The line that a challenge was completed. -/
def challengeLine : String := "\x7b\"type\":\"challenge_completed\"\x7d"

/-- The line that an app may draw over others. -/
def overlayLine : String :=
  "\x7b\"type\":\"capability\",\"capability\":\"overlay\",\"active\":true\x7d"

/-- What there is to be seen of a race on the small disk: the report of the command, what is left of
the window of the engine, and the challenges in the state file and in the record. -/
def smallView (moves : List Move) : Option (Except Failure (List String)) × Option Nat ×
    Option (Option Nat) × List Nat :=
  let x := after smallPaths smallOccasion smallConfig smallDisk moves
  (x.report?, x.serving?.map fun s => s.service.engine.bypass.peek s.service.host.now,
    (x.stored? smallPaths).map (·.completion), x.watch.recorded)

/-! ### The window after the race -/

/-- The command, with an engine that starts between its check and its end, but is slow: it takes the
lock before the command reads the state file, and has not read that file by the time it is
written. -/
def smallOverlap : List Move := smallClear 4 ++ smallLaunch.take 4 ++ smallClear 4

/-- Then the engine reads the state file, and hears of a challenge. -/
def smallSequel : List Move := smallLaunch.drop 4 ++ smallReport challengeLine

/-- In this race an engine serves at the end, and its window is open by right. -/
example : smallView (smallOverlap ++ smallSequel) =
    (some (.ok [clearedText]), some 300000, some (some 6000), [6000]) := by
  decide +kernel

end Race

end Warden.Program
