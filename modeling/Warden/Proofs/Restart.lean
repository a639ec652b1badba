import Warden.Bypass
import Warden.Proofs.StateFile

namespace Warden.Bypass

/-!
# Restarts

A tracker writes every change of what it stores to its file at once, so it may be closed and opened
again at any moment and nobody will notice.

* `Call`, `Answer`, `step` — all that is asked of a tracker.
* `Session` — a tracker and the disk its file is on; `Session.call` — one call.
* `Session.reopen`, `Move`, `Session.play` — a run in which the tracker is opened anew in between.
* `Session.Written` — all that a run has to write can be written.
* `Session.Sound`, `sound_after` — the file holds what the tracker knows.
* `play_restarts` — restarts are invisible.
-/

/-! ### Calls -/

/-- A call to a tracker. Times are those of a clock of 64 bits. -/
inductive Call where
  | complete (now : UInt64)
  | poll (now : UInt64)
  | isWithin (now : UInt64)
  | remaining (now : UInt64)
  | gate (now : UInt64)
  | clear
  | setEnabled (on : Bool)
  | setDuration (duration : Duration)
  /-- With what the host reports about a capability, if it can tell. -/
  | confirm (capability : Capability) (report : Option Bool)

/-- The answer to a call. -/
inductive Answer where
  | done
  | window (w : WindowState)
  | flag (b : Bool)
  | millis (n : Nat)
  deriving DecidableEq

/-- One call to a tracker. -/
def step (b : Bypass) : Call → Outcome Bypass Answer
  | .complete now => (b.complete now.toNat).map fun _ => .done
  | .poll now => (b.poll now.toNat).map .window
  | .isWithin now => (b.poll now.toNat).map fun w => .flag w.isActive
  | .remaining now => (b.poll now.toNat).map fun w => .millis w.remaining
  | .gate now => (b.gate now.toNat).map .flag
  | .clear => b.clear.map .flag
  | .setEnabled on => (b.setEnabled on).map fun _ => .done
  | .setDuration duration => .answering (b.setDuration duration) .done
  | .confirm c report => (b.confirm c report).map .flag

/-! ### What a call changes -/

variable {b : Bypass} {p : Persisted}

/-- What becomes of a stored state: the window opens or closes, or a capability is heard of. -/
inductive Changed (p : Persisted) : Persisted → Prop
  | opens (now : UInt64) : Changed p { p with completion := some now.toNat }
  | closes : Changed p { p with completion := none }
  | learns (c : Capability) (active : Bool) :
    Changed p { p with capabilities := p.capabilities.set c active }

/-- What becomes of a state that fits a file fits it too. -/
theorem Changed.fits {q : Persisted} (h : Changed p q) (hp : p.Fits) : q.Fits := by
  cases h with
  | opens now =>
    intro last hlast
    cases hlast
    exact Nat.le_of_lt_succ now.toNat_lt
  | closes => exact fun last hlast => by cases hlast
  | learns c active => exact hp

/-- Whether a step saves the stored state exactly when it changes it, and leaves a length behind
that a window can have. -/
structure WritesThrough {α : Type} (b : Bypass) (o : Outcome Bypass α) : Prop where
  stored : o.effects = [] ∧ o.state.stored = b.stored ∨
    o.effects = [.save o.state.stored] ∧ Changed b.stored o.state.stored
  duration : o.state.duration = b.duration ∨ ∃ d : Duration, o.state.duration = d.word

/-- Storing is saving. -/
theorem writesThrough_store {α : Type} {a : α} (h : Changed b.stored p) :
    WritesThrough b (b.store p a) := ⟨.inr ⟨rfl, h⟩, .inl rfl⟩

/-- A reading saves the window only if it has run out. -/
theorem writesThrough_poll (b : Bypass) (now : Nat) : WritesThrough b (b.poll now) := by
  unfold poll
  split
  · exact ⟨.inl ⟨rfl, rfl⟩, .inl rfl⟩
  · split
    · exact ⟨.inl ⟨rfl, rfl⟩, .inl rfl⟩
    · exact writesThrough_store .closes

/-- Closing saves it only if there was one. -/
theorem writesThrough_clear (b : Bypass) : WritesThrough b b.clear := by
  unfold clear
  split
  · exact writesThrough_store .closes
  · exact ⟨.inl ⟨rfl, rfl⟩, .inl rfl⟩

/-- Switching off saves what closing does. -/
theorem writesThrough_setEnabled (b : Bypass) (on : Bool) : WritesThrough b (b.setEnabled on) := by
  cases on with
  | true => exact ⟨.inl ⟨rfl, rfl⟩, .inl rfl⟩
  | false =>
    have hclear := writesThrough_clear { b with enabled := false }
    exact ⟨hclear.stored, hclear.duration⟩

/-- A report is saved only if it is news. -/
theorem writesThrough_confirm (b : Bypass) (c : Capability) (report : Option Bool) :
    WritesThrough b (b.confirm c report) := by
  unfold confirm
  dsimp only
  split
  · exact ⟨.inl ⟨rfl, rfl⟩, .inl rfl⟩
  · exact writesThrough_store (.learns c _)

/-- What is saved does not depend on the form of the answer. -/
theorem WritesThrough.map {α : Type} {o : Outcome Bypass α} (h : WritesThrough b o)
    (f : α → Answer) : WritesThrough b (o.map f) := ⟨h.stored, h.duration⟩

/-- Every call writes through, those that only read the window included. -/
theorem writesThrough_step (b : Bypass) (c : Call) : WritesThrough b (b.step c) := by
  cases c with
  | complete now => exact writesThrough_store (.opens now)
  | poll now => exact (writesThrough_poll b now.toNat).map .window
  | isWithin now => exact (writesThrough_poll b now.toNat).map fun w => .flag w.isActive
  | remaining now => exact (writesThrough_poll b now.toNat).map fun w => .millis w.remaining
  -- The gate changes what its reading changes.
  | gate now =>
    have hpoll := writesThrough_poll b now.toNat
    exact ⟨hpoll.stored, hpoll.duration⟩
  | clear => exact (writesThrough_clear b).map .flag
  | setEnabled on => exact (writesThrough_setEnabled b on).map fun _ => .done
  | setDuration duration => exact ⟨.inl ⟨rfl, rfl⟩, .inr ⟨duration, rfl⟩⟩
  | confirm c report => exact (writesThrough_confirm b c report).map .flag

/-! ### Sessions -/

/-- A tracker and the disk its file is on. -/
structure Session where
  tree : Tree
  tracker : Bypass

namespace Session

variable {s : Session} {dir : String} {c : Call} {calls : List Call}

/-- The tree after states were saved in a directory, one after another. -/
def saveAll (dir : String) (t : Tree) (states : List Persisted) : Tree :=
  states.foldl (fun t p => (t.run (StateFile.save dir p)).2) t

/-- Whether all of these saves go through. -/
def SavesAll (dir : String) (t : Tree) : List Persisted → Prop
  | [] => True
  | p :: rest =>
    StateFile.Saves dir t p ∧ SavesAll dir (t.run (StateFile.save dir p)).2 rest

/-- The states that a call saves. -/
def saved (s : Session) (c : Call) : List Persisted :=
  (s.tracker.step c).effects.filterMap Effect.save?

/-- The session after a call. -/
def call (dir : String) (s : Session) (c : Call) : Session :=
  ⟨saveAll dir s.tree (s.saved c), (s.tracker.step c).state⟩

/-- The session after a row of calls. -/
def after (dir : String) (s : Session) (calls : List Call) : Session := calls.foldl (call dir) s

/-- The answers to a row of calls. -/
def answers (dir : String) (s : Session) : List Call → List Answer
  | [] => []
  | c :: rest => (s.tracker.step c).answer :: answers dir (s.call dir c) rest

/-- Whether all that a row of calls has to write can be written. -/
def Written (dir : String) (s : Session) : List Call → Prop
  | [] => True
  | c :: rest => SavesAll dir s.tree (s.saved c) ∧ Written dir (s.call dir c) rest

/-- The session in which the tracker was opened anew, with the length and the switch in force. -/
def reopen (dir : String) (s : Session) : Except IoFault Session :=
  match s.tree.exec (StateFile.load dir) with
  | (.ok p, t) => .ok ⟨t, .start p ⟨s.tracker.duration⟩ s.tracker.enabled⟩
  | (.error fault, _) => .error fault

/-- A call, or a restart. -/
inductive Move where
  | call (c : Call)
  | reopen

/-- The call that a move is. -/
def Move.call? : Move → Option Call
  | .call c => some c
  | .reopen => none

/-- What moves come to, with the answers to the calls among them. -/
def play (dir : String) (s : Session) : List Move → Except IoFault (Session × List Answer)
  | [] => .ok (s, [])
  | .call c :: rest =>
    (play dir (s.call dir c) rest).map fun (last, as) => (last, (s.tracker.step c).answer :: as)
  | .reopen :: rest => do play dir (← s.reopen dir) rest

/-! ### The file holds what the tracker knows -/

/-- Whether the file of a session holds what its tracker knows, and this can be written. -/
structure Sound (dir : String) (s : Session) : Prop where
  loaded : s.tree.exec (StateFile.load dir) = (.ok s.tracker.stored, s.tree)
  fits : s.tracker.stored.Fits
  duration : s.tracker.duration < Number.wordCount

/-- A step whose changes are saved leaves a file that holds what the tracker knows then. -/
theorem Sound.writes {α : Type} {o : Outcome Bypass α} (h : s.Sound dir)
    (ho : WritesThrough s.tracker o) (hw : SavesAll dir s.tree (o.effects.filterMap Effect.save?)) :
    Sound dir ⟨saveAll dir s.tree (o.effects.filterMap Effect.save?), o.state⟩ := by
  obtain ⟨hstored, hduration⟩ := ho
  -- A length that is set anew is one of 64 bits.
  have hlength : o.state.duration < Number.wordCount := by
    rcases hduration with heq | ⟨d, heq⟩
    · rw [heq]
      exact h.duration
    · rw [heq]
      exact Nat.mod_lt _ (by decide)
  -- Nothing changed and nothing was saved, or the file is now that of the changed state.
  rcases hstored with ⟨heffects, hsame⟩ | ⟨heffects, hchanged⟩
  · rw [heffects]
    refine ⟨?_, ?_, hlength⟩
    · show s.tree.exec _ = (.ok o.state.stored, s.tree)
      rw [hsame]
      exact h.loaded
    · show o.state.stored.Fits
      rw [hsame]
      exact h.fits
  · have hfits := hchanged.fits h.fits
    rw [heffects] at hw ⊢
    exact ⟨StateFile.load_save hw.1 hfits, hfits, hlength⟩

/-- A call whose saves go through leaves the file up to date. -/
theorem Sound.call (h : s.Sound dir) (hw : SavesAll dir s.tree (s.saved c)) :
    (s.call dir c).Sound dir := h.writes (s.tracker.writesThrough_step c) hw

/-- So does a row of calls. -/
theorem sound_after (h : s.Sound dir) (hw : s.Written dir calls) :
    (s.after dir calls).Sound dir := by
  induction calls generalizing s with
  | nil => exact h
  | cons c rest ih => exact ih (h.call hw.1) hw.2

/-- Opening a tracker anew gives the tracker there was. -/
theorem Sound.reopen (h : s.Sound dir) : s.reopen dir = .ok s := by
  -- The length in force is the one that the tracker is opened with: cutting it to 64 bits again
  -- does nothing.
  have hword : (⟨s.tracker.duration⟩ : Duration).word = s.tracker.duration :=
    Nat.mod_eq_of_lt h.duration
  unfold Session.reopen
  rw [h.loaded]
  simp only [start, hword]

/-- Restarts anywhere in a run change neither its answers nor its end. -/
theorem Sound.play (h : s.Sound dir) {moves : List Move}
    (hmoves : moves.filterMap Move.call? = calls) (hw : s.Written dir calls) :
    s.play dir moves = .ok (s.after dir calls, s.answers dir calls) := by
  -- On the moves: a restart gives back the same session, and a call goes on from the session after
  -- it.
  induction moves generalizing s calls with
  | nil =>
    cases hmoves
    rfl
  | cons m rest ih =>
    cases m with
    | reopen =>
      rw [Session.play, h.reopen]
      exact ih h hmoves hw
    | call c =>
      cases hmoves
      rw [Session.play, ih (h.call hw.1) rfl hw.2]
      rfl

end Session

/-! ### Restarts -/

/-- **Restarts are invisible.** Whatever text the state file has at first, and even if it is not
there, it can be loaded; and after any row of calls whose writes go through it holds what the
tracker knows. So a run in which the tracker is opened anew at any points comes to the same tracker,
the same disk and the same answers. -/
theorem play_restarts (dir : String) (t : Tree) (content? : Option String) (duration : Duration)
    (enabled : Bool) (calls : List Call) (hfile : StateFile.Holds dir t content?)
    (hw : Session.Written dir ⟨t, start (StateFile.initial content?) duration enabled⟩ calls) :
    let opened : Session := ⟨t, start (StateFile.initial content?) duration enabled⟩
    let s := opened.after dir calls
    t.exec (StateFile.load dir) = (.ok (StateFile.initial content?), t) ∧
      s.tree.exec (StateFile.load dir) = (.ok s.tracker.stored, s.tree) ∧
      ∀ moves, moves.filterMap Session.Move.call? = calls →
        opened.play dir moves = .ok (s, opened.answers dir calls) := by
  intro opened s
  have hopened : opened.Sound dir := ⟨StateFile.load_of_holds hfile,
    StateFile.fits_initial content?, Nat.mod_lt _ (by decide)⟩
  exact ⟨hopened.loaded, (Session.sound_after hopened hw).loaded,
    fun moves hmoves => hopened.play hmoves hw⟩

/-- A tracker that starts without a file, and is opened anew while its window is open. -/
theorem play_restarts_missing :
    let opened : Session := ⟨.empty, start (StateFile.initial none) (.seconds 300) true⟩
    let calls : List Call := [.complete 5, .confirm .overlay (some true), .gate 1000]
    StateFile.Holds "/state" .empty none ∧ opened.Written "/state" calls ∧
      opened.play "/state" [.call (.complete 5), .reopen, .call (.confirm .overlay (some true)),
          .reopen, .call (.gate 1000)] =
        .ok (opened.after "/state" calls, [.done, .flag true, .flag false]) := by
  intro opened calls
  have hfile : StateFile.Holds "/state" .empty none := by
    show Tree.empty.kind? (StateFile.path "/state") = none
    decide +kernel
  -- The first two calls save; the gate finds the window open and saves nothing.
  have hw : opened.Written "/state" calls :=
    ⟨⟨⟨by decide +kernel, by decide +kernel⟩, trivial⟩,
      ⟨⟨by decide +kernel, by decide +kernel⟩, trivial⟩, trivial, trivial⟩
  have hanswers : opened.answers "/state" calls = [.done, .flag true, .flag false] := by
    decide +kernel
  obtain ⟨-, -, hplay⟩ := play_restarts "/state" .empty none (.seconds 300) true calls hfile hw
  refine ⟨hfile, hw, ?_⟩
  rw [← hanswers]
  exact hplay _ rfl

end Warden.Bypass
