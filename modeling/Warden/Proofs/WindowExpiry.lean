import Warden.Proofs.Expiry
import Warden.Proofs.Window

namespace Warden.Bypass

/-!
# A window that has run out

Nobody writes down that the window has run out before somebody reads it, and each reading measures
it against the length of the moment.  So a window that has run out stays closed, and more readings
make no difference, unless a longer one is set while nobody has noticed.

* `Request`, `serve`, `served` — requests to a tracker at their times, restarts among them.
* `Revives`, `isOpen_serve` — what opens a window that is not open.
* `Lapsed`, `not_isOpen_of_lapsed` — a window that has run out, and that it stays closed.
* `Polled`, `Polled.served`, `Polled.readings` — more readings, and that nobody will notice them.
* `Session.serve`, `Sound.served` — a restart reads from the file what the tracker knew.
-/

/-! ### Requests -/

/-- A request to a tracker. A restart opens it anew, with the length and the switch of its
settings. -/
inductive Request where
  | complete
  | poll
  | isWithin
  | remaining
  | gate
  | clear
  | setEnabled (on : Bool)
  | setDuration (duration : Duration)
  | confirm (capability : Capability) (report : Option Bool)
  | restart (duration : Duration) (on : Bool)

/-- A request and the time at which it is made. -/
structure Input where
  now : Nat
  request : Request

/-- The length that a request gives to the window. -/
def Request.length? : Request → Option Duration
  | .setDuration duration | .restart duration _ => some duration
  | _ => none

/-- Whether a request reads the window. -/
def Input.IsReading (i : Input) : Prop :=
  match i.request with
  | .poll | .isWithin | .remaining | .gate => True
  | _ => False

/-- One request to a tracker. -/
def serve (b : Bypass) (i : Input) : Outcome Bypass Answer :=
  match i.request with
  | .complete => (b.complete i.now).map fun _ => .done
  | .poll => (b.poll i.now).map .window
  | .isWithin => (b.poll i.now).map fun w => .flag w.isActive
  | .remaining => (b.poll i.now).map fun w => .millis w.remaining
  | .gate => (b.gate i.now).map .flag
  | .clear => b.clear.map .flag
  | .setEnabled on => (b.setEnabled on).map fun _ => .done
  | .setDuration duration => .answering (b.setDuration duration) .done
  | .confirm c report => (b.confirm c report).map .flag
  | .restart duration on => .answering (start b.stored duration on) .done

/-- The tracker after a row of requests. -/
def served (b : Bypass) (inputs : List Input) : Bypass :=
  inputs.foldl (fun b i => (b.serve i).state) b

/-- What the three ways of asking for the window answer at one time. -/
def readings (b : Bypass) (t : Nat) : List Answer :=
  [Request.isWithin, .remaining, .gate].map fun request => (b.serve ⟨t, request⟩).answer

variable {b b' : Bypass} {i : Input} {now t : Nat} {inputs inputs' before later : List Input}

theorem served_append : b.served (inputs ++ inputs') = (b.served inputs).served inputs' :=
  List.foldl_append ..

/-- The ways to read the window differ in what they answer, and all leave the same behind. -/
theorem serve_state_of_isReading (h : i.IsReading) : (b.serve i).state = (b.poll i.now).state := by
  obtain ⟨now, request⟩ := i
  cases request with
  | poll | isWithin | remaining | gate => rfl
  | _ => exact h.elim

/-! ### The length -/

/-- The length of the window after a request. -/
theorem serve_duration (b : Bypass) (i : Input) :
    (b.serve i).state.duration = (i.request.length?.map Duration.word).getD b.duration := by
  obtain ⟨now, request⟩ := i
  cases request with
  | complete | setDuration | restart => rfl
  | poll | isWithin | remaining | gate => exact b.poll_duration now
  | clear => exact b.clear_duration
  | setEnabled on =>
    cases on with
    | true => rfl
    | false => exact clear_duration { b with enabled := false }
  | confirm c report => exact confirm_duration c report

/-- Without a request for another length, the window keeps its own. -/
theorem served_duration (h : ∀ i ∈ inputs, i.request.length? = none) :
    (b.served inputs).duration = b.duration := by
  -- On the requests; by `serve_duration` none of these gives another length.
  induction inputs generalizing b with
  | nil => rfl
  | cons i rest ih =>
    obtain ⟨hi, hrest⟩ := List.forall_mem_cons.1 h
    refine (ih hrest).trans ?_
    rw [serve_duration, hi]
    rfl

/-! ### What opens a window -/

/-- A window that has run out stays so while the clock goes on. -/
theorem not_isOpen_mono (h : ¬ b.IsOpen now) (hle : now ≤ t) : ¬ b.IsOpen t := by
  rintro ⟨last, hlast, hopen⟩
  exact h ⟨last, hlast, by omega⟩

/-- Whether a request gives the window a length that it has not run out by, though it has run out
by the one in force, which nobody has noticed. -/
def Revives (b : Bypass) (i : Input) : Prop :=
  ∃ last duration, b.stored.completion = some last ∧ i.request.length? = some duration ∧
    b.duration ≤ i.now - last ∧ i.now - last < duration.word

/-- With another length, a window that is not open is open if this revives it. -/
theorem isOpen_of_length {duration : Duration} (h : ¬ b.IsOpen i.now)
    (hlength : i.request.length? = some duration) (on : Bool) :
    (start b.stored duration on).IsOpen i.now ↔ b.Revives i := by
  constructor
  · rintro ⟨last, hlast, hopen⟩
    -- By the length in force it has run out, or the window would have been open before.
    have hover : b.duration ≤ i.now - last := Nat.not_lt.1 fun hlt => h ⟨last, hlast, hlt⟩
    exact ⟨last, duration, hlast, hlength, hover, hopen⟩
  · rintro ⟨last, d, hlast, hd, -, hopen⟩
    obtain rfl : duration = d := Option.some.inj (hlength.symm.trans hd)
    exact ⟨last, hlast, hopen⟩

/-- Only a completed challenge opens a window that is not open, or another length that revives
it. -/
theorem isOpen_serve (h : ¬ b.IsOpen i.now) :
    (b.serve i).state.IsOpen i.now ↔ i.request = .complete ∧ 0 < b.duration ∨ b.Revives i := by
  -- Requests that give a length may revive; of the others only a completed challenge opens
  -- anything.
  by_cases hlength : ∃ duration, i.request.length? = some duration
  · obtain ⟨duration, hlength⟩ := hlength
    have hrevives := isOpen_of_length h hlength
    obtain ⟨now, request⟩ := i
    cases request with
    | setDuration d =>
      cases hlength
      rw [← hrevives b.enabled]
      simp [serve, Outcome.answering, setDuration, start]
    | restart d on =>
      cases hlength
      rw [← hrevives on]
      simp [serve, Outcome.answering]
    | _ => cases hlength
  · have hnot : ¬ b.Revives i := by
      rintro ⟨last, d, -, hd, -⟩
      exact hlength ⟨d, hd⟩
    rw [or_iff_left hnot]
    obtain ⟨now, request⟩ := i
    have hclosed (hcompletion : (b.serve ⟨now, request⟩).state.stored.completion = none) :
        ¬ (b.serve ⟨now, request⟩).state.IsOpen now := by
      rintro ⟨last, hlast, -⟩
      rw [hcompletion] at hlast
      cases hlast
    cases request with
    | complete => simp [serve, complete, store, Outcome.map, IsOpen]
    | poll | isWithin | remaining | gate =>
      refine iff_of_false ?_ (by simp)
      exact mt isOpen_poll.1 h
    | clear => exact iff_of_false (hclosed (clear_completion b)) (by simp)
    | setEnabled on =>
      refine iff_of_false ?_ (by simp)
      cases on with
      | true => exact h
      | false => exact hclosed (clear_completion { b with enabled := false })
    | confirm c report =>
      refine iff_of_false ?_ (by simp)
      exact mt (isOpen_confirm c report).1 h
    | setDuration d => exact absurd ⟨d, rfl⟩ hlength
    | restart d on => exact absurd ⟨d, rfl⟩ hlength

/-- Whether no request of a row revives the window. -/
def Unrevived (b : Bypass) : List Input → Prop
  | [] => True
  | i :: rest => ¬ b.Revives i ∧ (b.serve i).state.Unrevived rest

/-- Where the length stays, nothing is revived. -/
theorem unrevived_of_no_length (h : ∀ i ∈ inputs, i.request.length? = none) :
    b.Unrevived inputs := by
  induction inputs generalizing b with
  | nil => trivial
  | cons i rest ih =>
    obtain ⟨hi, hrest⟩ := List.forall_mem_cons.1 h
    refine ⟨?_, ih hrest⟩
    rintro ⟨last, duration, -, hlength, -⟩
    rw [hi] at hlength
    cases hlength

/-- What is closed at first is closed at the end of a row that neither completes a challenge nor
revives the window. -/
theorem not_isOpen_served (h : ¬ b.IsOpen now)
    (hclock : (now :: (inputs.map Input.now ++ [t])).Pairwise (· ≤ ·))
    (hcomplete : ∀ i ∈ inputs, i.request ≠ .complete) (hrevived : b.Unrevived inputs) :
    ¬ (b.served inputs).IsOpen t := by
  -- On the requests, with the time of the last one: closed then, closed at the next one, and closed
  -- behind it.
  induction inputs generalizing b now with
  | nil =>
    have ht : now ≤ t := by simpa using hclock
    exact not_isOpen_mono h ht
  | cons i rest ih =>
    obtain ⟨hnow, hrest⟩ := List.pairwise_cons.1 hclock
    have hi : ¬ b.IsOpen i.now := not_isOpen_mono h (hnow i.now (by simp))
    rw [List.forall_mem_cons] at hcomplete
    have hstep : ¬ (b.serve i).state.IsOpen i.now := by
      rw [isOpen_serve hi]
      rintro (⟨hi, -⟩ | hi)
      · exact hcomplete.1 hi
      · exact hrevived.1 hi
    exact ih hstep hrest hcomplete.2 hrevived.2

/-- Whether the window has run out at the time `t₁`, by the length in force then, and until the
time `t` nothing but the clock has a say: no challenge is completed, and nothing revives it. -/
structure Lapsed (b : Bypass) (before later : List Input) (t₁ t : Nat) : Prop where
  clock : (before.map Input.now ++ t₁ :: (later.map Input.now ++ [t])).Pairwise (· ≤ ·)
  overdue : ∀ last, (b.served before).stored.completion = some last →
    (b.served before).duration ≤ t₁ - last
  uncompleted : ∀ i ∈ later, i.request ≠ .complete
  unrevived : (b.served before).Unrevived later

/-- A window that has run out is closed from then on. -/
theorem not_isOpen_of_lapsed {t₁ : Nat} (h : b.Lapsed before later t₁ t) :
    ¬ (b.served (before ++ later)).IsOpen t := by
  have hover : ¬ (b.served before).IsOpen t₁ := by
    rintro ⟨last, hlast, hopen⟩
    exact absurd (h.overdue last hlast) (Nat.not_le.2 hopen)
  have hclock := (List.pairwise_append.1 h.clock).2.1
  rw [served_append]
  exact not_isOpen_served hover hclock h.uncompleted h.unrevived

/-- A window that is not open is not reported active. -/
theorem isActive_of_not_isOpen (h : ¬ b.IsOpen t) : (b.poll t).answer.isActive = false := by
  rw [← Bool.not_eq_true, poll_isActive]
  exact h

/-- A window that is not open has no time left. -/
theorem remaining_of_not_isOpen (h : ¬ b.IsOpen t) : (b.poll t).answer.remaining = 0 := by
  have hactive := isActive_of_not_isOpen h
  cases hw : (b.poll t).answer with
  | active r =>
    rw [hw] at hactive
    cases hactive
  | _ => rfl

/-- The gate is then a matter of the switch alone. -/
theorem gate_of_not_isOpen (h : ¬ b.IsOpen t) : (b.gate t).answer = b.enabled := by
  rw [Bool.eq_iff_iff, gate_answer, and_iff_left h]

/-- A window that is not open has nothing left, and attempts are blocked if they are at all. -/
theorem readings_of_not_isOpen (h : ¬ b.IsOpen t) :
    b.readings t = [.flag false, .millis 0, .flag b.enabled] := by
  simp only [readings, List.map_cons, List.map_nil, serve, Outcome.map, isActive_of_not_isOpen h,
    remaining_of_not_isOpen h, gate_of_not_isOpen h]

/-! ### More readings -/

/-- The tracker without the time of the last challenge. -/
def forget (b : Bypass) : Bypass := { b with stored := { b.stored with completion := none } }

/-- There is nothing to forget where no challenge is on record. -/
theorem forget_of_none (h : b.stored.completion = none) : b.forget = b := by
  obtain ⟨⟨completion, capabilities⟩, duration, enabled⟩ := b
  cases h
  rfl

/-- Without a challenge on record there is no window. -/
theorem not_isOpen_forget : ¬ b.forget.IsOpen t := by
  rintro ⟨last, hlast, -⟩
  cases hlast

/-- A reading changes nothing in a window that is open, and closes any other for good. -/
theorem poll_state (b : Bypass) (now : Nat) [Decidable (b.IsOpen now)] :
    (b.poll now).state = if b.IsOpen now then b else b.forget := by
  split
  next hopen =>
    obtain ⟨r, hr⟩ : ∃ r, (b.poll now).answer = .active r := by
      obtain ⟨last, hlast, hlt⟩ := hopen
      exact ⟨_, poll_answer_active.2 ⟨last, hlast, hlt, rfl⟩⟩
    exact poll_state_of_not_expired (by simp [hr])
  next hclosed =>
    -- A window that is not open has no challenge on record, or one whose time is over.
    cases hlast : b.stored.completion with
    | none => rw [poll_of_none hlast, forget_of_none hlast]
    | some last =>
      have hover : ¬ now - last < b.duration := fun hlt => hclosed ⟨last, hlast, hlt⟩
      unfold poll
      rw [hlast]
      dsimp only
      rw [if_neg hover]
      rfl

/-- A reading changes nothing in an open window. -/
theorem poll_state_of_isOpen (h : b.IsOpen now) : (b.poll now).state = b := by
  classical rw [poll_state, if_pos h]

/-- A reading closes a window that is not open for good. -/
theorem poll_state_of_not_isOpen (h : ¬ b.IsOpen now) : (b.poll now).state = b.forget := by
  classical rw [poll_state, if_neg h]

/-- Whoever closes the window closes it for good. -/
theorem clear_state (b : Bypass) : b.clear.state = b.forget := by
  unfold clear
  split
  · rfl
  next hnone => exact (forget_of_none (Option.not_isSome_iff_eq_none.1 hnone)).symm

/-- The challenge on record and the capabilities have nothing to do with each other. -/
theorem confirm_forget (b : Bypass) (c : Capability) (report : Option Bool) :
    (b.forget.confirm c report).state = (b.confirm c report).state.forget := by
  by_cases hknown : b.stored.capabilities.get? c = some (report.getD false)
  · simp [confirm, forget, hknown]
  · simp [confirm, forget, hknown, store]

/-- Whether the second of two trackers is the first, or has already closed a window that is not
open. -/
def Polled (now : Nat) (b b' : Bypass) : Prop := b' = b ∨ ¬ b.IsOpen now ∧ b' = b.forget

theorem Polled.refl (now : Nat) (b : Bypass) : Polled now b b := .inl rfl

/-- The difference is the same at every later time, since what is closed stays closed. -/
theorem Polled.mono (h : Polled now b b') (hle : now ≤ t) : Polled t b b' :=
  h.imp_right fun ⟨hclosed, hb⟩ => ⟨not_isOpen_mono hclosed hle, hb⟩

/-- The same request to both leaves trackers between which there is no more difference. -/
theorem Polled.serve (h : Polled now b b') (hi : now ≤ i.now) (hrevives : ¬ b.Revives i) :
    Polled i.now (b.serve i).state (b'.serve i).state := by
  rcases h.mono hi with rfl | ⟨hclosed, rfl⟩
  · exact .refl ..
  · -- Only a completed challenge opens the window now, and it overwrites what one of the two has
    -- forgotten.
    have hopens := isOpen_serve hclosed
    rw [or_iff_left hrevives] at hopens
    obtain ⟨now, request⟩ := i
    cases request with
    | complete => exact .inl rfl
    | poll | isWithin | remaining | gate =>
      -- Both readings close the window for good.
      left
      show (b.forget.poll now).state = (b.poll now).state
      rw [poll_state_of_not_isOpen hclosed, poll_state_of_not_isOpen not_isOpen_forget]
      rfl
    | clear =>
      left
      show b.forget.clear.state = b.clear.state
      rw [clear_state, clear_state]
      rfl
    | setEnabled on =>
      cases on with
      | true => exact .inr ⟨mt hopens.1 (by simp), rfl⟩
      | false =>
        left
        show (clear { b.forget with enabled := false }).state =
          (clear { b with enabled := false }).state
        rw [clear_state, clear_state]
        rfl
    | confirm c report => exact .inr ⟨mt hopens.1 (by simp), b.confirm_forget c report⟩
    | setDuration d => exact .inr ⟨mt hopens.1 (by simp), rfl⟩
    | restart d on => exact .inr ⟨mt hopens.1 (by simp), rfl⟩

/-- One more reading makes no difference. -/
theorem Polled.read (h : Polled now b b') (hi : now ≤ i.now) (hread : i.IsReading) :
    Polled i.now b (b'.serve i).state := by
  rw [serve_state_of_isReading hread]
  rcases h.mono hi with rfl | ⟨hclosed, rfl⟩
  · by_cases hopen : b'.IsOpen i.now
    · classical
      left
      rw [poll_state, if_pos hopen]
    · exact .inr ⟨hopen, poll_state_of_not_isOpen hopen⟩
  · exact .inr ⟨hclosed, poll_state_of_not_isOpen not_isOpen_forget⟩

/-- Both trackers agree on whether there is an open window. -/
theorem Polled.isOpen (h : Polled now b b') (ht : now ≤ t) : b'.IsOpen t ↔ b.IsOpen t := by
  rcases h.mono ht with rfl | ⟨hclosed, rfl⟩
  · rfl
  · exact iff_of_false not_isOpen_forget hclosed

/-- Readings do not touch the switch. -/
theorem Polled.enabled (h : Polled now b b') : b'.enabled = b.enabled := by
  rcases h with rfl | ⟨-, rfl⟩ <;> rfl

/-- A reading takes away the difference. -/
theorem Polled.poll_state (h : Polled now b b') (ht : now ≤ t) :
    (b'.poll t).state = (b.poll t).state := by
  rcases h.mono ht with rfl | ⟨hclosed, rfl⟩
  · rfl
  · rw [poll_state_of_not_isOpen hclosed, poll_state_of_not_isOpen not_isOpen_forget]
    rfl

/-- Both trackers give the same answer to whether the window is active. -/
theorem Polled.isActive (h : Polled now b b') (ht : now ≤ t) :
    (b'.poll t).answer.isActive = (b.poll t).answer.isActive := by
  rw [Bool.eq_iff_iff, poll_isActive, poll_isActive, h.isOpen ht]

/-- Both trackers give the same time left. -/
theorem Polled.remaining (h : Polled now b b') (ht : now ≤ t) :
    (b'.poll t).answer.remaining = (b.poll t).answer.remaining := by
  rcases h.mono ht with rfl | ⟨hclosed, rfl⟩
  · rfl
  · rw [remaining_of_not_isOpen hclosed, remaining_of_not_isOpen not_isOpen_forget]

/-- Both trackers give the same answer at the gate. -/
theorem Polled.gate (h : Polled now b b') (ht : now ≤ t) :
    (b'.gate t).answer = (b.gate t).answer := by
  rw [Bool.eq_iff_iff, gate_answer, gate_answer, h.isOpen ht, h.enabled]

/-- Nobody who asks notices the difference. -/
theorem Polled.readings (h : Polled now b b') (ht : now ≤ t) : b'.readings t = b.readings t := by
  simp only [Bypass.readings, List.map_cons, List.map_nil, Bypass.serve, Outcome.map,
    h.isActive ht, h.remaining ht, h.gate ht]

/-- More readings in a row leave a tracker between which and the other nobody can tell the
difference, as long as nothing revives the window. -/
theorem Polled.served (h : Polled now b b') (hmore : Interspersed Input.IsReading inputs inputs')
    (hclock : (now :: (inputs'.map Input.now ++ [t])).Pairwise (· ≤ ·))
    (hrevived : b.Unrevived inputs) : Polled t (b.served inputs) (b'.served inputs') := by
  -- On how the readings are interspersed. A request of both keeps the two together, and one more
  -- reading makes the second at most closed where the first is over.
  induction hmore generalizing b b' now with
  | nil =>
    have ht : now ≤ t := by simpa using hclock
    exact h.mono ht
  | keep i _ ih =>
    obtain ⟨hnow, hrest⟩ := List.pairwise_cons.1 hclock
    have hi : now ≤ i.now := hnow i.now (by simp)
    exact ih (h.serve hi hrevived.1) hrest hrevived.2
  | @extra i _ _ hread _ ih =>
    obtain ⟨hnow, hrest⟩ := List.pairwise_cons.1 hclock
    have hi : now ≤ i.now := hnow i.now (by simp)
    exact ih (h.read hi hread) hrest hrevived

/-! ### Restarts from the file -/

/-- Every request but a restart writes through, at times of a clock of 64 bits. -/
theorem writesThrough_serve (b : Bypass) (hi : i.now < Number.wordCount)
    (hrestart : ∀ duration on, i.request ≠ .restart duration on) :
    WritesThrough b (b.serve i) := by
  obtain ⟨now, request⟩ := i
  have hnow : (UInt64.ofNat now).toNat = now := UInt64.toNat_ofNat_of_lt' hi
  rw [← hnow]
  cases request with
  | complete => exact b.writesThrough_step (.complete (.ofNat now))
  | poll => exact b.writesThrough_step (.poll (.ofNat now))
  | isWithin => exact b.writesThrough_step (.isWithin (.ofNat now))
  | remaining => exact b.writesThrough_step (.remaining (.ofNat now))
  | gate => exact b.writesThrough_step (.gate (.ofNat now))
  | clear => exact b.writesThrough_step .clear
  | setEnabled on => exact b.writesThrough_step (.setEnabled on)
  | setDuration duration => exact b.writesThrough_step (.setDuration duration)
  | confirm c report => exact b.writesThrough_step (.confirm c report)
  | restart duration on => exact absurd rfl (hrestart duration on)

namespace Session

variable {s : Session} {dir : String}

/-- The session in which the tracker was opened anew from its file. -/
def restart (dir : String) (s : Session) (duration : Duration) (on : Bool) :
    Except IoFault Session :=
  match s.tree.exec (StateFile.load dir) with
  | (.ok p, t) => .ok ⟨t, .start p duration on⟩
  | (.error fault, _) => .error fault

/-- The states that a request saves. -/
def saves (s : Session) (i : Input) : List Persisted :=
  (s.tracker.serve i).effects.filterMap Effect.save?

/-- The session after a request. -/
def serve (dir : String) (s : Session) (i : Input) : Except IoFault Session :=
  match i.request with
  | .restart duration on => s.restart dir duration on
  | _ => .ok ⟨saveAll dir s.tree (s.saves i), (s.tracker.serve i).state⟩

/-- Whether all that a row of requests has to write can be written, and the clock has 64 bits. -/
def Stores (dir : String) (s : Session) : List Input → Prop
  | [] => True
  | i :: rest =>
    i.now < Number.wordCount ∧ SavesAll dir s.tree (s.saves i) ∧
      ∀ s', s.serve dir i = .ok s' → Stores dir s' rest

/-- The tracker of a session serves a request as if it held all that it knows in memory. -/
theorem Sound.serve (h : s.Sound dir) (hi : i.now < Number.wordCount)
    (hw : SavesAll dir s.tree (s.saves i)) :
    ∃ s', s.serve dir i = .ok s' ∧ s'.Sound dir ∧ s'.tracker = (s.tracker.serve i).state := by
  -- A restart reads what is in the file; every other request has written it there.
  by_cases hrestart : ∃ duration on, i.request = .restart duration on
  · obtain ⟨duration, on, hi⟩ := hrestart
    have hword : duration.word < Number.wordCount := Nat.mod_lt _ (by decide)
    have hopened : s.restart dir duration on =
        .ok ⟨s.tree, start s.tracker.stored duration on⟩ := by
      unfold restart
      rw [h.loaded]
    refine ⟨⟨s.tree, start s.tracker.stored duration on⟩, ?_, ⟨h.loaded, h.fits, hword⟩, ?_⟩
    · simp only [Session.serve, hi, hopened]
    · simp only [Bypass.serve, hi, Outcome.answering]
  · have hcall : ∀ duration on, i.request ≠ .restart duration on :=
      fun duration on heq => hrestart ⟨duration, on, heq⟩
    refine ⟨_, ?_, h.writes (s.tracker.writesThrough_serve hi hcall) hw, rfl⟩
    unfold Session.serve
    split
    next duration on heq => exact absurd heq (hcall duration on)
    · rfl

/-- The same for a row of requests, restarts among them. -/
theorem Sound.served (h : s.Sound dir) (hw : s.Stores dir inputs) :
    ∃ s', inputs.foldlM (Session.serve dir) s = .ok s' ∧
      s'.tracker = s.tracker.served inputs := by
  -- On the requests: soundness says that the file knows what the tracker knows, and each request
  -- keeps it.
  induction inputs generalizing s with
  | nil => exact ⟨s, rfl, rfl⟩
  | cons i rest ih =>
    obtain ⟨hi, hsaves, hrest⟩ := hw
    obtain ⟨s₁, hserve, hsound, htracker⟩ := h.serve hi hsaves
    obtain ⟨s₂, hserved, hlast⟩ := ih hsound (hrest s₁ hserve)
    refine ⟨s₂, ?_, ?_⟩
    · rw [List.foldlM_cons, hserve]
      exact hserved
    · rw [hlast, htracker]
      rfl

end Session

end Warden.Bypass
