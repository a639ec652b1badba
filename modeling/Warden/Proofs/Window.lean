import Mathlib.Data.List.Induction
import Warden.Proofs.Bypass
import Warden.Proofs.Engine.Attempts
import Warden.Proofs.Restart

namespace Warden.Bypass

open Engine (Since since_concat not_since_nil)

/-!
# The window over whole runs

Reading the window may close it, so what a reading answers depends on the readings before it.  Yet
the history says in a few words what the window is: it is measured from the last completed
challenge, unless something closed it since, and the clock may jump as it likes.

* `Use`, `use`, `after`, `history` — calls to a tracker, and looks at it that close nothing.
* `Moment.Completes`, `Moment.FindsExpired`, `Moment.Closes` — what a moment means for the window.
* `Stands h T` — a challenge completed at `T` is the one that counts, over the history `h`.
* `completion_run` — the stored completion is the one that stands.
* `Agree`, `agree` — all that can be read of the window at one time agrees.
* `window_run` — what readings answer after any run.
-/

/-! ### Runs -/

/-- A call to a tracker, or a look at what is left of its window. -/
inductive Use where
  | call (c : Call)
  | peek (now : UInt64)

/-- The call that a use is. -/
def Use.call? : Use → Option Call
  | .call c => some c
  | .peek _ => none

/-- The time at which a use reads the window, which closes one that has run out. -/
def Use.reads? : Use → Option UInt64
  | .call (.poll now) | .call (.isWithin now) => some now
  | .call (.remaining now) | .call (.gate now) => some now
  | _ => none

/-- One use of a tracker. -/
def use (b : Bypass) : Use → Outcome Bypass Answer
  | .call c => b.step c
  | .peek now => .answering b (.millis (b.peek now.toNat))

/-- The tracker after a row of uses. -/
def after (b : Bypass) (uses : List Use) : Bypass := uses.foldl (fun b u => (b.use u).state) b

/-- A use and the tracker it was made of. -/
structure Moment where
  tracker : Bypass
  use : Use

/-- The moments of a run, the first one first. -/
def history (b : Bypass) : List Use → List Moment
  | [] => []
  | u :: rest => ⟨b, u⟩ :: history (b.use u).state rest

/-- What a run does outside of the tracker: all that it saves. -/
def effects (b : Bypass) (uses : List Use) : List Effect :=
  (b.history uses).flatMap fun m => (m.tracker.use m.use).effects

variable {b b₀ : Bypass} {u : Use} {uses : List Use} {m : Moment} {h : List Moment} {now t : Nat}
  {last n : Nat}

/-- The last use of a run comes after all others. -/
theorem after_concat (b : Bypass) (uses : List Use) (u : Use) :
    b.after (uses ++ [u]) = ((b.after uses).use u).state := by
  simp only [after, List.foldl_append, List.foldl_cons, List.foldl_nil]

/-- The moment of the last use is the last moment. -/
theorem history_concat (b : Bypass) (uses : List Use) (u : Use) :
    b.history (uses ++ [u]) = b.history uses ++ [⟨b.after uses, u⟩] := by
  induction uses generalizing b with
  | nil => rfl
  | cons v rest ih =>
    rw [List.cons_append, history, ih, history, List.cons_append]
    rfl

/-- The moments before one in a run are those of a shorter run, which left its tracker behind. -/
theorem history_eq_split {before after : List Moment}
    (hsplit : b.history uses = before ++ m :: after) :
    ∃ uses', b.history uses' = before ∧ b.after uses' = m.tracker := by
  -- On the run, as long as moments before the one in question are left.
  induction uses generalizing b before with
  | nil => cases before <;> cases hsplit
  | cons u rest ih =>
    cases before with
    | nil =>
      obtain ⟨rfl, -⟩ := List.cons.inj hsplit
      exact ⟨[], rfl, rfl⟩
    | cons x before =>
      obtain ⟨rfl, hrest⟩ := List.cons.inj hsplit
      obtain ⟨uses', hbefore, hafter⟩ := ih hrest
      exact ⟨u :: uses', congrArg (_ :: ·) hbefore, hafter⟩

/-- A run leaves behind and saves the same as one without the looks in between. -/
theorem run_calls (b : Bypass) (uses : List Use) :
    b.after ((uses.filterMap Use.call?).map .call) = b.after uses ∧
      b.effects ((uses.filterMap Use.call?).map .call) = b.effects uses := by
  induction uses generalizing b with
  | nil => exact ⟨rfl, rfl⟩
  | cons u rest ih =>
    cases u with
    | peek now =>
      -- A look leaves the tracker as it is, so the rest starts from the same one.
      exact ih b
    | call c =>
      obtain ⟨hafter, heffects⟩ := ih (b.step c).state
      refine ⟨hafter, ?_⟩
      unfold effects at heffects ⊢
      exact congrArg ((b.step c).effects ++ ·) heffects

/-! ### What a moment means for the window -/

/-- Whether a challenge is completed at a time. -/
def Moment.Completes (m : Moment) (T : UInt64) : Prop := m.use = .call (.complete T)

/-- Whether the window is read and found to have run out. -/
def Moment.FindsExpired (m : Moment) : Prop :=
  ∃ now, m.use.reads? = some now ∧ (m.tracker.poll now.toNat).answer = .justExpired

/-- Whether the window is closed, by itself or on purpose. -/
def Moment.Closes (m : Moment) : Prop :=
  m.FindsExpired ∨ m.use = .call .clear ∨ m.use = .call (.setEnabled false)

/-- Whether the challenge completed at `T` is the one that counts: it is the last one, and nothing
has closed the window since. -/
def Stands (h : List Moment) (T : UInt64) : Prop :=
  Since (fun m => m.Completes T) (fun m => m.Closes ∨ ∃ T', m.Completes T') h

/-! ### One reading -/

/-- Without a completion there is no window to read. -/
theorem poll_of_none (hnone : b.stored.completion = none) : b.poll now = ⟨b, .inactive, []⟩ := by
  unfold poll
  rw [hnone]

/-- A window that was opened is measured at each reading. -/
theorem poll_answer_of_some (hlast : b.stored.completion = some last) :
    (b.poll now).answer =
      if now - last < b.duration then .active (b.duration - (now - last)) else .justExpired := by
  unfold poll
  rw [hlast]
  dsimp only
  split <;> rfl

/-- A reading finds no window exactly if no completion is stored. -/
theorem poll_answer_inactive :
    (b.poll now).answer = .inactive ↔ b.stored.completion = none := by
  cases hlast : b.stored.completion with
  | none => simp [poll_of_none hlast]
  | some last =>
    rw [poll_answer_of_some hlast]
    split <;> simp

/-- A reading finds an open window exactly if the completion is less than the length behind; what is
left is the rest of the length. -/
theorem poll_answer_active {r : Nat} : (b.poll now).answer = .active r ↔
    ∃ last, b.stored.completion = some last ∧ now - last < b.duration ∧
      r = b.duration - (now - last) := by
  cases hlast : b.stored.completion with
  | none => simp [poll_of_none hlast]
  | some last =>
    rw [poll_answer_of_some hlast]
    by_cases hopen : now - last < b.duration
    · simp [hopen, eq_comm]
    · simp [hopen]

/-- A reading finds a window that has run out exactly if the completion is at least the length
behind. -/
theorem poll_answer_justExpired : (b.poll now).answer = .justExpired ↔
    ∃ last, b.stored.completion = some last ∧ b.duration ≤ now - last := by
  cases hlast : b.stored.completion with
  | none => simp [poll_of_none hlast]
  | some last =>
    rw [poll_answer_of_some hlast]
    by_cases hopen : now - last < b.duration
    · simp [hopen]
    · simp [hopen, Nat.not_lt.1 hopen]

/-- A reading that finds the window open, or none at all, changes nothing. -/
theorem poll_state_of_not_expired (h : (b.poll now).answer ≠ .justExpired) :
    (b.poll now).state = b := by
  cases hlast : b.stored.completion with
  | none => rw [poll_of_none hlast]
  | some last =>
    by_cases hopen : now - last < b.duration
    · unfold poll
      rw [hlast]
      dsimp only
      rw [if_pos hopen]
    · exact absurd (by rw [poll_answer_of_some hlast, if_neg hopen]) h

/-- A reading that finds that the window has run out forgets the completion. -/
theorem poll_completion_of_expired (h : (b.poll now).answer = .justExpired) :
    (b.poll now).state.stored.completion = none := by
  obtain ⟨last, hlast, hover⟩ := poll_answer_justExpired.1 h
  unfold poll
  rw [hlast]
  dsimp only
  rw [if_neg (Nat.not_lt.2 hover)]
  rfl

/-- A window that was cleared has no completion left. -/
theorem clear_completion (b : Bypass) : b.clear.state.stored.completion = none := by
  unfold clear
  split
  · rfl
  next hnone => exact Option.not_isSome_iff_eq_none.1 hnone

/-- A report about a capability does not touch the completion. -/
theorem confirm_completion (c : Capability) (report : Option Bool) :
    (b.confirm c report).state.stored.completion = b.stored.completion := by
  unfold confirm
  dsimp only
  split <;> rfl

/-! ### One use -/

/-- All readings but a look leave the same behind. -/
theorem use_state_of_reads {now : UInt64} (h : u.reads? = some now) :
    (b.use u).state = (b.poll now.toNat).state := by
  cases u with
  | peek t => cases h
  | call c =>
    cases c
    case poll | isWithin | remaining | gate => cases h; rfl
    all_goals cases h

/-- A completed challenge is what is stored from then on. -/
theorem completion_of_completes {T : UInt64} (h : m.Completes T) :
    (m.tracker.use m.use).state.stored.completion = some T.toNat := by
  have huse : m.use = .call (.complete T) := h
  rw [huse]
  rfl

/-- A window that was closed has no completion stored. -/
theorem completion_of_closes (h : m.Closes) :
    (m.tracker.use m.use).state.stored.completion = none := by
  rcases h with ⟨now, hreads, hexpired⟩ | hclear | hoff
  · rw [use_state_of_reads hreads]
    exact poll_completion_of_expired hexpired
  · rw [hclear]
    exact clear_completion m.tracker
  · rw [hoff]
    exact clear_completion { m.tracker with enabled := false }

/-- What neither completes a challenge nor closes the window leaves the completion alone. -/
theorem completion_of_other (h : ¬ (m.Closes ∨ ∃ T, m.Completes T)) :
    (m.tracker.use m.use).state.stored.completion = m.tracker.stored.completion := by
  rw [not_or] at h
  obtain ⟨hcloses, hcompletes⟩ := h
  -- A use that reads has found no end; of the others, those that store or clear are excluded.
  cases hreads : m.use.reads? with
  | some now =>
    have hopen : (m.tracker.poll now.toNat).answer ≠ .justExpired :=
      fun hexpired => hcloses (.inl ⟨now, hreads, hexpired⟩)
    rw [use_state_of_reads hreads, poll_state_of_not_expired hopen]
  | none =>
    obtain ⟨b, u⟩ := m
    cases u with
    | peek now => rfl
    | call c =>
      cases c
      case complete T => exact absurd ⟨T, rfl⟩ hcompletes
      case clear => exact absurd (.inr (.inl rfl)) hcloses
      case setEnabled on =>
        cases on with
        | true => rfl
        | false => exact absurd (.inr (.inr rfl)) hcloses
      case setDuration duration => rfl
      case confirm c report => exact confirm_completion c report
      all_goals cases hreads

/-- The length of the window after a use. -/
theorem duration_use (b : Bypass) (u : Use) :
    (b.use u).state.duration =
      match u with
      | .call (.setDuration duration) => duration.word
      | _ => b.duration := by
  cases u with
  | peek now => rfl
  | call c =>
    cases c
    case poll now => exact b.poll_duration now.toNat
    case isWithin now => exact b.poll_duration now.toNat
    case remaining now => exact b.poll_duration now.toNat
    case gate now => exact b.poll_duration now.toNat
    case clear => exact b.clear_duration
    case setEnabled on =>
      cases on with
      | true => rfl
      | false => exact clear_duration { b with enabled := false }
    case confirm c report => exact confirm_duration c report
    all_goals rfl

/-! ### Whole runs -/

/-- Whether the window keeps the length that it has at the start. -/
def KeepLength (b₀ : Bypass) (uses : List Use) : Prop :=
  ∀ duration, .call (.setDuration duration) ∈ uses → duration.word = b₀.duration

/-- A window that keeps its length has the same one at the end of the run. -/
theorem duration_run (hlength : KeepLength b₀ uses) :
    (b₀.after uses).duration = b₀.duration := by
  -- On the last use: a length that is set is the one of the start.
  induction uses using List.reverseRecOn with
  | nil => rfl
  | append_singleton uses u ih =>
    have hbefore := ih fun duration hmem => hlength duration (List.mem_append_left _ hmem)
    rw [after_concat, duration_use]
    split
    next duration => exact hlength duration (by simp)
    · exact hbefore

/-- The stored completion is the one that stands. -/
theorem completion_run (hnone : b₀.stored.completion = none) :
    (b₀.after uses).stored.completion = some n ↔
      ∃ T, Stands (b₀.history uses) T ∧ T.toNat = n := by
  -- On the last use, which completes a challenge, closes the window, or does neither.
  induction uses using List.reverseRecOn with
  | nil =>
    refine iff_of_false ?_ ?_
    · show b₀.stored.completion ≠ some n
      rw [hnone]
      exact Option.some_ne_none n ∘ Eq.symm
    · rintro ⟨T, hstands, -⟩
      exact not_since_nil hstands
  | append_singleton uses u ih =>
    rw [after_concat, history_concat]
    unfold Stands at ih ⊢
    simp only [since_concat]
    let m : Moment := ⟨b₀.after uses, u⟩
    show (m.tracker.use m.use).state.stored.completion = some n ↔ _
    by_cases hcompletes : ∃ T, m.Completes T
    · -- A completion counts from now on, and no other one does.
      obtain ⟨T, hT⟩ := hcompletes
      rw [completion_of_completes hT]
      constructor
      · intro hn
        exact ⟨T, .inl hT, Option.some.inj hn⟩
      · rintro ⟨T', hT' | ⟨hnot, -⟩, rfl⟩
        · have hsame : (Use.call (.complete T)) = .call (.complete T') := hT.symm.trans hT'
          cases hsame
          rfl
        · exact absurd (.inr ⟨T, hT⟩) hnot
    · by_cases hcloses : m.Closes
      · rw [completion_of_closes hcloses]
        refine iff_of_false (Option.some_ne_none n ∘ Eq.symm) ?_
        rintro ⟨T, hT | ⟨hnot, -⟩, -⟩
        · exact hcompletes ⟨T, hT⟩
        · exact hnot (.inl hcloses)
      · have hother : ¬ (m.Closes ∨ ∃ T, m.Completes T) := not_or.2 ⟨hcloses, hcompletes⟩
        rw [completion_of_other hother]
        refine ih.trans (exists_congr fun T => and_congr_left fun _ => ?_)
        rw [and_iff_right hother, or_iff_right fun hT => hcompletes ⟨T, hT⟩]

/-- Once a reading has found that the window has run out, nothing is stored until the next
completion. -/
theorem completion_of_expired
    (hexpired : Since Moment.FindsExpired (fun m => ∃ T, m.Completes T) (b₀.history uses)) :
    (b₀.after uses).stored.completion = none := by
  -- On the last use: what has been found expired before is stored no more, and no completion has
  -- come since.
  induction uses using List.reverseRecOn with
  | nil => exact absurd hexpired not_since_nil
  | append_singleton uses u ih =>
    rw [history_concat, since_concat] at hexpired
    rw [after_concat]
    let m : Moment := ⟨b₀.after uses, u⟩
    show (m.tracker.use m.use).state.stored.completion = none
    rcases hexpired with hnow | ⟨hnot, hbefore⟩
    · exact completion_of_closes (.inl hnow)
    · by_cases hcloses : m.Closes
      · exact completion_of_closes hcloses
      · rw [completion_of_other (not_or.2 ⟨hcloses, hnot⟩)]
        exact ih hbefore

/-- Between two readings that find the window expired a challenge is completed. -/
theorem completes_between {before between after : List Moment} {m' : Moment}
    (hsplit : b₀.history uses = before ++ m :: (between ++ m' :: after))
    (hm : m.FindsExpired) (hm' : m'.FindsExpired) : ∃ x ∈ between, ∃ T, x.Completes T := by
  by_contra hnot
  rw [← List.cons_append, ← List.append_assoc] at hsplit
  obtain ⟨uses', hbefore, hafter⟩ := history_eq_split hsplit
  -- If not, the window was found expired and nothing completed since, so there is nothing to find
  -- expired again.
  have hsince : Since Moment.FindsExpired (fun m => ∃ T, m.Completes T) (b₀.history uses') :=
    ⟨before, m, between, hbefore, hm, fun x hx hT => hnot ⟨x, hx, hT⟩⟩
  obtain ⟨now, -, hexpired⟩ := hm'
  rw [← hafter, poll_answer_inactive.2 (completion_of_expired hsince)] at hexpired
  cases hexpired

/-! ### What can be read at one time -/

/-- A look shows what a reading would answer as the time left. -/
theorem peek_eq_remaining (b : Bypass) (now : Nat) :
    b.peek now = (b.poll now).answer.remaining := by
  cases hlast : b.stored.completion with
  | none =>
    rw [poll_of_none hlast, peek, hlast]
    rfl
  | some last =>
    rw [poll_answer_of_some hlast, peek, hlast]
    show b.duration - (now - last) = _
    split
    · rfl
    next hover => exact Nat.sub_eq_zero_of_le (Nat.not_lt.1 hover)

/-- A window is open exactly as long as something is left of it. -/
theorem poll_isActive_iff_peek : (b.poll now).answer.isActive = true ↔ 0 < b.peek now := by
  rw [peek_eq_remaining]
  cases hw : (b.poll now).answer with
  | active r =>
    obtain ⟨last, -, hopen, rfl⟩ := poll_answer_active.1 hw
    exact iff_of_true rfl (Nat.sub_pos_of_lt hopen)
  | _ => exact iff_of_false Bool.false_ne_true (Nat.lt_irrefl 0)

/-- Whether all that can be read of the window at one time agrees with what is left of it. -/
structure Agree (b : Bypass) (t : UInt64) : Prop where
  within : (b.step (.isWithin t)).answer = .flag true ↔ 0 < b.peek t.toNat
  remaining : (b.step (.remaining t)).answer = .millis (b.peek t.toNat)
  active : (∃ r, (b.step (.poll t)).answer = .window (.active r)) ↔ 0 < b.peek t.toNat
  gate : (b.step (.gate t)).answer = .flag true ↔
    b.enabled = true ∧ ¬ ∃ r, (b.step (.poll t)).answer = .window (.active r)

/-- Whatever way the window is read, the answers fit together. -/
theorem agree (b : Bypass) (t : UInt64) : b.Agree t := by
  have hpeek : (b.poll t.toNat).answer.isActive = true ↔ 0 < b.peek t.toNat :=
    poll_isActive_iff_peek
  have hactive : (∃ r, (b.step (.poll t)).answer = .window (.active r)) ↔
      (b.poll t.toNat).answer.isActive = true := by
    show (∃ r, Answer.window (b.poll t.toNat).answer = .window (.active r)) ↔ _
    cases (b.poll t.toNat).answer <;> simp [WindowState.isActive]
  refine ⟨?_, ?_, hactive.trans hpeek, ?_⟩
  · rw [← hpeek]
    exact ⟨Answer.flag.inj, congrArg Answer.flag⟩
  · exact congrArg Answer.millis (b.peek_eq_remaining t.toNat).symm
  · rw [hactive, poll_isActive, ← gate_answer]
    exact ⟨Answer.flag.inj, congrArg Answer.flag⟩

/-! ### What readings answer -/

/-- **What the window is.** In every run that starts without a completion and keeps the length of
the window, a reading finds it open exactly if a completion stands that is less than the length
behind, whatever the clock does.  It finds it expired if one stands that is further behind, at most
once for each completion, and then every reading finds nothing until the next one.  All readings at
one time agree, and looks at what is left might as well not have been. -/
theorem window_run (b₀ : Bypass) (uses : List Use) (t : UInt64)
    (hnone : b₀.stored.completion = none) (hlength : KeepLength b₀ uses) :
    let b := b₀.after uses
    let h := b₀.history uses
    (∀ r, (b.step (.poll t)).answer = .window (.active r) ↔
      ∃ T, Stands h T ∧ t.toNat - T.toNat < b₀.duration ∧
        r = b₀.duration - (t.toNat - T.toNat)) ∧
    (∀ r, (b.step (.poll t)).answer = .window (.active r) → 0 < r ∧ r ≤ b₀.duration) ∧
    ((b.step (.poll t)).answer = .window .justExpired ↔
      ∃ T, Stands h T ∧ b₀.duration ≤ t.toNat - T.toNat) ∧
    (∀ before m between m' after, h = before ++ m :: (between ++ m' :: after) →
      m.FindsExpired → m'.FindsExpired → ∃ x ∈ between, ∃ T, x.Completes T) ∧
    (Since Moment.FindsExpired (fun m => ∃ T, m.Completes T) h →
      (b.step (.poll t)).answer = .window .inactive) ∧
    b.Agree t ∧
    b₀.after ((uses.filterMap Use.call?).map .call) = b ∧
    b₀.effects ((uses.filterMap Use.call?).map .call) = b₀.effects uses := by
  intro b h
  have hwindow (w : WindowState) :
      (b.step (.poll t)).answer = .window w ↔ (b.poll t.toNat).answer = w :=
    ⟨Answer.window.inj, congrArg Answer.window⟩
  have hduration : b.duration = b₀.duration := duration_run hlength
  have hcompletion (n : Nat) : b.stored.completion = some n ↔ ∃ T, Stands h T ∧ T.toNat = n :=
    completion_run hnone
  have hactive (r : Nat) : (b.step (.poll t)).answer = .window (.active r) ↔
      ∃ T, Stands h T ∧ t.toNat - T.toNat < b₀.duration ∧
        r = b₀.duration - (t.toNat - T.toNat) := by
    rw [hwindow, poll_answer_active, hduration]
    simp only [hcompletion]
    constructor
    · rintro ⟨_, ⟨T, hstands, rfl⟩, hopen, hr⟩
      exact ⟨T, hstands, hopen, hr⟩
    · rintro ⟨T, hstands, hopen, hr⟩
      exact ⟨T.toNat, ⟨T, hstands, rfl⟩, hopen, hr⟩
  refine ⟨hactive, ?_, ?_, fun _ _ _ _ _ => completes_between, ?_, agree b t, run_calls b₀ uses⟩
  · intro r hr
    obtain ⟨T, -, hopen, rfl⟩ := (hactive r).1 hr
    omega
  · rw [hwindow, poll_answer_justExpired, hduration]
    simp only [hcompletion]
    constructor
    · rintro ⟨_, ⟨T, hstands, rfl⟩, hover⟩
      exact ⟨T, hstands, hover⟩
    · rintro ⟨T, hstands, hover⟩
      exact ⟨T.toNat, ⟨T, hstands, rfl⟩, hover⟩
  · intro hexpired
    rw [hwindow, poll_answer_inactive]
    exact completion_of_expired hexpired

/-- A window that has run out stays closed although the clock goes back to the time of its
completion; the next completion opens one that is measured against a clock that is behind it. -/
theorem window_run_backwards :
    let b₀ := start .empty (.seconds 300) true
    let expired : List Use := [.call (.complete 1000), .peek 2000] ++ [.call (.isWithin 301000)]
    let reopened : List Use :=
      expired ++ [.call (.complete 5000)] ++ [.call (.setDuration (.seconds 300))]
    KeepLength b₀ expired ∧ KeepLength b₀ reopened ∧
      ((b₀.after expired).step (.poll 1000)).answer = .window .inactive ∧
      Stands (b₀.history reopened) 5000 ∧
      ((b₀.after reopened).step (.poll 400)).answer = .window (.active 300000) := by
  intro b₀ expired reopened
  have hexpired : KeepLength b₀ expired := by
    intro duration hmem
    simp [expired] at hmem
  have hreopened : KeepLength b₀ reopened := by
    intro duration hmem
    obtain rfl : duration = .seconds 300 := by simpa [reopened, expired] using hmem
    rfl
  have hfound : Since Moment.FindsExpired (fun m => ∃ T, m.Completes T) (b₀.history expired) := by
    rw [history_concat, since_concat]
    exact .inl ⟨301000, rfl, by decide⟩
  have hstands : Stands (b₀.history reopened) 5000 := by
    -- The new length comes last; it is no completion, and it closes nothing.
    rw [Stands, history_concat, history_concat, since_concat, since_concat]
    refine .inr ⟨?_, .inl rfl⟩
    rintro ((⟨now, hreads, -⟩ | hclear | hoff) | ⟨T, hT⟩)
    · cases hreads
    · cases hclear
    · cases hoff
    · cases hT
  obtain ⟨-, -, -, -, hinactive, -⟩ := window_run b₀ expired 1000 rfl hexpired
  obtain ⟨hactive, -⟩ := window_run b₀ reopened 400 rfl hreopened
  have hopen : ((b₀.after reopened).step (.poll 400)).answer = .window (.active 300000) :=
    (hactive 300000).2 ⟨5000, hstands, by decide, by decide⟩
  exact ⟨hexpired, hreopened, hinactive hfound, hstands, hopen⟩

end Warden.Bypass
