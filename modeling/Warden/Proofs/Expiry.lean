import Mathlib.Data.List.Induction
import Warden.Proofs.Sessions

namespace Warden

/-!
# Sessions that are over

Nobody writes down that a session is over: whoever asks measures it against the timeout of the
moment.  So a session that is over stays so, and a sweep that removes its entry early makes no
difference, unless a new timeout is longer than the app has been out of sight while its entry is
still there.

* `Interspersed p` — a row with more elements of one kind put in.
* `Sessions.Call`, `Sessions.step`, `Sessions.after`, `Sessions.answers` — runs of the sessions.
* `Sessions.entryAfter` — what becomes of the entry of one app; it depends on that entry alone.
* `Sessions.Revives`, `Sessions.Unrevived` — a new timeout brings a session back, or none does.
* `Sessions.Lapsed`, `Lapsed.check` — a session that is over, and that it stays so.
* `Sessions.Swept`, `answers_swept` — sessions that are over may be gone, and nobody will notice.
-/

/-- A row of elements with more of one kind put in anywhere. -/
inductive Interspersed {α : Type} (p : α → Prop) : List α → List α → Prop
  | nil : Interspersed p [] []
  | keep (a : α) {l l' : List α} : Interspersed p l l' → Interspersed p (a :: l) (a :: l')
  | extra {a : α} {l l' : List α} : p a → Interspersed p l l' → Interspersed p l (a :: l')

theorem Interspersed.refl {α : Type} {p : α → Prop} (l : List α) : Interspersed p l l := by
  induction l with
  | nil => exact .nil
  | cons a rest ih => exact .keep a ih

/-- A row may be put in as a whole. -/
theorem Interspersed.of_forall {α : Type} {p : α → Prop} {l : List α} (h : ∀ a ∈ l, p a) :
    Interspersed p [] l := by
  induction l with
  | nil => exact .nil
  | cons a rest ih =>
    obtain ⟨ha, hrest⟩ := List.forall_mem_cons.1 h
    exact .extra ha (ih hrest)

/-- Inputs of one time, and then those of a later one, come in order, between the two times. -/
theorem pairwise_of_two_times {early late : List Nat} {now later : Nat} (h : now ≤ later)
    (hearly : ∀ t ∈ early, t = now) (hlate : ∀ t ∈ late, t = later) :
    (now :: (early ++ (late ++ [later]))).Pairwise (· ≤ ·) := by
  -- Both halves stand still, and the first one is not later than the second.
  have hfirst : ∀ t ∈ now :: early, t = now := List.forall_mem_cons.2 ⟨rfl, hearly⟩
  have hsecond : ∀ t ∈ late ++ [later], t = later :=
    List.forall_mem_append.2 ⟨hlate, List.forall_mem_singleton.2 rfl⟩
  rw [← List.cons_append]
  refine List.pairwise_append.2 ⟨?_, ?_, fun t ht t' ht' => ?_⟩
  · exact List.pairwise_of_forall_mem_list fun t ht t' ht' =>
      Nat.le_of_eq ((hfirst t ht).trans (hfirst t' ht').symm)
  · exact List.pairwise_of_forall_mem_list fun t ht t' ht' =>
      Nat.le_of_eq ((hsecond t ht).trans (hsecond t' ht').symm)
  · rw [hfirst t ht, hsecond t' ht']
    exact h

/-- Inputs of one time come in order, between that time and itself. -/
theorem pairwise_of_one_time {times : List Nat} {now : Nat} (h : ∀ t ∈ times, t = now) :
    (now :: (times ++ [now])).Pairwise (· ≤ ·) :=
  @pairwise_of_two_times times [] now now (Nat.le_refl now) h (List.forall_mem_nil _)

namespace Sessions

/-! ### Calls -/

/-- A call to the sessions. -/
inductive Call where
  | grant (app : String)
  | check (app : String)
  | touch (app : String)
  | revoke (app : String)
  | clear
  | sweep
  | retain (apps : String → Bool)
  | setTimeout (timeout : Duration)

/-- A call and the time at which it is made. -/
structure Input where
  now : Nat
  call : Call

/-- The sessions after a call. -/
def step (s : Sessions) (i : Input) : Sessions :=
  match i.call with
  | .grant app => s.grant app i.now
  | .check app => (s.check app i.now).1
  | .touch app => s.touch app i.now
  | .revoke app => (s.revoke app).1
  | .clear => s.clear.1
  | .sweep => (s.sweep i.now).1
  | .retain apps => (s.retain apps).1
  | .setTimeout timeout => s.setTimeout timeout

/-- The sessions after a row of calls. -/
def after (s : Sessions) (inputs : List Input) : Sessions := inputs.foldl step s

/-- The answer to a call that asks whether an app is unlocked. -/
def answer? (s : Sessions) (i : Input) : Option Bool :=
  match i.call with
  | .check app => some (s.check app i.now).2
  | _ => none

/-- The answers to all such calls of a row. -/
def answers (s : Sessions) : List Input → List Bool
  | [] => []
  | i :: rest => (s.answer? i).toList ++ answers (s.step i) rest

/-- Whether an app is unlocked by a call. -/
def Input.grants (i : Input) (app : String) : Bool :=
  match i.call with
  | .grant a => app = a
  | _ => false

/-- Whether an app is seen by a call. -/
def Input.sees (i : Input) (app : String) : Bool :=
  match i.call with
  | .grant a | .check a | .touch a => app = a
  | _ => false

/-- Whether a call is a sweep. -/
def Input.IsSweep (i : Input) : Prop := i.call = .sweep

variable {s s' : Sessions} {i : Input} {app : String} {now t : Nat} {session : Session}
  {entry : Option Session} {timeout : Nat} {inputs inputs' : List Input}

/-! ### The entry of one app -/

/-- What becomes of the entry of an app. -/
def entryAfter (timeout : Nat) (app : String) (i : Input) (entry : Option Session) :
    Option Session :=
  let live := entry.filter fun session => !session.isExpired timeout i.now
  match i.call with
  | .grant a => if app = a then some ⟨i.now, i.now⟩ else entry
  | .check a | .touch a =>
    if app = a then live.map fun session => { session with lastForegroundAt := i.now } else entry
  | .revoke a => if app = a then none else entry
  | .clear => none
  | .sweep => live
  | .retain apps => if apps app then entry else none
  | .setTimeout _ => entry

/-- Asking about an app renews its entry, or removes it if its session is over. -/
theorem get?_check (s : Sessions) (a app : String) (now : Nat) :
    (s.check a now).1.table.get? app =
      if app = a then
        ((s.table.get? app).filter fun session => !session.isExpired s.timeout now).map
          fun session => { session with lastForegroundAt := now }
      else s.table.get? app := by
  by_cases happ : app = a
  · subst happ
    rw [if_pos rfl]
    unfold check
    cases hentry : s.table.get? app with
    | none => exact hentry
    | some session =>
      cases hover : session.isExpired s.timeout now <;> simp [hover, Option.filter_some]
  · rw [if_neg happ]
    exact check_get?_of_ne happ

/-- The entry of an app after a call depends on the entry that it had, and on the timeout. -/
theorem get?_step (s : Sessions) (i : Input) (app : String) :
    (s.step i).table.get? app = entryAfter s.timeout app i (s.table.get? app) := by
  obtain ⟨now, call⟩ := i
  cases call with
  | grant a => exact AppTable.get?_insert ..
  | check a => exact s.get?_check a app now
  | touch a => exact s.get?_check a app now
  | revoke a => exact AppTable.get?_erase ..
  | clear => exact AppTable.get?_empty app
  | sweep => exact AppTable.get?_filter ..
  | retain apps =>
    show (s.table.filter _).get? app = if apps app then s.table.get? app else none
    rw [AppTable.get?_filter]
    cases s.table.get? app <;> cases apps app <;> simp
  | setTimeout timeout => rfl

/-- The timeout after a call. -/
theorem timeout_step (s : Sessions) (i : Input) :
    (s.step i).timeout =
      match i.call with
      | .setTimeout timeout => timeout.word
      | _ => s.timeout := by
  obtain ⟨now, call⟩ := i
  cases call with
  | check a => exact check_timeout
  | touch a => exact check_timeout
  | _ => rfl

/-- Only a grant makes an entry where there was none. -/
theorem entryAfter_none (hgrant : i.grants app = false) : entryAfter timeout app i none = none := by
  obtain ⟨now, call⟩ := i
  cases call with
  | grant a =>
    have hne : app ≠ a := by simpa [Input.grants] using hgrant
    exact if_neg hne
  | _ => simp [entryAfter]

/-- The entry of a session that is over is removed, or it stays what it is. -/
theorem entryAfter_of_over (hgrant : i.grants app = false)
    (hover : ∀ session, entry = some session → session.isExpired timeout i.now = true) :
    entryAfter timeout app i entry = none ∨ entryAfter timeout app i entry = entry := by
  have hlive : (entry.filter fun session => !session.isExpired timeout i.now) = none := by
    cases entry with
    | none => rfl
    | some session => simp [hover session rfl]
  unfold entryAfter
  rw [hlive]
  obtain ⟨now, call⟩ := i
  cases call with
  | grant a =>
    have hne : app ≠ a := by simpa [Input.grants] using hgrant
    exact .inr (if_neg hne)
  | check a | touch a | revoke a =>
    by_cases happ : app = a
    · exact .inl (if_pos happ)
    · exact .inr (if_neg happ)
  | retain apps =>
    by_cases hkeep : apps app = true
    · exact .inr (if_pos hkeep)
    · exact .inl (if_neg hkeep)
  | clear | sweep => exact .inl rfl
  | setTimeout timeout => exact .inr rfl

/-- An entry was there before, or its app has just been seen. -/
theorem seen_of_entryAfter (h : entryAfter timeout app i entry = some session) :
    i.sees app = true ∧ session.lastForegroundAt = i.now ∨ entry = some session := by
  obtain ⟨now, call⟩ := i
  -- Only the three calls that see an app may make its entry new; the others keep it or remove it.
  cases call with
  | grant a =>
    by_cases happ : app = a
    · obtain rfl : ⟨now, now⟩ = session := by simpa [entryAfter, happ] using h
      exact .inl ⟨decide_eq_true happ, rfl⟩
    · exact .inr (by simpa [entryAfter, happ] using h)
  | check a | touch a =>
    by_cases happ : app = a
    · simp only [entryAfter, happ, if_true, Option.map_eq_some_iff] at h
      obtain ⟨old, -, rfl⟩ := h
      exact .inl ⟨decide_eq_true happ, rfl⟩
    · exact .inr (by simpa [entryAfter, happ] using h)
  | revoke a =>
    by_cases happ : app = a
    · simp [entryAfter, happ] at h
    · exact .inr (by simpa [entryAfter, happ] using h)
  | clear => cases h
  | sweep => exact .inr (Option.filter_eq_some_iff.1 h).1
  | retain apps =>
    by_cases hkeep : apps app = true
    · exact .inr (by simpa [entryAfter, hkeep] using h)
    · simp [entryAfter, hkeep] at h
  | setTimeout timeout => exact .inr h

/-! ### Staying over -/

/-- As time goes by nothing opens by itself. -/
theorem not_isOpen_mono (h : ¬ s.IsOpen app now) (ht : now ≤ t) : ¬ s.IsOpen app t := by
  rintro ⟨session, hentry, hlive⟩
  exact h ⟨session, hentry, by omega⟩

/-- An entry that is not open is over. -/
theorem isExpired_of_not_isOpen (h : ¬ s.IsOpen app now)
    (hentry : s.table.get? app = some session) : session.isExpired s.timeout now = true := by
  rw [isOpen_iff hentry, Nat.not_lt] at h
  exact decide_eq_true h

/-- Whether a call brings back a session that is over: its entry is still there, and a new timeout
is longer than its app has been out of sight. -/
def Revives (s : Sessions) (i : Input) (app : String) : Prop :=
  match i.call with
  | .setTimeout timeout =>
    ∃ session, s.table.get? app = some session ∧
      s.timeout ≤ i.now - session.lastForegroundAt ∧
      i.now - session.lastForegroundAt < timeout.word
  | _ => False

/-- A timeout that gets no longer brings nothing back. -/
theorem not_revives_of_le (h : ∀ d, i.call = .setTimeout d → d.word ≤ s.timeout) :
    ¬ s.Revives i app := by
  intro hrevives
  unfold Revives at hrevives
  split at hrevives
  next d hcall =>
    obtain ⟨session, -, hover, hlonger⟩ := hrevives
    have hshorter := h d hcall
    omega
  · exact hrevives

/-- A session that is over is not open after a call that neither unlocks its app nor brings it
back. -/
theorem not_isOpen_step (h : ¬ s.IsOpen app i.now) (hgrant : i.grants app = false)
    (hrevives : ¬ s.Revives i app) : ¬ (s.step i).IsOpen app i.now := by
  rintro ⟨session, hentry, hlive⟩
  rw [get?_step] at hentry
  rcases entryAfter_of_over hgrant fun _ => isExpired_of_not_isOpen h with hgone | hstays
  · rw [hgone] at hentry
    cases hentry
  · rw [hstays] at hentry
    have hover : s.timeout ≤ i.now - session.lastForegroundAt := by
      rw [isOpen_iff hentry] at h
      omega
    -- The entry is the one that was there, so only a longer timeout can open it.
    rw [timeout_step] at hlive
    unfold Revives at hrevives
    split at hlive
    next timeout hcall =>
      rw [hcall] at hrevives
      exact hrevives ⟨session, hentry, hover, hlive⟩
    · omega

/-- Whether no call of a row brings back the session of an app. -/
def Unrevived (s : Sessions) (app : String) : List Input → Prop
  | [] => True
  | i :: rest => ¬ s.Revives i app ∧ Unrevived (s.step i) app rest

/-- A row without new timeouts brings nothing back. -/
theorem unrevived_of_no_timeout (h : ∀ i ∈ inputs, ∀ d, i.call ≠ .setTimeout d) :
    s.Unrevived app inputs := by
  induction inputs generalizing s with
  | nil => trivial
  | cons i rest ih =>
    have hi : ¬ s.Revives i app :=
      not_revives_of_le fun d hcall => absurd hcall (h i List.mem_cons_self d)
    exact ⟨hi, ih fun j hj => h j (List.mem_cons_of_mem i hj)⟩

/-- What is over at first is over at the end of a row that neither unlocks the app nor brings its
session back. -/
theorem not_isOpen_after (h : ¬ s.IsOpen app now)
    (hclock : (now :: (inputs.map Input.now ++ [t])).Pairwise (· ≤ ·))
    (hgrant : ∀ i ∈ inputs, i.grants app = false) (hrevived : s.Unrevived app inputs) :
    ¬ (s.after inputs).IsOpen app t := by
  -- On the calls, from the first one on: what is over at one time is over at the next.
  induction inputs generalizing s now with
  | nil =>
    have ht : now ≤ t := by simpa using hclock
    exact not_isOpen_mono h ht
  | cons i rest ih =>
    obtain ⟨hnow, hrest⟩ := List.pairwise_cons.1 hclock
    have hi : now ≤ i.now := hnow i.now (by simp)
    have hstep : ¬ (s.step i).IsOpen app i.now :=
      not_isOpen_step (not_isOpen_mono h hi) (hgrant i List.mem_cons_self) hrevived.1
    exact ih hstep hrest (fun j hj => hgrant j (List.mem_cons_of_mem i hj)) hrevived.2

theorem after_append (s : Sessions) (inputs inputs' : List Input) :
    s.after (inputs ++ inputs') = (s.after inputs).after inputs' := List.foldl_append ..

/-- Only a grant makes an entry where there was none. -/
theorem contains_after (hgrant : ∀ i ∈ inputs, i.grants app = false)
    (h : (s.after inputs).table.contains app = true) : s.table.contains app = true := by
  induction inputs generalizing s with
  | nil => exact h
  | cons i rest ih =>
    rw [List.forall_mem_cons] at hgrant
    have hstep : (s.step i).table.contains app = true := ih hgrant.2 h
    unfold AppTable.contains at hstep ⊢
    rw [get?_step] at hstep
    cases hentry : s.table.get? app with
    | some session => rfl
    | none =>
      rw [hentry, entryAfter_none hgrant.1] at hstep
      cases hstep

/-- An entry says when its app was seen last. -/
theorem seen_after (hnone : s.table = .empty)
    (h : (s.after inputs).table.get? app = some session) :
    ∃ i ∈ inputs, i.sees app = true ∧ session.lastForegroundAt = i.now := by
  -- On the calls, the last one apart, which makes the entry anew or leaves it.
  induction inputs using List.reverseRecOn with
  | nil =>
    change s.table.get? app = some session at h
    rw [hnone, AppTable.get?_empty] at h
    cases h
  | append_singleton inputs i ih =>
    rw [after_append] at h
    change ((s.after inputs).step i).table.get? app = some session at h
    rw [get?_step] at h
    rcases seen_of_entryAfter h with ⟨hsees, hnow⟩ | hbefore
    · exact ⟨i, by simp, hsees, hnow⟩
    · obtain ⟨j, hj, hsees, hnow⟩ := ih hbefore
      exact ⟨j, List.mem_append_left _ hj, hsees, hnow⟩

/-- Whether the session of an app is over at the time `t₁` in a run, because its app has not been
seen for the timeout of that moment, and until the time `t` nothing but the clock has a say: its app
is not unlocked, and no new timeout brings it back. -/
structure Lapsed (s : Sessions) (before later : List Input) (app : String) (t₁ t : Nat) : Prop where
  clock : (before.map Input.now ++ t₁ :: (later.map Input.now ++ [t])).Pairwise (· ≤ ·)
  idle : ∀ i ∈ before, i.sees app = true → (s.after before).timeout ≤ t₁ - i.now
  ungranted : ∀ i ∈ later, i.grants app = false
  unrevived : (s.after before).Unrevived app later

/-- Whoever asks about a session that has lapsed is told that it is over. -/
theorem Lapsed.check {before later : List Input} {t₁ : Nat} (h : s.Lapsed before later app t₁ t)
    (hnone : s.table = .empty) : ((s.after (before ++ later)).check app t).2 = false := by
  have hover : ¬ (s.after before).IsOpen app t₁ := by
    rintro ⟨session, hentry, hlive⟩
    obtain ⟨i, hi, hsees, hnow⟩ := seen_after hnone hentry
    have hidle := h.idle i hi hsees
    omega
  have hclock := (List.pairwise_append.1 h.clock).2.1
  rw [← Bool.not_eq_true, check_answer, after_append]
  exact not_isOpen_after hover hclock h.ungranted h.unrevived

/-! ### Sweeps -/

/-- Whether the second of two stores shows what the first one does, except that sessions that are
over may be gone. -/
structure Swept (now : Nat) (s s' : Sessions) : Prop where
  timeout : s'.timeout = s.timeout
  entry (app : String) : s'.table.get? app = s.table.get? app ∨
    s'.table.get? app = none ∧ ¬ s.IsOpen app now

theorem Swept.refl (now : Nat) (s : Sessions) : Swept now s s := ⟨rfl, fun _ => .inl rfl⟩

/-- Both show the same sessions as open. -/
theorem Swept.isOpen (h : Swept now s s') (ht : now ≤ t) : s'.IsOpen app t ↔ s.IsOpen app t := by
  rcases h.entry app with hsame | ⟨hgone, hover⟩
  · exact isOpen_congr hsame h.timeout
  · exact iff_of_false (not_isOpen hgone) (not_isOpen_mono hover ht)

/-- So the same is answered. -/
theorem Swept.check (h : Swept now s s') (ht : now ≤ t) :
    (s'.check app t).2 = (s.check app t).2 := by
  rw [Bool.eq_iff_iff, check_answer, check_answer]
  exact h.isOpen ht

/-- A call to both leaves the same behind, unless it brings back a session whose entry is gone in
one of them. -/
theorem Swept.step (h : Swept now s s') (ht : now ≤ i.now)
    (hrevives : ∀ app, ¬ s.Revives i app) : Swept i.now (s.step i) (s'.step i) := by
  refine ⟨by rw [timeout_step, timeout_step, h.timeout], fun app => ?_⟩
  rw [get?_step, get?_step, h.timeout]
  rcases h.entry app with hsame | ⟨hgone, hover⟩
  · exact .inl (by rw [hsame])
  · have hover' : ¬ s.IsOpen app i.now := not_isOpen_mono hover ht
    rw [hgone]
    cases hgrant : i.grants app with
    | true =>
      -- A grant makes the same entry, whatever was there.
      left
      obtain ⟨now', call⟩ := i
      cases call with
      | grant a => simp [entryAfter, of_decide_eq_true hgrant]
      | _ => cases hgrant
    | false =>
      rw [entryAfter_none hgrant]
      have hclosed := not_isOpen_step hover' hgrant (hrevives app)
      rcases entryAfter_of_over hgrant fun _ => isExpired_of_not_isOpen hover' with hnone | hstays
      · exact .inl hnone.symm
      · exact .inr ⟨rfl, hclosed⟩

/-- And as time goes by more of them are over. -/
theorem Swept.later (h : Swept now s s') (ht : now ≤ t) : Swept t s s' := by
  refine ⟨h.timeout, fun app => (h.entry app).imp_right ?_⟩
  rintro ⟨hgone, hover⟩
  exact ⟨hgone, not_isOpen_mono hover ht⟩

/-- The same row of calls to both. -/
theorem Swept.after (h : Swept now s s')
    (hclock : (now :: (inputs.map Input.now ++ [t])).Pairwise (· ≤ ·))
    (hrevived : ∀ app, s.Unrevived app inputs) : Swept t (s.after inputs) (s'.after inputs) := by
  -- On the calls, from the first one on; each is made to both.
  induction inputs generalizing s s' now with
  | nil =>
    have ht : now ≤ t := by simpa using hclock
    exact h.later ht
  | cons i rest ih =>
    obtain ⟨hnow, hrest⟩ := List.pairwise_cons.1 hclock
    have hi : now ≤ i.now := hnow i.now (by simp)
    have hstep := h.step hi fun app => (hrevived app).1
    exact ih hstep hrest fun app => (hrevived app).2

/-- One more sweep makes no difference. -/
theorem Swept.sweep (h : Swept now s s') (ht : now ≤ t) : Swept t s (s'.sweep t).1 := by
  refine ⟨h.timeout, fun app => ?_⟩
  have hswept : (s'.sweep t).1.table.get? app =
      (s'.table.get? app).filter fun session => !session.isExpired s'.timeout t :=
    AppTable.get?_filter ..
  rw [hswept]
  rcases h.entry app with hsame | ⟨hgone, hover⟩
  · rw [hsame, h.timeout]
    cases hentry : s.table.get? app with
    | none => exact .inl rfl
    | some session =>
      cases hover : session.isExpired s.timeout t with
      | true =>
        right
        refine ⟨by simp [hover], ?_⟩
        rw [isOpen_iff hentry, Nat.not_lt]
        exact of_decide_eq_true hover
      | false => exact .inl (by simp [hover])
  · rw [hgone]
    exact .inr ⟨rfl, not_isOpen_mono hover ht⟩

/-- More sweeps in a run change none of its answers, as long as no session is brought back. -/
theorem answers_swept (h : Swept now s s') (hmore : Interspersed Input.IsSweep inputs inputs')
    (hclock : (now :: inputs'.map Input.now).Pairwise (· ≤ ·))
    (hrevived : ∀ app, s.Unrevived app inputs) : s'.answers inputs' = s.answers inputs := by
  -- On how the sweeps are put in: a call of both rows is made to both stores, a sweep to the second
  -- only.
  induction hmore generalizing s s' now with
  | nil => rfl
  | keep i hmore ih =>
    obtain ⟨hnow, hrest⟩ := List.pairwise_cons.1 hclock
    have hi : now ≤ i.now := hnow i.now (by simp)
    have hanswer : s'.answer? i = s.answer? i := by
      unfold answer?
      split
      · rw [h.check hi]
      · rfl
    have hstep := h.step hi fun app => (hrevived app).1
    rw [answers, answers, hanswer, ih hstep hrest fun app => (hrevived app).2]
  | @extra i _ _ hsweep hmore ih =>
    obtain ⟨hnow, hrest⟩ := List.pairwise_cons.1 hclock
    have hi : now ≤ i.now := hnow i.now (by simp)
    have hcall : i.call = .sweep := hsweep
    have hstep : s'.step i = (s'.sweep i.now).1 := by rw [Sessions.step, hcall]
    have hanswer : s'.answer? i = none := by rw [answer?, hcall]
    rw [answers, hanswer, hstep]
    exact ih (h.sweep hi) hrest hrevived

end Sessions

end Warden
