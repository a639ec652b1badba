import Warden.Sessions

namespace Warden.Sessions

/-!
# Open sessions

What counts about the sessions of all apps is which of them are open at a time, not which entries
the table still holds.

* `IsOpen s app t` — `app` has a session that is not over at the time `t`.
* `isOpen_grant`, `isOpen_check`, `isOpen_revoke`, `isOpen_clear`, `isOpen_sweep`,
  `isOpen_retain` — what each operation makes of that.  A sweep makes nothing of it.
-/

variable {s : Sessions} {app other : String} {now t : Nat} {session : Session}

/-- Whether an app has a session that is not over at a time. -/
def IsOpen (s : Sessions) (app : String) (t : Nat) : Prop :=
  ∃ session, s.table.get? app = some session ∧ t - session.lastForegroundAt < s.timeout

/-- For an app that has an entry, its age decides. -/
theorem isOpen_iff (h : s.table.get? app = some session) :
    s.IsOpen app t ↔ t - session.lastForegroundAt < s.timeout := by
  unfold IsOpen
  rw [h]
  constructor
  · rintro ⟨_, hsome, ht⟩
    cases hsome
    exact ht
  · intro ht
    exact ⟨session, rfl, ht⟩

/-- An app without an entry has no open session. -/
theorem not_isOpen (h : s.table.get? app = none) : ¬ s.IsOpen app t := by
  rintro ⟨session, hsession, -⟩
  rw [h] at hsession
  cases hsession

/-- Two stores that show the same entry of an app under the same timeout. -/
theorem isOpen_congr {s' : Sessions} (htable : s'.table.get? app = s.table.get? app)
    (htimeout : s'.timeout = s.timeout) : s'.IsOpen app t ↔ s.IsOpen app t := by
  unfold IsOpen
  rw [htable, htimeout]

/-! ### Asking -/

/-- Asking about an app without an entry changes nothing. -/
theorem check_of_get?_eq_none (h : s.table.get? app = none) : s.check app now = (s, false) := by
  unfold check
  rw [h]

/-- Asking about an open session makes it young again. -/
theorem check_of_isOpen (h : s.table.get? app = some session) (ho : s.IsOpen app now) :
    s.check app now =
      ({ s with table := s.table.insert app { session with lastForegroundAt := now } }, true) := by
  have hlive : ¬ s.timeout ≤ now - session.lastForegroundAt := Nat.not_le.2 ((isOpen_iff h).1 ho)
  unfold check Session.isExpired
  rw [h]
  simp only [decide_eq_true_eq, hlive, if_false]

/-- Asking about a session that is over removes its entry. -/
theorem check_of_not_isOpen (h : s.table.get? app = some session) (ho : ¬ s.IsOpen app now) :
    s.check app now = ({ s with table := s.table.erase app }, false) := by
  have hover : s.timeout ≤ now - session.lastForegroundAt := Nat.not_lt.1 (mt (isOpen_iff h).2 ho)
  unfold check Session.isExpired
  rw [h]
  simp only [decide_eq_true_eq, hover, if_true]

/-- The answer about an app is whether its session is open. -/
theorem check_answer : (s.check app now).2 = true ↔ s.IsOpen app now := by
  -- The three cases of asking: no entry, an open session, and one that is over.
  cases h : s.table.get? app with
  | none => simp [check_of_get?_eq_none h, not_isOpen h]
  | some session =>
    by_cases ho : s.IsOpen app now
    · simp [check_of_isOpen h ho, ho]
    · simp [check_of_not_isOpen h ho, ho]

/-- Asking leaves the timeout as it is. -/
@[simp] theorem check_timeout : (s.check app now).1.timeout = s.timeout := by
  unfold check
  split
  · rfl
  · split <;> rfl

/-- Asking about an app leaves the entries of all others alone. -/
theorem check_get?_of_ne (h : other ≠ app) :
    (s.check app now).1.table.get? other = s.table.get? other := by
  unfold check
  split
  · rfl
  · split
    · rw [AppTable.get?_erase, if_neg h]
    · rw [AppTable.get?_insert, if_neg h]

/-- Being asked about keeps an open session open, and opens none. -/
theorem isOpen_check_self :
    (s.check app now).1.IsOpen app t ↔ s.IsOpen app now ∧ t - now < s.timeout := by
  cases h : s.table.get? app with
  | none => simp [check_of_get?_eq_none h, not_isOpen h]
  | some session =>
    by_cases ho : s.IsOpen app now
    · rw [check_of_isOpen h ho, isOpen_iff ((AppTable.get?_insert ..).trans (if_pos rfl))]
      exact (and_iff_right ho).symm
    · rw [check_of_not_isOpen h ho]
      refine iff_of_false (not_isOpen ?_) fun hlive => ho hlive.1
      rw [AppTable.get?_erase, if_pos rfl]

/-- Asking about one app is nothing to the others. -/
theorem isOpen_check_of_ne (h : other ≠ app) :
    (s.check app now).1.IsOpen other t ↔ s.IsOpen other t :=
  isOpen_congr (check_get?_of_ne h) check_timeout

/-! ### Unlocking -/

/-- A session that is granted is open for the timeout from then on. -/
theorem isOpen_grant_self : (s.grant app now).IsOpen app t ↔ t - now < s.timeout := by
  have hget : (s.grant app now).table.get? app = some ⟨now, now⟩ :=
    (AppTable.get?_insert ..).trans (if_pos rfl)
  exact isOpen_iff hget

/-- A session that is granted to one app is nothing to the others. -/
theorem isOpen_grant_of_ne (h : other ≠ app) :
    (s.grant app now).IsOpen other t ↔ s.IsOpen other t :=
  isOpen_congr ((AppTable.get?_insert ..).trans (if_neg h)) rfl

/-! ### Ending -/

/-- Only the session that is revoked ends. -/
theorem isOpen_revoke : (s.revoke app).1.IsOpen other t ↔ other ≠ app ∧ s.IsOpen other t := by
  by_cases h : other = app
  · refine iff_of_false (not_isOpen ?_) fun hlive => hlive.1 h
    exact (AppTable.get?_erase ..).trans (if_pos h)
  · rw [and_iff_right h]
    exact isOpen_congr ((AppTable.get?_erase ..).trans (if_neg h)) rfl

/-- All sessions may end at once. -/
theorem not_isOpen_clear : ¬ s.clear.1.IsOpen app t := not_isOpen (AppTable.get?_empty app)

/-- The sessions of the apps that are kept are as they were. -/
theorem isOpen_retain {apps : String → Bool} :
    (s.retain apps).1.IsOpen app t ↔ apps app = true ∧ s.IsOpen app t := by
  unfold retain keep IsOpen
  simp only [AppTable.get?_filter]
  cases s.table.get? app <;> cases apps app <;> simp

/-- A sweep removes only what stays closed as long as the clock does not go back. -/
theorem isOpen_sweep (h : now ≤ t) : (s.sweep now).1.IsOpen app t ↔ s.IsOpen app t := by
  have hget : (s.sweep now).1.table.get? app =
      (s.table.get? app).filter fun session => !session.isExpired s.timeout now :=
    AppTable.get?_filter ..
  cases hs : s.table.get? app with
  | none =>
    rw [hs] at hget
    exact iff_of_false (not_isOpen hget) (not_isOpen hs)
  | some session =>
    rw [hs, Option.filter_some] at hget
    -- What is swept is over now and stays over, as time only adds to its age.
    by_cases hover : s.timeout ≤ now - session.lastForegroundAt
    · rw [if_neg (by simp [Session.isExpired, hover])] at hget
      refine iff_of_false (not_isOpen hget) ?_
      rw [isOpen_iff hs]
      omega
    · rw [if_pos (by simp [Session.isExpired, hover])] at hget
      exact isOpen_congr (hget.trans hs.symm) rfl

/-! ### No sessions at all -/

theorem check_of_empty (h : s.table = .empty) : s.check app now = (s, false) :=
  check_of_get?_eq_none (by rw [h]; rfl)

/-- Where there are no sessions, there is none to keep. -/
theorem keep_of_empty {p : String → Session → Bool} (h : s.table = .empty) :
    (s.keep p).1.table = .empty := by
  unfold keep
  rw [h]
  rfl

/-- The timeout in force may be set again. -/
theorem setTimeout_eq_self {timeout : Duration} (h : timeout.word = s.timeout) :
    s.setTimeout timeout = s := by
  unfold setTimeout
  rw [h]

end Warden.Sessions
