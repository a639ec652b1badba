import Mathlib.Algebra.Order.BigOperators.Group.List
import Mathlib.Algebra.Order.Ring.Nat
import Warden.Proofs.Keyword.Life

namespace Warden

/-!
# How countdowns run dry

A guard that nobody asks for anything moves on by itself: each second of a countdown brings the next
one, and the end of a grace period may bring a whole countdown.  All of this comes to an end, and
how many events that takes is settled beforehand, in whatever order they arrive.

* `Keyword.Move.isPassive`, `Keyword.rechecks` — the moves that nobody asks for, and what apps show
  at the end of their grace periods.
* `Keyword.Guard.deliveries` — the events until nothing is left.
* `Keyword.Traffic.InTime` — order in which nothing that is under way comes too late.
* `Turn.deliveries`, `Turn.departures` — what one move takes away from what is to come.
* `drain_run` — every row of passive moves ends after that many events, with nothing left behind.
-/

/-! ### Tables -/

namespace AppTable

variable {α : Type} {t t' : AppTable α} {app : String} {v : α}

/-- Two tables with one view have the same entries. -/
theorem perm_of_get? (h : ∀ app, t.get? app = t'.get? app) : t.entries.Perm t'.entries := by
  have hnodup (t : AppTable α) : t.entries.Nodup := List.Nodup.of_map _ t.distinct
  refine (List.perm_ext_iff_of_nodup (hnodup t) (hnodup t')).2 fun ⟨app, v⟩ => ?_
  rw [mem_entries, mem_entries, h]

/-- The entry of an app is one beside those of all others. -/
theorem perm_erase (h : t.get? app = some v) :
    t.entries.Perm ((app, v) :: (t.erase app).entries) := by
  have hview : ∀ other, t.get? other = (t.insert app v).get? other := by
    intro other
    rw [get?_insert]
    split
    next heq => rw [heq, h]
    · rfl
  exact perm_of_get? hview

end AppTable

namespace Keyword

/-! ### Moves that nobody asks for -/

/-- Whether a move happens by itself: time goes by, a timer rings, or an event is delivered. -/
def Move.isPassive : Move → Bool
  | .wait _ | .ring _ | .deliver _ _ => true
  | _ => false

/-- Whether a move delivers an event. -/
def Move.isDelivery : Move → Bool
  | .deliver _ _ => true
  | _ => false

/-- The app whose grace period is said to be over, and whether it still shows restricted content. -/
def Move.recheck? : Move → Option (String × Bool)
  | .deliver t violating =>
    match t.event with
    | .grace app _ => some (app, violating app)
    | .tick _ _ => none
  | _ => none

/-- What apps show when their grace periods are over, in a row of moves. -/
def rechecks (moves : List Move) : List (String × Bool) := moves.filterMap Move.recheck?

/-- Whether an app still shows restricted content when its grace period is over. -/
def persists (moves : List Move) (app : String) : Bool := (rechecks moves).contains (app, true)

section Moves

variable {m : Move} {moves : List Move} {app : String} {b : Bool}

theorem rechecks_cons : rechecks (m :: moves) = m.recheck?.toList ++ rechecks moves := by
  unfold rechecks
  rw [List.filterMap_cons]
  cases m.recheck? <;> rfl

/-- An app is asked about by the first move, or by a later one. -/
theorem mem_rechecks_cons :
    (app, b) ∈ rechecks (m :: moves) ↔ m.recheck? = some (app, b) ∨ (app, b) ∈ rechecks moves := by
  rw [rechecks_cons, List.mem_append, Option.mem_toList]

end Moves

/-! ### What is to come -/

/-- The events until a challenge is over, from a phase on; `persistent` tells whether its app still
shows restricted content when its grace period is over. -/
def Phase.deliveries (countdown : Nat) (persistent : Bool) : Phase → Nat
  | .counting n => n
  | .grace => 1 + if persistent then countdown else 0

namespace Guard

variable {g : Guard} {app : String} {c : Challenge} {weigh : String → Phase → Nat}
  {yes : String → Bool}

/-- The sum of what each challenge counts for. -/
def total (g : Guard) (weigh : String → Phase → Nat) : Nat :=
  (g.challenges.entries.map fun e => weigh e.1 e.2.phase).sum

/-- The events until all challenges are over: the seconds that are left of each countdown, and one
for each grace period, with a whole countdown after it for the apps that still show restricted
content then. -/
def deliveries (g : Guard) (persistent : String → Bool) : Nat :=
  g.total fun app phase => phase.deliveries g.countdown (persistent app)

/-- A new challenge counts for itself, instead of the one that it takes the place of. -/
theorem total_having :
    (g.having app c).total weigh = weigh app c.phase + (g.without app).total weigh := by
  show (((app, c) :: (g.challenges.erase app).entries).map _).sum = _
  rw [List.map_cons, List.sum_cons]
  rfl

/-- A challenge that takes the place of one counts instead of it. -/
theorem total_having_without :
    ((g.without app).having app c).total weigh =
      weigh app c.phase + (g.without app).total weigh := by
  rw [having_without, total_having]

/-- The same with a new generation. -/
theorem total_having_renewed :
    ((g.without app).renewed.having app c).total weigh =
      weigh app c.phase + (g.without app).total weigh := by
  rw [having_renewed_without, total_having]
  rfl

/-- The sum is what one challenge counts for, and what all others do. -/
theorem total_without (h : g.challenge? app = some c) :
    g.total weigh = weigh app c.phase + (g.without app).total weigh := by
  unfold total
  rw [((AppTable.perm_erase h).map _).sum_nat, List.map_cons, List.sum_cons]
  rfl

/-- The events to come are those of one challenge, and those of all others. -/
theorem deliveries_without (h : g.challenge? app = some c) :
    g.deliveries yes = c.phase.deliveries g.countdown (yes app) + (g.without app).deliveries yes :=
  total_without h

/-- With another challenge for an app, its events are those to come. -/
theorem deliveries_having_without :
    ((g.without app).having app c).deliveries yes =
      c.phase.deliveries g.countdown (yes app) + (g.without app).deliveries yes :=
  total_having_without

/-- The same with a new generation. -/
theorem deliveries_having_renewed :
    ((g.without app).renewed.having app c).deliveries yes =
      c.phase.deliveries g.countdown (yes app) + (g.without app).deliveries yes :=
  total_having_renewed

/-- One challenge has no more events to come than all have. -/
theorem phase_le_deliveries (h : g.challenge? app = some c) :
    c.phase.deliveries g.countdown (yes app) ≤ g.deliveries yes := by
  rw [deliveries_without h]
  exact Nat.le_add_right ..

/-- Each question is answered yes at the most. -/
theorem deliveries_le (g : Guard) (yes : String → Bool) :
    g.deliveries yes ≤ g.deliveries fun _ => true := by
  refine List.sum_le_sum fun ⟨app, c⟩ _ => ?_
  -- A countdown asks nothing; a grace period with the answer yes has a countdown behind it.
  cases hp : c.phase with
  | counting n => exact Nat.le_refl n
  | grace =>
    refine Nat.add_le_add_left ?_ 1
    split
    · exact Nat.le_refl _
    · exact Nat.zero_le _

/-- The countdowns that are running, one by one. -/
theorem length_running (g : Guard) :
    g.running.length = g.total fun _ phase => if phase = .grace then 0 else 1 := by
  unfold running total
  -- On the challenges, of which those in their grace period are not running.
  induction g.challenges.entries with
  | nil => rfl
  | cons e rest ih =>
    obtain ⟨app, c⟩ := e
    rw [List.filterMap_cons, List.map_cons, List.sum_cons, ← ih]
    cases hp : c.phase <;> simp [hp, Phase.remaining?, Nat.add_comm]

/-- Nothing counts if nobody has a challenge. -/
theorem total_eq_zero (h : ∀ app, g.challenge? app = none) : g.total weigh = 0 := by
  have hnil : g.challenges.entries = [] := by
    refine List.eq_nil_iff_forall_not_mem.2 fun ⟨app, c⟩ hc => ?_
    cases (h app).symm.trans (AppTable.mem_entries.1 hc)
  rw [total, hnil]
  rfl

end Guard

namespace Traffic

variable {s : Traffic} {m : Move} {moves rest : List Move} {o : Outcome Traffic Report}
  {app : String} {c d : Challenge} {t : PendingTimer} {b : Bool} {yes : String → Bool}

/-! ### In time -/

/-- Whether nothing is under way that comes too late: each event belongs to a challenge, and each
challenge has something left to wait for. -/
structure InTime (s : Traffic) : Prop where
  orderly : s.Orderly
  sound : s.Sound
  owned : ∀ t ∈ s.flights, s.Owned t

/-- Passive moves bring nothing too late. -/
theorem InTime.step (h : s.InTime) (hm : s.Allows m) (hpassive : m.isPassive = true) :
    (s.step m).state.InTime := by
  have hturn := turn_step h.orderly hm
  have horder := hturn.orderly h.orderly
  refine ⟨horder, hturn.sound h.sound, fun u hu => ?_⟩
  -- What is pending is owned in any order; only the channel is in question.
  rcases mem_flights.1 hu with hu | hu
  · exact horder.owned u hu
  cases m with
  | violate | defer | setTiming | cancelAll => cases hpassive
  | wait span => exact h.owned u (mem_flights.2 (.inr hu))
  | ring t =>
    rcases List.mem_cons.1 hu with rfl | hu
    · exact h.owned u (mem_flights.2 (.inl hm))
    · exact h.owned u (mem_flights.2 (.inr hu))
  | deliver t violating =>
    have hnodup : s.channel.Nodup :=
      (List.nodup_append.1 (List.Nodup.of_map _ h.orderly.distinct)).2.1
    obtain ⟨hne, hu⟩ := hnodup.mem_erase_iff.1 (show u ∈ s.channel.erase t from hu)
    have hu' := mem_flights.2 (.inr hu)
    have ht' := mem_flights.2 (.inr (show t ∈ s.channel from hm))
    obtain ⟨app, c, hc, hid⟩ := h.owned u hu'
    obtain ⟨a, d, hd, htid⟩ := h.owned t ht'
    -- Another event is that of another app, whose challenge stays.
    have hother : t.event.app ≠ app := by
      rintro rfl
      rw [h.orderly.event_app hd hm htid, hd] at hc
      cases hc
      exact hne (h.orderly.eq_of_id hu' ht' (hid.trans htid.symm))
    have hkeep := hturn.keep h.orderly
      (report?_eq_none.2 (.inl (beq_false_of_ne hother)))
    exact ⟨app, c, hkeep.trans hc, hid⟩

/-- Whatever happens by itself, nothing comes too late. -/
theorem InTime.run (h : s.InTime) (hp : s.Possible moves)
    (hpassive : ∀ m ∈ moves, m.isPassive = true) : (s.run moves).InTime := by
  induction moves generalizing s with
  | nil => exact h
  | cons m moves ih =>
    obtain ⟨hm, hmoves⟩ := List.forall_mem_cons.1 hpassive
    exact ih (h.step hp.1 hm) hp.2 hmoves

/-- Something is under way exactly as long as there are challenges. -/
theorem InTime.flights_eq_nil_iff (h : s.InTime) :
    s.flights = [] ↔ ∀ app, s.challenge? app = none := by
  -- A challenge has something under way, and what is under way has a challenge.
  constructor
  · intro hnil app
    refine Option.eq_none_iff_forall_ne_some.2 fun c hc => ?_
    obtain ⟨t, ht, -⟩ := h.orderly.awaited app c hc
    rw [hnil] at ht
    cases ht
  · intro hnone
    refine List.eq_nil_iff_forall_not_mem.2 fun t ht => ?_
    obtain ⟨app, c, hc, -⟩ := h.owned t ht
    cases (hnone app).symm.trans hc

/-- Nothing is to come exactly if nothing is under way. -/
theorem InTime.deliveries_eq_zero_iff (h : s.InTime) (yes : String → Bool) :
    s.guard.deliveries yes = 0 ↔ s.flights = [] := by
  rw [h.flights_eq_nil_iff]
  refine ⟨fun hzero app => Option.eq_none_iff_forall_ne_some.2 fun c hc => ?_, Guard.total_eq_zero⟩
  -- No challenge is without an event to come: a countdown has seconds left, a grace period its end.
  have hpos : 0 < c.phase.deliveries s.guard.countdown (yes app) := by
    cases hp : c.phase with
    | counting n => exact (h.sound app c hc).remaining_pos hp
    | grace => exact Nat.lt_of_lt_of_le Nat.zero_lt_one (Nat.le_add_right 1 _)
  have hle : c.phase.deliveries s.guard.countdown (yes app) ≤ s.guard.deliveries yes :=
    Guard.phase_le_deliveries hc
  omega

/-! ### What one move takes away -/

/-- A second of a countdown is no end of a grace period. -/
theorem Orderly.recheck_counting {violating : String → Bool} {n : Nat} (h : s.Orderly)
    (hc : s.challenge? app = some c) (ht : t ∈ s.channel) (hid : t.id = c.timer)
    (hp : c.phase = .counting n) : Move.recheck? (.deliver t violating) = none := by
  simp only [Move.recheck?, h.event_of_id hc (mem_flights.2 (.inr ht)) hid, Challenge.awaited, hp]

/-- The end of a grace period asks what its app shows. -/
theorem Orderly.recheck_grace {violating : String → Bool} (h : s.Orderly)
    (hc : s.challenge? app = some c) (ht : t ∈ s.channel) (hid : t.id = c.timer)
    (hp : c.phase = .grace) :
    Move.recheck? (.deliver t violating) = some (app, violating app) := by
  simp only [Move.recheck?, h.event_of_id hc (mem_flights.2 (.inr ht)) hid, Challenge.awaited, hp]

/-- A delivery is one event less to come, and nothing else makes a difference. -/
theorem Turn.deliveries (h : s.InTime) (hturn : Turn s m o) (hpassive : m.isPassive = true)
    (hyes : ∀ app b, m.recheck? = some (app, b) → yes app = b) :
    (if m.isDelivery then 1 else 0) + o.state.guard.deliveries yes = s.guard.deliveries yes := by
  cases hturn with
  | started | absorbed | deferred | refused | timed | cancelled => cases hpassive
  | waited | rung => exact Nat.zero_add _
  | stale ht hnone => exact absurd (h.owned _ (mem_flights.2 (.inr ht))) hnone
  | @ticked t violating app c n ht hc hid hp hn =>
    rw [Guard.deliveries_without hc, hp]
    show 1 + ((s.guard.without app).having app _).deliveries yes = n + 1 + _
    rw [Guard.deliveries_having_without]
    show 1 + (n + _) = _
    omega
  | @expired t violating app c n ht hc hid hp hn =>
    -- No countdown stands at zero, so the last second is exactly one event.
    have hlast : n = 1 := by
      have hpos : 0 < n := (h.sound app c hc).remaining_pos hp
      omega
    rw [Guard.deliveries_without hc, hp, hlast]
    rfl
  | @resumed t violating app c ht hc hid hp hv =>
    -- The second countdown is counted already while the grace period lasts.
    have happ : yes app = true := hyes app true (by rw [h.orderly.recheck_grace hc ht hid hp, hv])
    rw [Guard.deliveries_without hc, hp, happ]
    show 1 + ((s.guard.without app).renewed.having app _).deliveries yes = _
    rw [Guard.deliveries_having_renewed]
    exact (Nat.add_assoc ..).symm
  | @resolved t violating app c ht hc hid hp hv =>
    have happ : yes app = false := hyes app false (by rw [h.orderly.recheck_grace hc ht hid hp, hv])
    rw [Guard.deliveries_without hc, hp, happ]
    rfl

/-- Bringing a countdown to the front sends nobody home. -/
theorem reshow_home (g : Guard) : g.reshow.filterMap Effect.home? = [] := by
  unfold Guard.reshow
  split <;> rfl

/-- A user is sent home when a countdown is over, and a countdown starts when an app still shows
restricted content. -/
theorem Turn.departures (h : s.InTime) (hturn : Turn s m o) (hpassive : m.isPassive = true) :
    (o.effects.filterMap Effect.home?).length + o.state.guard.running.length =
      s.guard.running.length + m.recheck?.toList.countP Prod.snd := by
  simp only [Guard.length_running]
  cases hturn with
  | started | absorbed | deferred | refused | timed | cancelled => cases hpassive
  | waited | rung => exact Nat.zero_add _
  | stale ht hnone => exact absurd (h.owned _ (mem_flights.2 (.inr ht))) hnone
  | @ticked t violating app c n ht hc hid hp hn =>
    rw [h.orderly.recheck_counting hc ht hid hp, Guard.total_without hc, hp]
    show 0 + ((s.guard.without app).having app _).total _ = _
    rw [Guard.total_having_without]
    exact Nat.zero_add _
  -- A countdown less and a way home more.
  | @expired t violating app c n ht hc hid hp hn =>
    rw [h.orderly.recheck_counting hc ht hid hp, Guard.total_without hc, hp]
    show (HomeReason.countdownExpired app :: (s.guard.without app).reshow.filterMap _).length + _ = _
    rw [reshow_home]
    rfl
  -- A countdown more, for an app that still shows restricted content.
  | @resumed t violating app c ht hc hid hp hv =>
    rw [h.orderly.recheck_grace hc ht hid hp, hv, Guard.total_without hc, hp]
    show 0 + ((s.guard.without app).renewed.having app _).total _ = _
    rw [Guard.total_having_renewed]
    show 0 + (1 + _) = 0 + _ + 1
    omega
  | @resolved t violating app c ht hc hid hp hv =>
    rw [h.orderly.recheck_grace hc ht hid hp, hv, Guard.total_without hc, hp]
    rfl

/-! ### One question for each grace period -/

/-- Whether the app has a grace period. -/
def InGrace (s : Traffic) (app : String) : Prop :=
  ∃ c, s.challenge? app = some c ∧ c.phase = .grace

/-- Only the end of its grace period asks what an app shows. -/
theorem InTime.inGrace_of_recheck (h : s.InTime) (hm : s.Allows m)
    (hr : m.recheck? = some (app, b)) : s.InGrace app := by
  cases m with
  | deliver t violating =>
    obtain ⟨a, c, hc, hid⟩ := h.owned t (mem_flights.2 (.inr hm))
    cases hp : c.phase with
    | counting n =>
      rw [h.orderly.recheck_counting hc hm hid hp] at hr
      cases hr
    | grace =>
      rw [h.orderly.recheck_grace hc hm hid hp] at hr
      cases hr
      exact ⟨c, hc, hp⟩
  | _ => cases hr

/-- Nobody gets a grace period by itself, and nobody has it longer than until the question. -/
theorem Turn.inGrace (h : s.InTime) (hturn : Turn s m o) (hpassive : m.isPassive = true)
    (hgrace : o.state.InGrace app) : s.InGrace app ∧ ∀ b, m.recheck? ≠ some (app, b) := by
  obtain ⟨d, hd, hdp⟩ := hgrace
  cases hturn with
  | started | absorbed | deferred | refused | timed | cancelled => cases hpassive
  | waited | rung => exact ⟨⟨d, hd, hdp⟩, fun _ hr => by cases hr⟩
  | stale ht hnone => exact absurd (h.owned _ (mem_flights.2 (.inr ht))) hnone
  | @ticked t violating a c n ht hc hid hp hn =>
    rw [challenge?_launch] at hd
    split at hd
    · cases hd
      cases hdp
    · rw [challenge?_take, challenge?_lose_eq_some] at hd
      refine ⟨⟨d, hd.2, hdp⟩, fun b hr => ?_⟩
      rw [h.orderly.recheck_counting hc ht hid hp] at hr
      cases hr
  | @expired t violating a c n ht hc hid hp hn =>
    rw [challenge?_take, challenge?_lose_eq_some] at hd
    refine ⟨⟨d, hd.2, hdp⟩, fun b hr => ?_⟩
    rw [h.orderly.recheck_counting hc ht hid hp] at hr
    cases hr
  | @resumed t violating a c ht hc hid hp hv =>
    rw [challenge?_launch] at hd
    split at hd
    · cases hd
      cases hdp
    next hne =>
      rw [challenge?_renew, challenge?_take, challenge?_lose_eq_some] at hd
      refine ⟨⟨d, hd.2, hdp⟩, fun b hr => ?_⟩
      rw [h.orderly.recheck_grace hc ht hid hp] at hr
      cases hr
      exact hne rfl
  | @resolved t violating a c ht hc hid hp hv =>
    rw [challenge?_take, challenge?_lose_eq_some] at hd
    refine ⟨⟨d, hd.2, hdp⟩, fun b hr => ?_⟩
    rw [h.orderly.recheck_grace hc ht hid hp] at hr
    cases hr
    exact hd.1 rfl

/-- Only apps that have a grace period are asked about. -/
theorem InTime.inGrace_of_rechecks (h : s.InTime) (hp : s.Possible moves)
    (hpassive : ∀ m ∈ moves, m.isPassive = true) (hr : (app, b) ∈ rechecks moves) :
    s.InGrace app := by
  -- On the moves, backwards: who has a grace period later has it now.
  induction moves generalizing s with
  | nil => cases hr
  | cons m moves ih =>
    obtain ⟨hm, hmoves⟩ := List.forall_mem_cons.1 hpassive
    rcases mem_rechecks_cons.1 hr with hr | hr
    · exact h.inGrace_of_recheck hp.1 hr
    · exact ((turn_step h.orderly hp.1).inGrace h hm (ih (h.step hp.1 hm) hp.2 hmoves hr)).1

/-- Of each grace period it is asked once. -/
theorem InTime.rechecks_distinct (h : s.InTime) (hp : s.Possible moves)
    (hpassive : ∀ m ∈ moves, m.isPassive = true) : ((rechecks moves).map Prod.fst).Nodup := by
  -- On the moves: the first may ask about an app, and none of the later ones asks about it again.
  induction moves generalizing s with
  | nil => exact List.nodup_nil
  | cons m moves ih =>
    obtain ⟨hm, hmoves⟩ := List.forall_mem_cons.1 hpassive
    have hnext := h.step hp.1 hm
    have hrest := ih hnext hp.2 hmoves
    rw [rechecks_cons]
    cases hr : m.recheck? with
    | none => exact hrest
    | some e =>
      -- Whoever is asked about later has a grace period after this move, which ends one.
      refine List.nodup_cons.2 ⟨fun hin => ?_, hrest⟩
      obtain ⟨⟨app, b⟩, hb, happ⟩ := List.mem_map.1 hin
      obtain rfl : app = e.1 := happ
      have hgrace := hnext.inGrace_of_rechecks hp.2 hmoves hb
      exact ((turn_step h.orderly hp.1).inGrace h hm hgrace).2 e.2 hr

/-- What an app is found to show is what it persists in. -/
theorem InTime.persists_eq (h : s.InTime) (hp : s.Possible moves)
    (hpassive : ∀ m ∈ moves, m.isPassive = true) (hr : (app, b) ∈ rechecks moves) :
    persists moves app = b := by
  cases b with
  | true => exact List.contains_iff_mem.2 hr
  | false =>
    refine Bool.eq_false_iff.2 fun hyes => ?_
    have hyes : (app, true) ∈ rechecks moves := List.contains_iff_mem.1 hyes
    -- An app that was found to show both would have been asked about twice.
    cases List.inj_on_of_nodup_map (h.rechecks_distinct hp hpassive) hr hyes rfl

/-! ### Whole rows -/

/-- What the guard asks for in a row of moves. -/
def effects (s : Traffic) : List Move → List Effect
  | [] => []
  | m :: rest => (s.step m).effects ++ (s.step m).state.effects rest

/-- Each delivery is one event less to come. -/
theorem InTime.deliveries_run (h : s.InTime) (hp : s.Possible moves)
    (hpassive : ∀ m ∈ moves, m.isPassive = true)
    (hyes : ∀ app b, (app, b) ∈ rechecks moves → yes app = b) :
    moves.countP Move.isDelivery + (s.run moves).guard.deliveries yes =
      s.guard.deliveries yes := by
  -- On the moves, by `Turn.deliveries`; what apps show is fixed in advance by what they are found
  -- to show.
  induction moves generalizing s with
  | nil => exact Nat.zero_add _
  | cons m moves ih =>
    obtain ⟨hm, hmoves⟩ := List.forall_mem_cons.1 hpassive
    have hstep := (turn_step h.orderly hp.1).deliveries h hm fun app b hr =>
      hyes app b (mem_rechecks_cons.2 (.inl hr))
    have hrest := ih (h.step hp.1 hm) hp.2 hmoves fun app b hr =>
      hyes app b (mem_rechecks_cons.2 (.inr hr))
    rw [← hstep, ← hrest, List.countP_cons]
    show _ + ((s.step m).state.run moves).guard.deliveries yes = _
    omega

/-- Each countdown that is over has sent its user home. -/
theorem InTime.departures_run (h : s.InTime) (hp : s.Possible moves)
    (hpassive : ∀ m ∈ moves, m.isPassive = true) :
    ((s.effects moves).filterMap Effect.home?).length + (s.run moves).guard.running.length =
      s.guard.running.length + (rechecks moves).countP Prod.snd := by
  induction moves generalizing s with
  | nil => exact Nat.zero_add _
  | cons m moves ih =>
    obtain ⟨hm, hmoves⟩ := List.forall_mem_cons.1 hpassive
    have hstep := (turn_step h.orderly hp.1).departures h hm
    have hrest := ih (h.step hp.1 hm) hp.2 hmoves
    rw [effects, List.filterMap_append, List.length_append, rechecks_cons, List.countP_append]
    show _ + ((s.step m).state.run moves).guard.running.length = _
    omega

/-- **Countdowns run dry.** Let a run come to a point where nothing under way comes too late. From
there on, as long as nobody asks the guard for anything, events go on to be delivered until there
have been exactly as many as the seconds that are left of all countdowns, one for each grace period,
and a whole countdown for each app that still shows restricted content when its grace period is
over. Then no challenge and no timer is left, and users have been sent home once for each countdown
that was running and once for each of these apps. -/
theorem drain_run (countdown : Nat) (grace : Duration) (moves drain : List Move)
    (hp : (start countdown grace).Possible (moves ++ drain))
    (hchannel : ∀ t ∈ ((start countdown grace).run moves).channel,
      ∃ app c, ((start countdown grace).run moves).challenge? app = some c ∧ t.id = c.timer)
    (hpassive : ∀ m ∈ drain, m.isPassive = true) :
    let s := (start countdown grace).run moves
    let s' := s.run drain
    let expected := s.guard.deliveries (persists drain)
    drain.countP Move.isDelivery ≤ expected ∧ expected ≤ s.guard.deliveries (fun _ => true) ∧
    (∀ t ∈ s'.flights, ∀ violating,
      s'.Possible [.deliver t violating] ∨ s'.Possible [.ring t, .deliver t violating]) ∧
    (s'.flights = [] ↔ drain.countP Move.isDelivery = expected) ∧
    (s'.flights = [] →
      (∀ app, s'.challenge? app = none) ∧ s'.timers.pending = [] ∧
      ((s.effects drain).filterMap Effect.home?).length =
        s.guard.running.length + (rechecks drain).countP Prod.snd) := by
  intro s s' expected
  -- Up to here events may come too late; from here on none does, and that is kept.
  obtain ⟨hmoves, hdrain⟩ := possible_append.1 hp
  have horder : s.Orderly := orderly_run orderly_start hmoves
  have hs : s.InTime := by
    refine ⟨horder, sound_run orderly_start sound_start hmoves, fun t ht => ?_⟩
    exact (mem_flights.1 ht).elim (horder.owned t) (hchannel t)
  have hs' : s'.InTime := hs.run hdrain hpassive
  have hcount : drain.countP Move.isDelivery + s'.guard.deliveries (persists drain) = expected :=
    hs.deliveries_run hdrain hpassive fun app b hr => hs.persists_eq hdrain hpassive hr
  refine ⟨Nat.le.intro hcount, s.guard.deliveries_le _, ?_, ?_, fun hnil => ?_⟩
  · intro t ht violating
    rcases mem_flights.1 ht with ht | ht
    · exact .inr ⟨ht, List.mem_cons_self, trivial⟩
    · exact .inl ⟨ht, trivial⟩
  · rw [← hs'.deliveries_eq_zero_iff (persists drain)]
    omega
  · have hnone := hs'.flights_eq_nil_iff.1 hnil
    have hidle : s'.guard.running.length = 0 := by
      rw [Guard.length_running, Guard.total_eq_zero hnone]
    have hhomes : _ + s'.guard.running.length = _ := hs.departures_run hdrain hpassive
    rw [hidle] at hhomes
    exact ⟨hnone, (List.append_eq_nil_iff.1 hnil).1, hhomes⟩

/-- Two apps, the second in its grace period with its content still there: five events until nothing
is left, in an order that goes back and forth between them, and both users sent home. -/
theorem drain_run_two_apps :
    let moves : List Move := [.violate "a", .violate "b", .defer "b"]
    let still (app : String) : Bool := app == "b"
    let both (t : PendingTimer) : List Move := [.ring t, .deliver t still]
    let drain := both ⟨3, 15000, .grace "b" 3⟩ ++ both ⟨1, 1000, .tick "a" 1⟩ ++
      both ⟨4, 1000, .tick "b" 4⟩ ++ both ⟨5, 1000, .tick "a" 1⟩ ++ both ⟨6, 1000, .tick "b" 4⟩
    let s := (start 2 (.seconds 15)).run moves
    (start 2 (.seconds 15)).Possible (moves ++ drain) ∧ s.channel = [] ∧
      (∀ m ∈ drain, m.isPassive = true) ∧ drain.countP Move.isDelivery = 5 ∧
      (s.run drain).flights = [] ∧ ((s.effects drain).filterMap Effect.home?).length = 2 := by
  intro moves still both drain s
  have hp : (start 2 (.seconds 15)).Possible (moves ++ drain) :=
    ⟨trivial, trivial, trivial, .tail _ (.head _), .head _, .head _, .head _, .head _, .head _,
      .head _, .head _, .head _, .head _, trivial⟩
  have hchannel : ∀ t ∈ s.channel, ∃ app c, s.challenge? app = some c ∧ t.id = c.timer :=
    List.forall_mem_nil _
  have hpassive : ∀ m ∈ drain, m.isPassive = true := by decide
  obtain ⟨-, -, -, hend, hleft⟩ := drain_run 2 (.seconds 15) moves drain hp hchannel hpassive
  have hnil := hend.2 rfl
  exact ⟨hp, rfl, hpassive, rfl, hnil, (hleft hnil).2.2⟩

end Traffic

end Keyword

end Warden
