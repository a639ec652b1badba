import Warden.Proofs.Engine.Attempts
import Warden.Proofs.Engine.Countdowns
import Warden.Proofs.WindowExpiry

namespace Warden.Engine

/-!
# The window of the engine, once it has run out

The engine asks its tracker whenever a page is reported, a summary is wanted or somebody asks for
the window, and each of these closes a window that has run out.  It makes no difference who asks
and how often, unless a reload or a restart brings a longer window while nobody has noticed.

* `Event`, `follow`, `play` — runs of calls, with restarts in between.
* `bypassInputs`, `bypass_follow` — all that the engine asks of its tracker.
* `Revives`, `WindowLapsed` — an event revives the window, or none does.
* `Polled`, `Polled.follow`, `step_of_polled` — engines of which one has closed the window already
  answer alike, whatever they are asked.
* `shut_until_completion` — a window that has run out stays closed, and readings are invisible.
* `shut_then_lengthened` — a longer window opens again after it has run out.
-/

/-! ### Events -/

/-- A call, or a restart with new settings. -/
inductive Event where
  | call (i : Input)
  | restart (now : Nat) (settings : Settings)

/-- The time of an event. -/
def Event.now : Event → Nat
  | .call i => i.now
  | .restart now _ => now

/-- The time at which an event reads the clock again. -/
def Event.later : Event → Nat
  | .call i => i.host.later.now
  | .restart now _ => now

/-- What an event sees of the clock. -/
def Event.readings (v : Event) : List Nat := [v.now, v.later]

/-- The engine after an event. Only what was saved outlives a restart. -/
def follow (e : Engine) : Event → Engine
  | .call i => (e.step i).state
  | .restart _ s => start s e.bypass.stored

/-- The engine after a row of events. -/
def play (e : Engine) (events : List Event) : Engine := events.foldl follow e

variable {e e' : Engine} {i : Input} {v : Event} {host : Host} {now t : Nat}
  {events events' before later : List Event} {b b' : Bypass}

theorem play_append : e.play (events ++ events') = (e.play events).play events' :=
  List.foldl_append ..

/-! ### What the engine asks of its tracker -/

/-- What a report about a page asks of the tracker: whether the capability behind it is active, and
whether attempts are blocked. -/
def pageRequests (tamper : Tamper) (host : Host) (n : Navigation) : List Bypass.Request :=
  if !n.foregrounded || tamper.isTriggered n.category ||
      !tamper.policy.resolve n.category (host.targeting n) then []
  else
    match n.category.guarded? with
    | none => [.gate]
    | some c => .confirm c (host.capability c) ::
        if (host.capability c).getD false then [.gate] else []

/-- A page asks for the gate and for its own capability, and for nothing else. -/
theorem mem_pageRequests {tamper : Tamper} {n : Navigation} {request : Bypass.Request}
    (h : request ∈ pageRequests tamper host n) :
    request = .gate ∨ ∃ c, request = .confirm c (host.capability c) := by
  unfold pageRequests at h
  split at h
  · cases h
  · split at h
    · exact .inl (List.mem_singleton.1 h)
    next c _ =>
      rcases List.mem_cons.1 h with hconfirm | hgate
      · exact .inr ⟨c, hconfirm⟩
      · split at hgate
        · exact .inl (List.mem_singleton.1 hgate)
        · cases hgate

/-- What a call asks of the tracker at its first reading of the clock. -/
def bypassRequests (e : Engine) (host : Host) : Call → List Bypass.Request
  | .complete => [.complete]
  | .withinBypass => [.isWithin]
  | .remainingBypass | .status => [.remaining]
  | .clearBypass => [.clear]
  | .gate => [.poll]
  | .confirm c => [.confirm c (host.capability c)]
  | .setTamper on => [.setEnabled on]
  | .navigate _ => if e.stopped then [] else [.poll]
  | .reload s =>
    (if s.tamperEnabled = e.bypass.enabled then [] else [.setEnabled s.tamperEnabled]) ++
      [.setDuration s.bypassDuration]
  | _ => []

/-- What a call asks of the tracker at its second reading of the clock. -/
def lateRequests (e : Engine) (host : Host) : Call → List Bypass.Request
  | .gate => [.gate]
  | .navigate n => if e.stopped then [] else pageRequests e.tamper host n
  | _ => []

/-- The tracker is told of a challenge only by whoever completes one. -/
theorem complete_mem_bypassRequests {call : Call} (h : .complete ∈ e.bypassRequests host call) :
    call = .complete := by
  cases call
  case complete => rfl
  case navigate n =>
    simp only [bypassRequests] at h
    split at h <;> simp at h
  case reload s =>
    simp only [bypassRequests] at h
    split at h <;> simp at h
  all_goals simp [bypassRequests] at h

/-- Only a reload sets a length. -/
theorem length_bypassRequests {call : Call} {request : Bypass.Request}
    (h : request ∈ e.bypassRequests host call) (hreload : ∀ s, call ≠ .reload s) :
    request.length? = none := by
  cases call
  case reload s => exact absurd rfl (hreload s)
  case navigate n =>
    simp only [bypassRequests] at h
    split at h
    · cases h
    · obtain rfl := List.mem_singleton.1 h
      rfl
  all_goals
    first
      | obtain rfl := List.mem_singleton.1 h
        rfl
      | cases h

/-- At the second reading, a call asks for the gate or for a capability. -/
theorem mem_lateRequests {call : Call} {request : Bypass.Request}
    (h : request ∈ e.lateRequests host call) :
    request = .gate ∨ ∃ c, request = .confirm c (host.capability c) := by
  cases call
  case gate => exact .inl (List.mem_singleton.1 h)
  case navigate n =>
    simp only [lateRequests] at h
    split at h
    · cases h
    · exact mem_pageRequests h
  all_goals cases h

/-- All that an event asks of the tracker, with the readings of the clock. -/
def bypassInputs (e : Engine) : Event → List Bypass.Input
  | .call i =>
    ((e.bypassRequests i.host i.call).map fun request => ⟨i.now, request⟩) ++
      (e.lateRequests i.host i.call).map fun request => ⟨i.host.later.now, request⟩
  | .restart now s => [⟨now, .restart s.bypassDuration s.tamperEnabled⟩]

/-- Only a reload gives the window another length. -/
theorem length_bypassInputs {j : Bypass.Input} (hj : j ∈ e.bypassInputs (.call i))
    (hreload : ∀ s, i.call ≠ .reload s) : j.request.length? = none := by
  rcases List.mem_append.1 hj with hj | hj <;> obtain ⟨request, hrequest, rfl⟩ := List.mem_map.1 hj
  · exact length_bypassRequests hrequest hreload
  · rcases mem_lateRequests hrequest with rfl | ⟨c, rfl⟩ <;> rfl

/-- A report about a page moves the tracker by what it asks. -/
theorem decide_bypass (tamper : Tamper) (b : Bypass) (host : Host) (n : Navigation) :
    (tamper.decide b host n).state.2 =
      b.served ((pageRequests tamper host n).map fun request => ⟨host.now, request⟩) := by
  unfold Tamper.decide pageRequests
  dsimp only
  cases hin : n.foregrounded
  · rfl
  cases hp : tamper.isTriggered n.category
  · cases ht : tamper.policy.resolve n.category (host.targeting n)
    · rfl
    -- The gate is asked if the page guards nothing, or if what it guards is active.
    simp only [Bool.not_true, Bool.or_self, Bool.false_eq_true, if_false]
    cases hc : n.category.guarded? with
    | none =>
      simp only [Tamper.guardActive, hc, Bool.not_true, Bool.false_eq_true, if_false]
      split <;> rfl
    | some c =>
      simp only [Tamper.guardActive, hc, Bypass.confirm_answer]
      cases (host.capability c).getD false
      · rfl
      · simp only [Bool.not_true, Bool.false_eq_true, if_false, if_true]
        split <;> rfl
  · rfl

/-- A report serves what `pageRequests` lists, after the first reading. -/
theorem navigate_bypass (e : Engine) (host : Host) (n : Navigation) :
    (e.navigate host n).state.bypass =
      e.bypass.served (e.bypassInputs (.call ⟨host, .navigate n⟩)) := by
  cases hs : e.stopped with
  | true =>
    rw [navigate_stopped hs]
    simp only [bypassInputs, bypassRequests, lateRequests, hs]
    rfl
  | false =>
    rw [navigate_running hs]
    show (e.tamper.decide (e.bypass.poll host.now).state host.later n).state.2 = _
    simp only [bypassInputs, bypassRequests, lateRequests, hs]
    exact decide_bypass ..

/-- A reload serves the new length, and the switch where it moves it. -/
theorem reload_bypass (e : Engine) (host : Host) (s : Settings) :
    (e.reload s).state.bypass = e.bypass.served (e.bypassInputs (.call ⟨host, .reload s⟩)) := by
  rw [reload_state]
  show (if e.losesTamper s then ((e.bypass.setDuration s.bypassDuration).setEnabled false).state
    else { e.bypass.setDuration s.bypassDuration with enabled := s.tamperEnabled }) = _
  -- Whether the length is set before the window is closed or after makes no difference.
  by_cases hon : e.bypass.enabled = true <;> by_cases hwanted : s.tamperEnabled = true <;>
    simp [bypassInputs, bypassRequests, lateRequests, losesTamper, hon, hwanted, Bypass.served,
      Bypass.serve, Bypass.setEnabled, Bypass.clear_state, Bypass.forget, Bypass.setDuration, Outcome.map,
      Outcome.answering]

/-- The engine moves its tracker by requests alone. -/
theorem bypass_follow (e : Engine) (v : Event) :
    (e.follow v).bypass = e.bypass.served (e.bypassInputs v) := by
  cases v with
  | restart now s => rfl
  | call i =>
    cases hpart : i.call.part
    case lock | keyword =>
      rw [follow, (e.tamper_of_part (i := i) (by simp [hpart])).1]
      obtain ⟨host, call⟩ := i
      cases call <;> first | rfl | cases hpart
    case tamper =>
      obtain ⟨host, call⟩ := i
      cases call
      case navigate n => exact e.navigate_bypass host n
      case setTamper on =>
        show (e.setTamper on).state.bypass = _
        rw [setTamper_state]
        rfl
      all_goals first | rfl | cases hpart
    case whole =>
      obtain ⟨host, call⟩ := i
      cases call
      case reload s => exact e.reload_bypass host s
      case shutdown =>
        show e.shutdown.state.bypass = _
        unfold shutdown
        split <;> rfl
      all_goals cases hpart

/-- An event asks of the tracker at its first reading of the clock, and then at its second. -/
theorem clock_bypassInputs (e : Engine) (h : v.now ≤ v.later) :
    (v.now :: ((e.bypassInputs v).map Bypass.Input.now ++ [v.later])).Pairwise (· ≤ ·) := by
  cases v with
  | restart now s => exact pairwise_of_one_time (List.forall_mem_singleton.2 rfl)
  | call i =>
    rw [bypassInputs, List.map_append, List.append_assoc, List.map_map, List.map_map]
    refine pairwise_of_two_times h ?_ ?_
    all_goals
      intro t ht
      obtain ⟨request, -, rfl⟩ := List.mem_map.1 ht
      rfl

/-! ### Staying closed -/

/-- Whether an event completes a challenge. -/
def Event.Completes (v : Event) : Prop := ∃ host, v = .call ⟨host, .complete⟩

/-- Whether an event revives the window: a reload that does not close it by switching tamper
protection off, or a restart. -/
def Revives (e : Engine) : Event → Prop
  | .call i =>
    match i.call with
    | .reload s =>
      e.losesTamper s = false ∧ e.bypass.Revives ⟨i.now, .setDuration s.bypassDuration⟩
    | _ => False
  | .restart now s => e.bypass.Revives ⟨now, .restart s.bypassDuration s.tamperEnabled⟩

/-- The tracker is asked to open the window only if a challenge is completed. -/
theorem completes_of_bypassInputs {j : Bypass.Input} (hj : j ∈ e.bypassInputs v)
    (hopens : j.request = .complete) : v.Completes := by
  cases v with
  | restart now s =>
    obtain rfl := List.mem_singleton.1 hj
    cases hopens
  | call i =>
    rcases List.mem_append.1 hj with hj | hj <;>
      obtain ⟨request, hrequest, rfl⟩ := List.mem_map.1 hj
    · obtain rfl : request = .complete := hopens
      exact ⟨i.host, by rw [← complete_mem_bypassRequests hrequest]⟩
    · rcases mem_lateRequests hrequest with rfl | ⟨c, rfl⟩ <;> cases hopens

/-- A reload asks for the new length once the window has been closed, if it is. -/
theorem unrevived_of_reload_length {s : Settings} (h : ¬ e.Revives (.call ⟨host, .reload s⟩)) :
    e.bypass.Unrevived (e.bypassInputs (.call ⟨host, .reload s⟩)) := by
  simp only [bypassInputs, bypassRequests, lateRequests, List.map_nil, List.append_nil]
  by_cases hsame : s.tamperEnabled = e.bypass.enabled
  · have hkeeps : e.losesTamper s = false := by rw [losesTamper, hsame, Bool.and_not_self]
    rw [if_pos hsame]
    exact ⟨fun hrevives => h ⟨hkeeps, hrevives⟩, trivial⟩
  · rw [if_neg hsame]
    refine ⟨?_, ?_, trivial⟩
    · rintro ⟨last, duration, -, hlength, -⟩
      cases hlength
    · rintro ⟨last, duration, hlast, hlength, hover, hopen⟩
      cases hwanted : s.tamperEnabled with
      | true =>
        have hkeeps : e.losesTamper s = false := by rw [losesTamper, hwanted, Bool.not_true,
          Bool.and_false]
        rw [hwanted] at hlast hover
        exact h ⟨hkeeps, last, duration, hlast, hlength, hover, hopen⟩
      | false =>
        -- Protection goes off, and nothing is left to revive.
        rw [hwanted] at hlast
        have hnone := Bypass.clear_completion { e.bypass with enabled := false }
        cases hlast.symm.trans hnone

/-- An event that brings no window back brings none back in its row of requests. -/
theorem unrevived_bypassInputs (h : ¬ e.Revives v) : e.bypass.Unrevived (e.bypassInputs v) := by
  cases v with
  | restart now s => exact ⟨h, trivial⟩
  | call i =>
    by_cases hreload : ∃ s, i.call = .reload s
    · obtain ⟨host, call⟩ := i
      obtain ⟨s, rfl⟩ := hreload
      exact unrevived_of_reload_length h
    · -- No other call sets a length.
      have hother : ∀ s, i.call ≠ .reload s := fun s hs => hreload ⟨s, hs⟩
      exact Bypass.unrevived_of_no_length fun j hj => length_bypassInputs hj hother

/-- A window that is closed is closed after an event that neither completes a challenge nor revives
it. -/
theorem not_isOpen_follow (h : ¬ e.bypass.IsOpen v.now) (hclock : v.now ≤ v.later)
    (hcomplete : ¬ v.Completes) (hrevives : ¬ e.Revives v) :
    ¬ (e.follow v).bypass.IsOpen v.later := by
  rw [bypass_follow]
  refine Bypass.not_isOpen_served h (e.clock_bypassInputs hclock) (fun j hj hopens => ?_)
    (unrevived_bypassInputs hrevives)
  exact hcomplete (completes_of_bypassInputs hj hopens)

/-- Whether no event of a row revives the window. -/
def WindowUnrevived (e : Engine) : List Event → Prop
  | [] => True
  | v :: rest => ¬ e.Revives v ∧ (e.follow v).WindowUnrevived rest

/-- The readings of a row of events come in order if those of the first event do, and after the
second of these come those of the other events. -/
theorem clock_cons {rest : List Event}
    (h : (now :: ((v :: rest).flatMap Event.readings ++ [t])).Pairwise (· ≤ ·)) :
    now ≤ v.now ∧ v.now ≤ v.later ∧
      (v.later :: (rest.flatMap Event.readings ++ [t])).Pairwise (· ≤ ·) := by
  obtain ⟨hnow, hall⟩ := List.pairwise_cons.1 h
  obtain ⟨hfirst, hrest⟩ := List.pairwise_cons.1 hall
  exact ⟨hnow v.now List.mem_cons_self, hfirst v.later List.mem_cons_self, hrest⟩

/-- A window that is closed stays so through a row of events that neither complete a challenge nor
revive it. -/
theorem not_isOpen_play (h : ¬ e.bypass.IsOpen now)
    (hclock : (now :: (events.flatMap Event.readings ++ [t])).Pairwise (· ≤ ·))
    (hcomplete : ∀ v ∈ events, ¬ v.Completes) (hrevived : e.WindowUnrevived events) :
    ¬ (e.play events).bypass.IsOpen t := by
  induction events generalizing e now with
  | nil =>
    have ht : now ≤ t := by simpa using hclock
    exact Bypass.not_isOpen_mono h ht
  | cons v rest ih =>
    obtain ⟨hnow, hlater, hrest⟩ := clock_cons hclock
    have hv : ¬ e.bypass.IsOpen v.now := Bypass.not_isOpen_mono h hnow
    rw [List.forall_mem_cons] at hcomplete
    exact ih (not_isOpen_follow hv hlater hcomplete.1 hrevived.1) hrest hcomplete.2 hrevived.2

/-- Whether the window has run out at the time `t₁` in a run, by the length in force then, and until
the time `t` nothing but the clock has a say: no challenge is completed, and no event revives it. -/
structure WindowLapsed (e : Engine) (before later : List Event) (t₁ t : Nat) : Prop where
  clock :
    (before.flatMap Event.readings ++ t₁ :: (later.flatMap Event.readings ++ [t])).Pairwise (· ≤ ·)
  overdue : ∀ last, (e.play before).bypass.stored.completion = some last →
    (e.play before).bypass.duration ≤ t₁ - last
  uncompleted : ∀ v ∈ later, ¬ v.Completes
  unrevived : (e.play before).WindowUnrevived later

/-- A window that has lapsed is not open when the run has ended. -/
theorem not_isOpen_of_windowLapsed {t₁ : Nat} (h : e.WindowLapsed before later t₁ t) :
    ¬ (e.play (before ++ later)).bypass.IsOpen t := by
  have hover : ¬ (e.play before).bypass.IsOpen t₁ := by
    rintro ⟨last, hlast, hopen⟩
    exact absurd (h.overdue last hlast) (Nat.not_le.2 hopen)
  have hclock := (List.pairwise_append.1 h.clock).2.1
  rw [play_append]
  exact not_isOpen_play hover hclock h.uncompleted h.unrevived

/-- Whoever asks for a window that is not open is told so, and attempts are blocked if they are at
all. -/
theorem answers_of_not_isOpen (h : ¬ e.bypass.IsOpen host.now) :
    (e.withinBypass host).answer = false ∧ (e.remainingBypass host).answer = 0 ∧
      (e.gate host).answer = e.bypass.enabled := by
  -- What the first reading has closed, no later one finds open, wherever the clock has gone.
  have hpolled : ¬ (e.bypass.poll host.now).state.IsOpen host.later.now :=
    fun hopen => h (Bypass.isOpen_polled.1 hopen).1
  refine ⟨Bypass.isActive_of_not_isOpen h, Bypass.remaining_of_not_isOpen h, ?_⟩
  show ((e.bypass.poll host.now).state.gate host.later.now).answer = e.bypass.enabled
  rw [Bypass.gate_of_not_isOpen hpolled, Bypass.poll_enabled]

/-! ### More readings -/

/-- Whether an event does nothing but read the window. -/
def Event.IsReading : Event → Prop
  | .call i =>
    match i.call with
    | .withinBypass | .remainingBypass | .gate | .status => True
    | _ => False
  | .restart _ _ => False

/-- The engine with another tracker. -/
def withBypass (e : Engine) (b : Bypass) : Engine := { e with bypass := b }

/-- Calls about app lock and about restricted content do not look at the tracker. -/
theorem step_withBypass (hpart : i.call.part = .lock ∨ i.call.part = .keyword) (b : Bypass) :
    (e.withBypass b).step i = (e.step i).within (withBypass · b) := by
  obtain ⟨host, call⟩ := i
  cases call
  case unprotect app =>
    cases h : e.isProtected app <;>
      simp_all [step, Outcome.answering, Outcome.within, unprotect, isProtected, withBypass]
  case setAppLock on =>
    cases on with
    | true => rfl
    | false =>
      cases h : e.pendingLock <;>
        simp [step, Outcome.answering, Outcome.map, Outcome.within, setAppLock, withBypass, h]
  case foreground app foregrounded =>
    cases h : e.consults app foregrounded with
    | true =>
      have h' : (e.withBypass b).consults app foregrounded = true := h
      simp only [step, foreground_of_consults h, foreground_of_consults h']
      cases hopen : (e.sessions.check app host.now).2 <;>
        simp [Outcome.answering, Outcome.map, Outcome.within, withBypass, hopen]
    | false =>
      have h' : (e.withBypass b).consults app foregrounded = false := h
      simp only [step, foreground_of_not_consults h, foreground_of_not_consults h']
      rfl
  case touch app =>
    cases h : e.stopped <;>
      simp [step, Outcome.answering, Outcome.within, touch, withBypass, h]
  case grant app =>
    cases h : e.stopped <;> by_cases hpending : e.pendingLock = some app <;>
      simp [step, Outcome.answering, Outcome.map, Outcome.within, grant, withBypass, h, hpending]
  case screenOff =>
    cases h : e.relockOnScreenOff <;>
      simp [step, Outcome.answering, Outcome.within, screenOff, withBypass, h]
  case setKeyword on => cases on <;> rfl
  case content app text =>
    cases h : e.heeds text with
    | true =>
      have h' : (e.withBypass b).heeds text = true := h
      simp only [step, content_of_heeds h, content_of_heeds h']
      rfl
    | false =>
      have h' : (e.withBypass b).heeds text = false := h
      simp only [step, content_of_not_heeds h, content_of_not_heeds h']
      rfl
  case deferChallenge app =>
    cases hs : e.stopped with
    | true =>
      have hs' : (e.withBypass b).stopped = true := hs
      simp only [step, deferChallenge_stopped hs, deferChallenge_stopped hs']
      rfl
    | false =>
      have hs' : (e.withBypass b).stopped = false := hs
      simp only [step, deferChallenge_running hs, deferChallenge_running hs']
      rfl
  case timer event =>
    cases hs : e.stopped with
    | true =>
      have hs' : (e.withBypass b).stopped = true := hs
      simp only [step, timer_stopped hs, timer_stopped hs']
      rfl
    | false =>
      have hs' : (e.withBypass b).stopped = false := hs
      simp only [step, timer_running hs, timer_running hs']
      rfl
  all_goals first | rfl | (rcases hpart with h | h <;> cases h)

/-- Whether the second of two engines is the first, except that it may already have closed a window
that is not open. -/
def Polled (now : Nat) (e e' : Engine) : Prop :=
  ∃ b, e' = e.withBypass b ∧ Bypass.Polled now e.bypass b

/-- The same call to both gets the same answer, and leaves engines that differ in their trackers
alone. -/
theorem step_of_polled (h : Bypass.Polled now e.bypass b) (hi : now ≤ i.now) :
    ((e.withBypass b).step i).answer = (e.step i).answer ∧
      ∃ b', ((e.withBypass b).step i).state = (e.step i).state.withBypass b' := by
  have hhost : now ≤ i.host.now := hi
  cases hpart : i.call.part
  case lock =>
    rw [step_withBypass (.inl hpart)]
    exact ⟨rfl, b, rfl⟩
  case keyword =>
    rw [step_withBypass (.inr hpart)]
    exact ⟨rfl, b, rfl⟩
  case tamper =>
    obtain ⟨host, call⟩ := i
    cases call
    case withinBypass => exact ⟨congrArg Answer.flag (h.isActive hhost), _, rfl⟩
    case remainingBypass => exact ⟨congrArg Answer.count (h.remaining hhost), _, rfl⟩
    case gate =>
      have hgate :=
        congrArg (fun polled => (polled.gate host.later.now).answer) (h.poll_state hhost)
      exact ⟨congrArg Answer.flag hgate, _, rfl⟩
    case confirm c =>
      have hconfirm : (b.confirm c (host.capability c)).answer =
          (e.bypass.confirm c (host.capability c)).answer := by
        rw [Bypass.confirm_answer, Bypass.confirm_answer]
      exact ⟨congrArg Answer.flag hconfirm, _, rfl⟩
    case setTamper on => cases on <;> exact ⟨rfl, _, rfl⟩
    case status =>
      have hremaining := h.remaining hhost
      have henabled : (b.poll host.now).state.enabled = (e.bypass.poll host.now).state.enabled := by
        rw [Bypass.poll_enabled, Bypass.poll_enabled, h.enabled]
      refine ⟨congrArg Answer.status ?_, _, rfl⟩
      show Status.mk e.appLockEnabled (b.poll host.now).state.enabled e.keywordEnabled
        e.protectedApps.toList e.sessions.table.size (b.poll host.now).answer.remaining
        (Category.all.filter e.isTriggered) e.keywords.challenges.size = _
      rw [henabled, hremaining]
      rfl
    case navigate n =>
      cases hs : e.stopped with
      | true =>
        have hs' : (e.withBypass b).stopped = true := hs
        simp only [step, navigate_stopped hs, navigate_stopped hs']
        exact ⟨rfl, b, rfl⟩
      | false =>
        have hs' : (e.withBypass b).stopped = false := hs
        -- The first reading leaves the same tracker behind in both, and the page is judged by it.
        have hpolled : ((e.withBypass b).poll host).state =
            (e.poll host).state := congrArg e.withBypass (h.poll_state hhost)
        simp only [step, navigate_running hs, navigate_running hs', Outcome.bind, Outcome.map,
          hpolled]
        exact ⟨trivial, _, rfl⟩
    all_goals first | exact ⟨rfl, _, rfl⟩ | cases hpart
  case whole =>
    obtain ⟨host, call⟩ := i
    cases call
    case reload s =>
      refine ⟨rfl, ?_⟩
      have hloses : (e.withBypass b).losesTamper s = e.losesTamper s :=
        congrArg (· && !s.tamperEnabled) h.enabled
      simp only [step, Outcome.map, reload_state, hloses]
      exact ⟨_, rfl⟩
    case shutdown =>
      have hs : (e.withBypass b).stopped = e.stopped := rfl
      cases h : e.stopped <;>
        simp only [step, shutdown, hs, h, Bool.false_eq_true, if_false, if_true] <;>
        exact ⟨rfl, b, rfl⟩
    all_goals cases hpart

/-- What is asked of the tracker depends on it by its switch alone. -/
theorem bypassInputs_withBypass (h : b.enabled = e.bypass.enabled) (v : Event) :
    (e.withBypass b).bypassInputs v = e.bypassInputs v := by
  cases v with
  | restart now s => rfl
  | call i =>
    obtain ⟨host, call⟩ := i
    cases call
    case reload s =>
      have hswitch : (e.withBypass b).bypass.enabled = e.bypass.enabled := h
      simp only [bypassInputs, bypassRequests, lateRequests, hswitch]
    all_goals rfl

theorem Polled.refl (now : Nat) (e : Engine) : Polled now e e := ⟨e.bypass, rfl, .refl ..⟩

/-- Engines between which a reading makes the only difference stay so as time goes on. -/
theorem Polled.mono (h : Polled now e e') (hle : now ≤ t) : Polled t e e' := by
  obtain ⟨b, rfl, hb⟩ := h
  exact ⟨b, rfl, hb.mono hle⟩

/-- The same event leaves engines between which there is no more difference. -/
theorem Polled.follow (h : Polled now e e') (hv : now ≤ v.now) (hlater : v.now ≤ v.later)
    (hrevives : ¬ e.Revives v) : Polled v.later (e.follow v) (e'.follow v) := by
  obtain ⟨b, rfl, hb⟩ := h
  have hbypass : Bypass.Polled v.later (e.follow v).bypass ((e.withBypass b).follow v).bypass := by
    rw [bypass_follow, bypass_follow, bypassInputs_withBypass hb.enabled]
    exact (hb.mono hv).served (.refl _) (e.clock_bypassInputs hlater)
      (unrevived_bypassInputs hrevives)
  cases v with
  | restart now s => exact ⟨_, rfl, hbypass⟩
  | call i =>
    obtain ⟨-, b', hstate⟩ := step_of_polled hb hv
    refine ⟨b', hstate, ?_⟩
    have hfollow : (e.withBypass b).follow (.call i) = (e.step i).state.withBypass b' := hstate
    rw [hfollow] at hbypass
    exact hbypass

/-- A reading asks the tracker for readings alone. -/
theorem isReading_bypassInputs (hread : v.IsReading) {j : Bypass.Input}
    (hj : j ∈ e.bypassInputs v) : j.IsReading := by
  cases v with
  | restart now s => exact hread.elim
  | call i =>
    obtain ⟨host, call⟩ := i
    cases call <;> try exact hread.elim
    case gate =>
      rcases List.mem_cons.1 hj with rfl | hj
      · trivial
      · obtain rfl := List.mem_singleton.1 hj
        trivial
    all_goals
      obtain rfl := List.mem_singleton.1 hj
      trivial

/-- One more reading makes no difference. -/
theorem Polled.read (h : Polled now e e') (hv : now ≤ v.now) (hlater : v.now ≤ v.later)
    (hread : v.IsReading) : Polled v.later e (e'.follow v) := by
  obtain ⟨b, rfl, hb⟩ := h
  have hbypass : Bypass.Polled v.later e.bypass ((e.withBypass b).follow v).bypass := by
    rw [bypass_follow]
    exact (hb.mono hv).served (.of_forall fun j hj => isReading_bypassInputs hread hj)
      ((e.withBypass b).clock_bypassInputs hlater) trivial
  refine ⟨((e.withBypass b).follow v).bypass, ?_, hbypass⟩
  cases v with
  | restart now s => exact hread.elim
  | call i =>
    obtain ⟨host, call⟩ := i
    cases call <;> first | rfl | exact hread.elim

/-- More readings in a run leave an engine between which and the other nobody can tell the
difference, as long as nothing revives the window. -/
theorem Polled.play (h : Polled now e e') (hmore : Interspersed Event.IsReading events events')
    (hclock : (now :: (events'.flatMap Event.readings ++ [t])).Pairwise (· ≤ ·))
    (hrevived : e.WindowUnrevived events) : Polled t (e.play events) (e'.play events') := by
  induction hmore generalizing e e' now with
  | nil =>
    have ht : now ≤ t := by simpa using hclock
    exact h.mono ht
  | keep v _ ih =>
    obtain ⟨hv, hlater, hrest⟩ := clock_cons hclock
    exact ih (h.follow hv hlater hrevived.1) hrest hrevived.2
  | @extra v _ _ hread _ ih =>
    obtain ⟨hv, hlater, hrest⟩ := clock_cons hclock
    exact ih (h.read hv hlater hread) hrest hrevived

/-! ### Once closed, closed -/

/-- **A window that has run out stays closed.** If the last challenge was completed at least the
length in force ago, then the window stays closed until the next one is completed, whoever reads
it and whatever else happens, except that another length revives it.  Exactly a length that the
window has not run out by does so, and only while nobody has noticed that it has run out.  Without
that, more readings at any points of a run change nothing that is answered later.  Both hold of the
tracker alone, through restarts that read its file, and of the engine. -/
theorem shut_until_completion (s : Settings) (stored : Persisted) :
    let b := Bypass.start stored s.bypassDuration s.tamperEnabled
    let e := start s stored
    (∀ before later t₁ t, b.Lapsed before later t₁ t →
      let last := b.served (before ++ later)
      last.readings t = [.flag false, .millis 0, .flag last.enabled]) ∧
    (∀ inputs inputs' t, Interspersed Bypass.Input.IsReading inputs inputs' →
      (inputs'.map Bypass.Input.now ++ [t]).Pairwise (· ≤ ·) → b.Unrevived inputs →
      (b.served inputs').readings t = (b.served inputs).readings t) ∧
    (∀ (b : Bypass) (i : Bypass.Input), ¬ b.IsOpen i.now →
      ((b.serve i).state.IsOpen i.now ↔ i.request = .complete ∧ 0 < b.duration ∨ b.Revives i)) ∧
    (∀ dir tree content? inputs, StateFile.Holds dir tree content? →
      StateFile.initial content? = stored → Bypass.Session.Stores dir ⟨tree, b⟩ inputs →
      ∃ last, inputs.foldlM (Bypass.Session.serve dir) ⟨tree, b⟩ = .ok last ∧
        last.tracker = b.served inputs) ∧
    (∀ before later t₁ host, e.WindowLapsed before later t₁ host.now →
      let last := e.play (before ++ later)
      (last.withinBypass host).answer = false ∧ (last.remainingBypass host).answer = 0 ∧
        (last.gate host).answer = last.bypass.enabled) ∧
    (∀ events events' i, Interspersed Event.IsReading events events' →
      (events'.flatMap Event.readings ++ [i.now]).Pairwise (· ≤ ·) → e.WindowUnrevived events →
      ((e.play events').step i).answer = ((e.play events).step i).answer) := by
  intro b e
  have hzero {times : List Nat} (h : times.Pairwise (· ≤ ·)) : (0 :: times).Pairwise (· ≤ ·) :=
    List.pairwise_cons.2 ⟨fun t _ => Nat.zero_le t, h⟩
  refine ⟨?_, ?_, fun _ _ => Bypass.isOpen_serve, ?_, ?_, ?_⟩
  · intro before later t₁ t h
    exact Bypass.readings_of_not_isOpen (Bypass.not_isOpen_of_lapsed h)
  · intro inputs inputs' t hmore hclock hrevived
    have hpolled := (Bypass.Polled.refl 0 b).served hmore (hzero hclock) hrevived
    exact hpolled.readings (Nat.le_refl t)
  · intro dir tree content? inputs hfile hstored hw
    subst hstored
    have hopened : Bypass.Session.Sound dir ⟨tree, b⟩ :=
      ⟨StateFile.load_of_holds hfile, StateFile.fits_initial content?, Nat.mod_lt _ (by decide)⟩
    exact hopened.served hw
  · intro before later t₁ host h
    exact answers_of_not_isOpen (not_isOpen_of_windowLapsed h)
  · intro events events' i hmore hclock hrevived
    obtain ⟨b', hlast, hpolled⟩ := (Polled.refl 0 e).play hmore (hzero hclock) hrevived
    rw [hlast]
    exact (step_of_polled hpolled (Nat.le_refl i.now)).1

/-- A longer window comes too late for one that somebody has read since it ran out: it stays closed
through a restart too, with or without one more reading. -/
theorem shut_despite_longer_window :
    let shorter : Settings := { bypassDuration := .seconds 1 }
    let longer : Settings := { bypassDuration := .seconds 60 }
    let b := Bypass.start .empty (.seconds 1) true
    let completed : Bypass.Input := ⟨0, .complete⟩
    let read : Bypass.Input := ⟨2000, .remaining⟩
    let later : List Bypass.Input :=
      [⟨3000, .gate⟩, ⟨4000, .setDuration (.seconds 5)⟩, ⟨4000, .restart (.seconds 60) true⟩]
    let e := start shorter .empty
    let opened : Event := .call ⟨silentHost 0, .complete⟩
    let looked : Event := .call ⟨silentHost 2000, .status⟩
    let after : List Event :=
      [.call ⟨silentHost 3000, .gate⟩, .call ⟨silentHost 4000, .reload longer⟩,
        .restart 4500 longer]
    b.Lapsed [completed] later 2000 5000 ∧
    (b.served ([completed] ++ later)).readings 5000 = [.flag false, .millis 0, .flag true] ∧
    (b.served (completed :: read :: later)).readings 5000 =
      (b.served (completed :: later)).readings 5000 ∧
    (∃ last, (completed :: later).foldlM (Bypass.Session.serve "/state") ⟨.empty, b⟩ = .ok last ∧
      last.tracker = b.served (completed :: later)) ∧
    e.WindowLapsed [opened] after 2000 5000 ∧
    ((e.play ([opened] ++ after)).gate (silentHost 5000)).answer = true ∧
    ((e.play (opened :: looked :: after)).step ⟨silentHost 5000, .remainingBypass⟩).answer =
      ((e.play (opened :: after)).step ⟨silentHost 5000, .remainingBypass⟩).answer := by
  intro shorter longer b completed read later e opened looked after
  obtain ⟨htracker, hread, -, hrestarts, hengine, halike⟩ := shut_until_completion shorter .empty
  -- When the window gets longer, the time of its completion is forgotten already.
  have hrevived : (b.served [completed]).Unrevived later := by
    refine ⟨?_, ?_, ?_, trivial⟩
    · rintro ⟨last, duration, -, hlength, -⟩
      cases hlength
    · rintro ⟨last, duration, hlast, -⟩
      cases hlast
    · rintro ⟨last, duration, hlast, -⟩
      cases hlast
  have hcompleted : ¬ b.Revives completed := by
    rintro ⟨last, duration, hlast, -⟩
    cases hlast
  have hlapsed : b.Lapsed [completed] later 2000 5000 := by
    refine ⟨by decide, ?_, by simp [later], hrevived⟩
    intro last hlast
    cases hlast
    decide
  have hfile : StateFile.Holds "/state" .empty none := by
    show Tree.empty.kind? (StateFile.path "/state") = none
    decide +kernel
  have hw : Bypass.Session.Stores "/state" ⟨.empty, b⟩ (completed :: later) := by
    refine ⟨by decide, ⟨⟨by decide +kernel, by decide +kernel⟩, trivial⟩, ?_⟩
    rintro s₁ ⟨⟩
    refine ⟨by decide, ⟨⟨by decide +kernel, by decide +kernel⟩, trivial⟩, ?_⟩
    rintro s₂ ⟨⟩
    refine ⟨by decide, trivial, ?_⟩
    rintro s₃ ⟨⟩
    exact ⟨by decide, trivial, fun _ _ => trivial⟩
  have hrevivedEngine : (e.play [opened]).WindowUnrevived after := by
    refine ⟨id, ?_, ?_, trivial⟩
    · rintro ⟨-, last, duration, hlast, -⟩
      cases hlast
    · rintro ⟨last, duration, hlast, -⟩
      cases hlast
  have hlapsedEngine : e.WindowLapsed [opened] after 2000 5000 := by
    refine ⟨by decide, ?_, ?_, hrevivedEngine⟩
    · intro last hlast
      cases hlast
      decide
    · intro v hv
      simp only [after, List.mem_cons, List.not_mem_nil, or_false] at hv
      rcases hv with rfl | rfl | rfl <;> rintro ⟨host, hcall⟩ <;> cases hcall
  have hmore : Interspersed Bypass.Input.IsReading (completed :: later)
      (completed :: read :: later) := .keep _ (.extra trivial (.refl _))
  have hmoreEngine : Interspersed Event.IsReading (opened :: after) (opened :: looked :: after) :=
    .keep _ (.extra trivial (.refl _))
  exact ⟨hlapsed, htracker _ _ _ _ hlapsed, hread _ _ _ hmore (by decide) ⟨hcompleted, hrevived⟩,
    hrestarts _ _ _ _ hfile rfl hw, hlapsedEngine,
    (hengine _ _ _ (silentHost 5000) hlapsedEngine).2.2,
    halike _ _ ⟨silentHost 5000, .remainingBypass⟩ hmoreEngine (by decide) ⟨id, hrevivedEngine⟩⟩

/-- **A longer window opens again.** A window that has run out is open once more if it is given a
length that it has not run out by, and attempts are let through without another challenge; they
would be blocked if anybody had read the window in between. -/
theorem shut_then_lengthened :
    let b := Bypass.start .empty (.seconds 1) true
    let completed : Bypass.Input := ⟨0, .complete⟩
    let longer : Bypass.Input := ⟨2000, .setDuration (.seconds 5)⟩
    let settings (seconds : Nat) : Settings := { bypassDuration := .seconds seconds }
    let e := start (settings 1) .empty
    let opened : Event := .call ⟨silentHost 0, .complete⟩
    let reload : Event := .call ⟨silentHost 2000, .reload (settings 5)⟩
    let looked : Event := .call ⟨silentHost 2000, .status⟩
    (b.served [completed]).stored.completion = some 0 ∧
    (b.served [completed]).duration ≤ 2000 - 0 ∧ longer.request.length? = some (.seconds 5) ∧
    (b.served [completed, longer]).readings 2000 = [.flag true, .millis 3000, .flag false] ∧
    (b.served [completed, ⟨2000, .poll⟩, longer]).readings 2000 =
      [.flag false, .millis 0, .flag true] ∧
    (e.play [opened]).bypass.stored.completion = some 0 ∧
    (e.play [opened]).bypass.duration ≤ 2000 - 0 ∧ ¬ reload.Completes ∧
    ((e.play [opened, reload]).withinBypass (silentHost 2000)).answer = true ∧
    ((e.play [opened, reload]).gate (silentHost 2000)).answer = false ∧
    ((e.play [opened, looked, reload]).gate (silentHost 2000)).answer = true := by
  intro b completed longer settings e opened reload looked
  have hreload : ¬ reload.Completes := by
    rintro ⟨host, hcall⟩
    simp [reload] at hcall
  exact ⟨rfl, by decide, rfl, by decide, by decide, rfl, by decide, hreload, by decide, by decide,
    by decide⟩

end Warden.Engine
