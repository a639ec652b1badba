import Warden.Proofs.Engine.Run
import Warden.Proofs.Keyword.Steps

namespace Warden

/-!
# The guard inside the engine

A running engine passes on to its guard the texts with a keyword in them, the deferrals and the
timer events.  What the guard makes of them is all that happens, except that the log hears of a
deferral that was accepted and of a countdown that ran out.

* `Engine.heeds` — whether a text is passed on.
* `content_of_heeds`, `deferChallenge_running`, `timer_running` — what the guard makes of a call.
* `content_of_not_heeds`, `deferChallenge_stopped`, `timer_stopped` — calls that do not reach it.
-/

/-! ### The report that a countdown ran out -/

/-- Only a countdown that ran out is reported so. -/
theorem Keyword.Tick.report_eq_expired {tick : Tick} : tick.report = .expired ↔ tick = .expired := by
  cases tick <;> simp [report]

/-- The end of a grace period is never reported so. -/
theorem Keyword.Elapsed.report_ne_expired (elapsed : Elapsed) (countdown : Nat) :
    elapsed.report countdown ≠ .expired := by
  cases elapsed <;> simp [report]

namespace Engine

variable {e : Engine} {host : Host} {app text : String} {event : TimerEvent}

/-! ### Restricted content -/

/-- Whether a text is restricted content to the engine. -/
def heeds (e : Engine) (text : String) : Bool :=
  !e.stopped && e.keywordEnabled && (e.matcher.find text).isSome

/-- A text with a keyword in it is a violation of its app. -/
theorem content_of_heeds (h : e.heeds text = true) :
    e.content host app text = ((e.keywords.violate app host.nextTimer).within fun keywords =>
      { e with keywords }).map some := by
  simp only [heeds, Bool.and_eq_true, Bool.not_eq_true'] at h
  obtain ⟨⟨hrunning, hon⟩, hfound⟩ := h
  have hfound' : (e.matcher.find text).isNone = false := by
    rw [← Option.not_isSome, hfound]
    rfl
  unfold content
  rw [hrunning, hon, hfound']
  rfl

/-- Any other text leaves the engine as it is. -/
theorem content_of_not_heeds (h : e.heeds text = false) :
    e.content host app text = .answering e none := by
  unfold content
  -- Either keywords are not looked for at all, or none is found.
  split
  · rfl
  next hon =>
    have hnone : (e.matcher.find text).isNone = true := by
      unfold heeds at h
      revert h hon
      cases e.stopped <;> cases e.keywordEnabled <;> simp
    rw [if_pos hnone]

/-! ### Deferrals -/

/-- An engine that has stopped accepts no deferral. -/
theorem deferChallenge_stopped (hs : e.stopped = true) :
    e.deferChallenge host app = .answering e false := by
  unfold deferChallenge
  rw [hs]
  rfl

/-- A running one passes it on and tells the log if it is accepted. -/
theorem deferChallenge_running (hs : e.stopped = false) :
    e.deferChallenge host app =
      ((e.keywords.defer app host.nextTimer).within fun keywords => { e with keywords }).also
        (if (e.keywords.defer app host.nextTimer).answer then
          [.record ⟨.graceGranted, app, none⟩] else []) := by
  unfold deferChallenge
  rw [hs]
  rfl

/-! ### Timers -/

/-- No timer event moves an engine that has stopped. -/
theorem timer_stopped (hs : e.stopped = true) : e.timer host event = .answering e () := by
  unfold timer
  cases event <;> simp only [hs, if_true]

/-- Either kind of event is delivered to the guard. -/
theorem timer_running (hs : e.stopped = false) :
    e.timer host event =
      (((e.keywords.deliver (e.isViolating host) host.nextTimer event).within fun keywords =>
          { e with keywords }).also
        (if (e.keywords.deliver (e.isViolating host) host.nextTimer event).answer = .expired then
          [.record ⟨.countdownExpired, event.app, none⟩] else [])).map fun _ => () := by
  cases event with
  | tick app generation =>
    simp only [timer, hs, Keyword.Guard.deliver, Outcome.map, Keyword.Tick.report_eq_expired]
    rfl
  | grace app generation =>
    -- The end of a grace period has nothing for the log.
    have hnot : (e.keywords.deliver (e.isViolating host) host.nextTimer
        (.grace app generation)).answer ≠ .expired := Keyword.Elapsed.report_ne_expired _ _
    rw [if_neg hnot]
    simp only [timer, hs, Outcome.also, List.append_nil]
    rfl

end Engine

end Warden
