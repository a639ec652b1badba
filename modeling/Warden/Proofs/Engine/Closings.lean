import Warden.Proofs.Audit.Journal
import Warden.Proofs.Engine.Records
import Warden.Proofs.Engine.WindowExpiry

namespace Warden

/-!
# What the log hears when the window closes

The window closes when a reading finds that it has run out, when somebody closes it, and when tamper
protection is switched off.  A call that asks for the gate reads the window twice: once for the log,
and once more for the gate, at a later reading of the clock.  The log does not hear of what the
second reading closes, and it does not hear of what the switch closes.

* `Bypass.Settled`, `Bypass.Settled.served` — a window that further readings leave alone.
* `Engine.Moment.RunsOutBetween` — the window runs out between the two readings of a call.
* `Engine.completion_step` — the challenge that is on record after a call, if it does not.
* `Engine.Moment.Closes`, `Engine.Moment.SwitchesOff`, `Engine.Moment.closing` — a closing, and what
  the log should hear of it.
* `Engine.Moment.heard`, `Moment.unheard` — the log hears of every closing but these two kinds, and
  of nothing else.
* `Engine.closings_audited` — and so the file of the log tells of them.
* `Engine.switched_off_unheard` — a window that goes with the switch is not told of.
* `Engine.run_out_between_unheard` — nor is one that runs out just before the gate is asked for.
-/

/-- Whether an event is that the window closed. -/
def Audit.Action.closes : Audit.Action → Bool
  | .bypassExpired | .bypassCleared => true
  | _ => false

/-! ### Windows that readings leave alone -/

namespace Bypass

variable {b : Bypass} {now t : Nat} {inputs : List Input}

/-- Whether there is no window, or one that is open. -/
def Settled (b : Bypass) (now : Nat) : Prop := b.stored.completion = none ∨ b.IsOpen now

/-- A reading closes what has run out, so a window is settled from then on as long as it does not
run out after the reading. -/
theorem settled_poll (b : Bypass) (h : b.IsOpen now → b.IsOpen t) :
    (b.poll now).state.Settled t := by
  by_cases hopen : b.IsOpen now
  · exact .inr (isOpen_polled.2 ⟨hopen, h hopen⟩)
  · rw [poll_state_of_not_isOpen hopen]
    exact .inl rfl

/-- A reading has nothing to close in a window that is settled. -/
theorem Settled.poll (h : b.Settled now) : (b.poll now).state = b := by
  refine poll_state_of_not_expired fun hexpired => ?_
  obtain ⟨last, hlast, hover⟩ := poll_answer_justExpired.1 hexpired
  -- There is nothing to close, or what is there has not run out.
  rcases h with hnone | ⟨last', hlast', hopen⟩
  · cases hnone.symm.trans hlast
  · cases hlast'.symm.trans hlast
    omega

/-- A reading closes a window if and only if it tells so. -/
theorem poll_closes : b.stored.completion.isSome = true ∧
    (b.poll now).state.stored.completion = none ↔ (b.poll now).answer = .justExpired := by
  constructor
  · intro ⟨hsome, hnone⟩
    by_contra hnot
    rw [poll_state_of_not_expired hnot] at hnone
    rw [hnone] at hsome
    cases hsome
  · intro hexpired
    obtain ⟨last, hlast, -⟩ := poll_answer_justExpired.1 hexpired
    exact ⟨by rw [hlast]; rfl, poll_completion_of_expired hexpired⟩

/-- Whoever asks for the gate or for a capability at the same time leaves the window alone. -/
theorem Settled.served (h : b.Settled now)
    (hin : ∀ i ∈ inputs, i.now = now ∧ (i.request = .gate ∨ ∃ c r, i.request = .confirm c r)) :
    (b.served inputs).stored.completion = b.stored.completion := by
  induction inputs generalizing b with
  | nil => rfl
  | cons i rest ih =>
    obtain ⟨⟨hnow, hrequest⟩, hrest⟩ := List.forall_mem_cons.1 hin
    obtain ⟨now', request⟩ := i
    obtain rfl : now' = now := hnow
    rcases hrequest with hgate | ⟨c, r, hconfirm⟩
    · obtain rfl : request = .gate := hgate
      have hstate : (b.serve ⟨now', .gate⟩).state = b := h.poll
      show ((b.serve ⟨now', .gate⟩).state.served rest).stored.completion = _
      rw [hstate]
      exact ih h hrest
    · obtain rfl : request = .confirm c r := hconfirm
      have hcompletion : (b.confirm c r).state.stored.completion = b.stored.completion :=
        confirm_completion c r
      have hsettled : (b.confirm c r).state.Settled now' :=
        h.imp hcompletion.trans (isOpen_confirm c r).2
      exact (ih hsettled hrest).trans hcompletion

end Bypass

namespace Engine

variable {e : Engine} {i : Input} {m : Moment} {host : Host}

/-! ### Between two readings -/

/-- Whether a call asks for the gate, and reads the clock once more before it does. -/
def asksGate (e : Engine) : Call → Bool
  | .gate => true
  | .navigate _ => !e.stopped
  | _ => false

/-- Whether the window is open at the first reading of the clock in a call that asks for the gate,
and has run out at the second. -/
def Moment.RunsOutBetween (m : Moment) : Prop :=
  m.engine.asksGate m.input.call = true ∧
    m.engine.bypass.IsOpen m.now ∧ ¬ m.engine.bypass.IsOpen m.input.host.later.now

/-- While the clock stands still, nothing runs out. -/
theorem Moment.not_runsOutBetween_of_still {now : Nat} (h : m.input.host.clock = now) :
    ¬ m.RunsOutBetween := by
  rintro ⟨-, hopen, hover⟩
  unfold Moment.now Input.now Host.now at hopen
  unfold Host.later at hover
  rw [h] at hopen hover
  exact hover hopen

/-- Where nothing runs out between the readings, a window that is open at the first one is open at
the second. -/
theorem Moment.isOpen_later (h : ¬ m.RunsOutBetween)
    (hasks : m.engine.asksGate m.input.call = true)
    (hopen : m.engine.bypass.IsOpen m.now) : m.engine.bypass.IsOpen m.input.host.later.now := by
  by_contra hover
  exact h ⟨hasks, hopen, hover⟩

/-! ### The challenge on record -/

/-- The time of the challenge that is on record after a call. -/
def completionAfter (e : Engine) (i : Input) : Option Nat :=
  match i.call with
  | .complete => some i.now
  | .clearBypass => none
  | .setTamper on => if on then e.bypass.stored.completion else none
  | .reload s => if e.losesTamper s then none else e.bypass.stored.completion
  | call =>
    if e.reads call then (e.bypass.poll i.now).state.stored.completion
    else e.bypass.stored.completion

/-- Switching off closes the window, and switching on opens none. -/
theorem setEnabled_completion (b : Bypass) (on : Bool) :
    (b.setEnabled on).state.stored.completion = if on then b.stored.completion else none := by
  cases on with
  | true => rfl
  | false => exact Bypass.clear_completion { b with enabled := false }

/-- What a report about a page asks of the tracker after the first reading leaves the window alone,
unless it runs out in between. -/
theorem navigate_completion {n : Navigation}
    (h : ¬ (Moment.mk e ⟨host, .navigate n⟩).RunsOutBetween) :
    (e.navigate host n).state.bypass.stored.completion =
      if !e.stopped then (e.bypass.poll host.now).state.stored.completion
      else e.bypass.stored.completion := by
  cases hs : e.stopped with
  | true =>
    rw [navigate_stopped hs]
    rfl
  | false =>
    have hstate : (e.navigate host n).state.bypass =
        (e.tamper.decide (e.bypass.poll host.now).state host.later n).state.2 := by
      rw [navigate_running hs]
      rfl
    -- The report asks for no more than the gate and a capability, by which time the window is
    -- settled.
    have hsettled : (e.bypass.poll host.now).state.Settled host.later.now :=
      e.bypass.settled_poll (Moment.isOpen_later h (congrArg Bool.not hs))
    rw [hstate, decide_bypass]
    refine hsettled.served fun j hj => ?_
    obtain ⟨request, hrequest, rfl⟩ := List.mem_map.1 hj
    refine ⟨rfl, (mem_pageRequests hrequest).imp_right ?_⟩
    rintro ⟨c, hc⟩
    exact ⟨c, _, hc⟩

/-- The challenge on record after a call is the one that `completionAfter` names, unless the window
runs out between the two readings of the call. -/
theorem completion_step (h : ¬ (Moment.mk e i).RunsOutBetween) :
    (e.step i).state.bypass.stored.completion = e.completionAfter i := by
  cases hpart : i.call.part
  case lock | keyword =>
    rw [(e.tamper_of_part (i := i) (by simp [hpart])).1]
    obtain ⟨host, call⟩ := i
    cases call <;> first | rfl | cases hpart
  case tamper =>
    obtain ⟨host, call⟩ := i
    cases call
    case clearBypass => exact Bypass.clear_completion e.bypass
    case gate =>
      have hsettled : (e.bypass.poll host.now).state.Settled host.later.now :=
        e.bypass.settled_poll (Moment.isOpen_later h rfl)
      exact congrArg (·.stored.completion) hsettled.poll
    case confirm c => exact Bypass.confirm_completion ..
    case setTamper on =>
      show (e.setTamper on).state.bypass.stored.completion = _
      rw [setTamper_state]
      exact setEnabled_completion e.bypass on
    case navigate n => exact navigate_completion h
    all_goals first | rfl | cases hpart
  case whole =>
    obtain ⟨host, call⟩ := i
    cases call
    case reload s =>
      show (e.reload s).state.bypass.stored.completion = _
      rw [reload_state]
      show (if e.losesTamper s then _ else _ : Bypass).stored.completion =
        if e.losesTamper s then none else e.bypass.stored.completion
      split
      · exact setEnabled_completion _ false
      · rfl
    case shutdown =>
      show e.shutdown.state.bypass.stored.completion = _
      unfold shutdown
      split <;> rfl
    all_goals cases hpart

/-! ### Closings -/

/-- Whether a challenge that is on record before a call is not on record after it. -/
def Moment.Closes (m : Moment) : Prop :=
  m.engine.bypass.stored.completion.isSome = true ∧
    m.outcome.state.bypass.stored.completion = none

/-- Whether a call switches tamper protection off. -/
def Moment.SwitchesOff (m : Moment) : Prop :=
  match m.input.call with
  | .setTamper on => on = false
  | .reload s => m.engine.losesTamper s = true
  | _ => False

/-- What the log is to hear of a closing: that somebody closed the window, or that it ran out. -/
def Moment.closing (m : Moment) : Audit.Record :=
  match m.input.call with
  | .clearBypass => ⟨.bypassCleared, "", some "admin"⟩
  | _ => ⟨.bypassExpired, "", none⟩

/-- Whether the window has run out by the time of a call. -/
def Moment.RanOut (m : Moment) : Prop :=
  ∃ last, m.engine.bypass.stored.completion = some last ∧ m.engine.bypass.duration ≤ m.now - last

/-- Among the events that a call tells of, a closing is that of a reading, or somebody closed the
window. -/
theorem filter_closes (e : Engine) (i : Input) :
    (e.recordsOf i).filter (·.action.closes) =
      (if e.reads i.call then e.expiry i.now else []) ++
        if i.call = .clearBypass ∧ e.bypass.stored.completion.isSome = true then
          [⟨.bypassCleared, "", some "admin"⟩] else [] := by
  -- All that a reading tells of is a closing.
  have hexpiry : (e.expiry i.now).filter (·.action.closes) = e.expiry i.now := by
    unfold expiry
    split <;> rfl
  -- Of the rest of the events of a call only one is a closing.
  have hnews : (e.newsOf i).filter (·.action.closes) =
      if i.call = .clearBypass ∧ e.bypass.stored.completion.isSome = true then
        [⟨.bypassCleared, "", some "admin"⟩] else [] := by
    obtain ⟨host, call⟩ := i
    cases call <;> simp only [newsOf, reduceCtorEq, false_and, if_false]
    case clearBypass =>
      cases e.bypass.stored.completion <;> rfl
    case setTamper | reload => split <;> rfl
    case navigate n => cases e.blocks? ⟨host, .navigate n⟩ <;> rfl
    case timer event => cases e.expires? ⟨host, .timer event⟩ <;> rfl
    case deferChallenge app => cases e.defers? ⟨host, .deferChallenge app⟩ <;> rfl
    all_goals rfl
  unfold recordsOf
  rw [List.filter_append, hnews]
  split
  · rw [hexpiry]
  · rfl

/-- A call that reads the window closes it if it has run out. -/
theorem closes_of_reads (hbetween : ¬ m.RunsOutBetween)
    (hreads : m.engine.reads m.input.call = true) :
    m.Closes ↔ (m.engine.bypass.poll m.now).answer = .justExpired := by
  have hafter : m.outcome.state.bypass.stored.completion =
      (m.engine.bypass.poll m.now).state.stored.completion := by
    refine (completion_step hbetween).trans ?_
    obtain ⟨e, host, call⟩ := m
    cases call <;> first | exact if_pos hreads | rfl
  unfold Moment.Closes
  rw [hafter]
  exact Bypass.poll_closes

/-- A call that does not read the window closes it if it is meant to. -/
theorem closes_of_not_reads (hbetween : ¬ m.RunsOutBetween)
    (hreads : m.engine.reads m.input.call = false) :
    m.Closes ↔ m.engine.bypass.stored.completion.isSome = true ∧
      (m.input.call = .clearBypass ∨ m.SwitchesOff) := by
  unfold Moment.Closes
  rw [show m.outcome.state.bypass.stored.completion = _ from completion_step hbetween]
  refine and_congr_right fun hsome => ?_
  obtain ⟨last, hlast⟩ := Option.isSome_iff_exists.1 hsome
  obtain ⟨e, host, call⟩ := m
  -- Without a reading only two calls may take the challenge off the record.
  cases call <;> simp_all [completionAfter, Moment.SwitchesOff, reads]

/-- A call that switches tamper protection off neither reads the window nor is meant to close it. -/
theorem Moment.SwitchesOff.call (h : m.SwitchesOff) :
    m.engine.reads m.input.call = false ∧ m.input.call ≠ .clearBypass := by
  obtain ⟨e, host, call⟩ := m
  cases call <;> first | exact False.elim h | exact ⟨rfl, nofun⟩

/-- A call between whose readings the window runs out finds it open at the first one, and is not
meant to close it. -/
theorem Moment.RunsOutBetween.call (h : m.RunsOutBetween) :
    (m.engine.bypass.poll m.now).answer ≠ .justExpired ∧ m.input.call ≠ .clearBypass := by
  obtain ⟨hasks, ⟨last, hlast, hopen⟩, -⟩ := h
  refine ⟨fun hexpired => ?_, fun hclear => ?_⟩
  · obtain ⟨last', hlast', hover⟩ := Bypass.poll_answer_justExpired.1 hexpired
    cases hlast.symm.trans hlast'
    omega
  · rw [hclear] at hasks
    cases hasks

/-- The log hears of a closing once and tells why the window closed, unless tamper protection was
switched off or the window ran out between the two readings of the call. -/
theorem Moment.heard (m : Moment) (hcloses : m.Closes) (hon : ¬ m.SwitchesOff)
    (hbetween : ¬ m.RunsOutBetween) :
    m.records.filter (·.action.closes) = [m.closing] ∧
      (m.input.call = .clearBypass ∨ m.RanOut) := by
  rw [m.records_eq, filter_closes]
  cases hreads : m.engine.reads m.input.call with
  -- A call that reads the window is not meant to close it, so it can only have run out.
  | true =>
    have hexpired := (closes_of_reads hbetween hreads).1 hcloses
    have hcall : m.input.call ≠ .clearBypass := by
      intro hcall
      rw [hcall] at hreads
      cases hreads
    have hclosing : m.closing = ⟨.bypassExpired, "", none⟩ := by
      unfold closing
      split
      next hclear => exact absurd hclear hcall
      · rfl
    rw [if_pos rfl, if_neg (fun h => hcall h.1), hclosing]
    refine ⟨?_, .inr (Bypass.poll_answer_justExpired.1 hexpired)⟩
    unfold expiry
    exact congrArg (· ++ []) (if_pos hexpired)
  | false =>
    obtain ⟨hsome, hclear | hoff⟩ := (closes_of_not_reads hbetween hreads).1 hcloses
    · have hclosing : m.closing = ⟨.bypassCleared, "", some "admin"⟩ := by
        simp only [closing, hclear]
      rw [if_neg Bool.false_ne_true, if_pos ⟨hclear, hsome⟩, hclosing]
      exact ⟨rfl, .inl hclear⟩
    · exact absurd hoff hon

/-- Where no window closes the log hears of no closing, nor when tamper protection is switched off,
nor when the window runs out between the two readings of a call. -/
theorem Moment.unheard (m : Moment) (h : ¬ m.Closes ∨ m.SwitchesOff ∨ m.RunsOutBetween) :
    m.records.filter (·.action.closes) = [] := by
  -- Whatever keeps the log from hearing, the first reading finds no window to close, and nobody who
  -- is meant to close one finds one.
  have hquiet : (m.engine.reads m.input.call = true →
        (m.engine.bypass.poll m.now).answer ≠ .justExpired) ∧
      ¬ (m.input.call = .clearBypass ∧ m.engine.bypass.stored.completion.isSome = true) := by
    by_cases hbetween : m.RunsOutBetween
    · exact ⟨fun _ => hbetween.call.1, fun hclear => hbetween.call.2 hclear.1⟩
    rcases or_assoc.2 h |>.resolve_right hbetween with hopen | hoff
    · refine ⟨fun hreads => mt (closes_of_reads hbetween hreads).2 hopen, ?_⟩
      rintro ⟨hclear, hsome⟩
      have hreads : m.engine.reads m.input.call = false := by
        rw [hclear]
        rfl
      exact hopen ((closes_of_not_reads hbetween hreads).2 ⟨hsome, .inl hclear⟩)
    · refine ⟨fun hreads => ?_, fun hclear => hoff.call.2 hclear.1⟩
      rw [hoff.call.1] at hreads
      cases hreads
  have hread : (if m.engine.reads m.input.call then m.engine.expiry m.now else []) = [] := by
    split
    next hreads => exact if_neg (hquiet.1 hreads)
    · rfl
  rw [m.records_eq, filter_closes, if_neg hquiet.2]
  exact congrArg (· ++ []) hread

/-! ### The file of the log -/

/-- **Closings in the log.** A log to which all events of a run are written tells of a closing of
the window in one entry, and why it closed, unless the window closed because tamper protection was
switched off, or because it ran out between the two readings of a call that asks for the gate; and
no call writes such an entry if no window closes. -/
theorem closings_audited (s : Settings) (stored : Persisted) (inputs : List Input) (i : Input)
    (dir log₀ : String) {t₀ t t' : Tree} (hlog : Audit.Holds dir t₀ log₀)
    (hrun : Audit.Written dir t₀ (reports ((start s stored).records inputs)) t)
    (hstep : Audit.Written dir t
      (reports (Moment.records ⟨(start s stored).run inputs, i⟩)) t') :
    let m : Moment := ⟨(start s stored).run inputs, i⟩
    ∃ log log' es, t.exec (Audit.load dir) = (.ok log, t) ∧
      t'.exec (Audit.load dir) = (.ok log', t') ∧
      Audit.entries log' = Audit.entries log ++ es ∧
      (m.Closes → ¬ m.SwitchesOff → ¬ m.RunsOutBetween →
        (es.map Audit.Entry.report).filter (·.record.action.closes) = [⟨m.closing, "engine"⟩] ∧
          (m.input.call = .clearBypass ∨ m.RanOut)) ∧
      (¬ m.Closes ∨ m.SwitchesOff ∨ m.RunsOutBetween →
        (es.map Audit.Entry.report).filter (·.record.action.closes) = []) := by
  intro m
  obtain ⟨log, -, hbefore, -⟩ := Audit.entries_written hlog hrun
  obtain ⟨log', es, hafter, hentries, -, hfilter, -⟩ := Audit.entries_written hbefore hstep
  -- What is written is what the call told of, so the closings among it are those of the call.
  have hclosings : (es.map Audit.Entry.report).filter (·.record.action.closes) =
      reports (m.records.filter (·.action.closes)) := by
    rw [hfilter Audit.Action.closes rfl, reports, reports, List.filter_map]
    rfl
  refine ⟨log, log', es, hbefore.load, hafter.load, hentries, ?_, ?_⟩
  · intro hcloses hon hbetween
    obtain ⟨hheard, hwhy⟩ := m.heard hcloses hon hbetween
    rw [hclosings, hheard]
    exact ⟨rfl, hwhy⟩
  · intro h
    rw [hclosings, m.unheard h]
    rfl

/-- A log hears that the window opened, and then that it ran out. -/
theorem run_out_heard :
    let m : Moment :=
      ⟨(start {} .empty).run [⟨silentHost 0, .complete⟩], ⟨silentHost 1000000, .withinBypass⟩⟩
    m.Closes ∧ ¬ m.SwitchesOff ∧ ¬ m.RunsOutBetween ∧ ∃ t t' log log' es,
      Audit.Written "/state" (Audit.onlyLog "") (reports [⟨.bypassGranted, "", none⟩]) t ∧
      Audit.Written "/state" t (reports [⟨.bypassExpired, "", none⟩]) t' ∧
      t.exec (Audit.load "/state") = (.ok log, t) ∧
      t'.exec (Audit.load "/state") = (.ok log', t') ∧
      Audit.entries log' = Audit.entries log ++ es ∧
      (es.map Audit.Entry.report).filter (·.record.action.closes) =
        [⟨⟨.bypassExpired, "", none⟩, "engine"⟩] := by
  intro m
  have hcloses : m.Closes := ⟨rfl, rfl⟩
  have hon : ¬ m.SwitchesOff := not_false
  have hbetween : ¬ m.RunsOutBetween := Moment.not_runsOutBetween_of_still rfl
  obtain ⟨before, hrun⟩ := Audit.written_onlyLog ""
    (reports ((start {} .empty).records [⟨silentHost 0, .complete⟩]))
  obtain ⟨after, hstep⟩ := Audit.written_onlyLog before (reports m.records)
  obtain ⟨log, log', es, hload, hload', hentries, hheard, -⟩ := closings_audited {} .empty
    [⟨silentHost 0, .complete⟩] ⟨silentHost 1000000, .withinBypass⟩ "/state" ""
    Audit.holds_onlyLog_empty hrun hstep
  exact ⟨hcloses, hon, hbetween, _, _, log, log', es, hrun, hstep, hload, hload', hentries,
    (hheard hcloses hon hbetween).1⟩

/-- **The switch goes unheard.** A window that closes because tamper protection is switched off,
directly or by new settings, leaves no trace in the log but that of the switch. -/
theorem switched_off_unheard :
    let opened := (start {} .empty).run [⟨silentHost 0, .complete⟩]
    ∀ call ∈ [Call.setTamper false, .reload { tamperEnabled := false }],
      (Moment.mk opened ⟨silentHost 1, call⟩).Closes ∧
        (Moment.mk opened ⟨silentHost 1, call⟩).records =
          [⟨.protectionDisabled, "tamper", none⟩] := by
  intro opened call hcall
  simp only [List.mem_cons, List.not_mem_nil, or_false] at hcall
  rcases hcall with rfl | rfl <;> exact ⟨⟨rfl, rfl⟩, rfl⟩

/-- **So does the last moment.** A window that is open when it is read for the log, and has run out
when the gate is asked for, closes without an entry; a page that is blocked for that reason is told
of. -/
theorem run_out_between_unheard :
    let opened := (start {} .empty).run [⟨silentHost 0, .complete⟩]
    let host : Host :=
      { silentHost 299999 with clock := ⟨299999, 300000⟩, targeting := fun _ => .targeted }
    let asked : Moment := ⟨opened, host, .gate⟩
    let paged : Moment := ⟨opened, host, .navigate (.entering .appInfo .usageHistory)⟩
    (asked.RunsOutBetween ∧ asked.Closes ∧ asked.records = []) ∧
    (paged.RunsOutBetween ∧ paged.Closes ∧
      paged.records.map (·.action) = [.tamperBlocked]) := by
  intro opened host asked paged
  -- One millisecond before it runs out, and at that time.
  have hopen : opened.bypass.IsOpen 299999 := ⟨0, rfl, by decide⟩
  have hover : ¬ opened.bypass.IsOpen 300000 := by
    rintro ⟨last, hlast, hlt⟩
    cases hlast
    exact absurd hlt (by decide)
  exact ⟨⟨⟨rfl, hopen, hover⟩, ⟨rfl, rfl⟩, rfl⟩, ⟨rfl, hopen, hover⟩, ⟨rfl, rfl⟩, rfl⟩

end Engine

end Warden
