import Warden.Proofs.Config.Validity
import Warden.Proofs.Engine.Values

namespace Warden

/-!
# Configured durations

A configuration gives the timeout of sessions and the length of the window as texts, and an engine
keeps them as milliseconds in fields of 64 bits.  What fits into such a field is honoured exactly.
What does not loses its high bits there, though the configuration is found to make sense.

* `Duration.Fits` — the milliseconds of a span fit into 64 bits.
* `Engine.RunsOn` — the engine was built from settings or has reloaded them.
* `durations_honoured` — configured durations that fit are those that the engine runs with.
* `huge_durations_vanish` — durations that do not fit may come to nothing.
-/

/-! ### Fields of 64 bits -/

namespace Duration

variable {d d' : Duration}

/-- Whether the milliseconds of a span fit into 64 bits. -/
def Fits (d : Duration) : Prop := d.millis < Number.wordCount

instance (d : Duration) : Decidable d.Fits := inferInstanceAs (Decidable (_ < _))

/-- A duration that fits is what it says, and no other one is. -/
theorem word_eq_iff : d.word = d.millis ↔ d.Fits :=
  Nat.mod_eq_iff_lt (by decide)

/-- What is cut off makes a duration shorter, never longer. -/
theorem word_le (d : Duration) : d.word ≤ d.millis := Nat.mod_le ..

end Duration

namespace Engine

/-- Whether an engine runs on settings: it was built from them or has reloaded them, and no others
since. -/
inductive RunsOn (s : Settings) : Engine → Prop
  | start (stored : Persisted) : RunsOn s (start s stored)
  | reload (e : Engine) : RunsOn s (e.reload s).state
  | step {e : Engine} {i : Input} (h : RunsOn s e) (hi : ∀ s', i.call ≠ .reload s') :
    RunsOn s (e.step i).state

variable {e : Engine} {s : Settings}

/-- The timeout is that of the settings that an engine runs on. -/
theorem RunsOn.timeout (h : e.RunsOn s) : e.sessions.timeout = s.sessionTimeout.word := by
  -- On how the engine has come to run on these settings.
  induction h with
  | start stored => rfl
  | reload e => exact congrArg Values.sessionTimeout (e.values_reload s)
  | step _ hi ih => exact (timeout_step hi).trans ih

/-- So is the length of the window. -/
theorem RunsOn.duration (h : e.RunsOn s) : e.bypass.duration = s.bypassDuration.word := by
  induction h with
  | start stored => rfl
  | reload e => exact congrArg Values.bypassDuration (e.values_reload s)
  | step _ hi ih => exact (duration_step hi).trans ih

/-- An app is unlocked right after it was granted, if the timeout is not zero. -/
theorem isUnlocked_grant (hs : e.stopped = false) (host : Host) (app : String) :
    ((e.grant host app).state.isUnlocked host app).answer = true ↔ 0 < e.sessions.timeout := by
  have hsessions : (e.grant host app).state.sessions = e.sessions.grant app host.now := by
    have hstep : (e.grant host app).state.sessions = _ := e.sessions_step ⟨host, .grant app⟩
    rw [hstep]
    simp only [sessionsAfter, hs]
    rfl
  show ((e.grant host app).state.sessions.check app host.now).2 = true ↔ _
  rw [hsessions, Sessions.check_answer, Sessions.isOpen_grant_self, Nat.sub_self]

end Engine

/-- **Configured durations are honoured if they fit.** A configuration that makes sense gives an
engine settings to run with.  An engine that runs on them has the configured timeout if and only if
its milliseconds fit into 64 bits, and so with the length of the window.  A timeout that fits is not
zero, so an app is unlocked right after it was granted, and it is no shorter than that of any engine
that runs on settings with a shorter one. -/
theorem durations_honoured (c : Config) (hvalid : c.validate = .ok ()) :
    ∃ s, c.settings = .ok s ∧
      Duration.parse c.lock.sessionTimeout = .ok s.sessionTimeout ∧
      Duration.parse c.tamper.bypassDuration = .ok s.bypassDuration ∧
      ∀ e : Engine, e.RunsOn s →
        (e.sessions.timeout = s.sessionTimeout.millis ↔ s.sessionTimeout.Fits) ∧
        (e.bypass.duration = s.bypassDuration.millis ↔ s.bypassDuration.Fits) ∧
        (s.sessionTimeout.Fits → 0 < e.sessions.timeout ∧
          (e.stopped = false → ∀ host app,
            ((e.grant host app).state.isUnlocked host app).answer = true) ∧
          ∀ (s' : Settings) (e' : Engine), e'.RunsOn s' →
            s'.sessionTimeout.millis ≤ s.sessionTimeout.millis →
            e'.sessions.timeout ≤ e.sessions.timeout) := by
  obtain ⟨s, hsettings, htimeout, hbypass, hpos⟩ := c.settings_of_validate hvalid
  refine ⟨s, hsettings, Fallible.mapError_ok_iff.1 htimeout, Fallible.mapError_ok_iff.1 hbypass,
    fun e he => ⟨?_, ?_, fun hfits => ?_⟩⟩
  · rw [he.timeout, Duration.word_eq_iff]
  · rw [he.duration, Duration.word_eq_iff]
  · have heffective : e.sessions.timeout = s.sessionTimeout.millis :=
      he.timeout.trans (Duration.word_eq_iff.2 hfits)
    have hleft : 0 < e.sessions.timeout := heffective ▸ hpos
    refine ⟨hleft, fun hs host app => (Engine.isUnlocked_grant hs host app).2 hleft, ?_⟩
    -- The shorter timeout needs not fit: lost bits make it shorter still.
    intro s' e' he' hle
    calc e'.sessions.timeout = s'.sessionTimeout.word := he'.timeout
      _ ≤ s'.sessionTimeout.millis := s'.sessionTimeout.word_le
      _ ≤ s.sessionTimeout.millis := hle
      _ = e.sessions.timeout := heffective.symm

/-- The longest timeout that fits, and a window of two hours. -/
theorem longest_timeout_honoured :
    let c : Config :=
      { lock := { sessionTimeout := "18446744073709551615ms" }, tamper := { bypassDuration := "2h" } }
    let host := Engine.silentHost 5
    c.validate = .ok () ∧ ∃ s, c.settings = .ok s ∧
      let e := Engine.start s .empty
      e.sessions.timeout = 18446744073709551615 ∧ e.bypass.duration = 7200000 ∧
        ((e.grant host "app.mail").state.isUnlocked host "app.mail").answer = true := by
  intro c host
  have hvalid : c.validate = .ok () := by
    dsimp only [c]
    rfl
  have hparse : Duration.parse c.lock.sessionTimeout = .ok ⟨18446744073709551615⟩ := by
    dsimp only [c]
    rfl
  have hparse' : Duration.parse c.tamper.bypassDuration = .ok ⟨7200000⟩ := by
    dsimp only [c]
    rfl
  obtain ⟨s, hsettings, htimeout, hbypass, h⟩ := durations_honoured c hvalid
  obtain ⟨hsession, hwindow, hfits⟩ := h (.start s .empty) (.start .empty)
  have hlongest : s.sessionTimeout = ⟨18446744073709551615⟩ :=
    Except.ok.inj (htimeout.symm.trans hparse)
  have htwoHours : s.bypassDuration = ⟨7200000⟩ := Except.ok.inj (hbypass.symm.trans hparse')
  rw [hlongest] at hsession hfits
  rw [htwoHours] at hwindow
  exact ⟨hvalid, s, hsettings, hsession.2 (by decide), hwindow.2 (by decide),
    (hfits (by decide)).2.1 rfl host "app.mail"⟩

/-- A timeout and a window of 2⁶¹ seconds are found to make sense, and come to nothing: an app is
locked at the very moment in which it is granted. -/
theorem huge_durations_vanish :
    let c : Config :=
      { lock := { sessionTimeout := "2305843009213693952s" }
        tamper := { bypassDuration := "2305843009213693952s" } }
    let host := Engine.silentHost 5
    c.validate = .ok () ∧ ∃ s, c.settings = .ok s ∧
      s.sessionTimeout.millis = 2305843009213693952000 ∧
      s.bypassDuration.millis = 2305843009213693952000 ∧
      let e := Engine.start s .empty
      e.sessions.timeout = 0 ∧ e.bypass.duration = 0 ∧
        ((e.grant host "app.mail").state.isUnlocked host "app.mail").answer = false := by
  intro c host
  have hvalid : c.validate = .ok () := by
    dsimp only [c]
    rfl
  have hparse : Duration.parse "2305843009213693952s" = .ok ⟨2305843009213693952000⟩ := rfl
  obtain ⟨s, hsettings, htimeout, hbypass, -⟩ := c.settings_of_validate hvalid
  have hhuge : s.sessionTimeout = ⟨2305843009213693952000⟩ :=
    Except.ok.inj ((Fallible.mapError_ok_iff.1 htimeout).symm.trans hparse)
  have hhuge' : s.bypassDuration = ⟨2305843009213693952000⟩ :=
    Except.ok.inj ((Fallible.mapError_ok_iff.1 hbypass).symm.trans hparse)
  have hnone : (Engine.start s .empty).sessions.timeout = 0 := by
    rw [(Engine.RunsOn.start .empty).timeout, hhuge]
    rfl
  have hnone' : (Engine.start s .empty).bypass.duration = 0 := by
    rw [(Engine.RunsOn.start .empty).duration, hhuge']
    rfl
  refine ⟨hvalid, s, hsettings, congrArg Duration.millis hhuge, congrArg Duration.millis hhuge',
    hnone, hnone', Bool.eq_false_iff.2 fun hopen => ?_⟩
  rw [Engine.isUnlocked_grant rfl, hnone] at hopen
  cases hopen

end Warden
