import Warden.Proofs.Engine.Closings
import Warden.Proofs.Engine.Shares
import Warden.Proofs.Wire.Sequential

namespace Warden

/-!
# Which challenges can be on record

The challenge on record is one that was stored before, or the one that was completed just now;
nothing else that the engine does puts one on record.

* `Persisted.Among A p` — the challenge on record, if there is one, is among some.
* `Outcome.Stores A` — a step leaves only such challenges on record, and saves no other ones.
* `Engine.stores_step` — a call to the engine.
* `Wire.completions`, `Wire.stores_handleLine` — a line from the host.
-/

/-- Whether the challenge on record, if there is one, is among some. -/
def Persisted.Among (A : Nat → Prop) (p : Persisted) : Prop := ∀ c, p.completion = some c → A c

/-- Whether a step leaves only some challenges on record, and saves no other ones. -/
structure Outcome.Stores {σ α : Type} (A : Nat → Prop) (stored : σ → Persisted) (o : Outcome σ α) :
    Prop where
  kept : (stored o.state).Among A
  saved : ∀ p, Effect.save p ∈ o.effects → p.Among A

variable {A : Nat → Prop} {α β : Type}

/-- With no challenge on record there is none to be among others. -/
theorem Persisted.among_of_none {p : Persisted} (h : p.completion = none) : p.Among A := by
  intro c hc
  rw [h] at hc
  cases hc

theorem Persisted.Among.mono {B : Nat → Prop} {p : Persisted} (h : p.Among A)
    (himp : ∀ c, A c → B c) : p.Among B := fun c hc => himp c (h c hc)

namespace Outcome

variable {σ : Type} {stored : σ → Persisted} {o : Outcome σ α}

/-- A step that saves nothing is judged by the state it leaves. -/
theorem stores_quiet (h : (stored o.state).Among A) (hquiet : ∀ p, Effect.save p ∉ o.effects) :
    o.Stores A stored := ⟨h, fun p hp => absurd hp (hquiet p)⟩

/-- Two steps in a row put on record what the first may and what the second may. -/
theorem Stores.bind {next : α → σ → Outcome σ β} (h : o.Stores A stored)
    (hnext : (next o.answer o.state).Stores A stored) : (o.bind next).Stores A stored where
  kept := hnext.kept
  saved p hp := (List.mem_append.1 hp).elim (h.saved p) (hnext.saved p)

/-- Effects that save nothing may be added. -/
theorem Stores.also {effects : List Effect} (h : o.Stores A stored)
    (hquiet : ∀ p, Effect.save p ∉ effects) : (o.also effects).Stores A stored where
  kept := h.kept
  saved p hp := (List.mem_append.1 hp).elim (h.saved p) fun hmem => absurd hmem (hquiet p)

/-- What is answered has nothing to do with what is on record. -/
theorem Stores.map (h : o.Stores A stored) (f : α → β) : (o.map f).Stores A stored :=
  ⟨h.kept, h.saved⟩

end Outcome

/-! ### The tracker -/

namespace Bypass

variable {b : Bypass} {o : Outcome Bypass α}

/-- What the tracker saves is what it knows then. -/
theorem WritesThrough.stores (h : WritesThrough b o) (hA : o.state.stored.Among A) :
    o.Stores A Bypass.stored := by
  refine ⟨hA, fun p hp => ?_⟩
  -- Either nothing is saved, or the state that is left is.
  rcases h.stored with ⟨hnone, -⟩ | ⟨hsave, -⟩
  · rw [hnone] at hp
    cases hp
  · rw [hsave] at hp
    obtain rfl := Effect.save.inj (List.mem_singleton.1 hp)
    exact hA

/-- A reading of the tracker puts no challenge on record; it may take one off. -/
theorem stores_poll (h : b.stored.Among A) (now : Nat) : (b.poll now).Stores A Bypass.stored := by
  refine (b.writesThrough_poll now).stores ?_
  by_cases hexpired : (b.poll now).answer = .justExpired
  · exact Persisted.among_of_none (poll_completion_of_expired hexpired)
  · rw [poll_state_of_not_expired hexpired]
    exact h

/-- A report about a capability leaves the challenge on record alone. -/
theorem stores_confirm (h : b.stored.Among A) (c : Capability) (report : Option Bool) :
    (b.confirm c report).Stores A Bypass.stored := by
  refine (b.writesThrough_confirm c report).stores fun last hlast => h last ?_
  rwa [confirm_completion] at hlast

/-- The switch takes the challenge off the record or leaves it. -/
theorem stores_setEnabled (h : b.stored.Among A) (on : Bool) :
    (b.setEnabled on).Stores A Bypass.stored := by
  refine (b.writesThrough_setEnabled on).stores fun last hlast => h last ?_
  rw [Engine.setEnabled_completion] at hlast
  split at hlast
  · exact hlast
  · cases hlast

end Bypass

/-- Whoever decides about a page asks the tracker alone. -/
theorem Tamper.stores_decide {b : Bypass} (h : b.stored.Among A) (t : Tamper) (host : Host)
    (n : Navigation) : (t.decide b host n).Stores A (fun s => s.2.stored) := by
  have hlive : (guardActive b host n.category).Stores A Bypass.stored := by
    unfold guardActive
    split
    · exact Outcome.stores_quiet h fun p => List.not_mem_nil
    · exact Bypass.stores_confirm h _ _
  have hgate := Bypass.stores_poll hlive.kept host.now
  have hboth (p : Persisted) (hp : Effect.save p ∈ (guardActive b host n.category).effects ++
      ((guardActive b host n.category).state.gate host.now).effects) : p.Among A :=
    (List.mem_append.1 hp).elim (hlive.saved p) (hgate.saved p)
  -- The decision asks for the capability first and for the gate second, and may end before either.
  unfold decide
  dsimp only
  split
  · exact Outcome.stores_quiet h fun p => List.not_mem_nil
  split
  · exact Outcome.stores_quiet h fun p => List.not_mem_nil
  split
  · exact Outcome.stores_quiet h fun p => List.not_mem_nil
  split
  · exact ⟨hlive.kept, hlive.saved⟩
  split
  · exact ⟨hgate.kept, hboth⟩
  · exact ⟨hgate.kept, hboth⟩

/-! ### The engine -/

namespace Engine

variable {e : Engine} {host : Host}

/-- What outlives a restart of the engine. -/
def stored (e : Engine) : Persisted := e.bypass.stored

/-- Nor does a reading by the engine, which tells the log besides. -/
theorem stores_poll (h : e.stored.Among A) (host : Host) :
    (e.poll host).Stores A stored := by
  have hpoll := Bypass.stores_poll h host.now
  refine Outcome.Stores.also ⟨hpoll.kept, hpoll.saved⟩ fun p hp => ?_
  unfold expiryRecord at hp
  split at hp <;> simp at hp

/-- Whoever closes the window takes the challenge off the record. -/
theorem stores_clearBypass (e : Engine) : e.clearBypass.Stores A stored := by
  have hnone := Persisted.among_of_none (A := A) (Bypass.clear_completion e.bypass)
  refine ⟨hnone, fun p hp => (e.bypass.writesThrough_clear.stores hnone).saved p ?_⟩
  refine (List.mem_append.1 hp).resolve_right fun hrecord => ?_
  split at hrecord <;> simp at hrecord

/-- The switch of tamper protection puts no challenge on record. -/
theorem stores_setTamper (h : e.stored.Among A) (on : Bool) :
    (e.setTamper on).Stores A stored := by
  have hset := Bypass.stores_setEnabled h on
  refine ⟨?_, fun p hp => hset.saved p ?_⟩
  · rw [stored, setTamper_state]
    exact hset.kept
  · rw [setTamper_effects] at hp
    refine (List.mem_append.1 hp).resolve_right fun hrecord => ?_
    split at hrecord <;> simp at hrecord

/-- No report about a page puts a challenge on record. -/
theorem stores_navigate (h : e.stored.Among A) (host : Host) (n : Navigation) :
    (e.navigate host n).Stores A stored := by
  cases hs : e.stopped with
  | true =>
    rw [navigate_stopped hs]
    exact Outcome.stores_quiet h fun p => List.not_mem_nil
  | false =>
    have hpoll := stores_poll h host
    have hdecide := Tamper.stores_decide hpoll.kept e.tamper host.later n
    rw [navigate_running hs]
    refine hpoll.bind (Outcome.Stores.also ⟨hdecide.kept, hdecide.saved⟩ fun p hp => ?_)
    unfold afterDecision blocking at hp
    split at hp
    · split at hp <;> simp at hp
    · cases hp

/-- A call about another part leaves what is stored alone. -/
theorem stores_other {i : Input} (h : e.stored.Among A)
    (hpart : i.call.part = .lock ∨ i.call.part = .keyword) : (e.step i).Stores A stored := by
  refine ⟨?_, fun p hp => ?_⟩
  · rw [stored, (e.tamper_of_part hpart).1]
    exact h
  · -- A save is an effect of tamper protection, which this call is not about.
    have hwithin := e.within_step (i := i) (by rcases hpart with hp | hp <;> simp [hp]) _ hp
    rcases hpart with hlock | hkeyword
    · rw [hlock] at hwithin
      cases hwithin
    · rw [hkeyword] at hwithin
      cases hwithin

/-- New settings put no challenge on record. -/
theorem stores_reload (h : e.stored.Among A) (s : Settings) :
    (e.reload s).Stores A stored := by
  refine ⟨?_, fun p hp => ?_⟩
  · rw [stored, reload_state]
    dsimp only
    split
    · exact (Bypass.stores_setEnabled (b := (e.retune s).bypass) h false).kept
    · exact h
  · -- A reload saves only where it switches tamper protection off.
    have hown : Effect.save p ∈ own .tamper (e.reload s).effects :=
      List.mem_filter.2 ⟨hp, decide_eq_true rfl⟩
    rw [own_reload] at hown
    dsimp only at hown
    split at hown
    · exact (stores_setTamper (e := e.retune s) h false).saved p hown
    · cases hown

/-- The end puts no challenge on record. -/
theorem stores_shutdown (h : e.stored.Among A) : e.shutdown.Stores A stored := by
  refine ⟨?_, fun p hp => ?_⟩
  · unfold shutdown
    split <;> exact h
  · cases e.within_shutdown _ hp

/-- **Only a completed challenge is put on record.** -/
theorem stores_step {i : Input} (h : e.stored.Among A)
    (hcomplete : i.call = .complete → A i.now) : (e.step i).Stores A stored := by
  -- By the part a call is about: only calls about pages and the window have to do with the record.
  cases hpart : i.call.part
  case lock => exact stores_other h (.inl hpart)
  case keyword => exact stores_other h (.inr hpart)
  case tamper =>
    obtain ⟨host, call⟩ := i
    have hpoll := stores_poll h host
    cases call
    case complete =>
      have hnow : Persisted.Among A { e.bypass.stored with completion := some host.now } := by
        intro c hc
        obtain rfl := Option.some.inj hc
        exact hcomplete rfl
      refine ⟨hnow, fun p hp => ?_⟩
      rcases List.mem_append.1 hp with hsave | hrecord
      · obtain rfl := Effect.save.inj (List.mem_singleton.1 hsave)
        exact hnow
      · cases List.mem_singleton.1 hrecord
    case withinBypass | remainingBypass => exact ⟨hpoll.kept, hpoll.saved⟩
    case status =>
      refine ⟨hpoll.kept, fun p hp => hpoll.saved p ?_⟩
      exact (List.mem_append.1 hp).resolve_right List.not_mem_nil
    case gate =>
      have hgate := Bypass.stores_poll hpoll.kept host.later.now
      exact ⟨hgate.kept, fun p hp => (List.mem_append.1 hp).elim (hpoll.saved p) (hgate.saved p)⟩
    case clearBypass => exact ⟨(stores_clearBypass e).kept, (stores_clearBypass e).saved⟩
    case confirm c =>
      have hconfirm := Bypass.stores_confirm h c (host.capability c)
      exact ⟨hconfirm.kept, hconfirm.saved⟩
    case setTamper on => exact ⟨(stores_setTamper h on).kept, (stores_setTamper h on).saved⟩
    case navigate n =>
      exact ⟨(stores_navigate h host n).kept, (stores_navigate h host n).saved⟩
    all_goals cases hpart
  case whole =>
    obtain ⟨host, call⟩ := i
    cases call
    case reload s => exact ⟨(stores_reload h s).kept, (stores_reload h s).saved⟩
    case shutdown => exact ⟨(stores_shutdown h).kept, (stores_shutdown h).saved⟩
    all_goals cases hpart

end Engine

/-! ### The engine in time -/

namespace Service

variable {s : Service}

/-- What outlives a restart of the engine. -/
def stored (s : Service) : Persisted := s.engine.stored

/-- What holds of a step of the engine holds of the service after it. -/
theorem stores_after {o : Outcome Engine α} (h : o.Stores A Engine.stored) :
    (s.after o).Stores A stored := ⟨h.kept, h.saved⟩

/-- Neither a timer nor a sweep puts a challenge on record. -/
theorem stores_happen (h : s.stored.Among A) (event : Event) :
    (s.happen event).Stores A stored := by
  cases event with
  | timer t =>
    let s' : Service := { s.atTime t.due with timers := s.timers.remove t.id }
    have hstep := Engine.stores_step (i := ⟨s'.host, .timer t.event⟩) h (by rintro ⟨⟩)
    exact ⟨hstep.kept, hstep.saved⟩
  | sweep =>
    let s' : Service := { s.atTime s.nextSweep with
      nextSweep := (s.atTime s.nextSweep).elapsed + s.sweepEvery }
    have hstep := Engine.stores_step (i := ⟨s'.host, .sweep⟩) h (by rintro ⟨⟩)
    exact ⟨hstep.kept, hstep.saved⟩

/-- Nor does a row of them. -/
theorem stores_run (h : s.stored.Among A) (limit fuel : Nat) :
    (run limit fuel s).Stores A stored := by
  -- On the events still to come, of which there are at most as many as there is fuel.
  induction fuel generalizing s with
  | zero => exact Outcome.stores_quiet h fun p => List.not_mem_nil
  | succ fuel ih =>
    rw [run]
    split
    · exact Outcome.stores_quiet h fun p => List.not_mem_nil
    next event _ =>
      have hhappen := stores_happen h event
      exact hhappen.bind (ih hhappen.kept)

/-- While time goes by, no challenge is put on record. -/
theorem stores_advance (h : s.stored.Among A) (span : Nat) : (s.advance span).Stores A stored := by
  have hrun := stores_run h (s.elapsed + span) (s.mostEvents span)
  exact ⟨hrun.kept, fun p hp => hrun.saved p ((List.mem_append.1 hp).resolve_right List.not_mem_nil)⟩

end Service

/-! ### Lines from the host -/

namespace Wire

/-- The times of the challenges that a line completes. -/
def completions (s : Service) (line : String) : List Nat :=
  match reading line with
  | .request r => if r.command = .challengeCompleted then [s.host.now] else []
  | _ => []

/-- Of the requests to the engine, only the one that tells of a challenge puts one on record. -/
theorem stores_engineStep {e : Engine} (h : e.stored.Among A) (command : Command) (host : Host)
    (hcomplete : command = .challengeCompleted → A host.now) :
    (engineStep command e host).Stores A Engine.stored := by
  -- All requests but two are one call to the engine; those two read the window once more behind
  -- their first call.
  have hcall {o : Outcome Engine Json} (call : Engine.Call) (hne : call ≠ .complete)
      (hstate : o.state = (e.step ⟨host, call⟩).state)
      (heffects : o.effects = (e.step ⟨host, call⟩).effects) : o.Stores A Engine.stored := by
    have hstep := Engine.stores_step (i := ⟨host, call⟩) h fun heq => absurd heq hne
    refine ⟨?_, fun p hp => hstep.saved p ?_⟩
    · rw [hstate]
      exact hstep.kept
    · rwa [heffects] at hp
  cases command with
  | challengeCompleted =>
    have hdone := Engine.stores_step (i := ⟨host, .complete⟩) h fun _ => hcomplete rfl
    have hread := Engine.stores_poll hdone.kept host.later
    exact ⟨hread.kept, fun p hp => (List.mem_append.1 hp).elim (hdone.saved p) (hread.saved p)⟩
  | bypassWindow =>
    have hread := Engine.stores_poll h host
    have hagain := Engine.stores_poll hread.kept host.later
    exact ⟨hagain.kept, fun p hp => (List.mem_append.1 hp).elim (hread.saved p) (hagain.saved p)⟩
  | foreground app on => exact hcall (.foreground app on) nofun rfl rfl
  | settings n => exact hcall (.navigate n) nofun rfl rfl
  | content app text => exact hcall (.content app text) nofun rfl rfl
  | capability c active => exact hcall (.confirm c) nofun rfl rfl
  | touch app => exact hcall (.touch app) nofun rfl rfl
  | screenOff => exact hcall .screenOff nofun rfl rfl
  | unlock app => exact hcall (.grant app) nofun rfl rfl
  | isUnlocked app => exact hcall (.isUnlocked app) nofun rfl rfl
  | defer app => exact hcall (.deferChallenge app) nofun rfl rfl
  | query => exact hcall .status nofun rfl rfl
  | shutdown => exact hcall .shutdown nofun rfl rfl

/-- A request puts a challenge on record only if it says that one was completed. -/
theorem stores_handle {s : Service} (h : s.stored.Among A) (r : Request)
    (hcomplete : r.command = .challengeCompleted → A s.host.now) :
    (handle s r).1.stored.Among A ∧ ∀ handled, (handle s r).2 = some handled →
      ∀ p, Effect.save p ∈ handled.effects → p.Among A := by
  let s' : Service := { s with reports := reported r.command s.reports }
  have hstep : (s'.after (engineStep r.command s'.engine s'.host)).Stores A Service.stored :=
    Service.stores_after (stores_engineStep h r.command s'.host hcomplete)
  cases hrunning : s.running with
  | false =>
    rw [handle_of_stopped hrunning]
    exact ⟨h, nofun⟩
  | true =>
    -- After any other request than the last one the timers that are due take their turn.
    by_cases hr : r.command = .shutdown
    · rw [handle_of_shutdown hrunning hr]
      have hshutdown := Engine.stores_shutdown (e := s.engine) h
      refine ⟨hshutdown.kept, ?_⟩
      rintro handled ⟨⟩
      exact hshutdown.saved
    · rw [handle_of_ne hrunning hr]
      have hadvance := Service.stores_advance hstep.kept 0
      refine ⟨hadvance.kept, ?_⟩
      rintro handled ⟨⟩ p hp
      exact (List.mem_append.1 hp).elim (hstep.saved p) (hadvance.saved p)

/-- **A line puts a challenge on record only if it says that one was completed.** -/
theorem stores_handleLine {s : Service} {line : String} (h : s.stored.Among A)
    (hcomplete : ∀ c ∈ completions s line, A c) :
    (handleLine s line).1.stored.Among A ∧ ∀ handled, (handleLine s line).2 = some handled →
      ∀ p, Effect.save p ∈ handled.effects → p.Among A := by
  rw [handleLine_eq]
  cases hreading : reading line with
  | blank | fault f =>
    refine ⟨h, fun handled hhandled p hp => ?_⟩
    obtain rfl := Option.some.inj hhandled
    cases hp
  | request r =>
    refine stores_handle h r fun hr => hcomplete _ ?_
    rw [completions, hreading]
    simp [hr]

end Wire

end Warden
