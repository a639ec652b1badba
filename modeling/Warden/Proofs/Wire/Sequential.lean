import Warden.Proofs.Disk.Programs
import Warden.Proofs.Wire.Discipline
import Warden.Program.Serving

namespace Warden

/-!
# One line after the other

What `Wire.handleLine` makes of a line is one of the ways in which the steps of a dispatcher and of
an engine can interleave: the engine sends all that it has to send, what is due at once happens
while the dispatcher waits, and then comes the reply.

* `Wire.Exchange.Reaches` — what some row of moves comes to.
* `Wire.Exchange.conclude` — a step of the engine, with all its messages sent.
* `Wire.Exchange.reaches_advance`, `reaches_reload` — time goes by; new settings.
* `Wire.Exchange.reaches_told` — the calls of a request are the one step that it stands for.
* `Wire.Exchange.reaches_input` — all input.
-/

/-! ### What is due -/

/-- The timer that is over first is one of the timers. -/
theorem Timers.mem_of_earliest {pending : List PendingTimer} {t : PendingTimer}
    (h : earliest pending = some t) : t ∈ pending := by
  induction pending generalizing t with
  | nil => cases h
  | cons a rest ih =>
    rw [earliest] at h
    cases hrest : earliest rest with
    | none =>
      rw [hrest] at h
      obtain rfl := Option.some.inj h
      exact List.mem_cons_self
    | some b =>
      rw [hrest] at h
      dsimp only at h
      split at h
      · obtain rfl := Option.some.inj h
        exact List.mem_cons_of_mem a (ih hrest)
      · obtain rfl := Option.some.inj h
        exact List.mem_cons_self

namespace Service

variable {s : Service} {α β : Type}

/-- A timer that is due is pending. -/
theorem mem_of_next? {limit : Nat} {t : PendingTimer} (h : s.next? limit = some (.timer t)) :
    t ∈ s.timers.pending := by
  unfold next? at h
  split at h
  · cases h
  · split at h
    next t' hdue =>
      split at h
      · cases h
      · obtain rfl := Event.timer.inj (Option.some.inj h)
        exact Timers.mem_of_earliest (Option.filter_eq_some_iff.1 hdue).1
    · split at h <;> cases h

/-- The service by the time of the second reading of the clock in a step. -/
def later (s : Service) : Service := { s with origin := s.origin + s.lag, lag := 0 }

/-- At the second reading of the clock, a step sees what the next step would see at its first. -/
theorem host_later (s : Service) : s.later.host = s.host.later := by
  simp only [host, Host.later, later, timeOfDay, Nat.add_zero, Nat.add_right_comm s.origin s.lag]

/-- Two steps of the engine in a row are two steps of its service. -/
theorem after_bind (o : Outcome Engine α) (next : α → Engine → Outcome Engine β) :
    s.after (o.bind next) = (s.after o).bind fun a s => s.after (next a s.engine) := by
  simp only [after, Outcome.bind, List.filterMap_append, List.foldl_append]

/-- An engine does not stop while time goes by. -/
theorem running_run (limit fuel : Nat) : (run limit fuel s).state.running = s.running := by
  -- On the number of events that may still happen.
  induction fuel generalizing s with
  | zero => rfl
  | succ fuel ih =>
    rw [run]
    split
    · rfl
    next event _ =>
      show (run limit fuel (s.happen event).state).state.running = s.running
      rw [ih]
      cases event <;> rfl

theorem running_advance (span : Nat) : (s.advance span).state.running = s.running :=
  running_run _ _

end Service

namespace Wire

/-- A command comes to the one step that it stands for, unless there are two of them. -/
theorem calls_of_ne {command : Command} (h : command ≠ .challengeCompleted) :
    calls command = [engineStep command] := by
  cases command <;> first | rfl | exact absurd rfl h

/-- What comes of a request that is not for the end, while the engine has not stopped. -/
theorem handle_of_ne {s : Service} {r : Request} (hrunning : s.running = true)
    (hr : r.command ≠ .shutdown) :
    handle s r =
      let s := { s with reports := reported r.command s.reports }
      let o := s.after (engineStep r.command s.engine s.host)
      let p := o.state.advance 0
      (p.state, some ⟨.proceed, messagesOf (o.effects ++ p.effects) ++ replyTo r o.answer,
        o.effects ++ p.effects⟩) := by
  have hcall (step : Engine → Host → Outcome Engine Json) :
      Service.call { s with reports := reported r.command s.reports } step =
        some (Service.after { s with reports := reported r.command s.reports }
          (step s.engine (Service.host { s with reports := reported r.command s.reports }))) := by
    rw [Service.call, if_pos hrunning]
  unfold handle
  dsimp only
  split
  next hshutdown => exact absurd hshutdown hr
  · rw [hcall]
    rfl

/-- What comes of a request for the end, while the engine has not stopped. -/
theorem handle_of_shutdown {s : Service} {r : Request} (hrunning : s.running = true)
    (hr : r.command = .shutdown) :
    handle s r =
      let o := s.after s.engine.shutdown
      ({ o.state with running := false },
        some ⟨.stop, messagesOf o.effects ++ replyTo r .null, o.effects⟩) := by
  have hs : { s with reports := reported r.command s.reports } = s := by
    rw [hr]
    rfl
  unfold handle
  rw [hs]
  simp only [hr, Service.stop, Service.call, if_pos hrunning, Option.map_some]

/-- Nothing comes of a request once the engine has stopped, but for what it reports. -/
theorem handle_of_stopped {s : Service} {r : Request} (hstopped : s.running = false) :
    handle s r = ({ s with reports := reported r.command s.reports }, none) := by
  unfold handle Service.stop Service.call
  dsimp only
  rw [hstopped]
  split <;> rfl

/-- What is asked for first is told first. -/
theorem messagesOf_append (effects rest : List Effect) :
    messagesOf (effects ++ rest) = messagesOf effects ++ messagesOf rest := by
  simp only [messagesOf, List.filterMap_append, List.map_append]

namespace Exchange

variable {x y z : Exchange} {α β : Type} {source : Source}

/-! ### Rows of moves -/

/-- Whether some row of moves leads from one state of affairs to another. -/
def Reaches (x y : Exchange) : Prop := ∃ moves, x.run moves = y

theorem Reaches.refl (x : Exchange) : x.Reaches x := ⟨[], rfl⟩

/-- One move is a row of one. -/
theorem Reaches.step (x : Exchange) (m : Move) : x.Reaches (x.step m) := ⟨[m], rfl⟩

theorem Reaches.trans (hxy : x.Reaches y) (hyz : y.Reaches z) : x.Reaches z := by
  obtain ⟨first, rfl⟩ := hxy
  obtain ⟨rest, rfl⟩ := hyz
  exact ⟨first ++ rest, List.foldl_append⟩

theorem Reaches.two (x : Exchange) (m n : Move) : x.Reaches ((x.step m).step n) := ⟨[m, n], rfl⟩

/-- The clock may move without any time passing. -/
theorem step_pass (x : Exchange) (origin lag : Nat) :
    x.step (.pass x.service.elapsed origin lag) =
      { x with service := { x.service with origin, lag } } := by
  simp only [step, Service.atTime, Nat.max_self]

/-! ### Steps of the engine as a whole -/

/-- The engine has taken a step, and has sent all that it had to send. -/
def conclude (x : Exchange) (source : Source) (answer : Option Json) (last : Bool)
    (o : Outcome Service α) : Exchange :=
  { x with
    service := o.state
    worker := if last then .gone else .free
    answer := answer.or x.answer
    out := x.out ++ (messagesOf o.effects).map (source, ·)
    asked := x.asked ++ (o.effects.filterMap Effect.surface?).map (source, ·) }

/-- Nothing is sent where no effect is asked for. -/
theorem conclude_answering (hfree : x.worker = .free) (service : Service) (a : α) :
    x.conclude source none false (.answering service a) = { x with service } := by
  obtain ⟨lines, handled, service, dispatcher, jobs, worker, answer, out, asked⟩ := x
  obtain rfl : worker = .free := hfree
  simp [conclude, Outcome.answering, messagesOf]

/-- What the engine does, it may do in several steps. -/
theorem conclude_bind (o : Outcome Service α) (next : α → Service → Outcome Service β)
    (answer : Option Json) (last : Bool) :
    (x.conclude source none false o).conclude source answer last (next o.answer o.state) =
      x.conclude source answer last (o.bind next) := by
  simp only [conclude, Outcome.bind, messagesOf_append, List.filterMap_append, List.map_append,
    List.append_assoc, Option.none_or]

/-- What is left to be sent is sent. -/
theorem reaches_sent {left : List Message} {answer : Option Json} {last : Bool}
    (hbusy : x.worker = .busy source left answer last) :
    x.Reaches { x with
      worker := if last then .gone else .free
      answer := answer.or x.answer
      out := x.out ++ left.map (source, ·) } := by
  -- On the messages that are left; when there are none any more, the engine is free.
  induction left generalizing x with
  | nil =>
    have hfinish : x.step .work = { x with
        worker := if last then .gone else .free, answer := answer.or x.answer } := by
      simp only [step, work, hbusy]
    rw [List.map_nil, List.append_nil, ← hfinish]
    exact .step x .work
  | cons m left ih =>
    have hemit : x.step .work = { x with
        worker := .busy source left answer last, out := x.out ++ [(source, m)] } := by
      simp only [step, work, hbusy]
    have hrest := ih (x := x.step .work) (by rw [hemit])
    rw [hemit] at hrest
    rw [List.map_cons, List.append_cons]
    exact (hemit ▸ Reaches.step x .work).trans hrest

/-- A step of the engine that has begun is concluded. -/
theorem reaches_conclude (answer : Option Json) (last : Bool) (o : Outcome Service α) :
    (x.begin source answer last o).Reaches (x.conclude source answer last o) :=
  reaches_sent rfl

/-- The engine takes the only job that there is. -/
theorem reaches_take {job : Job} (hfree : x.worker = .free) (hjobs : x.jobs = [job]) :
    x.Reaches (take { x with jobs := [] } job) := by
  have hstep : x.step .work = take { x with jobs := [] } job := by
    simp only [step, work, hfree, hjobs]
  rw [← hstep]
  exact .step x .work

/-! ### Time goes by -/

/-- Something happens by itself. -/
theorem reaches_happen {limit : Nat} {event : Service.Event} (hfree : x.worker = .free)
    (hjobs : x.jobs = []) (hnext : x.service.next? limit = some event) :
    x.Reaches (x.conclude .itself none false (x.service.happen event)) := by
  cases event with
  | timer t =>
    let s : Service := { x.service.atTime t.due with timers := x.service.timers.remove t.id }
    let rung : Exchange := { x with service := s, jobs := [.timer t.event] }
    -- The timer is due, so it may ring now, and its event is the only job.
    have hmem : t ∈ x.service.timers.pending := Service.mem_of_next? hnext
    have hring : (x.step (.pass t.due x.service.origin x.service.lag)).step (.ring t) = rung := by
      simp only [step, Service.atTime, if_pos hmem, hjobs]
      rfl
    have htake : rung.Reaches
        (begin { x with jobs := [] } .itself none false (x.service.happen (.timer t))) :=
      reaches_take (x := rung) hfree rfl
    rw [← hjobs] at htake
    exact (hring ▸ Reaches.two x _ _).trans (htake.trans (reaches_conclude none false _))
  | sweep =>
    have hsweep : (x.step (.pass x.service.nextSweep x.service.origin x.service.lag)).step .sweep =
        x.begin .itself none false (x.service.happen .sweep) := by
      simp only [step, sweep, hfree]
      rfl
    exact (hsweep ▸ Reaches.two x _ _).trans (reaches_conclude none false _)

/-- Several things happen by themselves. -/
theorem reaches_run (hfree : x.worker = .free) (hjobs : x.jobs = []) (limit fuel : Nat) :
    x.Reaches (x.conclude .itself none false (Service.run limit fuel x.service)) := by
  -- On the number of events: the first one happens, and the rest goes on from the state after it.
  induction fuel generalizing x with
  | zero =>
    rw [Service.run, conclude_answering hfree]
    exact .refl x
  | succ fuel ih =>
    rw [Service.run]
    cases hnext : x.service.next? limit with
    | none =>
      dsimp only
      rw [conclude_answering hfree]
      exact .refl x
    | some event =>
      dsimp only
      rw [← conclude_bind]
      exact (reaches_happen hfree hjobs hnext).trans (ih rfl hjobs)

/-- Time goes by. -/
theorem reaches_advance (hfree : x.worker = .free) (hjobs : x.jobs = []) (span : Nat) :
    x.Reaches (x.conclude .itself none false (x.service.advance span)) := by
  let limit := x.service.elapsed + span
  let o := Service.run limit (x.service.mostEvents span) x.service
  have hpass :=
    Reaches.step (x.conclude .itself none false o) (.pass limit o.state.origin o.state.lag)
  have hrest : x.conclude .itself none false (x.service.advance span) =
      (x.conclude .itself none false o).step (.pass limit o.state.origin o.state.lag) := by
    rw [Service.advance, ← conclude_bind, conclude_answering rfl]
    rfl
  rw [hrest]
  exact (reaches_run hfree hjobs limit _).trans hpass

/-- New settings come into force. -/
theorem reaches_reload (hfree : x.worker = .free) (hjobs : x.jobs = []) (settings : Settings) :
    x.Reaches (x.conclude .itself none false
      (x.service.after (x.service.engine.reload settings))) := by
  let asked : Exchange := { x with jobs := [.reload settings] }
  have hretune : x.step (.retune settings) = asked := by
    simp only [step, hjobs]
    rfl
  have htake : asked.Reaches (begin { x with jobs := [] } .itself none false
      (x.service.after (x.service.engine.reload settings))) :=
    reaches_take (x := asked) hfree rfl
  rw [← hjobs] at htake
  exact (hretune ▸ Reaches.step x _).trans (htake.trans (reaches_conclude none false _))

/-! ### A line -/

/-- Whether nothing is under way, and the engine has not stopped. -/
structure AtRest (x : Exchange) : Prop where
  idle : x.dispatcher = .idle
  jobs : x.jobs = []
  free : x.worker = .free
  answer : x.answer = none
  running : x.service.running = true

theorem atRest_start {s : Service} (hrunning : s.running = true) (lines : List String) :
    (start s lines).AtRest := ⟨rfl, rfl, rfl, rfl, hrunning⟩

/-- The dispatcher waits for the result of a job, after which there is more to be done. -/
def awaiting (x : Exchange) (r : Request) (job : Job) (todo : List Job) : Exchange :=
  { x with dispatcher := .waiting r todo, jobs := [job] }

/-- The dispatcher has the result of all that was to be done. -/
def told (x : Exchange) (r : Request) : Exchange :=
  { x with dispatcher := .waiting r [], jobs := [] }

/-- A request is read, and the first job is put into the channel. -/
theorem AtRest.reaches_awaiting {line : String} {r : Request} {job : Job} {todo : List Job}
    (h : x.AtRest) (hline : x.lines[x.handled]? = some line) (hreading : reading line = .request r)
    (hjobs : Wire.jobs x.handled r.command = job :: todo) :
    x.Reaches (awaiting
      { x with service := { x.service with reports := reported r.command x.service.reports } }
      r job todo) := by
  have hread : (x.step .dispatch).step .dispatch = awaiting
      { x with service := { x.service with reports := reported r.command x.service.reports } }
      r job todo := by
    have hfirst : x.step .dispatch = x.read (.request r) := by
      simp only [step, dispatch, h.idle, hline, hreading]
    rw [hfirst]
    simp only [step, dispatch, read, hjobs, send, h.jobs]
    rfl
  exact hread ▸ Reaches.two x .dispatch .dispatch

/-- A call is answered. -/
theorem reaches_answer {r : Request} {call : EngineCall} {todo : List Job} {k : Nat}
    (hfree : x.worker = .free) :
    (x.awaiting r (.call k call) todo).Reaches
      (conclude { x with dispatcher := .waiting r todo, jobs := [] } (.call k)
        (some (call x.service.engine x.service.host).answer) false
        (x.service.after (call x.service.engine x.service.host))) :=
  (reaches_take (x := x.awaiting r (.call k call) todo) hfree rfl).trans
    (reaches_conclude _ false _)

/-- All calls of a request are answered: together they are the step that the command stands for. -/
theorem reaches_told {r : Request} {job : Job} {todo : List Job} (hfree : x.worker = .free)
    (hanswer : x.answer = none) (hr : r.command ≠ .shutdown)
    (hjobs : Wire.jobs x.handled r.command = job :: todo) :
    (x.awaiting r job todo).Reaches
      ((x.told r).conclude (.call x.handled)
        (some (engineStep r.command x.service.engine x.service.host).answer) false
        (x.service.after (engineStep r.command x.service.engine x.service.host))) := by
  rw [jobs_of_ne hr] at hjobs
  by_cases hc : r.command = .challengeCompleted
  · rw [hc] at hjobs ⊢
    obtain ⟨rfl, rfl⟩ := List.cons.inj hjobs
    let o := x.service.after (silent (x.service.engine.complete x.service.host))
    let second : EngineCall := fun e host => (e.remainingBypass host).map Json.natural
    let told : Exchange := x.conclude (.call x.handled) none false o
    let late : Exchange := { told with service := o.state.later }
    -- The first answer only asks for the second call.
    have hmore : (conclude
        { x with dispatcher := .waiting r [.call x.handled second], jobs := [] }
        (.call x.handled) (some o.answer) false o).step .dispatch =
        told.awaiting r (.call x.handled second) [] := by
      simp only [step, dispatch, conclude, Option.some_or, send, told, hanswer, Option.none_or]
      rfl
    -- The second call reads the clock once more, and by then it has moved on.
    have hlate : (told.awaiting r (.call x.handled second) []).step
        (.pass o.state.elapsed (o.state.origin + o.state.lag) 0) =
        late.awaiting r (.call x.handled second) [] := step_pass _ _ _
    have hsecond : (late.awaiting r (.call x.handled second) []).Reaches
        ((late.told r).conclude (.call x.handled)
          (some (second o.state.engine o.state.later.host).answer) false
          (o.state.later.after (second o.state.engine o.state.later.host))) :=
      reaches_answer rfl
    have hback : ((late.told r).conclude (.call x.handled)
          (some (second o.state.engine o.state.later.host).answer) false
          (o.state.later.after (second o.state.engine o.state.later.host))).step
            (.pass o.state.elapsed o.state.origin o.state.lag) =
        (told.told r).conclude (.call x.handled)
          (some (second o.state.engine o.state.host.later).answer) false
          (o.state.after (second o.state.engine o.state.host.later)) := by
      rw [Service.host_later]
      exact step_pass _ _ _
    have hboth : (told.told r).conclude (.call x.handled)
          (some (second o.state.engine o.state.host.later).answer) false
          (o.state.after (second o.state.engine o.state.host.later)) =
        (x.told r).conclude (.call x.handled)
          (some (engineStep .challengeCompleted x.service.engine x.service.host).answer) false
          (x.service.after (engineStep .challengeCompleted x.service.engine x.service.host)) := by
      rw [engineStep, Service.after_bind]
      exact conclude_bind (x := x.told r) o (fun _ s => s.after (second s.engine s.host.later)) _
        false
    rw [← hboth, ← hback]
    exact (reaches_answer hfree).trans ((hmore ▸ Reaches.step _ .dispatch).trans
      ((hlate ▸ Reaches.step _ _).trans (hsecond.trans (.step _ _))))
  · rw [calls_of_ne hc] at hjobs
    obtain ⟨rfl, rfl⟩ := List.cons.inj hjobs
    exact reaches_answer hfree

/-- The messages that were sent, whoever sent them. -/
def sent (x : Exchange) : List Message := x.out.map (·.2)

/-- Without their sources, messages are what they were. -/
theorem map_tagged (source : Source) (messages : List Message) :
    (messages.map (source, ·)).map (·.2) = messages := by
  rw [List.map_map]
  exact List.map_id messages

/-- Whether a line has been handled: with the messages that were to be sent, and with the flow that
was to come of it. -/
structure Handles (x : Exchange) (service : Service) (h : Handled) (y : Exchange) : Prop where
  lines : y.lines = x.lines
  handled : y.handled = x.handled + 1
  service : y.service = service
  sent : y.sent = x.sent ++ h.messages
  proceed : h.flow = .proceed → y.AtRest
  stop : h.flow = .stop → y.dispatcher = .stopped

/-- A line that is no request is handled. -/
theorem AtRest.reaches_skip {line : String} (h : x.AtRest)
    (hline : x.lines[x.handled]? = some line) (messages : List Message)
    (hread : x.read (reading line) = { x with
      handled := x.handled + 1, out := x.out ++ messages.map (.answer x.handled, ·) }) :
    ∃ y, x.Reaches y ∧ x.Handles x.service ⟨.proceed, messages, []⟩ y := by
  have hstep : x.step .dispatch = x.read (reading line) := by
    simp only [step, dispatch, h.idle, hline]
  refine ⟨x.step .dispatch, .step x .dispatch, ?_⟩
  rw [hstep, hread]
  exact {
    lines := rfl
    handled := rfl
    service := rfl
    sent := by simp only [Exchange.sent, List.map_append, map_tagged]
    proceed := fun _ => ⟨h.idle, h.jobs, h.free, h.answer, h.running⟩
    stop := fun hflow => by cases hflow }

/-- A request for the end is handled. -/
theorem AtRest.reaches_stop {line : String} {r : Request} (h : x.AtRest)
    (hline : x.lines[x.handled]? = some line) (hreading : reading line = .request r)
    (hr : r.command = .shutdown) :
    ∃ y handled, x.Reaches y ∧ (handle x.service r).2 = some handled ∧
      x.Handles (handle x.service r).1 handled y := by
  let o := x.service.after x.service.engine.shutdown
  let stopped : Outcome Service Unit := { o with state := { o.state with running := false } }
  let told : Exchange := (x.told r).conclude (.call x.handled) (some .null) true stopped
  have hreported : reported r.command x.service.reports = x.service.reports := by
    rw [hr]
    rfl
  have hfirst := h.reaches_awaiting hline hreading
    (show Wire.jobs x.handled r.command = [.stop x.handled] by rw [hr]; rfl)
  rw [hreported] at hfirst
  have htold : (x.awaiting r (.stop x.handled) []).Reaches told :=
    (reaches_take (x := x.awaiting r (.stop x.handled) []) h.free rfl).trans
      (reaches_conclude (some .null) true stopped)
  have hreply : told.step .dispatch = told.reply r .null := by
    simp only [step, dispatch, told, conclude, Exchange.told, if_true, Option.some_or]
  rw [handle_of_shutdown h.running hr]
  refine ⟨told.reply r .null, _, ?_, rfl, ?_⟩
  · exact hfirst.trans (htold.trans (hreply ▸ Reaches.step told .dispatch))
  exact {
    lines := rfl
    handled := rfl
    service := rfl
    sent := by
      simp only [Exchange.sent, reply, told, conclude, Exchange.told, List.map_append,
        map_tagged, List.append_assoc]
      rfl
    proceed := fun hflow => by cases hflow
    stop := fun _ => if_pos hr }

/-- A request that is not for the end is handled. -/
theorem AtRest.reaches_proceed {line : String} {r : Request} (h : x.AtRest)
    (hline : x.lines[x.handled]? = some line) (hreading : reading line = .request r)
    (hr : r.command ≠ .shutdown) :
    ∃ y handled, x.Reaches y ∧ (handle x.service r).2 = some handled ∧
      x.Handles (handle x.service r).1 handled y := by
  obtain ⟨job, todo, hjobs⟩ := List.exists_cons_of_ne_nil (jobs_ne_nil x.handled r.command)
  let s : Service := { x.service with reports := reported r.command x.service.reports }
  let reported : Exchange := { x with service := s }
  let o := s.after (engineStep r.command s.engine s.host)
  let told : Exchange := (reported.told r).conclude (.call x.handled) (some o.answer) false o
  let rested : Exchange := told.conclude .itself none false (o.state.advance 0)
  have htold : x.Reaches told :=
    (h.reaches_awaiting hline hreading hjobs).trans
      (reaches_told (x := reported) h.free h.answer hr hjobs)
  -- What is due by now happens before the reply.
  have hrested : told.Reaches rested := reaches_advance rfl rfl 0
  have hreply : rested.step .dispatch = rested.reply r o.answer := by
    simp only [step, dispatch, rested, told, conclude, Exchange.told, if_true, Option.none_or,
      Option.some_or]
  rw [handle_of_ne h.running hr]
  refine ⟨rested.reply r o.answer, _, ?_, rfl, ?_⟩
  · exact htold.trans (hrested.trans (hreply ▸ Reaches.step rested .dispatch))
  exact {
    lines := rfl
    handled := rfl
    service := rfl
    sent := by
      simp only [Exchange.sent, reply, rested, told, conclude, Exchange.told, List.map_append,
        map_tagged, messagesOf_append, List.append_assoc]
      rfl
    proceed := fun _ => ⟨if_neg hr, rfl, rfl, rfl, by
      show (o.state.advance 0).state.running = true
      rw [Service.running_advance]
      exact h.running⟩
    stop := fun hflow => by cases hflow }

/-- A line is handled as if nothing else were going on. -/
theorem AtRest.reaches_line {line : String} (h : x.AtRest) (hline : x.lines[x.handled]? = some line) :
    ∃ y handled, x.Reaches y ∧ (handleLine x.service line).2 = some handled ∧
      x.Handles (handleLine x.service line).1 handled y := by
  rw [handleLine_eq]
  -- A line is blank, or no request, or a request that ends the engine or not.
  cases hreading : reading line with
  | blank =>
    have hread : x.read (reading line) = { x with
        handled := x.handled + 1, out := x.out ++ [].map (.answer x.handled, ·) } := by
      rw [hreading, List.map_nil, List.append_nil]
      rfl
    obtain ⟨y, hy, hhandles⟩ := h.reaches_skip hline [] hread
    exact ⟨y, _, hy, rfl, hhandles⟩
  | fault f =>
    obtain ⟨y, hy, hhandles⟩ := h.reaches_skip hline [rejection f] (by rw [hreading]; rfl)
    exact ⟨y, _, hy, rfl, hhandles⟩
  | request r =>
    by_cases hr : r.command = .shutdown
    · exact h.reaches_stop hline hreading hr
    · exact h.reaches_proceed hline hreading hr

/-! ### All lines -/

section Lines

open Program

/-- What a running engine makes of a line. -/
theorem run_readLine {s : Serving} {line : String} {h : Handled} (t : Tree) (time : String)
    (hline : (handleLine s.service line).2 = some h) :
    (t.run (s.readLine time line)).1 =
      ({ s with service := (handleLine s.service line).1 }, h.flow, h.messages) := by
  unfold Serving.readLine
  cases hp : handleLine s.service line with
  | mk service handled =>
    rw [hp] at hline
    obtain rfl : handled = some h := hline
    rfl

/-- All lines are handled one after the other. -/
theorem AtRest.reaches_readLines {s : Serving} {rest : List String} (h : x.AtRest)
    (hs : s.service = x.service) (hle : x.handled ≤ x.lines.length)
    (hrest : x.lines.drop x.handled = rest) (time : String) (t : Tree) :
    ∃ y, x.Reaches y ∧ y.Finished ∧
      y.service = (t.run (s.readLines time rest)).1.1.service ∧
      y.sent = x.sent ++ (t.run (s.readLines time rest)).1.2 := by
  -- On the lines that are left: the first one is handled, and nothing is under way for the next.
  induction rest generalizing x s t with
  | nil =>
    refine ⟨x, .refl x, .inr ⟨h.idle, ?_⟩, hs.symm, (List.append_nil _).symm⟩
    have hend : x.lines.length ≤ x.handled := List.drop_eq_nil_iff.1 hrest
    omega
  | cons line rest ih =>
    have hline : x.lines[x.handled]? = some line := by
      rw [← List.head?_drop, hrest]
      rfl
    obtain ⟨y, handled, hy, hhandled, hhandles⟩ := h.reaches_line hline
    rw [← hs] at hhandled hhandles
    have hread := run_readLine t time hhandled
    rw [Serving.readLines, Tree.run_bind, hread]
    generalize (t.run (s.readLine time line)).2 = t'
    cases hflow : handled.flow with
    | stop => exact ⟨y, hy, .inl (hhandles.stop hflow), hhandles.service, hhandles.sent⟩
    | proceed =>
      have hlt := lt_of_getElem? hline
      have hdrop : y.lines.drop y.handled = rest := by
        rw [hhandles.lines, hhandles.handled, ← List.tail_drop, hrest, List.tail_cons]
      have hley : y.handled ≤ y.lines.length := by
        rw [hhandles.lines, hhandles.handled]
        exact hlt
      obtain ⟨z, hz, hfinished, hservice, hsent⟩ := ih (hhandles.proceed hflow)
        (s := { s with service := (handleLine s.service line).1 }) hhandles.service.symm hley hdrop t'
      refine ⟨z, hy.trans hz, hfinished, hservice, ?_⟩
      rw [hsent, hhandles.sent, List.append_assoc]
      rfl

/-- **What an engine makes of its input is one of the interleavings**: the messages that it writes
are the ones of some row of moves, which leads to the same engine. -/
theorem reaches_input (s : Serving) (hrunning : s.service.running = true) (lines : List String)
    (time : String) (t : Tree) :
    ∃ moves, ((start s.service lines).run moves).Finished ∧
      ((start s.service lines).run moves).service =
        (t.run (s.readLines time lines)).1.1.service ∧
      ((start s.service lines).run moves).sent = (t.run (s.readLines time lines)).1.2 := by
  obtain ⟨y, ⟨moves, rfl⟩, hy⟩ := (atRest_start hrunning lines).reaches_readLines rfl
    (Nat.zero_le _) List.drop_zero time t
  exact ⟨moves, hy⟩

end Lines

end Exchange

end Wire

end Warden
