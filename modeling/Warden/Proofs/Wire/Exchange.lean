import Mathlib.Data.List.Basic
import Warden.Wire.Dispatch

namespace Warden.Wire

/-!
# A dispatcher and an engine

Lines are read by a dispatcher, which puts calls into the channel of the engine and waits for the
answers.  The engine takes from its channel what is there first, be it a call or the event of a
timer; now and then it sweeps.  Both send messages, one at a time, and whoever is faster is first.

* `reading`, `upToEnd` — what a line is to the dispatcher, and the lines that it reads.
* `jobs` — the calls that a command comes to.
* `Exchange`, `Exchange.dispatch`, `Exchange.work` — the two parties with what is under way between
  them, and the next step of either.
* `Move`, `Exchange.run` — the order in which steps are taken is arbitrary, and a step that is not
  possible changes nothing.
* `Exchange.Sound`, `sound_run` — the two parties never lose each other.
-/

/-! ### Lines -/

/-- What a line is to the dispatcher. -/
inductive Reading where
  | blank
  | fault (f : Json.Fault)
  | request (r : Request)

/-- What a line is to the dispatcher: blanks at its ends do not count. -/
def reading (line : String) : Reading :=
  let line := Text.trim line
  if line.isEmpty then .blank
  else
    match Request.ofText line with
    | .error f => .fault f
    | .ok r => .request r

/-- Whether a line asks for the end. -/
def Reading.isEnd : Reading → Bool
  | .request r => r.command = .shutdown
  | _ => false

/-- The lines up to the first one that asks for the end. -/
def upToEnd : List String → List String
  | [] => []
  | line :: rest => line :: if (reading line).isEnd then [] else upToEnd rest

/-- A line is handled according to what it is. -/
theorem handleLine_eq (s : Service) (line : String) :
    handleLine s line =
      match reading line with
      | .blank => (s, some ⟨.proceed, [], []⟩)
      | .fault f => (s, some ⟨.proceed, [rejection f], []⟩)
      | .request r => handle s r := by
  simp only [handleLine, reading]
  split
  · rfl
  · cases Request.ofText (Text.trim line) <;> rfl

/-! ### Calls -/

/-- A call to the engine, with its result. -/
abbrev EngineCall := Engine → Host → Outcome Engine Json

/-- The calls that a command comes to, one after the other; the result of the last one counts. -/
def calls : Command → List EngineCall
  | .challengeCompleted =>
    [fun e host => silent (e.complete host),
      fun e host => (e.remainingBypass host).map Json.natural]
  | command => [engineStep command]

/-- Something the engine is to do. -/
inductive Job where
  /-- A call for a line. -/
  | call (line : Nat) (call : EngineCall)
  /-- The end, for a line. -/
  | stop (line : Nat)
  | timer (event : TimerEvent)
  | reload (settings : Settings)

/-- The line that a job is done for. -/
def Job.line? : Job → Option Nat
  | .call line _ | .stop line => some line
  | .timer _ | .reload _ => none

/-- What a command of a line comes to. -/
def jobs (line : Nat) : Command → List Job
  | .shutdown => [.stop line]
  | command => (calls command).map (.call line)

/-- The request for the end is the end, without a call. -/
theorem jobs_shutdown (line : Nat) : jobs line .shutdown = [.stop line] := rfl

/-- Every other request is its calls. -/
theorem jobs_of_ne {command : Command} (h : command ≠ .shutdown) (line : Nat) :
    jobs line command = (calls command).map (.call line) := by
  cases command <;> first | rfl | exact absurd rfl h

/-- There is something to be done for every request. -/
theorem jobs_ne_nil (line : Nat) (command : Command) : jobs line command ≠ [] := by
  cases command <;> simp [jobs, calls]

/-- No command comes to more than two calls. -/
theorem length_jobs_le (line : Nat) (command : Command) : (jobs line command).length ≤ 2 := by
  cases command <;> simp [jobs, calls]

/-- All that is done for a line is done for this line. -/
theorem line?_of_mem_jobs {line : Nat} {command : Command} {job : Job}
    (h : job ∈ jobs line command) : job.line? = some line := by
  by_cases hc : command = .shutdown
  · subst hc
    obtain rfl := List.mem_singleton.1 h
    rfl
  · rw [jobs_of_ne hc] at h
    obtain ⟨call, -, rfl⟩ := List.mem_map.1 h
    rfl

/-- The engine is stopped for no other line than one that asks for it. -/
theorem stop_mem_jobs {line k : Nat} {command : Command} (h : .stop k ∈ jobs line command) :
    command = .shutdown := by
  by_contra hc
  rw [jobs_of_ne hc] at h
  obtain ⟨call, -, hcall⟩ := List.mem_map.1 h
  cases hcall

/-- There are no calls for a request that asks for the end. -/
theorem call_mem_jobs {line k : Nat} {command : Command} {call : EngineCall}
    (h : .call k call ∈ jobs line command) : command ≠ .shutdown := by
  rintro rfl
  cases List.mem_singleton.1 h

/-! ### The parties -/

/-- Where a message comes from. -/
inductive Source where
  /-- The engine, while it answers a call for a line. -/
  | call (line : Nat)
  /-- The dispatcher, when it is done with a line. -/
  | answer (line : Nat)
  /-- The engine by itself: a timer, a sweep or new settings. -/
  | itself
  deriving DecidableEq

/-- Where the dispatcher is. -/
inductive Dispatcher where
  /-- About to read the next line. -/
  | idle
  /-- What the request reports is known, and nothing has been put to the engine yet. -/
  | calling (r : Request)
  /-- An answer is awaited; after that there is more to be done. -/
  | waiting (r : Request) (todo : List Job)
  | stopped

/-- Where the engine is. -/
inductive Worker where
  | free
  /-- Messages are still to be sent, and then an answer if somebody waits for it; `last` tells
  whether the engine stops after that. -/
  | busy (source : Source) (left : List Message) (answer : Option Json) (last : Bool)
  | gone

/-- A dispatcher and an engine, and what is under way between them. -/
structure Exchange where
  /-- All input. -/
  lines : List String
  /-- How many lines the dispatcher is done with. -/
  handled : Nat
  service : Service
  dispatcher : Dispatcher
  jobs : List Job
  worker : Worker
  /-- An answer that the dispatcher has not taken yet. -/
  answer : Option Json
  /-- All messages that were sent, the first one first. -/
  out : List (Source × Message)
  /-- All actions on the screen that the engine has asked for, the first one first. -/
  asked : List (Source × Surface.Action)

namespace Exchange

/-- Nothing has been read or sent. -/
def start (service : Service) (lines : List String) : Exchange where
  lines
  handled := 0
  service
  dispatcher := .idle
  jobs := []
  worker := .free
  answer := none
  out := []
  asked := []

/-! ### Steps of the dispatcher -/

/-- Puts the first of several jobs into the channel. -/
def send (x : Exchange) (r : Request) : List Job → Exchange
  | [] => x
  | job :: todo => { x with dispatcher := .waiting r todo, jobs := x.jobs ++ [job] }

/-- Reads a line. What a request reports is known from now on. -/
def read (x : Exchange) : Reading → Exchange
  | .blank => { x with handled := x.handled + 1 }
  | .fault f =>
    { x with handled := x.handled + 1, out := x.out ++ [(.answer x.handled, rejection f)] }
  | .request r =>
    { x with
      service := { x.service with reports := reported r.command x.service.reports }
      dispatcher := .calling r }

/-- Replies to a request. -/
def reply (x : Exchange) (r : Request) (result : Json) : Exchange :=
  { x with
    handled := x.handled + 1
    dispatcher := if r.command = .shutdown then .stopped else .idle
    answer := none
    out := x.out ++ (replyTo r result).map (.answer x.handled, ·) }

/-- The next step of the dispatcher. -/
def dispatch (x : Exchange) : Exchange :=
  match x.dispatcher with
  | .idle =>
    match x.lines[x.handled]? with
    | none => x
    | some line => x.read (reading line)
  | .calling r => x.send r (Wire.jobs x.handled r.command)
  | .waiting r todo =>
    match x.answer with
    | none => x
    | some result =>
      if todo = [] then x.reply r result else send { x with answer := none } r todo
  | .stopped => x

/-! ### Steps of the engine -/

/-- The engine takes a step, whose messages are to be sent. -/
def begin (x : Exchange) (source : Source) (answer : Option Json) (last : Bool)
    (o : Outcome Service α) : Exchange :=
  { x with
    service := o.state
    worker := .busy source (messagesOf o.effects) answer last
    asked := x.asked ++ (o.effects.filterMap Effect.surface?).map (source, ·) }

/-- The engine starts a job. -/
def take (x : Exchange) : Job → Exchange
  | .call line call =>
    let o := x.service.after (call x.service.engine x.service.host)
    x.begin (.call line) (some o.answer) false o
  | .stop line =>
    let o := x.service.after x.service.engine.shutdown
    x.begin (.call line) (some .null) true
      { o with state := { o.state with running := false } }
  | .timer event =>
    x.begin .itself none false
      (x.service.after (x.service.engine.timer x.service.host event))
  | .reload settings =>
    x.begin .itself none false (x.service.after (x.service.engine.reload settings))

/-- The next step of the engine. -/
def work (x : Exchange) : Exchange :=
  match x.worker with
  | .free =>
    match x.jobs with
    | [] => x
    | job :: rest => take { x with jobs := rest } job
  | .busy source (m :: left) answer last =>
    { x with worker := .busy source left answer last, out := x.out ++ [(source, m)] }
  | .busy _ [] answer last =>
    { x with worker := if last then .gone else .free, answer := answer.or x.answer }
  | .gone => x

/-- The engine sweeps if it has nothing else to do. -/
def sweep (x : Exchange) : Exchange :=
  match x.worker with
  | .free =>
    let s := { x.service with nextSweep := x.service.elapsed + x.service.sweepEvery }
    x.begin .itself none false (s.after (s.engine.sweep s.host))
  | _ => x

end Exchange

/-! ### Moves -/

/-- Something that may happen. -/
inductive Move where
  | dispatch
  | work
  | sweep
  /-- A pending timer puts its event into the channel of the engine. -/
  | ring (t : PendingTimer)
  /-- Somebody wants new settings in force. -/
  | retune (settings : Settings)
  /-- It is later, and the clock may have been set; it moves on by `lag` while the engine takes a
  step. -/
  | pass (elapsed origin lag : Nat)

namespace Exchange

/-- A move; one that is not possible changes nothing. -/
def step (x : Exchange) : Move → Exchange
  | .dispatch => x.dispatch
  | .work => x.work
  | .sweep => x.sweep
  | .ring t =>
    if t ∈ x.service.timers.pending then
      { x with
        service := { x.service with timers := x.service.timers.remove t.id }
        jobs := x.jobs ++ [.timer t.event] }
    else x
  | .retune settings => { x with jobs := x.jobs ++ [.reload settings] }
  | .pass elapsed origin lag =>
    { x with service := { x.service.atTime elapsed with origin, lag } }

/-- A row of moves. -/
def run (x : Exchange) (moves : List Move) : Exchange := moves.foldl step x

end Exchange

/-! ### What a step comes to -/

namespace Exchange

/-- Everything that a step of the dispatcher can come to. -/
inductive Dispatched (x : Exchange) : Exchange → Prop
  | rest : Dispatched x x
  | read {line : String} (hidle : x.dispatcher = .idle)
    (hline : x.lines[x.handled]? = some line) : Dispatched x (x.read (reading line))
  | call {r : Request} {job : Job} {todo : List Job} (hcalling : x.dispatcher = .calling r)
    (hjobs : Wire.jobs x.handled r.command = job :: todo) : Dispatched x (x.send r (job :: todo))
  | more {r : Request} {job : Job} {todo : List Job} {result : Json}
    (hwaiting : x.dispatcher = .waiting r (job :: todo)) (hanswer : x.answer = some result) :
    Dispatched x (send { x with answer := none } r (job :: todo))
  | reply {r : Request} {result : Json} (hwaiting : x.dispatcher = .waiting r [])
    (hanswer : x.answer = some result) : Dispatched x (x.reply r result)

/-- A step of the dispatcher comes to one of these. -/
theorem dispatched (x : Exchange) : x.Dispatched x.dispatch := by
  unfold dispatch
  split
  next hidle =>
    split
    · exact .rest
    next line hline => exact .read hidle hline
  next r hcalling =>
    -- Something is always to be done; nothing would leave the dispatcher where it is.
    cases hjobs : Wire.jobs x.handled r.command with
    | nil => exact .rest
    | cons job todo => exact .call hcalling hjobs
  next r todo hwaiting =>
    split
    · exact .rest
    next result hanswer =>
      cases todo with
      | nil => exact .reply hwaiting hanswer
      | cons job todo => exact .more hwaiting hanswer
  · exact .rest

/-- Everything that a step of the engine can come to. -/
inductive Worked (x : Exchange) : Exchange → Prop
  | rest : Worked x x
  | take {job : Job} {rest : List Job} (hfree : x.worker = .free) (hjobs : x.jobs = job :: rest) :
    Worked x (take { x with jobs := rest } job)
  | emit {source : Source} {m : Message} {left : List Message} {answer : Option Json} {last : Bool}
    (hbusy : x.worker = .busy source (m :: left) answer last) :
    Worked x { x with worker := .busy source left answer last, out := x.out ++ [(source, m)] }
  | finish {source : Source} {answer : Option Json} {last : Bool}
    (hbusy : x.worker = .busy source [] answer last) :
    Worked x { x with worker := if last then .gone else .free, answer := answer.or x.answer }

/-- A step of the engine comes to one of these. -/
theorem worked (x : Exchange) : x.Worked x.work := by
  unfold work
  split
  next hfree =>
    split
    · exact .rest
    next job rest hjobs => exact .take hfree hjobs
  next hbusy => exact .emit hbusy
  next hbusy => exact .finish hbusy
  · exact .rest

end Exchange

/-! ### Order between the parties -/

/-- The request that the dispatcher is busy with. -/
def Dispatcher.request? : Dispatcher → Option Request
  | .calling r | .waiting r _ => some r
  | .idle | .stopped => none

/-- How many answers the dispatcher waits for. -/
def Dispatcher.due : Dispatcher → Nat
  | .waiting _ _ => 1
  | _ => 0

/-- How many answers the engine is about to give. -/
def Worker.due : Worker → Nat
  | .busy _ _ answer _ => answer.toList.length
  | .free | .gone => 0

/-- Whether what the engine does is done for the line `line` with the request `r?`, or for
nobody. -/
def Worker.Serves (line : Nat) (r? : Option Request) : Worker → Prop
  | .busy source _ answer last =>
    source = .itself ∧ answer = none ∧ last = false ∨
      ∃ r, r? = some r ∧ source = .call line ∧ answer.isSome ∧
        (last = true ↔ r.command = .shutdown)
  | .free | .gone => True

namespace Exchange

/-- How many answers are under way to the dispatcher. -/
def under (x : Exchange) : Nat :=
  x.jobs.countP (·.line?.isSome) + x.worker.due + x.answer.toList.length

/-- Whether the two parties are in order. -/
structure Sound (x : Exchange) : Prop where
  /-- The dispatcher waits for exactly what is under way to it. -/
  due : x.under = x.dispatcher.due
  /-- What the dispatcher is busy with is the next line. -/
  request : ∀ r, x.dispatcher.request? = some r →
    ∃ line, x.lines[x.handled]? = some line ∧ reading line = .request r
  /-- What is left to be done is left of what the command comes to. -/
  todo : ∀ r todo, x.dispatcher = .waiting r todo →
    todo <:+ (Wire.jobs x.handled r.command).tail
  /-- In the channel, there is nothing for any other line. -/
  jobs : ∀ job ∈ x.jobs, job.line?.isSome →
    ∃ r, x.dispatcher.request? = some r ∧ job ∈ Wire.jobs x.handled r.command
  worker : x.worker.Serves x.handled x.dispatcher.request?
  /-- The engine does not go before it has answered whoever asked for that. -/
  gone : x.worker = .gone → x.dispatcher = .stopped ∨
    x.answer.isSome ∧ ∃ r todo, x.dispatcher = .waiting r todo ∧ r.command = .shutdown

variable {x y : Exchange} {r : Request}

/-- Before the first move nobody waits and nothing is under way. -/
theorem sound_start (service : Service) (lines : List String) : (start service lines).Sound where
  due := rfl
  request _ h := by cases h
  todo _ _ h := by cases h
  jobs := List.forall_mem_nil _
  worker := trivial
  gone h := by cases h

/-! ### The dispatcher keeps the order -/

/-- While the dispatcher waits for nothing, nothing is done for it. -/
theorem Sound.idle (h : x.Sound) (hd : x.dispatcher.due = 0) :
    (∀ job ∈ x.jobs, job.line?.isSome = false) ∧ x.worker.due = 0 ∧ x.answer = none := by
  -- What is under way adds up to nothing, so each part of the sum is nothing.
  have hdue := h.due
  rw [hd, under] at hdue
  refine ⟨?_, by omega, ?_⟩
  · have hcount : x.jobs.countP (·.line?.isSome) = 0 := by omega
    intro job hjob
    rw [List.countP_eq_zero] at hcount
    exact Bool.eq_false_iff.2 (hcount job hjob)
  · have hlength : x.answer.toList.length = 0 := by omega
    cases ha : x.answer with
    | none => rfl
    | some result =>
      rw [ha] at hlength
      cases hlength

/-- An engine that nobody waits for is at work for nobody. -/
theorem serves_of_due {worker : Worker} {line : Nat} {r? : Option Request}
    (h : worker.Serves line r?) (hdue : worker.due = 0) (line' : Nat) (r?' : Option Request) :
    worker.Serves line' r?' := by
  cases worker with
  | busy source left answer last =>
    -- At work for a line it would owe an answer.
    rcases h with hitself | ⟨r, -, -, hanswer, -⟩
    · exact .inl hitself
    · obtain ⟨result, rfl⟩ := Option.isSome_iff_exists.1 hanswer
      cases hdue
  | free | gone => trivial

/-- An engine that has gone has left a dispatcher behind that knows. -/
theorem Sound.not_gone (h : x.Sound) (hd : x.dispatcher ≠ .stopped)
    (hr : ∀ r todo, x.dispatcher = .waiting r todo → r.command ≠ .shutdown) : x.worker ≠ .gone := by
  intro hgone
  rcases h.gone hgone with hstopped | ⟨-, r, todo, hwaiting, hshutdown⟩
  · exact hd hstopped
  · exact hr r todo hwaiting hshutdown

/-- A line that is no request leaves the dispatcher idle. -/
theorem Sound.skip (h : x.Sound) (hidle : x.dispatcher = .idle) (out : List (Source × Message)) :
    Sound { x with handled := x.handled + 1, out } := by
  obtain ⟨hjobs, hworker, -⟩ := h.idle (by rw [hidle]; rfl)
  constructor
  · exact h.due
  · intro r hr
    change x.dispatcher.request? = some r at hr
    rw [hidle] at hr
    cases hr
  · intro r todo hr
    change x.dispatcher = .waiting r todo at hr
    rw [hidle] at hr
    cases hr
  · intro job hjob hsome
    rw [hjobs job hjob] at hsome
    cases hsome
  · exact serves_of_due h.worker hworker _ _
  · exact h.gone

/-- A request makes the dispatcher busy. -/
theorem Sound.accept (h : x.Sound) (hidle : x.dispatcher = .idle) {line : String}
    (hline : x.lines[x.handled]? = some line) (hreading : reading line = .request r)
    (service : Service) : Sound { x with service, dispatcher := .calling r } := by
  obtain ⟨hjobs, hworker, -⟩ := h.idle (by rw [hidle]; rfl)
  constructor
  · show x.under = 0
    rw [h.due, hidle]
    rfl
  · intro r' hr
    obtain rfl := Option.some.inj hr
    exact ⟨line, hline, hreading⟩
  · intro r' todo hr
    cases hr
  · intro job hjob hsome
    rw [hjobs job hjob] at hsome
    cases hsome
  · exact serves_of_due h.worker hworker _ _
  · intro hgone
    refine absurd hgone (h.not_gone ?_ ?_)
    · rw [hidle]
      nofun
    · intro r' todo hr
      rw [hidle] at hr
      cases hr

/-- A line that is read does not break the order, whatever stands in it. -/
theorem Sound.read (h : x.Sound) (hidle : x.dispatcher = .idle) {line : String}
    (hline : x.lines[x.handled]? = some line) : (x.read (reading line)).Sound := by
  cases hreading : reading line with
  | blank => exact h.skip hidle x.out
  | fault f => exact h.skip hidle _
  | request r => exact h.accept hidle hline hreading _

/-- A job is put into the channel, and its answer is awaited. -/
theorem Sound.send {job : Job} {todo : List Job} (h : x.Sound) (hunder : x.under = 0)
    (hgone : x.worker ≠ .gone) (hr : x.dispatcher.request? = some r)
    (hjob : job ∈ Wire.jobs x.handled r.command)
    (htodo : todo <:+ (Wire.jobs x.handled r.command).tail) : (x.send r (job :: todo)).Sound where
  due := by
    have hsome : job.line?.isSome = true := by
      rw [line?_of_mem_jobs hjob]
      rfl
    simp only [under] at hunder
    simp only [Exchange.send, under, List.countP_append, List.countP_singleton, hsome, if_true,
      Dispatcher.due]
    omega
  request r' hr' := by
    obtain rfl := Option.some.inj hr'
    exact h.request _ hr
  todo r' todo' heq := by
    obtain ⟨rfl, rfl⟩ := Dispatcher.waiting.inj heq
    exact htodo
  jobs job' hmem hsome := by
    refine ⟨r, rfl, ?_⟩
    rcases List.mem_append.1 hmem with hbefore | hnew
    · obtain ⟨r', hr', hjob'⟩ := h.jobs job' hbefore hsome
      rw [hr] at hr'
      obtain rfl := Option.some.inj hr'
      exact hjob'
    · rw [List.mem_singleton.1 hnew]
      exact hjob
  worker := by
    have hworker := h.worker
    rw [hr] at hworker
    exact hworker
  gone hg := absurd hg hgone

/-- A request is answered, and whoever asked for the end stops reading. -/
theorem Sound.reply (h : x.Sound) {result : Json} (hwaiting : x.dispatcher = .waiting r [])
    (hanswer : x.answer = some result) : (x.reply r result).Sound := by
  -- The one answer that was awaited is in, so nothing else is under way.
  have hdue : x.jobs.countP (·.line?.isSome) + x.worker.due = 0 := by
    have hdue := h.due
    rw [under, hwaiting, hanswer] at hdue
    simpa [Dispatcher.due] using hdue
  have hrequest : (x.reply r result).dispatcher.request? = none := by
    simp only [Exchange.reply]
    split <;> rfl
  constructor
  · simp only [Exchange.reply, under, Option.toList_none, List.length_nil]
    rw [hdue]
    split <;> rfl
  · intro r' hr'
    rw [hrequest] at hr'
    cases hr'
  · intro r' todo heq
    have hsome := congrArg Dispatcher.request? heq
    rw [hrequest] at hsome
    cases hsome
  · intro job hjob hsome
    have hcount : x.jobs.countP (·.line?.isSome) = 0 := by omega
    rw [List.countP_eq_zero] at hcount
    exact absurd hsome (hcount job hjob)
  · exact serves_of_due h.worker (by omega) _ _
  · intro hg
    rcases h.gone hg with hstopped | ⟨-, r', todo, heq, hshutdown⟩
    · rw [hwaiting] at hstopped
      cases hstopped
    · rw [hwaiting] at heq
      obtain ⟨rfl, -⟩ := Dispatcher.waiting.inj heq
      left
      simp only [Exchange.reply, if_pos hshutdown]

/-- The next call for a request, after the answer to the one before. -/
theorem Sound.more {job : Job} {todo : List Job} {result : Json} (h : x.Sound)
    (hwaiting : x.dispatcher = .waiting r (job :: todo)) (hanswer : x.answer = some result) :
    (Exchange.send { x with answer := none } r (job :: todo)).Sound := by
  have hsuffix := h.todo r _ hwaiting
  -- What is left to be done is a part of what the request asks for, so this job is one of those.
  have hmem : job ∈ Wire.jobs x.handled r.command :=
    List.mem_of_mem_tail (hsuffix.subset List.mem_cons_self)
  have hdue := h.due
  rw [under, hwaiting, hanswer] at hdue
  have hunder : under { x with answer := none } = 0 := by
    simp only [under, Option.toList_none, List.length_nil]
    simpa [Dispatcher.due] using hdue
  have hgone : x.worker ≠ .gone := by
    refine h.not_gone (by rw [hwaiting]; nofun) fun r' todo' heq hshutdown => ?_
    rw [hwaiting] at heq
    obtain ⟨rfl, -⟩ := Dispatcher.waiting.inj heq
    -- There is nothing more to be done for the end.
    rw [hshutdown, jobs_shutdown] at hsuffix
    cases List.suffix_nil.1 hsuffix
  -- The answer is taken, so the request is where it was before its first call.
  have hcalling : Sound { x with answer := none, dispatcher := .calling r } := {
    due := hunder
    request := fun r' hr' => h.request r' (by rw [hwaiting]; exact hr')
    todo := fun _ _ heq => by cases heq
    jobs := fun job hjob hsome => by
      have hjobs := h.jobs job hjob hsome
      rw [hwaiting] at hjobs
      exact hjobs
    worker := by
      have hworker := h.worker
      rw [hwaiting] at hworker
      exact hworker
    gone := fun hg => absurd hg hgone }
  exact hcalling.send hunder hgone rfl hmem ((List.suffix_cons job todo).trans hsuffix)

/-- The first call for a request. -/
theorem Sound.call {job : Job} {todo : List Job} (h : x.Sound)
    (hcalling : x.dispatcher = .calling r)
    (hjobs : Wire.jobs x.handled r.command = job :: todo) : (x.send r (job :: todo)).Sound := by
  refine h.send ?_ (h.not_gone ?_ ?_) ?_ ?_ ?_
  · rw [h.due, hcalling]
    rfl
  · rw [hcalling]
    nofun
  · rw [hcalling]
    nofun
  · rw [hcalling]
    rfl
  · rw [hjobs]
    exact List.mem_cons_self
  · rw [hjobs]
    exact List.suffix_refl _

/-- No step of the dispatcher breaks the order. -/
theorem Sound.dispatched (h : x.Sound) (hy : x.Dispatched y) : y.Sound := by
  cases hy with
  | rest => exact h
  | read hidle hline => exact h.read hidle hline
  | call hcalling hjobs => exact h.call hcalling hjobs
  | more hwaiting hanswer => exact h.more hwaiting hanswer
  | reply hwaiting hanswer => exact h.reply hwaiting hanswer

/-! ### The engine keeps the order -/

/-- What the engine does by itself changes nothing between the parties. -/
theorem Sound.begin_itself (h : x.Sound) (hfree : x.worker = .free) (o : Outcome Service α) :
    (x.begin .itself none false o).Sound where
  due := by
    have hdue := h.due
    rw [under, hfree] at hdue
    exact hdue
  request := h.request
  todo := h.todo
  jobs := h.jobs
  worker := .inl ⟨rfl, rfl, rfl⟩
  gone hg := by cases hg

/-- The engine takes a job from the channel. -/
theorem Sound.take {job : Job} {rest : List Job} (h : x.Sound) (hfree : x.worker = .free)
    (hjobs : x.jobs = job :: rest) : (take { x with jobs := rest } job).Sound := by
  have hdue := h.due
  have hmem : job ∈ x.jobs := by
    rw [hjobs]
    exact List.mem_cons_self
  have hrest (job' : Job) (hjob' : job' ∈ rest) : job' ∈ x.jobs := by
    rw [hjobs]
    exact List.mem_cons_of_mem job hjob'
  -- What is done for nobody is not counted.
  have hitself (hnone : job.line? = none) : Sound { x with jobs := rest } := {
    due := by
      rw [under, hjobs, List.countP_cons] at hdue
      simpa [under, hnone] using hdue
    request := h.request
    todo := h.todo
    jobs := fun job' hjob' => h.jobs job' (hrest job' hjob')
    worker := h.worker
    gone := h.gone }
  -- The count goes over from the channel to the engine.
  have hown {α : Type} {k : Nat} (o : Outcome Service α) (result : Json) (last : Bool)
      (hline : job.line? = some k) (hlast : ∀ r : Request, job ∈ Wire.jobs x.handled r.command →
        (last = true ↔ r.command = .shutdown)) :
      Sound (begin { x with jobs := rest } (.call k) (some result) last o) := {
    due := by
      rw [under, hjobs, List.countP_cons, hfree] at hdue
      simp only [hline, Option.isSome_some, if_true] at hdue
      simp only [under, begin, Worker.due, Option.toList_some, List.length_singleton] at hdue ⊢
      omega
    request := h.request
    todo := h.todo
    jobs := fun job' hjob' => h.jobs job' (hrest job' hjob')
    worker := by
      obtain ⟨r, hr, hjob⟩ := h.jobs job hmem (by rw [hline]; rfl)
      have hk := line?_of_mem_jobs hjob
      rw [hline] at hk
      obtain rfl := Option.some.inj hk
      exact .inr ⟨r, hr, rfl, rfl, hlast r hjob⟩
    gone := fun hg => by cases hg }
  cases job with
  | call line call =>
    refine hown _ _ false rfl fun r hjob => ?_
    exact iff_of_false Bool.false_ne_true (call_mem_jobs hjob)
  | stop line => exact hown _ _ true rfl fun r hjob => iff_of_true rfl (stop_mem_jobs hjob)
  | timer event => exact (hitself rfl).begin_itself hfree _
  | reload settings => exact (hitself rfl).begin_itself hfree _

/-- The engine gives its answer and is free again, or it goes. -/
theorem Sound.finish {source : Source} {answer : Option Json} {last : Bool} (h : x.Sound)
    (hbusy : x.worker = .busy source [] answer last) :
    Sound { x with
      worker := if last then .gone else .free
      answer := answer.or x.answer } := by
  have hdue := h.due
  have hworker := h.worker
  rw [under, hbusy] at hdue
  rw [hbusy] at hworker
  have hcount : Worker.due (if last then .gone else .free) = 0 := by
    cases last <;> rfl
  constructor
  · simp only [under, hcount]
    rw [← hdue]
    -- An answer that the engine owed is now under way itself; the count stays.
    rcases hworker with ⟨-, rfl, -⟩ | ⟨r, hr, -, hanswer, -⟩
    · rfl
    · obtain ⟨result, rfl⟩ := Option.isSome_iff_exists.1 hanswer
      -- There cannot be another answer under way.
      have hle : x.dispatcher.due ≤ 1 := by
        cases x.dispatcher <;> simp [Dispatcher.due]
      have hnone : x.answer.toList.length = 0 := by
        simp only [Worker.due, Option.toList_some, List.length_singleton] at hdue
        omega
      simp only [Worker.due, hnone]
      rfl
  · exact h.request
  · exact h.todo
  · exact h.jobs
  · cases last <;> trivial
  · intro hg
    -- The engine goes only after the end, whose answer the dispatcher still waits for.
    rcases hworker with ⟨-, -, rfl⟩ | ⟨r, hr, -, hanswer, hlast⟩
    · cases hg
    · obtain ⟨result, rfl⟩ := Option.isSome_iff_exists.1 hanswer
      have hshutdown : r.command = .shutdown := by
        refine hlast.1 ?_
        cases last with
        | true => rfl
        | false => cases hg
      right
      refine ⟨rfl, ?_⟩
      cases hd : x.dispatcher with
      | waiting r' todo =>
        rw [hd] at hr
        obtain rfl := Option.some.inj hr
        exact ⟨r', todo, rfl, hshutdown⟩
      | idle | stopped =>
        rw [hd] at hr
        cases hr
      | calling r' =>
        rw [hd] at hdue
        simp only [Worker.due, Dispatcher.due, Option.toList_some, List.length_singleton] at hdue
        omega

/-- A message more has been sent. -/
theorem Sound.emit {source : Source} {left : List Message} {message : Message}
    {answer : Option Json} {last : Bool} (h : x.Sound)
    (hbusy : x.worker = .busy source (message :: left) answer last)
    (out : List (Source × Message)) :
    Sound { x with worker := .busy source left answer last, out } := by
  have hdue := h.due
  have hworker := h.worker
  rw [under, hbusy] at hdue
  rw [hbusy] at hworker
  exact ⟨hdue, h.request, h.todo, h.jobs, hworker, fun hg => by cases hg⟩

/-- No step of the engine breaks the order. -/
theorem Sound.worked (h : x.Sound) (hy : x.Worked y) : y.Sound := by
  cases hy with
  | rest => exact h
  | take hfree hjobs => exact h.take hfree hjobs
  | emit hbusy => exact h.emit hbusy _
  | finish hbusy => exact h.finish hbusy

/-- A sweep is done for nobody. -/
theorem Sound.sweep (h : x.Sound) : x.sweep.Sound := by
  unfold Exchange.sweep
  cases hw : x.worker with
  | free => exact h.begin_itself hw _
  | busy | gone => exact h

/-! ### Every move keeps the order -/

/-- What others put into the channel is not for the dispatcher. -/
theorem Sound.push {job : Job} (h : x.Sound) (hjob : job.line? = none) (service : Service) :
    Sound { x with service, jobs := x.jobs ++ [job] } where
  due := by
    have hdue := h.due
    rw [under] at hdue
    simpa [under, hjob] using hdue
  request := h.request
  todo := h.todo
  jobs job' hmem hsome := by
    rcases List.mem_append.1 hmem with hbefore | hnew
    · exact h.jobs job' hbefore hsome
    · rw [List.mem_singleton.1 hnew, hjob] at hsome
      cases hsome
  worker := h.worker
  gone := h.gone

/-- No move breaks the order. -/
theorem Sound.step (h : x.Sound) (m : Move) : (x.step m).Sound := by
  cases m with
  | dispatch => exact h.dispatched x.dispatched
  | work => exact h.worked x.worked
  | sweep => exact h.sweep
  | ring t =>
    unfold Exchange.step
    dsimp only
    split
    · exact h.push rfl _
    · exact h
  | retune settings => exact h.push rfl x.service
  | pass elapsed origin lag =>
    exact ⟨h.due, h.request, h.todo, h.jobs, h.worker, h.gone⟩

/-- The order holds at any time. -/
theorem sound_run (h : x.Sound) (moves : List Move) : (x.run moves).Sound := by
  induction moves generalizing x with
  | nil => exact h
  | cons m rest ih => exact ih (h.step m)

end Exchange

end Warden.Wire
