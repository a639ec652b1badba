import Mathlib.Data.Prod.Lex
import Mathlib.Order.WellFounded
import Warden.Proofs.Wire.Exchange

namespace Warden.Wire

/-!
# What the host can rely on

However the steps of the dispatcher and of the engine interleave, each line gets what it is owed: a
request that asks for a reply gets one, a line that is no request gets an error, and this in the
order of the lines.  What the engine shows for a request comes before its reply, and after the reply
before.

* `Reading.owed`, `owedFor` — the replies and errors that lines are owed.
* `reactions`, `actions` — the replies and errors among messages, and the actions on the screen.
* `Source.rank?` — the place of a message among those of all lines.
* `Exchange.Disciplined`, `disciplined_run` — what holds at any time.
* `Exchange.Finished`, `exists_finished` — nobody waits forever.
* `Exchange.discipline` — all of it.
-/

/-! ### What lines are owed -/

/-- A message that answers a line. -/
inductive Reaction where
  | reply (id : Nat)
  | error (id : Option Nat) (text : String)
  deriving DecidableEq

/-- How a message answers a line, if it does. -/
def Message.reaction? : Message → Option Reaction
  | .reply id _ => some (.reply id)
  | .error id text => some (.error id text)
  | _ => none

/-- What a line is owed: a request a reply if it has a number, and a line that is no request an
error. -/
def Reading.owed : Reading → List Reaction
  | .blank => []
  | .fault f => [.error none ("invalid request: " ++ f.message)]
  | .request r => r.id.toList.map .reply

/-- What lines are owed, each by its place. -/
def owedFor (lines : List String) : List (Source × Reaction) :=
  lines.zipIdx.flatMap fun (line, k) => (reading line).owed.map (.answer k, ·)

/-- One more line adds what it is owed itself, and changes nothing for the lines before it. -/
theorem owedFor_concat (lines : List String) (line : String) :
    owedFor (lines ++ [line]) =
      owedFor lines ++ (reading line).owed.map (.answer lines.length, ·) := by
  simp [owedFor, List.zipIdx_append]

/-- The replies and errors among messages. -/
def reactions (sent : List (Source × Message)) : List (Source × Reaction) :=
  sent.filterMap fun w => w.2.reaction?.map (w.1, ·)

/-- The actions on the screen among messages. -/
def actions (sent : List (Source × Message)) : List (Source × Message) :=
  sent.filter fun w => w.2.reaction?.isNone

section Messages

variable {sent rest : List (Source × Message)}

theorem reactions_append : reactions (sent ++ rest) = reactions sent ++ reactions rest :=
  List.filterMap_append ..

theorem actions_append : actions (sent ++ rest) = actions sent ++ actions rest :=
  List.filter_append ..

/-- Where nothing answers a line, there are no replies and errors. -/
theorem reactions_of_actions (h : ∀ w ∈ sent, w.2.reaction? = none) : reactions sent = [] := by
  refine List.filterMap_eq_nil_iff.2 fun w hw => ?_
  rw [h w hw]
  rfl

/-- Where nothing answers a line, all are actions on the screen. -/
theorem actions_of_actions (h : ∀ w ∈ sent, w.2.reaction? = none) : actions sent = sent := by
  refine List.filter_eq_self.2 fun w hw => ?_
  rw [h w hw]
  rfl

/-- What reaches the screen is no answer to a line. -/
theorem reaction?_messagesOf {effects : List Effect} {m : Message} (h : m ∈ messagesOf effects) :
    m.reaction? = none := by
  obtain ⟨a, -, rfl⟩ := List.mem_map.1 h
  cases a <;> rfl

/-- A reply is what a request is owed. -/
theorem reactions_replyTo (source : Source) (r : Request) (result : Json) :
    reactions ((replyTo r result).map (source, ·)) = (Reading.owed (.request r)).map (source, ·) := by
  simp only [replyTo, Reading.owed]
  cases r.id <;> rfl

/-- A reply is no action on the screen. -/
theorem actions_replyTo (source : Source) (r : Request) (result : Json) :
    actions ((replyTo r result).map (source, ·)) = [] := by
  unfold replyTo
  cases r.id <;> rfl

end Messages

/-! ### Where the input ends -/

section UpToEnd

variable {before after : List String} {line : String}

/-- Lines that do not ask for the end are all kept. -/
theorem upToEnd_append (h : ∀ l ∈ before, (reading l).isEnd = false) :
    upToEnd (before ++ after) = before ++ upToEnd after := by
  -- On the lines before: each of them is passed over by the search for the end.
  induction before with
  | nil => rfl
  | cons l rest ih =>
    obtain ⟨hl, hrest⟩ := List.forall_mem_cons.1 h
    rw [List.cons_append, upToEnd, hl, if_neg Bool.false_ne_true, ih hrest, List.cons_append]

/-- The first line that asks for the end is the last one kept. -/
theorem upToEnd_of_isEnd (h : ∀ l ∈ before, (reading l).isEnd = false)
    (hline : (reading line).isEnd = true) :
    upToEnd (before ++ line :: after) = before ++ [line] := by
  rw [upToEnd_append h, upToEnd, if_pos hline]

end UpToEnd

/-! ### The order of messages -/

/-- The place of a message among those of all lines: what is done for a line comes before the answer
to it, and that before everything for the next line.  What the engine does by itself has no
place. -/
def Source.rank? : Source → Option Nat
  | .call line => some (2 * line)
  | .answer line => some (2 * line + 1)
  | .itself => none

/-- The places of messages. -/
def ranks (sent : List (Source × Message)) : List Nat := sent.filterMap (·.1.rank?)

theorem ranks_append {sent rest : List (Source × Message)} :
    ranks (sent ++ rest) = ranks sent ++ ranks rest := List.filterMap_append ..

/-- The messages of one source are all at its place. -/
theorem mem_ranks_map {source : Source} {messages : List Message} {k : Nat}
    (h : k ∈ ranks (messages.map (source, ·))) : source.rank? = some k := by
  obtain ⟨w, hw, hk⟩ := List.mem_filterMap.1 h
  obtain ⟨m, -, rfl⟩ := List.mem_map.1 hw
  exact hk

/-- Messages whose places are not before any other one may come last. -/
theorem pairwise_ranks_append {sent : List (Source × Message)} {source : Source}
    {messages : List Message} {k : Nat} (h : (ranks sent).Pairwise (· ≤ ·))
    (hsent : ∀ j ∈ ranks sent, j ≤ k) (hsource : source.rank? = some k) :
    (ranks (sent ++ messages.map (source, ·))).Pairwise (· ≤ ·) := by
  -- What comes last is all at one place, so it is in order itself and behind the rest.
  have hplace (j : Nat) (hj : j ∈ ranks (messages.map (source, ·))) : j = k :=
    Option.some.inj ((mem_ranks_map hj).symm.trans hsource)
  rw [ranks_append, List.pairwise_append]
  refine ⟨h, ?_, ?_⟩
  · refine List.pairwise_of_forall_mem_list fun i hi j hj => ?_
    rw [hplace i hi, hplace j hj]
  · intro i hi j hj
    rw [hplace j hj]
    exact hsent i hi

namespace Exchange

variable {x y : Exchange}

/-- How an action on the screen is sent. -/
def asSent (w : Source × Surface.Action) : Source × Message := (w.1, .ofAction w.2)

/-- What the engine has asked for and has not sent yet. -/
def unsent (x : Exchange) : List (Source × Message) :=
  match x.worker with
  | .busy source left _ _ => left.map (source, ·)
  | .free | .gone => []

/-- A free engine has nothing to send. -/
theorem unsent_of_free (h : x.worker = .free) : x.unsent = [] := by
  rw [unsent, h]

/-- Whether all messages so far are as the host expects them. -/
structure Disciplined (x : Exchange) : Prop where
  /-- The lines that were handled have got what they are owed. -/
  answered : reactions x.out = owedFor (x.lines.take x.handled)
  ordered : (ranks (x.out ++ x.unsent)).Pairwise (· ≤ ·)
  below : ∀ k ∈ ranks (x.out ++ x.unsent), k ≤ 2 * x.handled
  /-- The host hears of all that the engine asks for, and of nothing else. -/
  complete : actions x.out ++ x.unsent = x.asked.map asSent
  shown : ∀ w ∈ x.unsent, w.2.reaction? = none
  handled_le : x.handled ≤ x.lines.length
  going : x.dispatcher ≠ .stopped → ∀ line ∈ x.lines.take x.handled, (reading line).isEnd = false
  ended : x.dispatcher = .stopped → x.lines.take x.handled = upToEnd x.lines

/-- Before the first move nothing has been sent and nothing is owed. -/
theorem disciplined_start (service : Service) (lines : List String) :
    (start service lines).Disciplined where
  answered := rfl
  ordered := .nil
  below := List.forall_mem_nil _
  complete := rfl
  shown := List.forall_mem_nil _
  handled_le := Nat.zero_le _
  going _ := List.forall_mem_nil _
  ended h := by cases h

/-! ### The dispatcher is disciplined -/

/-- The lines that were handled, with one more. -/
theorem take_succ {lines : List String} {n : Nat} {line : String} (h : lines[n]? = some line) :
    lines.take (n + 1) = lines.take n ++ [line] := by
  rw [List.take_add_one, h]
  rfl

/-- There is a line only below the number of lines. -/
theorem lt_of_getElem? {lines : List String} {n : Nat} {line : String} (h : lines[n]? = some line) :
    n < lines.length := (List.getElem?_eq_some_iff.1 h).1

/-- Nothing that is still to be sent has a place while nobody waits for it. -/
theorem Sound.ranks_unsent (hs : x.Sound) (hdue : x.worker.due = 0) : ranks x.unsent = [] := by
  have hworker := hs.worker
  unfold unsent
  cases hw : x.worker with
  | busy source left answer last =>
    rw [hw] at hworker hdue
    -- A step of the engine's own has no place; one for a line would owe an answer, against `hdue`.
    rcases hworker with ⟨rfl, -, -⟩ | ⟨r, -, -, hanswer, -⟩
    · refine List.filterMap_eq_nil_iff.2 fun w hmem => ?_
      obtain ⟨m, -, rfl⟩ := List.mem_map.1 hmem
      rfl
    · obtain ⟨result, rfl⟩ := Option.isSome_iff_exists.1 hanswer
      cases hdue
  | free | gone => rfl

/-- The dispatcher is done with a line, with the answer that it is owed. -/
theorem Disciplined.handle (h : x.Disciplined) (hs : x.Sound) (hdue : x.worker.due = 0)
    {line : String} (hline : x.lines[x.handled]? = some line) (hd : x.dispatcher ≠ .stopped)
    (messages : List Message)
    (hmessages : reactions (messages.map (.answer x.handled, ·)) =
      (reading line).owed.map (.answer x.handled, ·))
    (hactions : actions (messages.map (.answer x.handled, ·)) = [])
    (dispatcher : Dispatcher) (answer : Option Json)
    (hend : dispatcher = .stopped ↔ (reading line).isEnd = true) :
    Disciplined { x with
      handled := x.handled + 1
      dispatcher
      answer
      out := x.out ++ messages.map (.answer x.handled, ·) } := by
  have hlt := lt_of_getElem? hline
  have hlength : (x.lines.take x.handled).length = x.handled := by
    rw [List.length_take]
    omega
  -- The engine owes nothing, so what it still has to send is its own and may come behind the
  -- answer.
  have hunsent := hs.ranks_unsent hdue
  have hold := h.ordered
  have hbelow := h.below
  rw [ranks_append, hunsent, List.append_nil] at hold hbelow
  have hranks : ranks ((x.out ++ messages.map (.answer x.handled, ·)) ++ x.unsent) =
      ranks (x.out ++ messages.map (.answer x.handled, ·)) := by
    rw [ranks_append, hunsent, List.append_nil]
  have hgoing := h.going hd
  constructor
  · show reactions (x.out ++ _) = _
    rw [reactions_append, h.answered, hmessages, take_succ hline, owedFor_concat, hlength]
  · show (ranks ((x.out ++ _) ++ x.unsent)).Pairwise (· ≤ ·)
    rw [hranks]
    exact pairwise_ranks_append hold (fun j hj => Nat.le_succ_of_le (hbelow j hj)) rfl
  · intro k hk
    change k ∈ ranks ((x.out ++ _) ++ x.unsent) at hk
    show k ≤ 2 * (x.handled + 1)
    rw [hranks, ranks_append, List.mem_append] at hk
    rcases hk with hk | hk
    · have := hbelow k hk
      omega
    · obtain rfl := Option.some.inj (mem_ranks_map hk)
      omega
  · show actions (x.out ++ _) ++ x.unsent = x.asked.map asSent
    rw [actions_append, hactions, List.append_nil]
    exact h.complete
  · exact h.shown
  · exact hlt
  · intro hd' l hl
    change l ∈ x.lines.take (x.handled + 1) at hl
    rw [take_succ hline, List.mem_append, List.mem_singleton] at hl
    rcases hl with hl | rfl
    · exact hgoing l hl
    · exact Bool.eq_false_iff.2 fun hl => hd' (hend.2 hl)
  · intro hd'
    -- No line before asked for the end, so this one is where the input ends.
    have hsplit : x.lines = x.lines.take x.handled ++ line :: x.lines.drop (x.handled + 1) := by
      rw [← List.singleton_append, ← List.append_assoc, ← take_succ hline, List.take_append_drop]
    show x.lines.take (x.handled + 1) = upToEnd x.lines
    rw [take_succ hline]
    conv_rhs => rw [hsplit]
    exact (upToEnd_of_isEnd hgoing (hend.1 hd')).symm

/-- A line is read: a blank one and one that is no request are done with at once, and for a request
the dispatcher goes on to its calls. -/
theorem Disciplined.read (h : x.Disciplined) (hs : x.Sound) (hidle : x.dispatcher = .idle)
    {line : String} (hline : x.lines[x.handled]? = some line) :
    (x.read (reading line)).Disciplined := by
  have hd : x.dispatcher ≠ .stopped := by
    rw [hidle]
    nofun
  obtain ⟨-, hworker, -⟩ := hs.idle (by rw [hidle]; rfl)
  have hskip (messages : List Message) := h.handle hs hworker hline hd messages
  cases hreading : reading line with
  | blank =>
    rw [hreading] at hskip
    have hhandled := hskip [] rfl rfl x.dispatcher x.answer (iff_of_false hd nofun)
    rw [List.map_nil, List.append_nil] at hhandled
    exact hhandled
  | fault f =>
    rw [hreading] at hskip
    exact hskip [rejection f] rfl rfl x.dispatcher x.answer (iff_of_false hd nofun)
  | request r =>
    exact ⟨h.answered, h.ordered, h.below, h.complete, h.shown, h.handled_le,
      fun _ => h.going hd, nofun⟩

/-- The answer to the last call of a request is in, and the request is done with. -/
theorem Disciplined.reply {r : Request} {result : Json} (h : x.Disciplined) (hs : x.Sound)
    (hwaiting : x.dispatcher = .waiting r []) (hanswer : x.answer = some result) :
    (x.reply r result).Disciplined := by
  have hd : x.dispatcher ≠ .stopped := by
    rw [hwaiting]
    nofun
  -- The answer has come, so the engine owes none.
  have hworker : x.worker.due = 0 := by
    have hdue := hs.due
    rw [under, hwaiting, hanswer] at hdue
    simp only [Option.toList_some, List.length_singleton, Dispatcher.due] at hdue
    omega
  obtain ⟨line, hline, hreading⟩ := hs.request r (by rw [hwaiting]; rfl)
  refine h.handle hs hworker hline hd (replyTo r result) ?_ (actions_replyTo ..) _ none ?_
  · rw [hreading]
    exact reactions_replyTo ..
  · rw [hreading, Reading.isEnd, decide_eq_true_eq]
    split
    next hshutdown => exact iff_of_true rfl hshutdown
    next hne => exact iff_of_false (fun hstopped => by cases hstopped) hne

/-- A job is put into the channel. -/
theorem Disciplined.send {r : Request} (h : x.Disciplined) (hd : x.dispatcher ≠ .stopped)
    (job : Job) (todo : List Job) : (x.send r (job :: todo)).Disciplined :=
  ⟨h.answered, h.ordered, h.below, h.complete, h.shown, h.handled_le, fun _ => h.going hd, nofun⟩

/-- No step of the dispatcher breaks the discipline. -/
theorem Disciplined.dispatched (h : x.Disciplined) (hs : x.Sound) (hy : x.Dispatched y) :
    y.Disciplined := by
  cases hy with
  | rest => exact h
  | read hidle hline => exact h.read hs hidle hline
  | call hcalling hjobs => exact h.send (by rw [hcalling]; nofun) _ _
  | more hwaiting hanswer =>
    -- The answer to an earlier call of the request is dropped before the next call is sent.
    have htaken : Disciplined { x with answer := none } :=
      ⟨h.answered, h.ordered, h.below, h.complete, h.shown, h.handled_le, h.going, h.ended⟩
    refine htaken.send ?_ _ _
    show x.dispatcher ≠ .stopped
    rw [hwaiting]
    nofun
  | reply hwaiting hanswer => exact h.reply hs hwaiting hanswer

/-! ### The engine is disciplined -/

/-- The engine takes a step that has no place, or the place of the line that is handled. -/
theorem Disciplined.begin {source : Source} (h : x.Disciplined) (hfree : x.worker = .free)
    (hsource : source.rank? = none ∨ source.rank? = some (2 * x.handled)) (answer : Option Json)
    (last : Bool) (o : Outcome Service α) : (x.begin source answer last o).Disciplined := by
  have hunsent : (x.begin source answer last o).unsent = (messagesOf o.effects).map (source, ·) :=
    rfl
  -- What the engine does by itself has no place and fits anywhere; what it does for the line that
  -- is handled comes after all earlier places.
  have hold := h.ordered
  have hbelow := h.below
  have hcomplete := h.complete
  rw [unsent_of_free hfree, List.append_nil] at hold hbelow hcomplete
  constructor
  · exact h.answered
  · rw [hunsent]
    rcases hsource with hnone | hplace
    · have hempty : ranks ((messagesOf o.effects).map (source, ·)) = [] := by
        refine List.eq_nil_iff_forall_not_mem.2 fun k hk => ?_
        cases hnone.symm.trans (mem_ranks_map hk)
      rw [ranks_append, hempty, List.append_nil]
      exact hold
    · exact pairwise_ranks_append hold hbelow hplace
  · intro k hk
    rw [hunsent, ranks_append, List.mem_append] at hk
    show k ≤ 2 * x.handled
    rcases hk with hk | hk
    · exact hbelow k hk
    · have hk' := mem_ranks_map hk
      rcases hsource with hnone | hplace
      · cases hnone.symm.trans hk'
      · exact (Option.some.inj (hk'.symm.trans hplace)).le
  · rw [hunsent]
    show actions x.out ++ _ = (x.asked ++ (o.effects.filterMap Effect.surface?).map (source, ·)).map
      asSent
    rw [List.map_append, ← hcomplete, messagesOf, List.map_map, List.map_map]
    rfl
  · intro w hw
    rw [hunsent] at hw
    obtain ⟨m, hm, rfl⟩ := List.mem_map.1 hw
    exact reaction?_messagesOf hm
  · exact h.handled_le
  · exact h.going
  · exact h.ended

/-- The engine takes a job from the channel; a call is always one for the line that is handled. -/
theorem Disciplined.take {job : Job} {rest : List Job} (h : x.Disciplined) (hs : x.Sound)
    (hfree : x.worker = .free) (hjobs : x.jobs = job :: rest) :
    (take { x with jobs := rest } job).Disciplined := by
  have htaken : Disciplined { x with jobs := rest } :=
    ⟨h.answered, h.ordered, h.below, h.complete, h.shown, h.handled_le, h.going, h.ended⟩
  have hplace {k : Nat} (hline : job.line? = some k) : k = x.handled := by
    have hmem : job ∈ x.jobs := by
      rw [hjobs]
      exact List.mem_cons_self
    obtain ⟨r, -, hjob⟩ := hs.jobs job hmem (by rw [hline]; rfl)
    exact Option.some.inj (hline.symm.trans (line?_of_mem_jobs hjob))
  cases job with
  | call line call =>
    obtain rfl := hplace rfl
    exact htaken.begin hfree (.inr rfl) _ _ _
  | stop line =>
    obtain rfl := hplace rfl
    exact htaken.begin hfree (.inr rfl) _ _ _
  | timer event => exact htaken.begin hfree (.inl rfl) _ _ _
  | reload settings => exact htaken.begin hfree (.inl rfl) _ _ _

/-- What was to be sent has been sent. -/
theorem Disciplined.emit {source : Source} {m : Message} {left : List Message}
    {answer : Option Json} {last : Bool} (h : x.Disciplined)
    (hbusy : x.worker = .busy source (m :: left) answer last) :
    Disciplined { x with
      worker := .busy source left answer last
      out := x.out ++ [(source, m)] } := by
  have hunsent : x.unsent = (source, m) :: left.map (source, ·) := by
    rw [unsent, hbusy]
    rfl
  have hm : m.reaction? = none := h.shown (source, m) (by rw [hunsent]; exact List.mem_cons_self)
  -- The message goes from what is to be sent to what has been sent; both in a row stay the same.
  have hboth : (x.out ++ [(source, m)]) ++ left.map (source, ·) = x.out ++ x.unsent := by
    rw [hunsent, List.append_assoc, List.singleton_append]
  have hsingle : ∀ w ∈ [(source, m)], w.2.reaction? = none := by
    simpa using hm
  constructor
  · show reactions (x.out ++ _) = _
    rw [reactions_append, reactions_of_actions hsingle, List.append_nil]
    exact h.answered
  · show (ranks ((x.out ++ [(source, m)]) ++ left.map (source, ·))).Pairwise (· ≤ ·)
    rw [hboth]
    exact h.ordered
  · show ∀ k ∈ ranks ((x.out ++ [(source, m)]) ++ left.map (source, ·)), k ≤ 2 * x.handled
    rw [hboth]
    exact h.below
  · show actions (x.out ++ [(source, m)]) ++ left.map (source, ·) = x.asked.map asSent
    rw [actions_append, actions_of_actions hsingle, List.append_assoc, List.singleton_append,
      ← hunsent]
    exact h.complete
  · intro w hw
    refine h.shown w ?_
    rw [hunsent]
    exact List.mem_cons_of_mem _ hw
  · exact h.handled_le
  · exact h.going
  · exact h.ended

/-- When the engine is done with a step, nothing of it is left to be sent. -/
theorem Disciplined.finish {source : Source} {answer : Option Json} {last : Bool}
    (h : x.Disciplined) (hbusy : x.worker = .busy source [] answer last) (answer' : Option Json) :
    Disciplined { x with worker := if last then .gone else .free, answer := answer' } := by
  have hunsent : x.unsent = [] := by
    rw [unsent, hbusy]
    rfl
  have hnext : unsent { x with worker := if last then .gone else .free, answer := answer' } =
      [] := by
    cases last <;> rfl
  have hordered := h.ordered
  have hbelow := h.below
  have hcomplete := h.complete
  rw [hunsent] at hordered hbelow hcomplete
  constructor
  · exact h.answered
  · rw [hnext]
    exact hordered
  · rw [hnext]
    exact hbelow
  · rw [hnext]
    exact hcomplete
  · rw [hnext]
    exact List.forall_mem_nil _
  · exact h.handled_le
  · exact h.going
  · exact h.ended

/-- No step of the engine breaks the discipline. -/
theorem Disciplined.worked (h : x.Disciplined) (hs : x.Sound) (hy : x.Worked y) :
    y.Disciplined := by
  cases hy with
  | rest => exact h
  | take hfree hjobs => exact h.take hs hfree hjobs
  | emit hbusy => exact h.emit hbusy
  | finish hbusy => exact h.finish hbusy _

/-- A sweep is a step that the engine takes by itself. -/
theorem Disciplined.sweep (h : x.Disciplined) : x.sweep.Disciplined := by
  unfold Exchange.sweep
  cases hw : x.worker with
  | free => exact h.begin hw (.inl rfl) _ _ _
  | busy | gone => exact h

/-! ### Every move is disciplined -/

/-- No move breaks the discipline. -/
theorem Disciplined.step (h : x.Disciplined) (hs : x.Sound) (m : Move) : (x.step m).Disciplined := by
  -- Timers, new settings and the clock change what the engine knows or has to do, and nothing that
  -- was said.
  have hother (service : Service) (jobs : List Job) : Disciplined { x with service, jobs } :=
    ⟨h.answered, h.ordered, h.below, h.complete, h.shown, h.handled_le, h.going, h.ended⟩
  cases m with
  | dispatch => exact h.dispatched hs x.dispatched
  | work => exact h.worked hs x.worked
  | sweep => exact h.sweep
  | ring t =>
    unfold Exchange.step
    dsimp only
    split
    · exact hother _ _
    · exact h
  | retune settings => exact hother x.service _
  | pass elapsed origin lag => exact hother _ x.jobs

/-- **The discipline holds at any time**: it is kept by every move, whoever makes it. -/
theorem disciplined_run (h : x.Disciplined) (hs : x.Sound) (moves : List Move) :
    (x.run moves).Disciplined := by
  -- On the moves. Soundness goes along, since the step of the discipline needs it.
  induction moves generalizing x with
  | nil => exact h
  | cons m rest ih => exact ih (h.step hs m) (hs.step m)

/-! ### Nobody waits forever -/

/-- Whether the dispatcher has come to the end: of the input, or because it was asked for. -/
def Finished (x : Exchange) : Prop :=
  x.dispatcher = .stopped ∨ x.dispatcher = .idle ∧ x.handled = x.lines.length

end Exchange

/-- How far the dispatcher is from the end of a line. -/
def Dispatcher.weight : Dispatcher → Nat
  | .idle => 4
  | .calling _ => 3
  | .waiting _ todo => todo.length
  | .stopped => 0

/-- How far the engine is from the end of a step. -/
def Worker.weight : Worker → Nat
  | .busy _ left _ _ => left.length + 1
  | .free | .gone => 0

namespace Exchange

variable {x y : Exchange}

/-- What is still to be done, what comes first counting most: a line of input may come to many
messages. -/
def weight (x : Exchange) : Nat ×ₗ Nat ×ₗ Nat ×ₗ Nat :=
  toLex (x.lines.length - x.handled,
    toLex (x.dispatcher.weight, toLex (x.jobs.length, x.worker.weight)))

/-- A line less to be read. -/
theorem weight_lt_of_handled (hlines : y.lines = x.lines) (hlt : x.handled < x.lines.length)
    (hnext : y.handled = x.handled + 1) : y.weight < x.weight := by
  refine Prod.Lex.toLex_lt_toLex.2 (.inl ?_)
  dsimp only
  rw [hlines, hnext]
  omega

/-- The dispatcher is nearer to the end of a line. -/
theorem weight_lt_of_dispatcher (hlines : y.lines = x.lines) (hhandled : y.handled = x.handled)
    (hlt : y.dispatcher.weight < x.dispatcher.weight) : y.weight < x.weight := by
  refine Prod.Lex.toLex_lt_toLex.2 (.inr ⟨?_, Prod.Lex.toLex_lt_toLex.2 (.inl hlt)⟩)
  dsimp only
  rw [hlines, hhandled]

/-- The dispatcher has something to do unless it waits for an answer or is at the end. -/
theorem dispatch_weight_lt (hs : x.Sound) (hd : x.Disciplined) (hfinished : ¬ x.Finished)
    (hanswer : x.dispatcher.due = 0 ∨ x.answer.isSome) : x.dispatch.weight < x.weight := by
  -- By where the dispatcher stands: reading a line, sending the first call, or waiting with the
  -- answer in.
  cases hdisp : x.dispatcher with
  | idle =>
    have hlt : x.handled < x.lines.length := by
      refine lt_of_le_of_ne hd.handled_le fun heq => hfinished (.inr ⟨hdisp, heq⟩)
    have hline := List.getElem?_eq_getElem hlt
    have hread : x.dispatch = x.read (reading x.lines[x.handled]) := by
      simp only [dispatch, hdisp, hline]
    rw [hread]
    cases reading x.lines[x.handled] with
    | blank => exact weight_lt_of_handled rfl hlt rfl
    | fault f => exact weight_lt_of_handled rfl hlt rfl
    | request r =>
      refine weight_lt_of_dispatcher rfl rfl ?_
      rw [hdisp]
      exact Nat.lt_succ_self 3
  | calling r =>
    obtain ⟨job, todo, hjobs⟩ := List.exists_cons_of_ne_nil (jobs_ne_nil x.handled r.command)
    have hsend : x.dispatch = x.send r (job :: todo) := by
      simp only [dispatch, hdisp, hjobs]
    have hlength := length_jobs_le x.handled r.command
    rw [hjobs, List.length_cons] at hlength
    rw [hsend]
    refine weight_lt_of_dispatcher rfl rfl ?_
    rw [hdisp]
    show todo.length < 3
    omega
  | waiting r todo =>
    rw [hdisp] at hanswer
    obtain ⟨result, hresult⟩ := Option.isSome_iff_exists.1 (hanswer.resolve_left nofun)
    cases todo with
    | nil =>
      have hreply : x.dispatch = x.reply r result := by
        simp only [dispatch, hdisp, hresult, if_true]
      obtain ⟨line, hline, -⟩ := hs.request r (by rw [hdisp]; rfl)
      rw [hreply]
      exact weight_lt_of_handled rfl (lt_of_getElem? hline) rfl
    | cons job todo =>
      have hmore : x.dispatch = send { x with answer := none } r (job :: todo) := by
        simp only [dispatch, hdisp, hresult, if_neg (List.cons_ne_nil job todo)]
      rw [hmore]
      refine weight_lt_of_dispatcher rfl rfl ?_
      rw [hdisp]
      exact Nat.lt_succ_self todo.length
  | stopped => exact absurd (.inl hdisp) hfinished

/-- The engine has something to do while the dispatcher waits for its answer. -/
theorem work_weight_lt (hs : x.Sound) (hdue : x.dispatcher.due = 1) (hanswer : x.answer = none) :
    x.work.weight < x.weight := by
  have hunder := hs.due
  rw [under, hdue, hanswer] at hunder
  simp only [Option.toList_none, List.length_nil, Nat.add_zero] at hunder
  -- The dispatcher waits for one answer, so a call is in the channel, or the engine is at work on
  -- it.
  cases hw : x.worker with
  | free =>
    cases hjobs : x.jobs with
    | nil =>
      rw [hw, hjobs] at hunder
      cases hunder
    | cons job rest =>
      have htake : x.work = take { x with jobs := rest } job := by
        simp only [work, hw, hjobs]
      have hlt : rest.length < x.jobs.length := by
        rw [hjobs]
        exact Nat.lt_succ_self rest.length
      rw [htake]
      refine Prod.Lex.toLex_lt_toLex.2 (.inr ⟨?_, Prod.Lex.toLex_lt_toLex.2
        (.inr ⟨?_, Prod.Lex.toLex_lt_toLex.2 (.inl ?_)⟩)⟩)
      · cases job <;> rfl
      · cases job <;> rfl
      · cases job <;> exact hlt
  | busy source left answer last =>
    cases left with
    | nil =>
      have hfinish : x.work = { x with
          worker := if last then .gone else .free, answer := answer.or x.answer } := by
        simp only [work, hw]
      have hlt : Worker.weight (if last then .gone else .free) < x.worker.weight := by
        rw [hw]
        cases last <;> exact Nat.zero_lt_succ _
      rw [hfinish]
      exact Prod.Lex.toLex_lt_toLex.2 (.inr ⟨rfl, Prod.Lex.toLex_lt_toLex.2
        (.inr ⟨rfl, Prod.Lex.toLex_lt_toLex.2 (.inr ⟨rfl, hlt⟩)⟩)⟩)
    | cons m left =>
      have hemit : x.work = { x with
          worker := .busy source left answer last, out := x.out ++ [(source, m)] } := by
        simp only [work, hw]
      have hlt : Worker.weight (.busy source left answer last) < x.worker.weight := by
        rw [hw]
        exact Nat.lt_succ_self _
      rw [hemit]
      exact Prod.Lex.toLex_lt_toLex.2 (.inr ⟨rfl, Prod.Lex.toLex_lt_toLex.2
        (.inr ⟨rfl, Prod.Lex.toLex_lt_toLex.2 (.inr ⟨rfl, hlt⟩)⟩)⟩)
  | gone =>
    -- An engine that is gone has given its last answer, or the dispatcher has stopped with it.
    rcases hs.gone hw with hstopped | ⟨hsome, -⟩
    · rw [hstopped] at hdue
      cases hdue
    · rw [hanswer] at hsome
      cases hsome

/-- Before the end, the dispatcher or the engine has something to do. -/
theorem progress (hs : x.Sound) (hd : x.Disciplined) (hfinished : ¬ x.Finished) :
    x.dispatch.weight < x.weight ∨ x.work.weight < x.weight := by
  by_cases hdue : x.dispatcher.due = 0
  · exact .inl (dispatch_weight_lt hs hd hfinished (.inl hdue))
  · cases hanswer : x.answer with
    | some result =>
      exact .inl (dispatch_weight_lt hs hd hfinished (.inr (by rw [hanswer]; rfl)))
    | none =>
      refine .inr (work_weight_lt hs ?_ hanswer)
      cases hdisp : x.dispatcher with
      | waiting => rfl
      | idle | calling | stopped =>
        rw [hdisp] at hdue
        exact absurd rfl hdue

/-- The two parties come to the end by themselves. -/
theorem exists_finished (hs : x.Sound) (hd : x.Disciplined) :
    ∃ moves, (∀ m ∈ moves, m = .dispatch ∨ m = .work) ∧ (x.run moves).Finished := by
  -- On what is still to be done: as long as the end is not reached, one of the two lowers it.
  induction h : x.weight using WellFoundedLT.induction generalizing x with
  | ind w ih =>
    subst h
    by_cases hfinished : x.Finished
    · exact ⟨[], List.forall_mem_nil _, hfinished⟩
    have hnext {m : Move} (hm : m = .dispatch ∨ m = .work) (hlt : (x.step m).weight < x.weight) :
        ∃ moves, (∀ m ∈ moves, m = .dispatch ∨ m = .work) ∧ (x.run moves).Finished := by
      obtain ⟨moves, hmoves, hfin⟩ := ih _ hlt (hs.step m) (hd.step hs m) rfl
      exact ⟨m :: moves, List.forall_mem_cons.2 ⟨hm, hmoves⟩, hfin⟩
    rcases progress hs hd hfinished with hlt | hlt
    · exact hnext (.inl rfl) hlt
    · exact hnext (.inr rfl) hlt

/-! ### All of it -/

/-- No move changes the input. -/
theorem lines_step (x : Exchange) (m : Move) : (x.step m).lines = x.lines := by
  cases m with
  | dispatch =>
    show x.dispatch.lines = x.lines
    have hy := x.dispatched
    generalize x.dispatch = y at hy
    cases hy with
    | read hidle hline => cases reading _ <;> rfl
    | _ => rfl
  | work =>
    show x.work.lines = x.lines
    have hy := x.worked
    generalize x.work = y at hy
    cases hy with
    | @take job => cases job <;> rfl
    | _ => rfl
  | sweep =>
    show x.sweep.lines = x.lines
    unfold sweep
    split <;> rfl
  | ring t =>
    unfold step
    dsimp only
    split <;> rfl
  | retune | pass => rfl

/-- The input is the same from beginning to end. -/
theorem lines_run (x : Exchange) (moves : List Move) : (x.run moves).lines = x.lines := by
  induction moves generalizing x with
  | nil => rfl
  | cons m rest ih => exact (ih (x.step m)).trans (x.lines_step m)

/-- Only lines up to the first one that asks for the end are handled. -/
theorem Disciplined.handled_isPrefix (h : x.Disciplined) :
    x.lines.take x.handled <+: upToEnd x.lines := by
  by_cases hd : x.dispatcher = .stopped
  · exact ⟨[], by rw [List.append_nil, h.ended hd]⟩
  · -- The dispatcher is still going, so none of the lines handled asked for the end.
    refine ⟨upToEnd (x.lines.drop x.handled), ?_⟩
    rw [← upToEnd_append (h.going hd), List.take_append_drop]

/-- At the end, all lines up to the first one that asks for it have been handled. -/
theorem Disciplined.handled_of_finished (h : x.Disciplined) (hfinished : x.Finished) :
    x.lines.take x.handled = upToEnd x.lines := by
  rcases hfinished with hd | ⟨hidle, hall⟩
  · exact h.ended hd
  · have hgoing := h.going (by rw [hidle]; nofun)
    rw [hall, List.take_length] at hgoing ⊢
    have hupTo : upToEnd (x.lines ++ []) = x.lines ++ upToEnd [] := upToEnd_append hgoing
    rw [List.append_nil, upToEnd, List.append_nil] at hupTo
    exact hupTo.symm

/-- **The host can rely on the answers.**  Whatever the input is, and however the steps of the
dispatcher and of the engine interleave with timers, sweeps, new settings and the clock:

* The replies and errors sent so far are what the lines handled so far are owed, in their order, and
  lines behind the first one that asks for the end are never handled.
* What the engine sends for a line comes before its answer and after those of all earlier lines.
* What the engine has asked for is what has been sent, and what is going to be sent next.
* A line that is no request changes nothing for the engine, nor what is known of the host.
* The dispatcher and the engine can go on to the end, and there all lines have got what they are
  owed. -/
theorem discipline (service : Service) (lines : List String) (moves : List Move) :
    let x := (start service lines).run moves
    (reactions x.out = owedFor (lines.take x.handled) ∧
      lines.take x.handled <+: upToEnd lines) ∧
    (ranks (x.out ++ x.unsent)).Pairwise (· ≤ ·) ∧
    actions x.out ++ x.unsent = x.asked.map asSent ∧
    (∀ line, x.dispatcher = .idle → lines[x.handled]? = some line →
      (∀ r, reading line ≠ .request r) →
      x.dispatch.service = x.service ∧ x.dispatch.jobs = x.jobs ∧
        x.dispatch.dispatcher = .idle) ∧
    (∃ more, (∀ m ∈ more, m = .dispatch ∨ m = .work) ∧ (x.run more).Finished) ∧
    (x.Finished → reactions x.out = owedFor (upToEnd lines)) := by
  intro x
  -- Both invariants hold after the moves; all parts but the fourth read them off.
  have hs : x.Sound := sound_run (sound_start service lines) moves
  have hd : x.Disciplined :=
    disciplined_run (disciplined_start service lines) (sound_start service lines) moves
  have hlines : x.lines = lines := lines_run _ moves
  have hanswered := hd.answered
  have hprefix := hd.handled_isPrefix
  rw [hlines] at hanswered hprefix
  refine ⟨⟨hanswered, hprefix⟩, hd.ordered, hd.complete, ?_, exists_finished hs hd, ?_⟩
  · intro line hidle hline hno
    rw [← hlines] at hline
    have hread : x.dispatch = x.read (reading line) := by
      simp only [dispatch, hidle, hline]
    rw [hread]
    cases hreading : reading line with
    | blank => exact ⟨rfl, rfl, hidle⟩
    | fault f => exact ⟨rfl, rfl, hidle⟩
    | request r => exact absurd hreading (hno r)
  · intro hfinished
    have hall := hd.handled_of_finished hfinished
    rw [hlines] at hall
    rw [hanswered, hall]

end Exchange

end Warden.Wire
