import Warden.Service
import Warden.Wire.Message
import Warden.Wire.Request

namespace Warden.Wire

/-!
# Lines from the host

Each line from the host is one request. It is put to the engine, and what the engine answers goes
back as a reply if the request asks for one.

* `result` — the step of a service that a command stands for, with its result as JSON.
* `handleLine` — a line, with the messages it causes in their order.
-/

/-- The name under which the host hears about a decision. -/
def decisionName : Tamper.Decision → String
  | .trigger _ => "trigger"
  | .debounced => "debounced"
  | .suppressed _ => "suppressed"
  | .released => "released"
  | .ignored => "ignored"

/-- The two values of the window that the host asks for. -/
def windowResult (active : Bool) (remaining : Nat) : Json :=
  .record [("active", .bool active), ("remaining_ms", .natural remaining)]

/-- A step that has nothing to say. -/
def silent (o : Outcome σ α) : Outcome σ Json := o.map fun _ => Json.null

/-- The step of the engine that a command stands for, with its result. -/
def engineStep (c : Command) (e : Engine) (host : Host) : Outcome Engine Json :=
  match c with
  | .foreground app on => (e.foreground host app on).map fun d => .text d.name
  | .settings n => (e.navigate host n).map fun d => .text (decisionName d)
  | .content app text => (e.content host app text).map fun v => .bool v.isSome
  | .capability c _ => (e.confirm host c).map Json.bool
  | .touch app => .answering (e.touch host app) .null
  | .screenOff => .answering e.screenOff .null
  | .unlock app => silent (e.grant host app)
  | .isUnlocked app => (e.isUnlocked host app).map Json.bool
  | .challengeCompleted =>
    (e.complete host).bind fun _ e => (e.remainingBypass host.later).map Json.natural
  | .bypassWindow =>
    -- Either value is a reading of its own, so a window may run out between them.
    (e.withinBypass host).bind fun active e =>
      (e.remainingBypass host.later).map fun remaining => windowResult active remaining
  | .defer app => (e.deferChallenge host app).map Json.bool
  | .query => (e.status host).map Status.toJson
  | .shutdown => silent e.shutdown

/-- What a command adds to the reports. -/
def reported (c : Command) (r : Reports) : Reports :=
  match c with
  | .content app text => { r with texts := r.texts.insert app text }
  | .capability c active => { r with capabilities := r.capabilities.set c active }
  | _ => r

/-- Whether there is to be another line. -/
inductive Flow where
  | proceed
  | stop
  deriving DecidableEq

/-- The name of a flow. -/
def Flow.name : Flow → String
  | .proceed => "continue"
  | .stop => "stop"

/-- What comes of a line: the flow, the messages, and the effects that are no messages. -/
structure Handled where
  flow : Flow
  messages : List Message
  effects : List Effect

/-- The messages by which effects reach the screen. -/
def messagesOf (effects : List Effect) : List Message :=
  (effects.filterMap Effect.surface?).map Message.ofAction

/-- The reply to a request, if it asks for one. -/
def replyTo (r : Request) (result : Json) : List Message :=
  (r.id.map fun id => Message.reply id result).toList

/-- A step followed by what is due at once. -/
def settled (o : Outcome Service α) : Outcome Service α :=
  o.bind fun answer s => (s.advance 0).map fun _ => answer

/-- Puts a request to the service. What becomes due at once happens before the reply. There is no
outcome once the engine has stopped. -/
def handle (s : Service) (r : Request) : Service × Option Handled :=
  -- The engine may ask for what is reported in this very request.
  let s := { s with reports := reported r.command s.reports }
  match r.command with
  | .shutdown =>
    match s.stop with
    | none => (s, none)
    | some o => (o.state, some ⟨.stop, messagesOf o.effects ++ replyTo r .null, o.effects⟩)
  | command =>
    match (s.call (engineStep command)).map settled with
    | none => (s, none)
    | some o => (o.state, some ⟨.proceed, messagesOf o.effects ++ replyTo r o.answer, o.effects⟩)

/-- The message about a line that is no request. -/
def rejection (f : Json.Fault) : Message := .error none ("invalid request: " ++ f.message)

/-- Handles a line. A blank one causes nothing. -/
def handleLine (s : Service) (line : String) : Service × Option Handled :=
  let line := Text.trim line
  if line.isEmpty then (s, some ⟨.proceed, [], []⟩)
  else
    match Request.ofText line with
    | .error f => (s, some ⟨.proceed, [rejection f], []⟩)
    | .ok r => handle s r

/-- The wording of a call to an engine that has stopped. -/
def stoppedMessage : String := "protection engine has stopped"

end Warden.Wire
