import Warden.Engine.Basic

namespace Warden.Engine

/-!
# Restricted content and the engine

Texts on the screen are searched for keywords; the first one found starts the countdown of its
app.

* `content` — an app shows a text.
* `deferChallenge` — its user defers the countdown.
* `timer` — a timer delivers its event.
* `setKeyword` — the switch of keyword protection.
-/

/-- New keywords. -/
def setKeywords (e : Engine) (keywords : List String) : Engine :=
  { e with matcher := .ofList keywords }

/-- Switches keyword protection. Switching it off ends all countdowns. -/
def setKeyword (e : Engine) (on : Bool) : Outcome Engine Unit :=
  let e := { e with keywordEnabled := on }
  if on then .answering e ()
  else e.keywords.cancelAll.within fun keywords => { e with keywords }

/-- An app shows a text. There is no answer without a keyword in it. -/
def content (e : Engine) (host : Host) (app text : String) :
    Outcome Engine (Option Keyword.Violation) :=
  if e.stopped || !e.keywordEnabled then .answering e none
  else if (e.matcher.find text).isNone then .answering e none
  else
    ((e.keywords.violate app host.nextTimer).within fun keywords => { e with keywords }).map some

/-- A user defers the countdown of an app. -/
def deferChallenge (e : Engine) (host : Host) (app : String) : Outcome Engine Bool :=
  if e.stopped then .answering e false
  else
    let o := (e.keywords.defer app host.nextTimer).within fun keywords => { e with keywords }
    o.also (if o.answer then [.record ⟨.graceGranted, app, none⟩] else [])

/-- Where the challenge of an app stands. -/
def challenge? (e : Engine) (app : String) : Option Keyword.Phase :=
  (e.keywords.challenge? app).map (·.phase)

/-- Whether the text on the screen of an app has a keyword in it; a text that nobody can read has
none. -/
def isViolating (e : Engine) (host : Host) (app : String) : Bool :=
  match host.screenText app with
  | none => false
  | some text => (e.matcher.find text).isSome

/-- A timer delivers its event. -/
def timer (e : Engine) (host : Host) : TimerEvent → Outcome Engine Unit
  | .tick app generation =>
    if e.stopped then .answering e ()
    else
      let o := (e.keywords.tick app generation host.nextTimer).within fun keywords =>
        { e with keywords }
      (o.also (if o.answer = .expired then [.record ⟨.countdownExpired, app, none⟩] else [])).map
        fun _ => ()
  | .grace app generation =>
    if e.stopped then .answering e ()
    else
      ((e.keywords.elapse app generation (e.isViolating host) host.nextTimer).within
        fun keywords => { e with keywords }).map fun _ => ()

end Warden.Engine
