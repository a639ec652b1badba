import Warden.AppTable
import Warden.Outcome

namespace Warden.Keyword

/-!
# Countdowns after restricted content

An app that shows restricted content is given a number of seconds. Meanwhile its user may defer
once: the countdown goes away for a grace period, and starts anew only if the content is still
there. When a countdown runs out, the user is sent home.

* `Phase`, `Challenge` — where one app stands.
* `Guard` — the challenges of all apps, at most one for each.
* `Guard.violate`, `Guard.tick`, `Guard.defer`, `Guard.elapse`, `Guard.cancelAll` — the steps.

Each phase has a generation of its own. An event that was set for another generation is stale and
changes nothing. Generations are natural numbers, so none comes twice; a counter of 64 bits, one
phase a nanosecond, would take centuries to come round. Each countdown has its own overlay; when one
of them goes away, the most urgent of the others comes to the front again.
-/

/-! ### Challenges -/

/-- Where a challenge stands. -/
inductive Phase where
  | counting (remaining : Nat)
  | grace
  deriving DecidableEq

/-- The seconds left while a countdown is running. -/
def Phase.remaining? : Phase → Option Nat
  | .counting n => some n
  | .grace => none

/-- The challenge of an app. -/
structure Challenge where
  phase : Phase
  /-- Whether the one deferral has been used. -/
  deferred : Bool
  generation : Nat
  /-- The timer that ends the present second or the grace period. -/
  timer : TimerId
  deriving DecidableEq

/-- The challenges of all apps. -/
structure Guard where
  /-- The length of a countdown in seconds. -/
  countdown : Nat
  grace : Duration
  challenges : AppTable Challenge
  /-- The generation that was given out last. The counter has no upper end. -/
  lastGeneration : Nat
  countdown_pos : 0 < countdown := by omega

/-! ### Answers -/

/-- The answer to restricted content. -/
inductive Violation where
  | started
  | alreadyActive (phase : Phase)
  deriving DecidableEq

/-- The answer to a second gone by. -/
inductive Tick where
  | ticked (remaining : Nat)
  | expired
  | stale
  deriving DecidableEq

/-- The answer to the end of a grace period. -/
inductive Elapsed where
  | resumed
  | resolved
  | stale
  deriving DecidableEq

namespace Guard

/-- No challenges yet. A countdown lasts at least one second. -/
def start (countdown : Nat) (grace : Duration) : Guard :=
  ⟨max countdown 1, grace, .empty, 0, by omega⟩

/-- New lengths for the countdowns and grace periods that start from now on. -/
def setTiming (g : Guard) (countdown : Nat) (grace : Duration) : Guard :=
  { g with countdown := max countdown 1, grace, countdown_pos := by omega }

/-- The challenge of an app. -/
def challenge? (g : Guard) (app : String) : Option Challenge := g.challenges.get? app

/-- What a countdown says. -/
def message : String := "Restricted content detected. Close it before the timer runs out."

/-- One second. -/
def second : Duration := .seconds 1

/-- The effect that shows the countdown of an app. -/
def shown (app : String) (remaining : Nat) : Effect :=
  .surface (.show (.keyword app remaining) message)

/-- The effect that hides the countdown of an app. -/
def hidden (app : String) (remaining : Nat) : Effect := .surface (.hide (.keyword app remaining))

/-! ### The most urgent countdown -/

/-- Whether the first of two countdowns goes before the second: the one that ends sooner, and of two
that end together the one whose app comes first. -/
def isMoreUrgent (a b : Nat × String) : Bool := a.1 < b.1 || (a.1 == b.1 && a.2 < b.2)

/-- The running countdowns. -/
def running (g : Guard) : List (Nat × String) :=
  g.challenges.entries.filterMap fun (app, c) => c.phase.remaining?.map fun n => (n, app)

/-- The most urgent countdown of a list. -/
def mostUrgent : List (Nat × String) → Option (Nat × String)
  | [] => none
  | a :: rest =>
    match mostUrgent rest with
    | none => some a
    | some b => if isMoreUrgent b a then some b else some a

/-- Brings the most urgent countdown to the front. -/
def reshow (g : Guard) : List Effect :=
  match mostUrgent g.running with
  | none => []
  | some (n, app) => [shown app n]

/-! ### Steps -/

/-- Starts a countdown for an app, with the timer `timer` for its first second. -/
def count (g : Guard) (app : String) (deferred : Bool) (timer : TimerId) : Guard × List Effect :=
  let generation := g.lastGeneration + 1
  ({ g with
      challenges := g.challenges.insert app ⟨.counting g.countdown, deferred, generation, timer⟩
      lastGeneration := generation },
    [.timer (.schedule timer second (.tick app generation)), shown app g.countdown])

/-- An app shows restricted content. -/
def violate (g : Guard) (app : String) (timer : TimerId) : Outcome Guard Violation :=
  match g.challenge? app with
  | some c => ⟨g, .alreadyActive c.phase, []⟩
  | none =>
    let (g, effects) := g.count app false timer
    ⟨g, .started, effects⟩

/-- A second of a countdown is over. -/
def tick (g : Guard) (app : String) (generation : Nat) (timer : TimerId) : Outcome Guard Tick :=
  match g.challenge? app with
  | none => ⟨g, .stale, []⟩
  | some c =>
    match c.phase with
    | .grace => ⟨g, .stale, []⟩
    | .counting n =>
      if c.generation ≠ generation then ⟨g, .stale, []⟩
      else if n ≤ 1 then
        -- The challenge is gone before the next countdown is brought to the front.
        let g := { g with challenges := g.challenges.erase app }
        ⟨g, .expired,
          .surface (.goHome (.countdownExpired app)) :: hidden app 0 :: g.reshow⟩
      else
        let c := { c with phase := .counting (n - 1), timer }
        ⟨{ g with challenges := g.challenges.insert app c }, .ticked (n - 1),
          [.timer (.schedule timer second (.tick app generation)),
            .surface (.update (.keyword app (n - 1)))]⟩

/-- A user defers: once per challenge, and only while it is counting. A new generation is used up
in any case. -/
def defer (g : Guard) (app : String) (timer : TimerId) : Outcome Guard Bool :=
  let generation := g.lastGeneration + 1
  let g := { g with lastGeneration := generation }
  match g.challenge? app with
  | none => ⟨g, false, []⟩
  | some c =>
    if c.deferred || c.phase.remaining?.isNone then ⟨g, false, []⟩
    else
      -- The timer of the countdown is cancelled, so nothing but the end of the grace period is due.
      let g := { g with
        challenges := g.challenges.insert app ⟨.grace, true, generation, timer⟩ }
      ⟨g, true,
        .timer (.cancel c.timer) :: .timer (.schedule timer g.grace (.grace app generation)) ::
          hidden app 0 :: g.reshow⟩

/-- A grace period is over; `violating` tells whether an app still shows restricted content. -/
def elapse (g : Guard) (app : String) (generation : Nat) (violating : String → Bool)
    (timer : TimerId) : Outcome Guard Elapsed :=
  match g.challenge? app with
  | none => ⟨g, .stale, []⟩
  | some c =>
    if c.phase ≠ .grace ∨ c.generation ≠ generation then ⟨g, .stale, []⟩
    else if violating app then
      let (g, effects) := g.count app c.deferred timer
      ⟨g, .resumed, effects⟩
    else ⟨{ g with challenges := g.challenges.erase app }, .resolved, []⟩

/-- What ends a challenge: its timer, and its overlay while it is counting. -/
def ending (app : String) (c : Challenge) : List Effect :=
  .timer (.cancel c.timer) :: (c.phase.remaining?.map (hidden app)).toList

/-- Ends all challenges. -/
def cancelAll (g : Guard) : Outcome Guard Unit :=
  ⟨{ g with challenges := .empty }, (),
    g.challenges.entries.flatMap fun (app, c) => ending app c⟩

end Guard

end Warden.Keyword
