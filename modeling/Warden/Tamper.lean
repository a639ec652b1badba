import Warden.Bypass

namespace Warden

/-!
# Tamper attempts

A settings page that comes to the foreground is an attempt if it is about the protected app, the
capability it guards is active and no bypass window is open. One attempt is answered once: until
the page has left the foreground, further reports about its category are absorbed.

* `Policy` — the categories that count as attempts when nobody can tell whom a page is about.
* `Tamper.Decision` — the answer to a report.
* `Tamper.decide` — what a report about a page means.
-/

/-! ### The policy -/

/-- The categories of pages that count as targeted if in doubt. -/
structure Policy where
  failClosed : List Category
  deriving DecidableEq

namespace Policy

/-- The policy over a list of categories. -/
def ofList (cs : List Category) : Policy := ⟨Category.inOrder cs⟩

/-- Whether a page counts as targeted. -/
def resolve (p : Policy) (c : Category) : Targeting → Bool
  | .targeted => true
  | .notTargeted => false
  | .unknown => p.failClosed.contains c

end Policy

/-! ### Decisions -/

/-- An attempt. -/
structure Attempt where
  category : Category
  targetsProtectedApp : Bool
  time : Nat
  deriving DecidableEq

/-- Why a page is let through. -/
inductive Suppression where
  | notTargeted
  | capabilityInactive
  | gateClosed
  deriving DecidableEq

namespace Tamper

/-- The answer to a report. -/
inductive Decision where
  | trigger (attempt : Attempt)
  /-- The attempt was answered before. -/
  | debounced
  | suppressed (reason : Suppression)
  /-- The page of an answered attempt left the foreground. -/
  | released
  | ignored
  deriving DecidableEq

end Tamper

/-- The categories with an answered attempt, and the policy. -/
structure Tamper where
  triggered : List Category
  policy : Policy

namespace Tamper

/-- Nothing has happened yet. -/
def start (policy : Policy) : Tamper := ⟨[], policy⟩

/-- A new policy. -/
def setPolicy (t : Tamper) (policy : Policy) : Tamper := { t with policy }

/-- Whether an attempt of a category has been answered and its page is still there. -/
def isTriggered (t : Tamper) (c : Category) : Bool := t.triggered.contains c

/-- Notes an answered attempt. -/
def arm (t : Tamper) (c : Category) : Tamper := { t with triggered := c :: t.triggered }

/-- Forgets the answered attempt of a category. -/
def release (t : Tamper) (c : Category) : Tamper :=
  { t with triggered := t.triggered.filter (· != c) }

/-- Forgets all answered attempts. -/
def reset (t : Tamper) : Tamper := { t with triggered := [] }

/-- The capability that stands behind a category, as the host reports it; pages that guard none are
always live. -/
def guardActive (b : Bypass) (host : Host) (c : Category) : Outcome Bypass Bool :=
  match c.guarded? with
  | none => ⟨b, true, []⟩
  | some capability => b.confirm capability (host.capability capability)

/-- What a report about a page means. -/
def decide (t : Tamper) (b : Bypass) (host : Host) (n : Navigation) :
    Outcome (Tamper × Bypass) Decision :=
  let c := n.category
  if !n.foregrounded then
    ⟨(t.release c, b), if t.isTriggered c then .released else .ignored, []⟩
  else if t.isTriggered c then ⟨(t, b), .debounced, []⟩
  else if !t.policy.resolve c (host.targeting n) then ⟨(t, b), .suppressed .notTargeted, []⟩
  else
    -- The host is asked only now: pages about other apps leave the stored knowledge as it is.
    let live := guardActive b host c
    if !live.answer then ⟨(t, live.state), .suppressed .capabilityInactive, live.effects⟩
    else
      let gate := live.state.gate host.now
      let effects := live.effects ++ gate.effects
      if !gate.answer then ⟨(t, gate.state), .suppressed .gateClosed, effects⟩
      else ⟨(t.arm c, gate.state), .trigger ⟨c, true, host.now⟩, effects⟩

end Tamper

end Warden
