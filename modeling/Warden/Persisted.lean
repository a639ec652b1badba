import Warden.Category

namespace Warden

/-!
# Persisted state

The part of the state that outlives a restart: when the last challenge was completed, and what was
last known about the capabilities.

* `Persisted` — the state, with its JSON form.
* `Persisted.text`, `Persisted.ofText` — the content of its file; a content that does not parse
  counts as the empty state.
-/

/-- The state that outlives a restart. -/
structure Persisted where
  /-- When the last challenge was completed, if the window it opened was not closed since. -/
  completion : Option Nat := none
  capabilities : CapabilityTable := .empty
  deriving DecidableEq

namespace Persisted

/-- The state before anything happened. -/
def empty : Persisted := {}

/-! ### JSON -/

/-- The JSON form of a table of capabilities. -/
def tableToJson (t : CapabilityTable) : Json :=
  .record (t.toList.map fun (c, active) => (c.name, .bool active))

/-- The JSON form of the state. -/
def toJson (p : Persisted) : Json :=
  .record (Json.member? "lastChallengeCompletionMs" Json.natural p.completion ++
    [("capabilityCache", tableToJson p.capabilities)])

/-- Reads the members of a table of capabilities; a later one counts more than an earlier one. -/
def readTable (t : CapabilityTable) :
    List (Json.Literal × Json) → Except Json.Fault CapabilityTable
  | [] => .ok t
  | (k, v) :: rest => do
    let c ← Capability.ofJson .inPlace (.string k)
    let active ← Json.readFlag v
    readTable (t.set c active) rest

/-- The table of capabilities a document holds. -/
def tableOfJson : Json → Except Json.Fault CapabilityTable
  | .object ms => readTable .empty ms
  | j => .error (Json.mismatch j "a map")

/-- The fields of the state. -/
def shape : Json.Shape where
  what := "struct PersistedState"
  fields := [
    .spared "lastChallengeCompletionMs" (Json.readOptional Json.readWord64),
    .spared "capabilityCache" tableOfJson]

/-- The state a document holds. -/
def ofJson (j : Json) : Except Json.Fault Persisted := do
  let m ← shape.read .inPlace j
  return {
    completion :=
      (← m.get? "lastChallengeCompletionMs" (Json.readOptional Json.readWord64)).join
    capabilities := (← m.get? "capabilityCache" tableOfJson).getD .empty }

/-! ### The file -/

/-- The content of the file. -/
def text (p : Persisted) : String := p.toJson.pretty

/-- The state that a file's content stands for. -/
def ofText (s : String) : Persisted :=
  match Json.decode ofJson s with
  | .ok p => p
  | .error _ => empty

end Persisted

end Warden
