import Warden.Audit.Entry
import Warden.Proofs.Json.Records

namespace Warden.Audit

/-!
# Entries that are written and read

The line of an entry is a line of its own, and it is read back as the entry.

* `Entry.ofLine?_line` — the round trip.
* `Entry.unbroken_line` — a line of its own.
-/

/-- The name of an action is read back as the action. -/
theorem Action.ofJson_toJson (mode : Json.Mode) (a : Action) : ofJson mode a.toJson = .ok a := by
  cases a <;> rfl

namespace Entry

variable {e : Entry}

/-- The members of an entry. -/
def members (e : Entry) : Json.Members :=
  [("ts", .text e.time), ("action", e.action.toJson), ("subject", .text e.subject),
    ("prev_entry_sha256", .text e.previous), ("source", .text e.source)] ++
    Json.member? "detail" Json.text e.detail

/-- What holds of the members of an entry is said of each, the detail if there is one. -/
theorem forall_members {P : String × Json → Prop} :
    (∀ m ∈ e.members, P m) ↔
      P ("ts", .text e.time) ∧ P ("action", e.action.toJson) ∧ P ("subject", .text e.subject) ∧
        P ("prev_entry_sha256", .text e.previous) ∧ P ("source", .text e.source) ∧
        ∀ d, e.detail = some d → P ("detail", .text d) := by
  unfold members
  cases e.detail <;> simp [Json.member?]

/-- An entry is a plain document. -/
theorem plain_toJson (e : Entry) : Json.Plain e.toJson := by
  refine Json.plain_record (forall_members.2 ⟨?_, ?_, ?_, ?_, ?_, fun d _ => ?_⟩)
  all_goals exact Json.plain_text _

/-- Each of its members is one that is read. -/
theorem shape_fits (e : Entry) : ∀ m ∈ e.members, shape.Fits m := by
  refine forall_members.2 ⟨?time, ?action, ?subject, ?previous, ?source, fun d _ => ?detail⟩
  case time => exact Json.Shape.fits_needed rfl (Json.readText_text e.time)
  case action => exact Json.Shape.fits_needed rfl (Action.ofJson_toJson .inPlace e.action)
  case subject => exact Json.Shape.fits_spared rfl (Json.readText_text e.subject)
  case previous => exact Json.Shape.fits_needed rfl (Json.readText_text e.previous)
  case source => exact Json.Shape.fits_needed rfl (Json.readText_text e.source)
  case detail => exact Json.Shape.fits_spared rfl (Json.readOptional_text d)

/-- **The round trip.** An entry is read back from its document, with and without a detail. -/
theorem ofJson_toJson (e : Entry) : ofJson e.toJson = .ok e := by
  have hnodup : (e.members.map (·.1)).Nodup := by
    unfold members
    cases e.detail <;> simp [Json.member?]
  have hmissing : shape.missing? e.members = none := rfl
  have hread : shape.read .inPlace e.toJson = .ok e.members :=
    Json.Shape.read_record e.shape_fits hnodup hmissing
  -- A missing detail is not written, so there is none to be read.
  have hdetail : e.members.get? "detail" (Json.readOptional Json.readText) =
      .ok (e.detail.map some) := by
    unfold members
    cases e.detail with
    | none => rfl
    | some d => exact congrArg (Except.map some) (Json.readOptional_text d)
  have htime : e.members.get "ts" Json.readText = .ok e.time := Json.readText_text _
  have haction : e.members.get "action" (Action.ofJson .inPlace) = .ok e.action :=
    Action.ofJson_toJson .inPlace e.action
  have hsubject : e.members.get? "subject" Json.readText = .ok (some e.subject) :=
    congrArg (Except.map some) (Json.readText_text _)
  have hprevious : e.members.get "prev_entry_sha256" Json.readText = .ok e.previous :=
    Json.readText_text _
  have hsource : e.members.get "source" Json.readText = .ok e.source := Json.readText_text _
  simp only [ofJson, hread, htime, haction, hsubject, hprevious, hsource, hdetail, bind,
    Except.bind, pure, Except.pure]
  cases e with
  | mk time action subject previous source detail => cases detail <;> rfl

/-- An entry is read back from its line. -/
theorem ofLine?_line (e : Entry) : ofLine? e.line = some e := by
  rw [ofLine?, line, Json.decode_compact e.plain_toJson, ofJson_toJson]
  rfl

/-- The line of an entry has no line break in it. -/
theorem unbroken_line (e : Entry) : Text.Unbroken e.line.toList := by
  rw [line, Json.compact, String.toList_ofList]
  exact Json.unbroken_compact e.plain_toJson

theorem line_ne_empty (e : Entry) : e.line.toList ≠ [] := by
  rw [line, Json.compact, String.toList_ofList]
  exact List.cons_ne_nil _ _

end Entry

end Warden.Audit
