import Warden.Navigation
import Warden.Proofs.Json.Records

namespace Warden

/-!
# Reports that are written and read

A report on a settings page is read back from its JSON form, and so are the vocabularies in it.

* `Category.ofJson_toJson`, `Source.ofJson_toJson` — the name of a choice stands for it.
* `Navigation.ofJson_toJson` — the round trip of a report.
-/

/-- The name of a category is read back as the category. -/
theorem Category.ofJson_toJson (mode : Json.Mode) (c : Category) :
    ofJson mode c.toJson = .ok c := by
  cases c <;> rfl

/-- The name of a source is read back as the source. -/
theorem Source.ofJson_toJson (mode : Json.Mode) (s : Source) : ofJson mode s.toJson = .ok s := by
  cases s <;> rfl

namespace Navigation

variable {n : Navigation}

/-- The members of a report. -/
def members (n : Navigation) : Json.Members :=
  [("category", n.category.toJson), ("foregrounded", .bool n.foregrounded),
    ("source", n.source.toJson)] ++ Json.member? "target_package" Json.text n.targetPackage ++
    Json.member? "detail" Json.text n.detail

/-- What holds of the members of a report is said of each, and of the last two if they are there. -/
theorem forall_members {P : String × Json → Prop} :
    (∀ m ∈ n.members, P m) ↔
      P ("category", n.category.toJson) ∧ P ("foregrounded", .bool n.foregrounded) ∧
        P ("source", n.source.toJson) ∧
        (∀ p, n.targetPackage = some p → P ("target_package", .text p)) ∧
        ∀ d, n.detail = some d → P ("detail", .text d) := by
  unfold members
  cases n.targetPackage <;> cases n.detail <;> simp [Json.member?]

/-- A report is a plain document. -/
theorem plain_toJson (n : Navigation) : Json.Plain n.toJson := by
  refine Json.plain_record (forall_members.2 ⟨?_, .bool n.foregrounded, ?_, fun p _ => ?_,
    fun d _ => ?_⟩)
  all_goals exact Json.plain_text _

/-- Each of its members is one that is read. -/
theorem shape_fits (n : Navigation) : ∀ m ∈ n.members, shape.Fits m := by
  refine forall_members.2 ⟨?category, ?foregrounded, ?source, fun p _ => ?target, fun d _ => ?detail⟩
  case category => exact Json.Shape.fits_needed rfl (Category.ofJson_toJson .inPlace n.category)
  case foregrounded => exact Json.Shape.fits_needed rfl (a := n.foregrounded) rfl
  case source => exact Json.Shape.fits_needed rfl (Source.ofJson_toJson .inPlace n.source)
  case target => exact Json.Shape.fits_spared rfl (Json.readOptional_text p)
  case detail => exact Json.Shape.fits_spared rfl (Json.readOptional_text d)

/-- **The round trip.** A report is read back from its document, whichever of its two texts are
there. -/
theorem ofJson_toJson (n : Navigation) : ofJson n.toJson = .ok n := by
  have hnodup : (n.members.map (·.1)).Nodup := by
    unfold members
    cases n.targetPackage <;> cases n.detail <;> simp [Json.member?]
  have hread : shape.read .inPlace n.toJson = .ok n.members :=
    Json.Shape.read_record n.shape_fits hnodup rfl
  have hcategory : n.members.get "category" (Category.ofJson .inPlace) = .ok n.category :=
    Category.ofJson_toJson .inPlace n.category
  have hforegrounded : n.members.get "foregrounded" Json.readFlag = .ok n.foregrounded := rfl
  have hsource : n.members.get "source" (Source.ofJson .inPlace) = .ok n.source :=
    Source.ofJson_toJson .inPlace n.source
  -- A text that is not there is not written; the other one may be.
  have htarget : n.members.get? "target_package" (Json.readOptional Json.readText) =
      .ok (n.targetPackage.map some) := by
    unfold members
    cases n.targetPackage with
    | none => cases n.detail <;> rfl
    | some p => exact congrArg (Except.map some) (Json.readOptional_text p)
  have hdetail : n.members.get? "detail" (Json.readOptional Json.readText) =
      .ok (n.detail.map some) := by
    unfold members
    cases n.detail with
    | none => cases n.targetPackage <;> rfl
    | some d =>
      cases n.targetPackage <;> exact congrArg (Except.map some) (Json.readOptional_text d)
  simp only [ofJson, hread, hcategory, hforegrounded, hsource, htarget, hdetail, bind, Except.bind,
    pure, Except.pure]
  -- A text that is missing is not written, and a member that is missing is read as no text.
  cases n with
  | mk category foregrounded source target detail => cases target <;> cases detail <;> rfl

end Navigation

end Warden
