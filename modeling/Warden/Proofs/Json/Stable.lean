import Warden.Proofs.Audit.Entry
import Warden.Proofs.Surface

namespace Warden.Json

/-!
# Texts that stay the same

Whatever is both written and read is read back from the text that was written for it. So a text that
somebody else wrote may change once, when it is read and written back, and then never again.

* `rewritten print write read s` — the text that a text is written back as.
* `Faithful print fits write read` — writing and reading undo each other.
* `faithful_of_plain` — what makes them do so.
* `shapes_faithful` — all that is both written and read.
-/

variable {α : Type} {print : Json → String} {fits : α → Prop} {write : α → Json}
  {read : Json → Except Fault α}

/-- The text that a text is written back as, if it stands for a value. -/
def rewritten (print : Json → String) (write : α → Json) (read : Json → Except Fault α)
    (s : String) : Except Fault String :=
  (decode read s).map fun a => print (write a)

/-- Whether writing and reading undo each other: every value that fits is read back from its text,
and a text that is written back at all is written back as one that stays as it is. -/
structure Faithful (print : Json → String) (fits : α → Prop) (write : α → Json)
    (read : Json → Except Fault α) : Prop where
  reads_back : ∀ a, fits a → decode read (print (write a)) = .ok a
  settles : ∀ s t, rewritten print write read s = .ok t → rewritten print write read t = .ok t

/-- A document that is read back from its text makes up for all the layout: it is enough that values
are read back from their documents, and that all that is read fits. -/
theorem faithful_of_plain (hprint : ∀ j, Plain j → decode read (print j) = read j)
    (hplain : ∀ a, fits a → Plain (write a)) (hread : ∀ a, fits a → read (write a) = .ok a)
    (hfits : ∀ j a, read j = .ok a → fits a) : Faithful print fits write read := by
  have hback : ∀ a, fits a → decode read (print (write a)) = .ok a := fun a ha =>
    (hprint (write a) (hplain a ha)).trans (hread a ha)
  refine ⟨hback, fun s t h => ?_⟩
  obtain ⟨a, hdecode, rfl⟩ := Fallible.map_ok_iff.1 h
  -- The text may be anybody's, but the value it stands for fits.
  have ha : fits a := by
    unfold decode at hdecode
    split at hdecode
    next j _ => exact hfits j a hdecode
    next => cases hdecode
  rw [rewritten, hback a ha]
  rfl

/-- The same for values of which all fit. -/
theorem faithful_of_forall (hplain : ∀ a, Plain (write a)) (hread : ∀ a, read (write a) = .ok a) :
    Faithful compact (fun _ => True) write read :=
  faithful_of_plain (fun _ => decode_compact) (fun a _ => hplain a) (fun a _ => hread a)
    fun _ _ _ => trivial

/-- **What is both written and read stays the same**: reports on settings pages, overlays and
reasons to go home, the vocabularies in them, entries of the audit log, and the persisted state in
both layouts. All their strings count, and all their numbers of 32 and 64 bits. -/
theorem shapes_faithful :
    Faithful compact (fun _ => True) Navigation.toJson Navigation.ofJson ∧
      Faithful compact Overlay.Fits Overlay.toJson Overlay.ofJson ∧
      Faithful compact (fun _ => True) HomeReason.toJson HomeReason.ofJson ∧
      Faithful compact (fun _ => True) Category.toJson (Category.ofJson .inPlace) ∧
      Faithful compact (fun _ => True) Capability.toJson (Capability.ofJson .inPlace) ∧
      Faithful compact (fun _ => True) Source.toJson (Source.ofJson .inPlace) ∧
      Faithful compact Persisted.Fits Persisted.toJson Persisted.ofJson ∧
      Faithful pretty Persisted.Fits Persisted.toJson Persisted.ofJson ∧
      Faithful compact (fun _ => True) Audit.Entry.toJson Audit.Entry.ofJson := by
  refine ⟨?navigation, ?overlay, ?reason, ?category, ?capability, ?source, ?line, ?file, ?entry⟩
  case navigation => exact faithful_of_forall Navigation.plain_toJson Navigation.ofJson_toJson
  case overlay =>
    exact faithful_of_plain (fun _ => decode_compact) (fun _ => Overlay.plain_toJson)
      (fun _ => Overlay.ofJson_toJson) fun _ _ => Overlay.fits_ofJson
  case reason => exact faithful_of_forall HomeReason.plain_toJson HomeReason.ofJson_toJson
  case category =>
    exact faithful_of_forall (fun c => plain_text c.name) (Category.ofJson_toJson .inPlace)
  case capability =>
    exact faithful_of_forall (fun c => plain_text c.name) (Capability.ofJson_name .inPlace)
  case source =>
    exact faithful_of_forall (fun s => plain_text s.name) (Source.ofJson_toJson .inPlace)
  case line =>
    exact faithful_of_plain (fun _ => decode_compact) (fun _ => Persisted.plain_toJson)
      (fun _ => Persisted.ofJson_toJson) fun _ _ => Persisted.fits_ofJson
  case file =>
    exact faithful_of_plain (fun _ => decode_pretty) (fun _ => Persisted.plain_toJson)
      (fun _ => Persisted.ofJson_toJson) fun _ _ => Persisted.fits_ofJson
  case entry => exact faithful_of_forall Audit.Entry.plain_toJson Audit.Entry.ofJson_toJson

/-- An overlay in another layout, with its fields in a row and escapes where none are needed. -/
example : rewritten compact Overlay.toJson Overlay.ofJson
    "[\"keyword\", \"\\ud83d\\ude00\\u000a\", 4294967295]" =
      .ok "\x7b\"kind\":\"keyword\",\"app_id\":\"😀\\n\",\"remaining_secs\":4294967295\x7d" := by
  decide +kernel

end Warden.Json
