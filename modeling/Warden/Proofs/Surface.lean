import Warden.Proofs.Json.Tagged
import Warden.Proofs.Navigation
import Warden.Proofs.Persisted
import Warden.Surface

namespace Warden

/-!
# Overlays and reasons that are written and read

What the host is told about the screen is read back from its JSON form.

* `Overlay.Fits` — the seconds left of a countdown have 32 bits.
* `Overlay.ofJson_toJson`, `HomeReason.ofJson_toJson` — the round trips.
* `Overlay.fits_ofJson` — no document stands for an overlay that does not fit.
-/

namespace Category

/-- A category can be copied at any depth. -/
theorem copyable_toJson (room : Nat) (c : Category) :
    Json.copyable room c.toJson = .ok () := Json.copyable_text room c.name

theorem toJson_inj {c c' : Category} (h : c.toJson = c'.toJson) : c = c' :=
  Json.inj_of_read (ofJson_toJson .inPlace c) (ofJson_toJson .inPlace c') h

end Category

namespace Overlay

variable {o : Overlay}

/-- Whether the seconds left of a countdown have 32 bits. -/
def Fits : Overlay → Prop
  | .keyword _ remaining => remaining ≤ Number.word32
  | _ => True

/-- An overlay that fits is a plain document. -/
theorem plain_toJson (h : o.Fits) : Json.Plain o.toJson := by
  cases o with
  | appLock app =>
    exact Json.plain_record (by simp [Json.plain_text])
  | tamper category =>
    exact Json.plain_record (by simp [Json.plain_text, Category.toJson])
  | keyword app remaining =>
    have hword : remaining ≤ Number.word64 := Nat.le_trans h (by decide)
    exact Json.plain_record (by simp [Json.plain_text, Json.Plain.natural hword])

/-- **The round trip.** An overlay that fits is read back from its document. -/
theorem ofJson_toJson (h : o.Fits) : ofJson o.toJson = .ok o := by
  -- One case for each kind: its tag is found, and what is left are the members of that kind.
  cases o with
  | appLock app =>
    have hfield := Json.readText_text app
    have htag : Json.readTagged "kind" "internally tagged enum OverlayKind" kinds
        (toJson (.appLock app)) = .ok ("app_lock", .record [("app_id", .text app)]) :=
      Json.readTagged_record (by decide) (by simp [Json.Copyable, Json.copyable_text])
    rw [ofJson, htag]
    exact Json.Shape.make_single appLock hfield
  | tamper category =>
    have hfield := Category.ofJson_toJson .fromCopy category
    have htag : Json.readTagged "kind" "internally tagged enum OverlayKind" kinds
        (toJson (.tamper category)) = .ok ("tamper", .record [("category", category.toJson)]) :=
      Json.readTagged_record (by decide) (by simp [Json.Copyable, Category.copyable_toJson])
    rw [ofJson, htag]
    exact Json.Shape.make_single tamper hfield
  | keyword app remaining =>
    have happ := Json.readText_text app
    have hremaining : Json.readWord32 (.natural remaining) = .ok remaining := if_pos h
    have htag : Json.readTagged "kind" "internally tagged enum OverlayKind" kinds
        (toJson (.keyword app remaining)) =
          .ok ("keyword", .record [("app_id", .text app), ("remaining_secs", .natural remaining)]) :=
      Json.readTagged_record (by decide)
        (by simp [Json.Copyable, Json.copyable_text, Json.copyable_natural])
    have hfits : ∀ m ∈ [("app_id", Json.text app), ("remaining_secs", Json.natural remaining)],
        keywordShape.Fits m :=
      List.forall_mem_cons.2 ⟨Json.Shape.fits_needed rfl happ,
        List.forall_mem_singleton.2 (Json.Shape.fits_needed rfl hremaining)⟩
    rw [ofJson, htag]
    show (keywordShape.read .fromCopy _ >>= fun _ => _) = _
    rw [Json.Shape.read_record hfits (by simp) rfl]
    show (Json.readText (.text app) >>= fun a =>
      Json.readWord32 (.natural remaining) >>= fun n => pure (keyword a n)) = _
    rw [happ, hremaining]
    rfl

/-- Two overlays that fit have two documents. -/
theorem toJson_inj {o' : Overlay} (h : o.Fits) (h' : o'.Fits) (hjson : o.toJson = o'.toJson) :
    o = o' :=
  Json.inj_of_read (ofJson_toJson h) (ofJson_toJson h') hjson

/-- Whatever a document holds, the overlay it stands for fits. -/
theorem fits_ofJson {j : Json} (h : ofJson j = .ok o) : o.Fits := by
  unfold ofJson at h
  obtain ⟨⟨kind, body⟩, -, h⟩ := Fallible.bind_ok_iff.1 h
  dsimp only at h
  split at h
  · obtain ⟨m, -, h⟩ := Fallible.bind_ok_iff.1 h
    obtain ⟨app, -, h⟩ := Fallible.bind_ok_iff.1 h
    cases h
    trivial
  · obtain ⟨m, -, h⟩ := Fallible.bind_ok_iff.1 h
    obtain ⟨category, -, h⟩ := Fallible.bind_ok_iff.1 h
    cases h
    trivial
  · obtain ⟨m, -, h⟩ := Fallible.bind_ok_iff.1 h
    obtain ⟨app, -, h⟩ := Fallible.bind_ok_iff.1 h
    obtain ⟨remaining, hremaining, h⟩ := Fallible.bind_ok_iff.1 h
    cases h
    -- Only a countdown has a number to fit, which is read with its bits.
    unfold Json.Members.get at hremaining
    split at hremaining
    · cases hremaining
    · exact Persisted.readWord_le hremaining

end Overlay

namespace HomeReason

/-- A reason to go home is a plain document. -/
theorem plain_toJson (r : HomeReason) : Json.Plain r.toJson := by
  cases r with
  | tamper category => exact Json.plain_record (by simp [Json.plain_text, Category.toJson])
  | countdownExpired app => exact Json.plain_record (by simp [Json.plain_text])

/-- **The round trip.** Such a reason is read back from its document. -/
theorem ofJson_toJson (r : HomeReason) : ofJson r.toJson = .ok r := by
  cases r with
  | tamper category =>
    have hfield := Category.ofJson_toJson .fromCopy category
    have htag : Json.readTagged "reason" "internally tagged enum NavigationReason" kinds
        (toJson (.tamper category)) = .ok ("tamper", .record [("category", category.toJson)]) :=
      Json.readTagged_record (by decide) (by simp [Json.Copyable, Category.copyable_toJson])
    rw [ofJson, htag]
    exact Json.Shape.make_single tamper hfield
  | countdownExpired app =>
    have hfield := Json.readText_text app
    have htag : Json.readTagged "reason" "internally tagged enum NavigationReason" kinds
        (toJson (.countdownExpired app)) =
          .ok ("countdown_expired", .record [("app_id", .text app)]) :=
      Json.readTagged_record (by decide) (by simp [Json.Copyable, Json.copyable_text])
    rw [ofJson, htag]
    exact Json.Shape.make_single countdownExpired hfield

theorem toJson_inj {r r' : HomeReason} (h : r.toJson = r'.toJson) : r = r' :=
  Json.inj_of_read (ofJson_toJson r) (ofJson_toJson r') h

end HomeReason

end Warden
