import Warden.Persisted
import Warden.Proofs.Fallible
import Warden.Proofs.Json.Records

namespace Warden

/-!
# The persisted state as a text

What is written to the state file is read back from it.

* `Persisted.Fits` — the time of the last challenge has 64 bits.
* `Persisted.ofText_text` — the round trip.
* `Persisted.fits_ofText` — no text stands for a state that does not fit.
-/

namespace Capability

/-- The name of a capability stands for it, however it is read. -/
theorem ofJson_name (mode : Json.Mode) (c : Capability) :
    ofJson mode (.string (.text c.name.toList)) = .ok c := by
  cases c <;> rfl

end Capability

namespace Persisted

variable {p : Persisted} {t : CapabilityTable}

/-! ### The table of capabilities -/

/-- A table of capabilities is a plain document. -/
theorem plain_table (t : CapabilityTable) : Json.Plain (tableToJson t) := by
  refine Json.plain_record fun m hm => ?_
  obtain ⟨i, -, rfl⟩ := List.mem_map.1 hm
  exact .bool i.2

/-- Members are learnt one after another. -/
theorem readTable_map (t : CapabilityTable) (items : List (Capability × Bool)) :
    readTable t ((items.map fun (c, active) => (c.name, Json.bool active)).map
        fun m => (.text m.1.toList, m.2)) =
      .ok (items.foldl (fun t i => t.set i.1 i.2) t) := by
  -- On the members; each adds one capability to those learnt before.
  induction items generalizing t with
  | nil => rfl
  | cons i rest ih =>
    rw [List.map_cons, List.map_cons, readTable, Capability.ofJson_name]
    exact ih (t.set i.1 i.2)

/-- A table of capabilities is read back. -/
theorem tableOfJson_toJson (t : CapabilityTable) : tableOfJson (tableToJson t) = .ok t := by
  rw [tableToJson, Json.record, tableOfJson, readTable_map]
  exact congrArg Except.ok t.ofList_toList

/-! ### The state -/

/-- Whether the time of the last challenge has 64 bits. -/
def Fits (p : Persisted) : Prop := ∀ last, p.completion = some last → last ≤ Number.word64

/-- The members of a state. -/
def members (p : Persisted) : Json.Members :=
  Json.member? "lastChallengeCompletionMs" Json.natural p.completion ++
    [("capabilityCache", tableToJson p.capabilities)]

/-- What is to be shown of all members is shown of the time, if there is one, and of the table. -/
theorem forall_members {P : String × Json → Prop} :
    (∀ m ∈ p.members, P m) ↔
      (∀ last, p.completion = some last → P ("lastChallengeCompletionMs", .natural last)) ∧
        P ("capabilityCache", tableToJson p.capabilities) := by
  unfold members
  cases p.completion <;> simp [Json.member?]

/-- A state whose time has 64 bits is a plain document. -/
theorem plain_toJson (h : p.Fits) : Json.Plain p.toJson :=
  Json.plain_record
    (forall_members.2 ⟨fun last hlast => .natural (h last hlast), plain_table p.capabilities⟩)

/-- A number of 64 bits is read back. -/
theorem readWord64_natural {n : Nat} (h : n ≤ Number.word64) :
    Json.readWord64 (.natural n) = .ok n := if_pos h

/-- The members of a state are those that the reader knows, with values that it takes. -/
theorem shape_fits (h : p.Fits) : ∀ m ∈ p.members, shape.Fits m := by
  refine forall_members.2 ⟨fun last hlast => ?_, ?_⟩
  · have hread : Json.readOptional Json.readWord64 (.natural last) = .ok (some last) :=
      congrArg (Except.map some) (readWord64_natural (h last hlast))
    exact Json.Shape.fits_spared rfl hread
  · exact Json.Shape.fits_spared rfl (tableOfJson_toJson p.capabilities)

/-- A state whose time has 64 bits is read back from its document. -/
theorem ofJson_toJson (h : p.Fits) : ofJson p.toJson = .ok p := by
  have hnodup : (p.members.map (·.1)).Nodup := by
    unfold members
    cases p.completion <;> simp [Json.member?]
  have hread : shape.read .inPlace p.toJson = .ok p.members :=
    Json.Shape.read_record (shape_fits h) hnodup rfl
  -- The two members are looked up by name, wherever they stand.
  have hcompletion : p.members.get? "lastChallengeCompletionMs"
      (Json.readOptional Json.readWord64) = .ok (p.completion.map some) := by
    unfold members
    cases hlast : p.completion with
    | none => rfl
    | some last =>
      exact congrArg (Except.map some ∘ Except.map some) (readWord64_natural (h last hlast))
  have hcapabilities :
      p.members.get? "capabilityCache" tableOfJson = .ok (some p.capabilities) := by
    have hlookup : p.members.lookup "capabilityCache" = some (tableToJson p.capabilities) := by
      unfold members
      cases p.completion <;> rfl
    rw [Json.Members.get?, hlookup]
    exact congrArg (Except.map some) (tableOfJson_toJson p.capabilities)
  simp only [ofJson, hread, hcompletion, hcapabilities, bind, Except.bind, pure, Except.pure]
  -- A time that is missing is not written, and a member that is missing is read as no time.
  cases p with
  | mk completion capabilities => cases completion <;> rfl

/-- A state is read back from the content of its file. -/
theorem ofText_text (h : p.Fits) : ofText p.text = p := by
  rw [ofText, text, Json.decode_pretty (plain_toJson h), ofJson_toJson h]

/-! ### What may be read -/

/-- A number that was read is within the bound it was read under. -/
theorem readWord_le {bound n : Nat} {kind : String} {j : Json}
    (h : Json.readWord bound kind j = .ok n) : n ≤ bound := by
  unfold Json.readWord at h
  split at h
  · split at h
    next hle =>
      cases h
      exact hle
    · cases h
  · cases h
  · cases h

/-- So is one that might have been missing. -/
theorem readOptional_le {n : Nat} {j : Json}
    (h : Json.readOptional Json.readWord64 j = .ok (some n)) : n ≤ Number.word64 := by
  unfold Json.readOptional at h
  split at h
  · cases h
  · obtain ⟨m, hword, hm⟩ := Fallible.map_ok_iff.1 h
    exact readWord_le (hword.trans (congrArg Except.ok (Option.some.inj hm)))

/-- So is one that was looked up among members. -/
theorem get?_le {m : Json.Members} {name : String} {found : Option (Option Nat)} {n : Nat}
    (h : m.get? name (Json.readOptional Json.readWord64) = .ok found) (hn : found.join = some n) :
    n ≤ Number.word64 := by
  unfold Json.Members.get? at h
  split at h
  · cases h
    cases hn
  next j _ =>
    obtain ⟨v, hread, rfl⟩ := Fallible.map_ok_iff.1 h
    exact readOptional_le (hread.trans (congrArg Except.ok hn))

/-- The time in a state that was read from a document has 64 bits. -/
theorem fits_ofJson {j : Json} (h : ofJson j = .ok p) : p.Fits := by
  unfold ofJson at h
  obtain ⟨m, -, h⟩ := Fallible.bind_ok_iff.1 h
  obtain ⟨found, hfound, h⟩ := Fallible.bind_ok_iff.1 h
  obtain ⟨capabilities, -, h⟩ := Fallible.bind_ok_iff.1 h
  cases h
  exact fun last hlast => get?_le hfound hlast

/-- Whatever a file holds, the state it stands for fits. -/
theorem fits_ofText (s : String) : (ofText s).Fits := by
  unfold ofText
  split
  next p hp =>
    unfold Json.decode at hp
    split at hp
    · exact fits_ofJson hp
    · cases hp
  · -- A text that is no state stands for an empty one, without a time.
    intro last h
    cases h

end Persisted

end Warden
