import Warden.Json.Decoding
import Warden.Proofs.Json.RoundTrip

namespace Warden.Json

/-!
# Records that are written and read

A group of named values that is written as an object is read back member by member.

* `plain_record` — a record of plain values is plain.
* `inj_of_read` — what is read back is written in one way for each value.
* `Shape.Fits` — a shape has a field for every member, and its value passes.
* `Shape.read_record` — the members of a fitting record.
* `decode_compact`, `decode_pretty` — a text stands for what its document stands for.
-/

variable {α : Type} {read : Json → Except Fault α} {j : Json} {name : String}
  {members : Members} {shape : Shape} {mode : Mode}

/-! ### Plain documents -/

/-- A text is a plain document. -/
theorem plain_text (s : String) : Plain (text s) := .string s.toList

/-- A record of plain documents is plain. -/
theorem plain_record (h : ∀ m ∈ members, Plain m.2) : Plain (record members) := by
  refine .object (fun m hm => ?_) fun m hm => ?_
  · obtain ⟨n, -, rfl⟩ := List.mem_map.1 hm
    exact ⟨_, rfl⟩
  · obtain ⟨n, hn, rfl⟩ := List.mem_map.1 hm
    exact h n hn

/-! ### Values -/

/-- Values that are read back from their documents have different ones. -/
theorem inj_of_read {write : α → Json} {a b : α} (ha : read (write a) = .ok a)
    (hb : read (write b) = .ok b) (h : write a = write b) : a = b := by
  rw [h, hb] at ha
  exact (Except.ok.inj ha).symm

theorem natural_inj {n n' : Nat} (h : natural n = natural n') : n = n' := by
  injection h with h
  injection h

/-- Different members make different records. -/
theorem record_inj {ms ms' : Members} (h : record ms = record ms') : ms = ms' := by
  injection h with h
  refine List.map_injective_iff.2 (fun p q hpq => ?_) h
  obtain ⟨hkey, hvalue⟩ := Prod.mk.inj hpq
  injection hkey with hkey
  exact Prod.ext (String.toList_inj.1 hkey) hvalue

/-! ### Members -/

/-- A text has itself as its value. -/
@[simp] theorem value_text (s : String) : (Literal.text s.toList).value = .ok s := by
  rw [Literal.value, String.ofList_toList]

@[simp] theorem readText_text (s : String) : readText (text s) = .ok s := value_text s

/-- A text that may be missing is read back where it is not. -/
theorem readOptional_text (s : String) : readOptional readText (text s) = .ok (some s) :=
  congrArg (Except.map some) (readText_text s)

theorem text_inj {s s' : String} (h : text s = text s') : s = s' :=
  inj_of_read (readText_text s) (readText_text s') h

/-- Whether a shape has a field for a member, and the value of the member passes. -/
def Shape.Fits (shape : Shape) (m : String × Json) : Prop :=
  ∃ f, shape.fields.find? (·.name == m.1) = some f ∧ f.check m.2 = .ok ()

/-- A member that is needed fits if its value is read. -/
theorem Shape.fits_needed {m : String × Json} {a : α}
    (hf : shape.fields.find? (·.name == m.1) = some (.needed name read)) (h : read m.2 = .ok a) :
    shape.Fits m :=
  ⟨_, hf, congrArg (Except.map fun _ => ()) h⟩

/-- So does a member that may be missing. -/
theorem Shape.fits_spared {m : String × Json} {a : α}
    (hf : shape.fields.find? (·.name == m.1) = some (.spared name read)) (h : read m.2 = .ok a) :
    shape.Fits m :=
  ⟨_, hf, congrArg (Except.map fun _ => ()) h⟩

/-- Members that fit, each name once, are collected as they are. -/
theorem Shape.ofMembers_record (seen : Members) (hfits : ∀ m ∈ members, shape.Fits m)
    (hnodup : ((seen ++ members).map (·.1)).Nodup)
    (hmissing : shape.missing? (seen ++ members) = none) :
    shape.ofMembers seen (members.map fun m => (.text m.1.toList, m.2)) =
      .ok (seen ++ members) := by
  -- On the members that are left; those that were seen grow by each of them.
  induction members generalizing seen with
  | nil =>
    rw [List.append_nil] at hmissing ⊢
    rw [List.map_nil, ofMembers, hmissing]
  | cons m rest ih =>
    obtain ⟨f, hf, hcheck⟩ := hfits m List.mem_cons_self
    -- A name that was seen before would be a fault, so the names have to differ.
    have hfresh : (seen.lookup m.1).isSome = false := by
      rw [List.map_append, List.map_cons, List.nodup_append] at hnodup
      rw [Option.isSome_eq_false_iff, Option.isNone_iff_eq_none, List.lookup_eq_none_iff]
      intro p hp
      have hne := hnodup.2.2 p.1 (List.mem_map_of_mem hp) m.1 List.mem_cons_self
      simpa [beq_eq_false_iff_ne] using hne.symm
    have hrest := ih (seen ++ [(m.1, m.2)])
      (fun p hp => hfits p (List.mem_cons_of_mem m hp))
      (by simpa [List.append_assoc] using hnodup) (by simpa [List.append_assoc] using hmissing)
    rw [List.map_cons, ofMembers]
    simp only [value_text, hf, hfresh, hcheck, bind, Except.bind]
    rw [List.append_assoc] at hrest
    exact hrest

/-- The members of a record that fits. -/
theorem Shape.read_record (hfits : ∀ m ∈ members, shape.Fits m)
    (hnodup : (members.map (·.1)).Nodup) (hmissing : shape.missing? members = none) :
    shape.read mode (record members) = .ok members :=
  shape.ofMembers_record [] hfits hnodup hmissing

/-! ### Texts -/

/-- A plain document is decoded from its form on one line. -/
theorem decode_compact (h : Plain j) : decode read j.compact = read j := by
  rw [decode, read_compact h]

/-- A plain document is decoded from its form over several lines. -/
theorem decode_pretty (h : Plain j) : decode read j.pretty = read j := by
  rw [decode, read_pretty h]

end Warden.Json
