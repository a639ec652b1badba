import Warden.Proofs.Json.Records

namespace Warden.Json

/-!
# Records with a tag that are written and read

A group of values whose kind stands in a member of its own is read back kind and all, if the tag
comes first and the other members can be copied.

* `Copyable` — the members that can.
* `readTagged_record` — the kind, and a record of the other members.
* `Shape.read_single`, `Shape.make_single` — a group with a single field.
-/

variable {α : Type} {tag what name : String} {names : List String} {members : Members} {mode : Mode}
  {read : Json → Except Fault α} {j : Json} {a : α}

/-! ### Tags -/

/-- Whether a member can stand behind a tag: it is no tag itself, and its value can be copied. -/
def Copyable (tag : String) (m : String × Json) : Prop :=
  m.1 ≠ tag ∧ copyable (maxDepth - 1) m.2 = .ok ()

theorem copyable_text (room : Nat) (s : String) : copyable room (text s) = .ok () := rfl

theorem copyable_natural (room n : Nat) : copyable room (natural n) = .ok () := rfl

/-- Behind the tag the other members follow as they are. -/
theorem splitTag_members (others : List (Literal × Json)) (h : ∀ m ∈ members, Copyable tag m) :
    splitTag mode tag names (some name) others (members.map fun m => (.text m.1.toList, m.2)) =
      .ok (name, others.reverse ++ members.map fun m => (.text m.1.toList, m.2)) := by
  induction members generalizing others with
  | nil => rw [List.map_nil, splitTag, List.append_nil]
  | cons m rest ih =>
    obtain ⟨hkey, hcopy⟩ := h m List.mem_cons_self
    -- What has been copied so far is kept with the last member first.
    have hrest := ih ((.text m.1.toList, m.2) :: others) fun p hp => h p (List.mem_cons_of_mem m hp)
    rw [List.reverse_cons, List.append_assoc, List.singleton_append] at hrest
    rw [List.map_cons, splitTag]
    simp only [value_text, hkey, hcopy, bind, Except.bind, if_false]
    exact hrest

/-- A record that starts with its tag. -/
theorem readTagged_record (hname : name ∈ names) (h : ∀ m ∈ members, Copyable tag m) :
    readTagged tag what names (record ((tag, text name) :: members)) =
      .ok (name, record members) := by
  have htag : readTag .inPlace names (text name) = .ok name := by
    simp only [readTag, text, value_text, Except.bind, List.contains_iff_mem, hname, if_true]
  rw [record, List.map_cons, readTagged, splitTag]
  simp only [value_text, htag, bind, Except.bind, if_true]
  show Except.map _ (splitTag .inPlace tag names (some name) [] _) = _
  rw [splitTag_members [] h]
  rfl

/-! ### Groups -/

/-- A group with a single field. -/
theorem Shape.read_single (h : read j = .ok a) :
    Shape.read ⟨what, [.needed name read]⟩ mode (record [(name, j)]) = .ok [(name, j)] := by
  have hself : (Field.needed name read).name = name := rfl
  have hfits : ∀ m ∈ [(name, j)], Shape.Fits ⟨what, [.needed name read]⟩ m :=
    List.forall_mem_singleton.2 (fits_needed (List.find?_cons_of_pos (by simp [hself])) h)
  exact read_record hfits (by simp) (by simp [missing?, hself])

/-- What is made of the value of a single field. -/
theorem Shape.make_single {β : Type} (make : α → β) (h : read j = .ok a) :
    (Shape.read ⟨what, [.needed name read]⟩ mode (record [(name, j)]) >>= fun m =>
      m.get name read >>= fun a => pure (make a)) = .ok (make a) := by
  have hget : Members.get [(name, j)] name read = .ok a := by
    simp only [Members.get, List.lookup_cons_self, h]
  rw [read_single h]
  show (Members.get [(name, j)] name read >>= fun a => pure (make a)) = _
  rw [hget]
  rfl

end Warden.Json
