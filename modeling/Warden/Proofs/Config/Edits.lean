import Warden.Config.File
import Warden.Proofs.Config.Slots
import Warden.Proofs.Config.Validity

namespace Warden.Config

/-!
# Edits of a configuration

An edit gives one key a new value, if the text is such a value and makes sense.  No other key has
a say in that, and no other key notices.  What is read under a key can always be written back, and
that changes nothing unless the value is a list with an item that no line can hold.  Edits never
make such a list: it can only come from a file.

* `Sensible c` — the configuration makes sense; `sensible_iff` — value by value.
* `sensible_ofFile` — a configuration from a file makes sense.
* `Key.Accepts` — the texts that a key takes; `edit_ok_iff` — what an edit makes of them.
* `tryEdit`, `editAll` — the configuration after one edit or several, kept or not.
* `edits_local` — what edits do, whatever came before.
-/

open Fallible

variable {c c' : Config} {k j : Key} {s : String}

/-! ### Making sense, value by value -/

/-- Whether a configuration makes sense. -/
structure Sensible (c : Config) : Prop where
  valid : c.validate = .ok ()
  /-- The length of a countdown is a number of 32 bits. -/
  countdown : c.keyword.countdown ≤ Number.word32

/-- Whether a value of a key makes sense. -/
def Key.Holds : (k : Key) → k.Slot → Prop
  | .sessionTimeout, s | .sweepInterval, s => ∃ d, Duration.parse s = .ok d ∧ 0 < d.millis
  | .bypassDuration, s | .gracePeriod, s => ∃ d, Duration.parse s = .ok d
  | .countdown, n => 0 < n ∧ n ≤ Number.word32
  | _, _ => True

theorem holds_countdown : Key.Holds .countdown c.keyword.countdown ↔
    0 < c.keyword.countdown ∧ c.keyword.countdown ≤ Number.word32 := Iff.rfl

/-- A duration of a configuration is the text under its key, parsed. -/
theorem duration_ok_iff {d : Duration} : c.duration k = .ok d ↔ Duration.parse (c.get k) = .ok d :=
  mapError_ok_iff

/-- A configuration makes sense if each of its values does. -/
theorem sensible_iff : c.Sensible ↔ ∀ k : Key, k.Holds (c.slot k) := by
  -- Four keys hold durations, and one a number; all other values are right by their types.
  have htimeout : Key.Holds .sessionTimeout (c.slot .sessionTimeout) ↔
      ∃ d, c.duration .sessionTimeout = .ok d ∧ 0 < d.millis :=
    exists_congr fun d => and_congr_left' (duration_ok_iff (k := .sessionTimeout)).symm
  have hsweep : Key.Holds .sweepInterval (c.slot .sweepInterval) ↔
      ∃ d, c.duration .sweepInterval = .ok d ∧ 0 < d.millis :=
    exists_congr fun d => and_congr_left' (duration_ok_iff (k := .sweepInterval)).symm
  have hbypass : Key.Holds .bypassDuration (c.slot .bypassDuration) ↔
      ∃ d, c.duration .bypassDuration = .ok d :=
    exists_congr fun d => (duration_ok_iff (k := .bypassDuration)).symm
  have hgrace : Key.Holds .gracePeriod (c.slot .gracePeriod) ↔
      ∃ d, c.duration .gracePeriod = .ok d :=
    exists_congr fun d => (duration_ok_iff (k := .gracePeriod)).symm
  constructor
  · rintro ⟨hvalid, hrange⟩ k
    obtain ⟨h₁, h₂, h₃, h₄, hpos⟩ := validate_ok_iff.1 hvalid
    cases k
    case sessionTimeout => exact htimeout.2 h₁
    case sweepInterval => exact hsweep.2 h₂
    case bypassDuration => exact hbypass.2 h₃
    case gracePeriod => exact hgrace.2 h₄
    case countdown => exact holds_countdown.2 ⟨hpos, hrange⟩
    all_goals exact trivial
  · intro h
    obtain ⟨hpos, hrange⟩ := holds_countdown.1 (h .countdown)
    exact ⟨validate_ok_iff.2 ⟨htimeout.1 (h _), hsweep.1 (h _), hbypass.1 (h _), hgrace.1 (h _),
      hpos⟩, hrange⟩

/-- A new value makes a configuration that made sense before sensible or not all on its own. -/
theorem Sensible.put (hc : c.Sensible) (v : k.Slot) : (c.put k v).Sensible ↔ k.Holds v := by
  rw [sensible_iff]
  constructor
  · intro h
    have hk := h k
    rwa [slot_put_self] at hk
  · intro hv j
    by_cases hj : j = k
    · subst hj
      rwa [slot_put_self]
    · rw [slot_put_of_ne c v hj]
      exact sensible_iff.1 hc j

/-! ### Configurations from files -/

/-- The value of a field is the default, or was read from the file. -/
theorem field_cases {α : Type} {kind : Toml → Option α} {default a : α} {name : String}
    {fields : List (String × Toml)} (h : Toml.field kind default name fields = some a) :
    a = default ∨ ∃ v, kind v = some a := by
  unfold Toml.field at h
  split at h
  · exact .inl (Option.some.inj h).symm
  · exact .inr ⟨_, h⟩

/-- A number of 32 bits that was read is one. -/
theorem word32?_le {v : Toml} {n : Nat} (h : Toml.word32? v = some n) : n ≤ Number.word32 := by
  unfold Toml.word32? at h
  split at h
  next i =>
    split at h
    next hrange =>
      cases h
      omega
    next => cases h
  next => cases h

/-- The length of a countdown in a file is a number of 32 bits. -/
theorem keywordSection_countdown_le {v : Toml} {keyword : KeywordSection}
    (h : KeywordSection.ofToml? v = some keyword) : keyword.countdown ≤ Number.word32 := by
  simp only [KeywordSection.ofToml?, Option.bind_eq_bind, Option.bind_eq_some_iff] at h
  obtain ⟨_, -, _, -, _, -, countdown, hcountdown, _, -, hkeyword⟩ := h
  cases hkeyword
  have hdefault : ({} : KeywordSection).countdown ≤ Number.word32 := by decide
  rcases field_cases hcountdown with rfl | ⟨v, hv⟩
  · exact hdefault
  · exact word32?_le hv

/-- So it is in the configuration as a whole, whether the section is there or not. -/
theorem ofToml?_countdown_le {v : Toml} (h : ofToml? v = some c) :
    c.keyword.countdown ≤ Number.word32 := by
  simp only [ofToml?, Option.bind_eq_bind, Option.bind_eq_some_iff] at h
  obtain ⟨_, -, _, -, _, -, keyword, hkeyword, _, -, _, -, hc⟩ := h
  cases hc
  have hdefault : ({} : KeywordSection).countdown ≤ Number.word32 := by decide
  rcases field_cases hkeyword with rfl | ⟨v, hv⟩
  · exact hdefault
  · exact keywordSection_countdown_le hv

/-- A configuration that comes from a file makes sense. -/
theorem sensible_ofFile {path text : String} (h : ofFile path text = .ok c) : c.Sensible := by
  unfold ofFile at h
  split at h
  next => cases h
  next c' htext =>
    split at h
    next hvalid =>
      cases h
      obtain ⟨v, -, hv⟩ := Option.bind_eq_some_iff.1 htext
      exact ⟨hvalid, ofToml?_countdown_le hv⟩
    next => cases h

/-! ### Edits -/

/-- Whether a key takes a text: it is a value of the key, and makes sense. -/
def Key.Accepts (k : Key) (s : String) : Prop := ∃ v, k.read s = .ok v ∧ k.Holds v

/-- The length of a countdown that is read is a number of 32 bits. -/
theorem countdown_put (hc : c.Sensible) {v : k.Slot} (h : k.read s = .ok v) :
    (c.put k v).keyword.countdown ≤ Number.word32 := by
  -- Under any other key the length stays as it was.
  by_cases hk : k = .countdown
  · subst hk
    exact Number.readUnsigned_le (mapError_ok_iff.1 h)
  · have hsame : (c.put k v).keyword.countdown = c.keyword.countdown :=
      slot_put_of_ne c v (Ne.symm hk)
    rw [hsame]
    exact hc.countdown

/-- An edit puts a new value in place, which it reads from the text and which must make sense. -/
theorem edit_ok_iff (hc : c.Sensible) :
    c.edit k s = .ok c' ↔ ∃ v, k.read s = .ok v ∧ k.Holds v ∧ c' = c.put k v := by
  -- All of the result is checked, but only the new value can be at fault.
  unfold edit
  rw [bind_ok_iff, assign_eq]
  constructor
  · rintro ⟨_, hassign, hrest⟩
    obtain ⟨v, hread, rfl⟩ := map_ok_iff.1 (mapError_ok_iff.1 hassign)
    obtain ⟨_, hvalid, hkept⟩ := bind_ok_iff.1 hrest
    have hsensible : (c.put k v).Sensible := ⟨mapError_ok_iff.1 hvalid, countdown_put hc hread⟩
    exact ⟨v, hread, (hc.put v).1 hsensible, (Except.ok.inj hkept).symm⟩
  · rintro ⟨v, hread, hholds, rfl⟩
    have hsensible : (c.put k v).Sensible := (hc.put v).2 hholds
    exact ⟨c.put k v, mapError_ok_iff.2 (map_ok_iff.2 ⟨v, hread, rfl⟩),
      bind_ok_iff.2 ⟨(), mapError_ok_iff.2 hsensible.valid, rfl⟩⟩

/-- A name is looked up among the names of all keys. -/
theorem ofName?_eq_some {name : String} : Key.ofName? name = some k ↔ k.name = name := by
  constructor
  · intro h
    obtain ⟨before, after, hall, -⟩ := List.lookup_eq_some_iff.1 h
    have hmem : (name, k) ∈ Key.all.map fun k => (k.name, k) := by
      rw [hall]
      exact List.mem_append_right _ List.mem_cons_self
    obtain ⟨k', -, hk'⟩ := List.mem_map.1 hmem
    cases hk'
    rfl
  · rintro rfl
    exact Key.ofName?_name k

/-- An edit under a name is an edit of the key with that name. -/
theorem set_ok_iff {name : String} (hc : c.Sensible) : c.set name s = .ok c' ↔
    ∃ k : Key, k.name = name ∧ ∃ v, k.read s = .ok v ∧ k.Holds v ∧ c' = c.put k v := by
  unfold set
  rw [bind_ok_iff]
  refine exists_congr fun k => and_congr ?_ (edit_ok_iff hc)
  rw [← ofName?_eq_some]
  unfold keyOf
  cases Key.ofName? name with
  | none => exact iff_of_false (fun h => by cases h) (fun h => by cases h)
  | some k' => exact ⟨fun h => congrArg some (Except.ok.inj h),
      fun h => congrArg Except.ok (Option.some.inj h)⟩

/-- No two keys have the same name. -/
theorem name_injective : Function.Injective Key.name := fun j k h => by
  have hj := Key.ofName?_name j
  rw [h, Key.ofName?_name] at hj
  exact (Option.some.inj hj).symm

/-- What is shown under the name of a key is the value of the key. -/
theorem value_name (c : Config) (k : Key) : c.value k.name = .ok (c.get k) := by
  unfold value keyOf
  rw [Key.ofName?_name]
  rfl

/-! ### Several edits -/

/-- The configuration after an edit. It is kept as it was if the edit is refused. -/
def tryEdit (c : Config) (name s : String) : Config :=
  match c.set name s with
  | .ok c' => c'
  | .error _ => c

/-- The configuration after edits, one after the other. -/
def editAll (c : Config) (edits : List (String × String)) : Config :=
  edits.foldl (fun c e => c.tryEdit e.1 e.2) c

/-- An edit either puts one value in place, which is what a text is for its key, or does nothing. -/
theorem tryEdit_cases (hc : c.Sensible) (name s : String) : c.tryEdit name s = c ∨
    ∃ (k : Key) (v : k.Slot), k.read s = .ok v ∧ k.Holds v ∧ c.tryEdit name s = c.put k v := by
  unfold tryEdit
  split
  next c' hset =>
    obtain ⟨k, -, v, hread, hholds, hput⟩ := (set_ok_iff hc).1 hset
    exact .inr ⟨k, v, hread, hholds, hput⟩
  next => exact .inl rfl

/-- An edit leaves a configuration sensible, whether it is made or refused. -/
theorem Sensible.tryEdit (hc : c.Sensible) (name s : String) : (c.tryEdit name s).Sensible := by
  rcases tryEdit_cases hc name s with hkept | ⟨k, v, -, hholds, hput⟩
  · rwa [hkept]
  · rw [hput]
    exact (hc.put v).2 hholds

/-- An edit brings in no value that text could not carry. -/
theorem plain_tryEdit (hc : c.Sensible) (name s : String) (h : j.Plain (c.slot j)) :
    j.Plain ((c.tryEdit name s).slot j) := by
  rcases tryEdit_cases hc name s with hkept | ⟨k, v, hread, -, hput⟩
  · rwa [hkept]
  · rw [hput]
    by_cases hj : j = k
    · subst hj
      rw [slot_put_self]
      exact plain_of_read hread
    · rwa [slot_put_of_ne c v hj]

/-- **No edits make a sensible configuration senseless**, in any number and whatever their names and
texts. -/
theorem Sensible.editAll (hc : c.Sensible) (edits : List (String × String)) :
    (c.editAll edits).Sensible := by
  induction edits generalizing c with
  | nil => exact hc
  | cons e rest ih => exact ih (hc.tryEdit e.1 e.2)

/-- No edits bring in a value that text could not carry. -/
theorem plain_editAll (hc : c.Sensible) (edits : List (String × String))
    (h : j.Plain (c.slot j)) : j.Plain ((c.editAll edits).slot j) := by
  -- On the edits; each finds a sensible configuration, and leaves one.
  induction edits generalizing c with
  | nil => exact h
  | cons e rest ih => exact ih (hc.tryEdit e.1 e.2) (plain_tryEdit hc e.1 e.2 h)

/-! ### Writing back what was read -/

/-- What is shown of a value is a text that the key takes. It is read as the same value if text can
carry the value at all. -/
theorem exists_read_shown {v : k.Slot} (h : k.Holds v) :
    ∃ w, k.read (k.shown v) = .ok w ∧ k.Holds w ∧ (w = v ↔ k.Plain v) := by
  -- By the kind of value. Only lists may come back as something else, when an item has a comma or
  -- blanks around it.
  cases k
  case lockEnabled | relockOnScreenOff | tamperEnabled | clearRecents | keywordEnabled
    | auditEnabled => exact ⟨v, readBool_boolText v, trivial, iff_of_true rfl trivial⟩
  case protectedApps | keywords => exact ⟨_, rfl, trivial, Text.items_intercalate⟩
  case failClosed => exact ⟨v, readCategories_joined v, trivial, iff_of_true rfl trivial⟩
  case countdown => exact ⟨v, readWord32_toString h.2, h, iff_of_true rfl trivial⟩
  all_goals exact ⟨v, rfl, h, iff_of_true rfl trivial⟩

/-- Writing back what was read under a key changes nothing but a list that text cannot carry. -/
theorem exists_set_value (hc : c.Sensible) (k : Key) : ∃ v c', c.value k.name = .ok v ∧
    c.set k.name v = .ok c' ∧ (c' = c ↔ k.Plain (c.slot k)) := by
  obtain ⟨w, hread, hholds, hplain⟩ := exists_read_shown (sensible_iff.1 hc k)
  refine ⟨c.get k, c.put k w, value_name c k, ?_, put_eq_self.trans hplain⟩
  rw [set_ok_iff hc, get_eq]
  exact ⟨k, rfl, w, hread, hholds, rfl⟩

/-! ### What edits do -/

/-- **Edits of a configuration are local and stable.** Let a configuration that makes sense have
seen any edits, and let there be one more.

* It still makes sense.
* The edit is made if the name is that of a key that takes the text. The other values have no say.
* If the edit is refused, nothing changes.
* If it is made, the result makes sense, what is there now is something that text can carry, and all
  that is under other keys is as it was.
* What is read under a key can be written back. That changes nothing if the value is one that text
  can carry, and only then.
* Edits never bring in a value that text cannot carry. -/
theorem edits_local {c₀ : Config} (h₀ : c₀.Sensible) (edits : List (String × String))
    (name s : String) : let c := c₀.editAll edits
    c.Sensible ∧
    ((∃ c', c.set name s = .ok c') ↔ ∃ k : Key, k.name = name ∧ k.Accepts s) ∧
    ((¬ ∃ k : Key, k.name = name ∧ k.Accepts s) → c.tryEdit name s = c) ∧
    (∀ k c', k.name = name → c.set name s = .ok c' → c.tryEdit name s = c' ∧ c'.Sensible ∧
      k.Plain (c'.slot k) ∧ ∀ j ≠ k, c'.slot j = c.slot j ∧ c'.value j.name = c.value j.name) ∧
    (∀ k : Key, ∃ v c', c.value k.name = .ok v ∧ c.set k.name v = .ok c' ∧
      (c' = c ↔ k.Plain (c.slot k))) ∧
    (∀ k : Key, k.Plain (c₀.slot k) → k.Plain (c.slot k)) := by
  intro c
  have hc : c.Sensible := h₀.editAll edits
  have haccepts : (∃ c', c.set name s = .ok c') ↔ ∃ k : Key, k.name = name ∧ k.Accepts s := by
    constructor
    · rintro ⟨c', hset⟩
      obtain ⟨k, hk, v, hread, hholds, -⟩ := (set_ok_iff hc).1 hset
      exact ⟨k, hk, v, hread, hholds⟩
    · rintro ⟨k, hk, v, hread, hholds⟩
      exact ⟨c.put k v, (set_ok_iff hc).2 ⟨k, hk, v, hread, hholds, rfl⟩⟩
  refine ⟨hc, haccepts, fun hrefused => ?_, fun k c' hk hset => ?_, exists_set_value hc,
    fun k => plain_editAll h₀ edits⟩
  · unfold tryEdit
    split
    next c' hset => exact absurd (haccepts.1 ⟨c', hset⟩) hrefused
    next => rfl
  · have hkept : c.tryEdit name s = c' := by
      unfold tryEdit
      rw [hset]
    refine ⟨hkept, hkept ▸ hc.tryEdit name s, ?_⟩
    obtain ⟨k', hk', v, hread, -, rfl⟩ := (set_ok_iff hc).1 hset
    -- No two keys have one name, so the key that was set is the one that the name is of.
    obtain rfl : k' = k := name_injective (hk'.trans hk.symm)
    rw [slot_put_self]
    refine ⟨plain_of_read hread, fun j hj => ?_⟩
    have hslot : (c.put k' v).slot j = c.slot j := slot_put_of_ne c v hj
    refine ⟨hslot, ?_⟩
    rw [value_name, value_name, get_eq, get_eq, hslot]

/-- A refused edit and one with blanks in its list: the list that is left can be written back. -/
theorem edits_local_lists :
    let c₀ : Config := { keyword := { keywords := ["a,b"] } }
    let c := c₀.editAll
      [("lock.session_timeout", "0s"), ("lock.protected_apps", " app.mail ,, app.bank ")]
    c₀.Sensible ∧ c.Sensible ∧ c.lock.sessionTimeout = "30s" ∧
      c.lock.protectedApps = ["app.mail", "app.bank"] ∧
      ∃ v, c.value "lock.protected_apps" = .ok v ∧ c.set "lock.protected_apps" v = .ok c := by
  intro c₀ c
  have h₀ : c₀.Sensible := ⟨by decide, by decide⟩
  obtain ⟨hc, -, -, -, hback, hplain⟩ := edits_local h₀
    [("lock.session_timeout", "0s"), ("lock.protected_apps", " app.mail ,, app.bank ")]
    "lock.enabled" "true"
  obtain ⟨v, c', hvalue, hset, hsame⟩ := hback .protectedApps
  have happs : Key.Plain .protectedApps (c.slot .protectedApps) :=
    hplain .protectedApps fun item (hitem : item ∈ []) => absurd hitem List.not_mem_nil
  rw [hsame.2 happs] at hset
  exact ⟨h₀, hc, by decide, by decide, v, hvalue, hset⟩

/-- A word with a comma in it, from a file, comes back as two. -/
theorem set_value_splits : ∃ (c c' : Config) (v : String), c.Sensible ∧
    c.value "keyword.keywords" = .ok v ∧ c.set "keyword.keywords" v = .ok c' ∧
    c.keyword.keywords = ["a,b"] ∧ c'.keyword.keywords = ["a", "b"] :=
  ⟨{ keyword := { keywords := ["a,b"] } }, { keyword := { keywords := ["a", "b"] } }, "a,b",
    ⟨by decide, by decide⟩, by decide, by decide, rfl, rfl⟩

end Warden.Config
