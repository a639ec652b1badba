import Warden.Config.Key
import Warden.Proofs.Number.Unsigned
import Warden.Proofs.Text.Items

namespace Warden.Config

/-!
# Values and their keys

A configuration is one value for each key.  What a key is read and written as is settled by the kind
of its value, and by nothing else.

* `Key.Slot` — the kind of the value of a key; `slot`, `put` — the value, and a new one.
* `slot_put_self`, `slot_put_of_ne`, `put_slot` — a new value is there, no other one has changed,
  and the old value put in its own place changes nothing.
* `Key.read`, `Key.shown` — from text to value and back; `assign_eq`, `get_eq`.
* `Key.Plain` — the values that text can carry; `plain_of_read` — it carries no others.
-/

variable {c c' : Config} {k j : Key} {s : String}

/-! ### One value for each key -/

/-- The kind of the value of a key. -/
@[reducible] def Key.Slot : Key → Type
  | .lockEnabled | .relockOnScreenOff | .tamperEnabled | .clearRecents | .keywordEnabled
  | .auditEnabled => Bool
  | .protectedApps | .keywords => List String
  | .sessionTimeout | .sweepInterval | .bypassDuration | .gracePeriod | .logLevel => String
  | .failClosed => List Category
  | .countdown => Nat

/-- The value of a key. -/
def slot (c : Config) : (k : Key) → k.Slot
  | .lockEnabled => c.lock.enabled
  | .protectedApps => c.lock.protectedApps
  | .sessionTimeout => c.lock.sessionTimeout
  | .sweepInterval => c.lock.sweepInterval
  | .relockOnScreenOff => c.lock.relockOnScreenOff
  | .tamperEnabled => c.tamper.enabled
  | .bypassDuration => c.tamper.bypassDuration
  | .failClosed => c.tamper.failClosed
  | .clearRecents => c.tamper.clearRecents
  | .keywordEnabled => c.keyword.enabled
  | .keywords => c.keyword.keywords
  | .countdown => c.keyword.countdown
  | .gracePeriod => c.keyword.gracePeriod
  | .auditEnabled => c.audit.enabled
  | .logLevel => c.logging.level

/-- The configuration with a new value for a key. -/
def put (c : Config) : (k : Key) → k.Slot → Config
  | .lockEnabled, v => { c with lock := { c.lock with enabled := v } }
  | .protectedApps, v => { c with lock := { c.lock with protectedApps := v } }
  | .sessionTimeout, v => { c with lock := { c.lock with sessionTimeout := v } }
  | .sweepInterval, v => { c with lock := { c.lock with sweepInterval := v } }
  | .relockOnScreenOff, v => { c with lock := { c.lock with relockOnScreenOff := v } }
  | .tamperEnabled, v => { c with tamper := { c.tamper with enabled := v } }
  | .bypassDuration, v => { c with tamper := { c.tamper with bypassDuration := v } }
  | .failClosed, v => { c with tamper := { c.tamper with failClosed := v } }
  | .clearRecents, v => { c with tamper := { c.tamper with clearRecents := v } }
  | .keywordEnabled, v => { c with keyword := { c.keyword with enabled := v } }
  | .keywords, v => { c with keyword := { c.keyword with keywords := v } }
  | .countdown, v => { c with keyword := { c.keyword with countdown := v } }
  | .gracePeriod, v => { c with keyword := { c.keyword with gracePeriod := v } }
  | .auditEnabled, v => { c with audit := { c.audit with enabled := v } }
  | .logLevel, v => { c with logging := { c.logging with level := v } }

/-- A new value is there. -/
@[simp] theorem slot_put_self (c : Config) (k : Key) (v : k.Slot) : (c.put k v).slot k = v := by
  cases k <;> rfl

/-- And no other value has changed. -/
theorem slot_put_of_ne (c : Config) (v : k.Slot) (h : j ≠ k) : (c.put k v).slot j = c.slot j := by
  -- Two different keys never share a field.
  cases k <;> cases j <;> first | rfl | exact absurd rfl h

/-- The old value in its own place changes nothing. -/
@[simp] theorem put_slot (c : Config) (k : Key) : c.put k (c.slot k) = c := by
  cases k <;> rfl

/-- A new value changes a configuration unless it is the old one. -/
theorem put_eq_self {v : k.Slot} : c.put k v = c ↔ v = c.slot k := by
  constructor
  · intro h
    rw [← slot_put_self c k v, h]
  · rintro rfl
    exact put_slot c k

/-! ### Values as text -/

/-- The value that a text is for a key. -/
def Key.read : (k : Key) → String → Except Mismatch k.Slot
  | .lockEnabled, s | .relockOnScreenOff, s | .tamperEnabled, s | .clearRecents, s
  | .keywordEnabled, s | .auditEnabled, s => readBool s
  | .protectedApps, s | .keywords, s => .ok (Text.items s)
  | .sessionTimeout, s | .sweepInterval, s | .bypassDuration, s | .gracePeriod, s
  | .logLevel, s => .ok s
  | .failClosed, s => readCategories s
  | .countdown, s => readWord32 s

/-- The text that shows a value of a key. -/
def Key.shown : (k : Key) → k.Slot → String
  | .lockEnabled, b | .relockOnScreenOff, b | .tamperEnabled, b | .clearRecents, b
  | .keywordEnabled, b | .auditEnabled, b => boolText b
  | .protectedApps, list | .keywords, list => joined list
  | .sessionTimeout, s | .sweepInterval, s | .bypassDuration, s | .gracePeriod, s
  | .logLevel, s => s
  | .failClosed, categories => joined (categories.map Category.name)
  | .countdown, n => toString n

/-- What is shown for a key is its value as text. -/
theorem get_eq (c : Config) (k : Key) : c.get k = k.shown (c.slot k) := by
  cases k <;> rfl

/-- A key is assigned what its text is read as, and nothing else is touched. -/
theorem assign_eq (c : Config) (k : Key) (s : String) :
    c.assign k s = (k.read s).map (c.put k) := by
  have hbind {α : Type} (x : Except Mismatch α) (f : α → Config) :
      (do return f (← x)) = x.map f := by cases x <;> rfl
  -- What a text is read as decides the form that its assignment has.
  cases k
  case lockEnabled | relockOnScreenOff | tamperEnabled | clearRecents | keywordEnabled
    | auditEnabled => exact hbind (readBool s) _
  case failClosed => exact hbind (readCategories s) _
  case countdown => exact hbind (readWord32 s) _
  all_goals rfl

/-! ### Values that text can carry -/

/-- Whether text can carry a value of a key.  Only lists may have items that no line can hold. -/
def Key.Plain : (k : Key) → k.Slot → Prop
  | .protectedApps, list | .keywords, list => ∀ item ∈ list, Text.IsItem item
  | _, _ => True

/-- Both switch positions are read back from their text. -/
theorem readBool_boolText (b : Bool) : readBool (boolText b) = .ok b := by
  cases b <;> rfl

/-- The name of a category is an item of a list. -/
theorem isItem_name (category : Category) : Text.IsItem category.name := by
  have hself : Text.items (Category.name category) = [category.name] := by
    cases category <;> decide
  exact Text.isItem_of_mem_items (hself ▸ List.mem_singleton_self _)

/-- And it is the name of that category alone. -/
theorem ofItem_name (category : Category) : Category.ofItem category.name = .ok category := by
  rw [Category.ofItem, Category.ofName?_name]

theorem mapM_ofItem_name (categories : List Category) :
    (categories.map Category.name).mapM Category.ofItem = .ok categories := by
  induction categories with
  | nil => rfl
  | cons category rest ih =>
    rw [List.map_cons, List.mapM_cons, ofItem_name, ih]
    rfl

/-- Categories are read back from their names. -/
theorem readCategories_joined (categories : List Category) :
    readCategories (joined (categories.map Category.name)) = .ok categories := by
  have hitems : Text.items (joined (categories.map Category.name)) =
      categories.map Category.name := by
    refine Text.items_intercalate.2 fun item hitem => ?_
    obtain ⟨category, -, rfl⟩ := List.mem_map.1 hitem
    exact isItem_name category
  rw [readCategories, Category.parseList, hitems, mapM_ofItem_name]
  rfl

/-- A number is read back as long as it fits. -/
theorem readWord32_toString {n : Nat} (hn : n ≤ Number.word32) :
    readWord32 (toString n) = .ok n := by
  rw [readWord32, Nat.toString_eq_ofList_toDigits, String.toList_ofList,
    Number.readUnsigned_toDigits hn]
  rfl

/-- What a text is for a key is something that text can carry. -/
theorem plain_of_read {v : k.Slot} (h : k.read s = .ok v) : k.Plain v := by
  cases k
  -- The items of a list are cut out of a line, so a line can hold them.
  case protectedApps | keywords =>
    cases h
    exact fun item hitem => Text.isItem_of_mem_items hitem
  all_goals exact trivial

end Warden.Config
