namespace Warden

/-!
# Tables by app

What is kept for each of several apps: at most one value for every app.

* `AppTable α` — the table, with distinct keys; its view is `get?`.
* `insert`, `erase`, `filter` — each with the lemma that says what it does to the view.
-/

/-- At most one value for every app. -/
structure AppTable (α : Type) where
  entries : List (String × α)
  distinct : (entries.map Prod.fst).Nodup

namespace AppTable

/-! ### Operations -/

/-- The table without entries. -/
def empty : AppTable α := ⟨[], List.nodup_nil⟩

/-- The value of an app. -/
def get? (t : AppTable α) (app : String) : Option α := t.entries.lookup app

/-- Whether an app has a value. -/
def contains (t : AppTable α) (app : String) : Bool := (t.get? app).isSome

/-- How many apps have a value. -/
def size (t : AppTable α) : Nat := t.entries.length

/-- Whether no app has a value. -/
def isEmpty (t : AppTable α) : Bool := t.entries.isEmpty

/-- The entries that pass a test. -/
def filter (p : String → α → Bool) (t : AppTable α) : AppTable α where
  entries := t.entries.filter fun e => p e.1 e.2
  distinct := t.distinct.sublist (List.filter_sublist.map _)

/-- The table without an app. -/
def erase (t : AppTable α) (app : String) : AppTable α := t.filter fun a _ => a != app

/-- The table with a new value for an app. -/
def insert (t : AppTable α) (app : String) (value : α) : AppTable α where
  entries := (app, value) :: (t.erase app).entries
  distinct := by
    -- The old value of the app is gone, so its key is new.
    rw [List.map_cons, List.nodup_cons]
    refine ⟨fun h => ?_, (t.erase app).distinct⟩
    obtain ⟨e, he, rfl⟩ := List.mem_map.1 h
    simp [erase, filter] at he

/-! ### The view -/

@[simp] theorem get?_empty (app : String) : (empty : AppTable α).get? app = none := rfl

/-- Where keys are distinct, each entry is the one that is found under its key. -/
theorem lookup_eq_some_of_mem {es : List (String × α)} (hd : (es.map Prod.fst).Nodup)
    {app : String} {v : α} (h : (app, v) ∈ es) : es.lookup app = some v := by
  induction es with
  | nil => simp at h
  | cons e es ih =>
    obtain ⟨a, w⟩ := e
    rw [List.map_cons, List.nodup_cons] at hd
    rw [List.lookup_cons]
    rcases List.mem_cons.1 h with he | he
    · cases he; simp
    · -- The first key occurs only once, so it is none of the later ones.
      have hne : app ≠ a := fun e => hd.1 (e ▸ List.mem_map.2 ⟨(app, v), he, rfl⟩)
      rw [beq_false_of_ne hne]
      exact ih hd.2 he

/-- Whatever is found is an entry. -/
theorem mem_of_lookup_eq_some {es : List (String × α)} {app : String} {v : α}
    (h : es.lookup app = some v) : (app, v) ∈ es := by
  induction es with
  | nil => simp at h
  | cons e es ih =>
    obtain ⟨a, w⟩ := e
    rw [List.lookup_cons] at h
    split at h
    next heq => simp_all
    · exact List.mem_cons_of_mem _ (ih h)

/-- The entries are the pairs that the view shows. -/
theorem mem_entries {t : AppTable α} {app : String} {v : α} :
    (app, v) ∈ t.entries ↔ t.get? app = some v :=
  ⟨lookup_eq_some_of_mem t.distinct, mem_of_lookup_eq_some⟩

/-- A filter drops the values that do not pass the test, and leaves the others. -/
theorem get?_filter (p : String → α → Bool) (t : AppTable α) (app : String) :
    (t.filter p).get? app = (t.get? app).filter (p app) := by
  refine Option.ext fun v => ?_
  rw [← mem_entries, Option.filter_eq_some_iff, ← mem_entries]
  simp [filter]

/-- Erasing an app takes its value and no other one. -/
@[simp] theorem get?_erase (t : AppTable α) (a b : String) :
    (t.erase a).get? b = if b = a then none else t.get? b := by
  rw [erase, get?_filter]
  cases t.get? b <;> by_cases h : b = a <;> simp [h]

/-- A new value is there, and no other one has changed. -/
@[simp] theorem get?_insert (t : AppTable α) (a b : String) (v : α) :
    (t.insert a v).get? b = if b = a then some v else t.get? b := by
  by_cases h : b = a
  · simp [get?, insert, h]
  · have he : (t.insert a v).get? b = (t.erase a).get? b := by
      simp only [get?, insert, List.lookup_cons, beq_false_of_ne h]
    rw [he, get?_erase, if_neg h, if_neg h]

end AppTable

end Warden
