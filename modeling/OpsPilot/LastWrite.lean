import Mathlib.Data.List.Nodup
import Mathlib.Data.List.Induction

/-! A store of values by key, as a list in which a key that is written again keeps its place:
after any sequence of writes it holds under each key what was written last. -/

namespace LastWrite

variable {Key Value Item : Type} [DecidableEq Key]

def write (key : Key) (value : Value) : List (Key × Value) → List (Key × Value)
  | [] => [(key, value)]
  | (other, old) :: rest =>
    if other = key then (key, value) :: rest else (other, old) :: write key value rest

theorem lookup_write_self (key : Key) (value : Value) (store : List (Key × Value)) :
    (write key value store).lookup key = some value := by
  induction store with
  | nil => rw [write, List.lookup_cons, beq_self_eq_true]
  | cons entry rest ih =>
    rw [write]
    split_ifs with same
    · rw [List.lookup_cons, beq_self_eq_true]
    · rw [List.lookup_cons, beq_false_of_ne (Ne.symm same)]
      exact ih

theorem lookup_write_other {key other : Key} (different : other ≠ key) (value : Value)
    (store : List (Key × Value)) : (write key value store).lookup other = store.lookup other := by
  induction store with
  | nil => rw [write, List.lookup_cons, beq_false_of_ne different]
  | cons entry rest ih =>
    rw [write]
    split_ifs with same
    · rw [List.lookup_cons, List.lookup_cons, beq_false_of_ne different, same,
        beq_false_of_ne different]
    · rw [List.lookup_cons, List.lookup_cons, ih]

theorem mem_keys_write {key other : Key} {value : Value} {store : List (Key × Value)} :
    other ∈ (write key value store).map (·.1) ↔ other = key ∨ other ∈ store.map (·.1) := by
  induction store with
  | nil => simp [write]
  | cons entry rest ih =>
    rw [write]
    split_ifs with same
    · simp [same]
    · rw [List.map_cons, List.mem_cons, ih, List.map_cons, List.mem_cons]
      exact or_left_comm

theorem nodup_write (key : Key) (value : Value) {store : List (Key × Value)}
    (nodup : (store.map (·.1)).Nodup) : ((write key value store).map (·.1)).Nodup := by
  induction store with
  | nil => simp [write]
  | cons entry rest ih =>
    obtain ⟨fresh, later⟩ := List.nodup_cons.mp nodup
    rw [write]
    split_ifs with same
    · exact List.nodup_cons.mpr ⟨same ▸ fresh, later⟩
    · refine List.nodup_cons.mpr ⟨fun mem => ?_, ih later⟩
      exact (mem_keys_write.mp mem).elim same fresh

theorem mem_iff_lookup {store : List (Key × Value)} (nodup : (store.map (·.1)).Nodup) {key : Key}
    {value : Value} : (key, value) ∈ store ↔ store.lookup key = some value := by
  induction store with
  | nil => simp
  | cons entry rest ih =>
    obtain ⟨other, old⟩ := entry
    obtain ⟨fresh, later⟩ := List.nodup_cons.mp nodup
    rw [List.mem_cons, ih later, List.lookup_cons]
    by_cases same : key = other
    · subst same
      have absent : rest.lookup key ≠ some value := fun found =>
        fresh (List.mem_map.mpr ⟨_, (ih later).mpr found, rfl⟩)
      simp [absent, eq_comm]
    · simp [same, beq_false_of_ne same]

variable (key : Item → Key) (value : Item → Value)

def written (items : List Item) : List (Key × Value) :=
  items.foldl (fun store item => write (key item) (value item) store) []

def last (k : Key) (items : List Item) : Option Item :=
  items.reverse.find? fun item => decide (key item = k)

theorem written_append (items : List Item) (item : Item) :
    written key value (items ++ [item]) = write (key item) (value item) (written key value items) := by
  rw [written, List.foldl_append]
  rfl

theorem last_append (k : Key) (items : List Item) (item : Item) :
    last key k (items ++ [item]) = if key item = k then some item else last key k items := by
  rw [last, List.reverse_append, List.reverse_singleton, List.singleton_append, List.find?_cons]
  split_ifs with same
  · rw [decide_eq_true same]
  · rw [decide_eq_false same]
    rfl

theorem lookup_written (items : List Item) (k : Key) :
    (written key value items).lookup k = (last key k items).map value := by
  induction items using List.reverseRecOn with
  | nil => rfl
  | append_singleton items item ih =>
    rw [written_append, last_append]
    split_ifs with same
    · rw [← same, lookup_write_self, Option.map_some]
    · rw [lookup_write_other (Ne.symm same), ih]

theorem nodup_written (items : List Item) : ((written key value items).map (·.1)).Nodup := by
  induction items using List.reverseRecOn with
  | nil => exact List.nodup_nil
  | append_singleton items item ih =>
    rw [written_append]
    exact nodup_write _ _ ih

variable {key}

theorem last_mem {k : Key} {items : List Item} {item : Item} (found : last key k items = some item) :
    item ∈ items ∧ key item = k :=
  ⟨List.mem_reverse.mp (List.mem_of_find?_eq_some found), by simpa using List.find?_some found⟩

theorem last_isSome {k : Key} {items : List Item} :
    (∃ item, last key k items = some item) ↔ ∃ item ∈ items, key item = k := by
  rw [← Option.isSome_iff_exists, last, List.find?_isSome]
  simp

theorem mem_written {value : Item → Value} {items : List Item} {k : Key} {v : Value} :
    (k, v) ∈ written key value items ↔ ∃ item, last key k items = some item ∧ value item = v := by
  rw [mem_iff_lookup (nodup_written key value items), lookup_written, Option.map_eq_some_iff]

end LastWrite
