import Mathlib.Data.List.Perm.Subperm
import OpsPilot.JsonUnambiguous

/-! With sorted keys a JSON text is canonical: it is shared by exactly the values that differ in
the order of keys alone. -/

namespace JsonText.Json

def DistinctKeys (value : Json) : Prop :=
  ∀ fields, Within (.obj fields) value → (fields.map Prod.fst).Nodup

theorem DistinctKeys.item {items : List Json} (distinct : DistinctKeys (.arr items)) {item : Json}
    (mem : item ∈ items) : DistinctKeys item :=
  fun fields inside => distinct fields (.item mem inside)

theorem DistinctKeys.field {fields : List (String × Json)} (distinct : DistinctKeys (.obj fields))
    {key : String} {value : Json} (mem : (key, value) ∈ fields) : DistinctKeys value :=
  fun fields inside => distinct fields (.field mem inside)

mutual

def Same : Json → Json → Prop
  | .null, .null => True
  | .bool a, .bool b => a = b
  | .int a, .int b => a = b
  | .float a, .float b => a = b
  | .str a, .str b => a = b
  | .arr a, .arr b => SameItems a b
  | .obj a, .obj b => a.length = b.length ∧ SameFields a b
  | _, _ => False

def SameItems : List Json → List Json → Prop
  | [], [] => True
  | a :: as, b :: bs => Same a b ∧ SameItems as bs
  | _, _ => False

def SameFields : List (String × Json) → List (String × Json) → Prop
  | [], _ => True
  | (key, a) :: fields, others => (∃ b, (key, b) ∈ others ∧ Same a b) ∧ SameFields fields others

end

theorem same_str {a b : String} : Same (.str a) (.str b) ↔ a = b := by
  rw [Same]

theorem same_obj {fields others : List (String × Json)} :
    Same (.obj fields) (.obj others) ↔
      fields.length = others.length ∧ SameFields fields others := by
  rw [Same]

theorem sameFields_nil {others : List (String × Json)} : SameFields [] others := by
  rw [SameFields]
  trivial

theorem sameFields_cons {key : String} {a b : Json} {fields others : List (String × Json)}
    (distinct : (others.map Prod.fst).Nodup) (mem : (key, b) ∈ others) :
    SameFields ((key, a) :: fields) others ↔ Same a b ∧ SameFields fields others := by
  rw [SameFields]
  refine and_congr_left fun _ => ⟨?_, fun same => ⟨b, mem, same⟩⟩
  rintro ⟨b', mem', same⟩
  cases List.inj_on_of_nodup_map distinct mem mem' rfl
  exact same

theorem sortKeysItems_eq (items : List Json) : sortKeysItems items = items.map sortKeys := by
  induction items with
  | nil => rfl
  | cons item items ih => rw [sortKeysItems, ih, List.map_cons]

theorem sortKeysFields_eq (fields : List (String × Json)) :
    sortKeysFields fields = fields.map fun field => (field.1, sortKeys field.2) := by
  induction fields with
  | nil => rfl
  | cons field fields ih => rw [sortKeysFields, ih, List.map_cons]

theorem sortKeysFields_keys (fields : List (String × Json)) :
    (sortKeysFields fields).map Prod.fst = fields.map Prod.fst := by
  rw [sortKeysFields_eq, List.map_map]
  rfl

theorem mem_sortKeysFields {fields : List (String × Json)} {key : String} {sorted : Json} :
    (key, sorted) ∈ sortKeysFields fields ↔
      ∃ value, (key, value) ∈ fields ∧ sortKeys value = sorted := by
  rw [sortKeysFields_eq, List.mem_map]
  constructor
  · rintro ⟨⟨key', value⟩, mem, same⟩
    obtain ⟨rfl, rfl⟩ := Prod.mk.inj same
    exact ⟨value, mem, rfl⟩
  · rintro ⟨value, mem, rfl⟩
    exact ⟨(key, value), mem, rfl⟩

theorem insertionSort_eq_iff {fields others : List (String × Json)}
    (distinct : (fields.map Prod.fst).Nodup) :
    fields.insertionSort (fun a b => a.1 ≤ b.1) = others.insertionSort (fun a b => a.1 ≤ b.1) ↔
      fields.Perm others := by
  have total : Std.Total fun a b : String × Json => a.1 ≤ b.1 := ⟨fun a b => String.le_total a.1 b.1⟩
  have trans : IsTrans (String × Json) fun a b => a.1 ≤ b.1 := ⟨fun _ _ _ => String.le_trans⟩
  constructor
  · intro same
    exact (List.perm_insertionSort _ fields).symm.trans
      (same ▸ List.perm_insertionSort _ others)
  · intro perm
    refine List.Perm.eq_of_pairwise (fun a b mem mem' below above => ?_)
      (List.pairwise_insertionSort _ fields) (List.pairwise_insertionSort _ others)
      ((List.perm_insertionSort _ fields).trans
        (perm.trans (List.perm_insertionSort _ others).symm))
    have inFields : a ∈ fields := (List.mem_insertionSort _).mp mem
    have inOthers : b ∈ fields := perm.mem_iff.mpr ((List.mem_insertionSort _).mp mem')
    exact List.inj_on_of_nodup_map distinct inFields inOthers (String.le_antisymm below above)

theorem perm_iff_subset {fields others : List (String × Json)}
    (distinct : (fields.map Prod.fst).Nodup) :
    fields.Perm others ↔ fields.length = others.length ∧ ∀ field ∈ fields, field ∈ others := by
  constructor
  · exact fun perm => ⟨perm.length_eq, fun field => perm.mem_iff.mp⟩
  · rintro ⟨same, subset⟩
    exact (List.subperm_of_subset distinct.of_map subset).perm_of_length_le same.ge

mutual

theorem sortKeys_eq_iff : (v w : Json) → DistinctKeys v → DistinctKeys w →
    (sortKeys v = sortKeys w ↔ Same v w)
  | .null, w, _, _ => by cases w <;> simp [sortKeys, Same]
  | .bool _, w, _, _ => by cases w <;> simp [sortKeys, Same]
  | .int _, w, _, _ => by cases w <;> simp [sortKeys, Same]
  | .float _, w, _, _ => by cases w <;> simp [sortKeys, Same]
  | .str _, w, _, _ => by cases w <;> simp [sortKeys, Same]
  | .arr items, w, distinct, distinct' => by
    cases w with
    | arr items' =>
      rw [sortKeys, sortKeys, arr.injEq, Same]
      exact sortKeysItems_eq_iff items items' (fun _ mem => distinct.item mem)
        fun _ mem => distinct'.item mem
    | _ => simp [sortKeys, Same]
  | .obj fields, w, distinct, distinct' => by
    cases w with
    | obj fields' =>
      have keys : ((sortKeysFields fields).map Prod.fst).Nodup := by
        rw [sortKeysFields_keys]
        exact distinct fields (.refl _)
      rw [sortKeys, sortKeys, obj.injEq, Same, insertionSort_eq_iff keys, perm_iff_subset keys,
        sortKeysFields_eq_iff fields fields' (fun mem => distinct.field mem)
          fun mem => distinct'.field mem]
      simp only [sortKeysFields_eq, List.length_map]
    | _ => simp [sortKeys, Same]

theorem sortKeysItems_eq_iff : (items items' : List Json) → (∀ item ∈ items, DistinctKeys item) →
    (∀ item ∈ items', DistinctKeys item) →
    (sortKeysItems items = sortKeysItems items' ↔ SameItems items items')
  | [], [], _, _ => by simp [sortKeysItems, SameItems]
  | [], _ :: _, _, _ => by simp [sortKeysItems, SameItems]
  | _ :: _, [], _, _ => by simp [sortKeysItems, SameItems]
  | item :: items, item' :: items', distinct, distinct' => by
    rw [sortKeysItems, sortKeysItems, List.cons.injEq, SameItems,
      sortKeys_eq_iff item item' (distinct _ List.mem_cons_self) (distinct' _ List.mem_cons_self),
      sortKeysItems_eq_iff items items' (fun _ mem => distinct _ (List.mem_cons_of_mem _ mem))
        fun _ mem => distinct' _ (List.mem_cons_of_mem _ mem)]

theorem sortKeysFields_eq_iff : (fields others : List (String × Json)) →
    (∀ {key value}, (key, value) ∈ fields → DistinctKeys value) →
    (∀ {key value}, (key, value) ∈ others → DistinctKeys value) →
    ((∀ field ∈ sortKeysFields fields, field ∈ sortKeysFields others) ↔ SameFields fields others)
  | [], _, _, _ => by simp [sortKeysFields, SameFields]
  | (key, value) :: fields, others, distinct, distinct' => by
    rw [sortKeysFields, List.forall_mem_cons, SameFields, mem_sortKeysFields,
      sortKeysFields_eq_iff fields others (fun mem => distinct (List.mem_cons_of_mem _ mem))
        distinct']
    refine and_congr_left fun _ => exists_congr fun other => and_congr_right fun mem => ?_
    rw [eq_comm]
    exact sortKeys_eq_iff value other (distinct List.mem_cons_self) (distinct' mem)

end

theorem within_sortKeys {part value sorted : Json} (inside : Within part sorted)
    (same : sortKeys value = sorted) : ∃ part', Within part' value ∧ sortKeys part' = part := by
  induction inside generalizing value with
  | refl => exact ⟨value, .refl value, same⟩
  | item mem inside ih =>
    cases value with
    | arr items =>
      rw [sortKeys, arr.injEq, sortKeysItems_eq] at same
      rw [← same] at mem
      obtain ⟨item, inItems, itemSame⟩ := List.mem_map.mp mem
      obtain ⟨part', inItem, partSame⟩ := ih itemSame
      exact ⟨part', .item inItems inItem, partSame⟩
    | _ => simp [sortKeys] at same
  | field mem inside ih =>
    cases value with
    | obj fields =>
      rw [sortKeys, obj.injEq] at same
      rw [← same, List.mem_insertionSort, mem_sortKeysFields] at mem
      obtain ⟨field, inFields, fieldSame⟩ := mem
      obtain ⟨part', inField, partSame⟩ := ih fieldSame
      exact ⟨part', .field inFields inField, partSame⟩
    | _ => simp [sortKeys] at same

theorem floatless_sortKeys {value : Json} (plain : Floatless value) :
    Floatless (sortKeys value) := by
  intro q inside
  obtain ⟨part, inValue, same⟩ := within_sortKeys inside rfl
  cases part with
  | float q' => exact plain q' inValue
  | _ => simp [sortKeys] at same

theorem canonical_iff (floatRepr : ℚ → List Char) {v w : Json} (plain : Floatless v)
    (plain' : Floatless w) (distinct : DistinctKeys v) (distinct' : DistinctKeys w) :
    dumps floatRepr (sortKeys v) = dumps floatRepr (sortKeys w) ↔ Same v w := by
  rw [← sortKeys_eq_iff v w distinct distinct']
  exact ⟨dumps_injective (floatless_sortKeys plain) (floatless_sortKeys plain'),
    fun same => by rw [same]⟩

end JsonText.Json
