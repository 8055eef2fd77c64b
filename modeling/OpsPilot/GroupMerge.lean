import Mathlib.Data.List.Sort

/-! Tables in which the rows of one group are joined into one of them: joining early changes
nothing about what is joined in the end. -/

namespace GroupMerge

structure Joining (Row Id Key : Type) where
  id : Row → Id
  key : Row → Key
  join : Row → Row → Row
  assoc : ∀ a b c, join (join a b) c = join a (join b c)
  key_join : ∀ a b, key a = key b → key (join a b) = key a
  id_join : ∀ a b, id (join a b) = id a ∨ id (join a b) = id b

variable {Row Id Key : Type} (J : Joining Row Id Key)

namespace Joining

/-- A whole group as one row. -/
def all : List Row → Option Row
  | [] => none
  | row :: rows => some ((all rows).elim row (J.join row))

theorem all_cons (row : Row) (rows : List Row) :
    J.all (row :: rows) = some ((J.all rows).elim row (J.join row)) := rfl

theorem all_append (rows more : List Row) :
    J.all ((J.all rows).toList ++ more) = J.all (rows ++ more) := by
  induction rows with
  | nil => rfl
  | cons row rows ih =>
    rw [List.cons_append, all_cons, all_cons, ← ih]
    cases J.all rows with
    | none => rfl
    | some joined =>
      simp only [Option.elim_some, Option.toList_some, List.singleton_append, all_cons]
      cases J.all more with
      | none => rfl
      | some later => simp only [Option.elim_some, J.assoc]

theorem all_origin {rows : List Row} {key : Key} (group : ∀ row ∈ rows, J.key row = key)
    {kept : Row} (joined : J.all rows = some kept) :
    J.key kept = key ∧ ∃ row ∈ rows, J.id kept = J.id row := by
  induction rows generalizing kept with
  | nil => cases joined
  | cons row rows ih =>
    have own := group row List.mem_cons_self
    rw [all_cons] at joined
    cases rest : J.all rows with
    | none =>
      rw [rest] at joined
      cases joined
      exact ⟨own, row, List.mem_cons_self, rfl⟩
    | some other =>
      rw [rest] at joined
      cases joined
      obtain ⟨same, origin, mem, id⟩ := ih (fun x mem => group x (List.mem_cons_of_mem _ mem)) rest
      refine ⟨(J.key_join row other (own.trans same.symm)).trans own, ?_⟩
      obtain first | later := J.id_join row other
      · exact ⟨row, List.mem_cons_self, first⟩
      · exact ⟨origin, List.mem_cons_of_mem _ mem, later.trans id⟩

variable [DecidableEq Key]

def group (rows : List Row) (key : Key) : List Row := rows.filter (J.key · = key)

theorem group_keys (rows : List Row) (key : Key) : ∀ row ∈ J.group rows key, J.key row = key :=
  fun _ mem => of_decide_eq_true (List.mem_filter.mp mem).2

theorem group_append (rows more : List Row) (key : Key) :
    J.group (rows ++ more) key = J.group rows key ++ J.group more key :=
  List.filter_append ..

variable [DecidableEq Id]

/-- What is left of a row where the rows are consolidated. -/
def left (rows : List Row) (row : Row) : Option Row :=
  (J.all (J.group rows (J.key row))).filter (J.id · = J.id row)

def consolidate (rows : List Row) : List Row := rows.filterMap (J.left rows)

variable {J} {rows more : List Row}

theorem left_eq_some {row kept : Row} : J.left rows row = some kept ↔
    J.all (J.group rows (J.key row)) = some kept ∧ J.id kept = J.id row := by
  rw [left, Option.filter_eq_some_iff, decide_eq_true_iff]

theorem left_key {row kept : Row} (stays : J.left rows row = some kept) :
    J.key kept = J.key row :=
  (J.all_origin (J.group_keys rows _) (left_eq_some.mp stays).1).1

theorem consolidate_ids (rows : List Row) :
    ((J.consolidate rows).map J.id).Sublist (rows.map J.id) := by
  have sub : ∀ l : List Row, ((l.filterMap (J.left rows)).map J.id).Sublist (l.map J.id) := by
    intro l
    induction l with
    | nil => exact .refl _
    | cons row l ih =>
      cases stays : J.left rows row with
      | none =>
        rw [List.filterMap_cons_none stays]
        exact ih.cons _
      | some kept =>
        rw [List.filterMap_cons_some stays, List.map_cons, List.map_cons,
          (left_eq_some.mp stays).2]
        exact ih.cons_cons _
  exact sub rows

omit [DecidableEq Key] in
theorem filterMap_kept {kept row : Row} (ids : (rows.map J.id).Nodup) (mem : row ∈ rows)
    (same : J.id kept = J.id row) :
    rows.filterMap (fun other => (some kept).filter (J.id · = J.id other)) = [kept] := by
  obtain ⟨before, after, rfl⟩ := List.append_of_mem mem
  rw [List.map_append, List.map_cons, List.nodup_middle, List.nodup_cons] at ids
  have others : ∀ other ∈ before ++ after,
      (some kept).filter (J.id · = J.id other) = none := by
    intro other mem
    refine Option.filter_eq_none_iff.mpr fun found is same' => ids.1 ?_
    cases is
    rw [← List.map_append, ← same, of_decide_eq_true same']
    exact List.mem_map_of_mem mem
  have own : (some kept).filter (J.id · = J.id row) = some kept := by simp [same]
  rw [List.filterMap_append, List.filterMap_cons, own,
    List.filterMap_eq_nil_iff.mpr fun x mem => others x (List.mem_append_left _ mem),
    List.filterMap_eq_nil_iff.mpr fun x mem => others x (List.mem_append_right _ mem)]
  rfl

theorem group_consolidate (ids : (rows.map J.id).Nodup) (key : Key) :
    J.group (J.consolidate rows) key = (J.all (J.group rows key)).toList := by
  have own : J.group (J.consolidate rows) key = (J.group rows key).filterMap (J.left rows) := by
    unfold consolidate group
    rw [List.filter_filterMap, List.filterMap_filter]
    refine List.filterMap_congr fun row _ => ?_
    cases stays : J.left rows row with
    | none => simp
    | some kept => simp [Option.filter, left_key stays]
  have same : ∀ row ∈ J.group rows key, J.left rows row =
      (J.all (J.group rows key)).filter (J.id · = J.id row) := fun row mem => by
    rw [left, J.group_keys rows key row mem]
  rw [own, List.filterMap_congr same]
  cases joined : J.all (J.group rows key) with
  | none => simp
  | some kept =>
    obtain ⟨-, row, mem, id⟩ := J.all_origin (J.group_keys rows key) joined
    exact filterMap_kept (ids.sublist (List.filter_sublist.map _)) mem id

theorem consolidate_append (ids : ((rows ++ more).map J.id).Nodup) :
    J.consolidate (J.consolidate rows ++ more) = J.consolidate (rows ++ more) := by
  have before : (rows.map J.id).Nodup := by
    rw [List.map_append] at ids
    exact ids.of_append_left
  have groups : ∀ key, J.all (J.group (J.consolidate rows ++ more) key) =
      J.all (J.group (rows ++ more) key) := fun key => by
    rw [group_append, group_consolidate before, all_append, ← group_append]
  have lefts : J.left (J.consolidate rows ++ more) = J.left (rows ++ more) := by
    funext row
    rw [left, groups, left]
  have again : (J.consolidate rows).filterMap (J.left (rows ++ more)) =
      rows.filterMap (J.left (rows ++ more)) := by
    rw [consolidate, List.filterMap_filterMap]
    refine List.filterMap_congr fun row mem => ?_
    cases stays : J.left rows row with
    | some kept =>
      rw [Option.bind_some, left, left, left_key stays, (left_eq_some.mp stays).2]
    | none =>
      symm
      rw [Option.bind_none, Option.eq_none_iff_forall_ne_some]
      intro kept survives
      obtain ⟨joined, id⟩ := left_eq_some.mp survives
      rw [group_append, ← all_append] at joined
      have keys : ∀ other ∈ (J.all (J.group rows (J.key row))).toList ++ J.group more (J.key row),
          J.key other = J.key row := by
        intro other mem
        obtain early | late := List.mem_append.mp mem
        · exact (J.all_origin (J.group_keys rows _) (Option.mem_toList.mp early)).1
        · exact J.group_keys more _ other late
      obtain ⟨-, origin, from_, same⟩ := J.all_origin keys joined
      obtain early | late := List.mem_append.mp from_
      · have stays' := left_eq_some.mpr ⟨Option.mem_toList.mp early, same.symm.trans id⟩
        cases stays.symm.trans stays'
      · rw [List.map_append, List.nodup_append] at ids
        exact ids.2.2 _ (List.mem_map_of_mem mem) _
          (List.mem_map_of_mem (List.mem_of_mem_filter late)) (id.symm.trans same)
  rw [consolidate, lefts, List.filterMap_append, again, ← List.filterMap_append]
  rfl

end Joining

end GroupMerge
