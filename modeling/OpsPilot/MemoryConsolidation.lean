import OpsPilot.GroupMerge
import OpsPilot.MemoryMerge

/-! Consolidation as the joining of groups: rows that were consolidated early end up as if all of
them were consolidated at once. -/

namespace OpsPilot.MemoryConsolidation
open Models Memory MemoryMerge GroupMerge

section
variable {α : Type} {r : α → α → Prop} [DecidableRel r] [IsTrans α r]

theorem filter_orderedInsert {p : α → Bool} {a : α} (kept : p a = true) {l : List α}
    (sorted : l.Pairwise r) : (l.orderedInsert r a).filter p = (l.filter p).orderedInsert r a := by
  induction l with
  | nil => simp [kept]
  | cons b l ih =>
    obtain ⟨below, sorted⟩ := List.pairwise_cons.mp sorted
    by_cases first : r a b
    · have before : ∀ c ∈ (b :: l).filter p, r a c := by
        intro c mem
        obtain rfl | later := List.mem_cons.mp (List.mem_of_mem_filter mem)
        · exact first
        · exact Trans.trans first (below c later)
      rw [List.orderedInsert_cons_of_le _ l first, List.filter_cons_of_pos kept]
      cases rest : (b :: l).filter p with
      | nil => rfl
      | cons c _ => exact (List.orderedInsert_cons_of_le r _ (before c (by simp [rest]))).symm
    · rw [List.orderedInsert_of_not_le r l first, List.filter_cons, List.filter_cons, ih sorted]
      split
      · rw [List.orderedInsert_of_not_le r _ first]
      · rfl

omit [IsTrans α r] in
theorem filter_orderedInsert_dropped {p : α → Bool} {a : α} (dropped : p a = false) (l : List α) :
    (l.orderedInsert r a).filter p = l.filter p := by
  induction l with
  | nil => simp [dropped]
  | cons b l ih =>
    rw [List.orderedInsert_cons]
    split
    · simp [List.filter_cons, dropped]
    · simp only [List.filter_cons, ih]

theorem filter_insertionSort [Std.Total r] (p : α → Bool) (l : List α) :
    (l.insertionSort r).filter p = (l.filter p).insertionSort r := by
  induction l with
  | nil => rfl
  | cons a l ih =>
    cases kept : p a with
    | true =>
      rw [List.insertionSort_cons, filter_orderedInsert kept (List.pairwise_insertionSort r l), ih,
        List.filter_cons_of_pos kept, List.insertionSort_cons]
    | false =>
      rw [List.insertionSort_cons, filter_orderedInsert_dropped kept, ih,
        List.filter_cons_of_neg (by simp [kept])]

end

def joined (a b : ServiceMemory) : ServiceMemory :=
  { (if b.createdAt ≤ a.createdAt then a else b) with
    occurrenceCount := a.occurrenceCount + b.occurrenceCount
    confidence := max a.confidence b.confidence }

theorem joined_assoc (a b c : ServiceMemory) :
    joined (joined a b) c = joined a (joined b c) := by
  by_cases first : b.createdAt ≤ a.createdAt <;> by_cases second : c.createdAt ≤ b.createdAt <;>
    by_cases third : c.createdAt ≤ a.createdAt <;>
      simp [joined, first, second, third, Nat.add_assoc, max_assoc] <;> omega

theorem joined_cases (a b : ServiceMemory) : ∃ row, (row = a ∨ row = b) ∧
    (joined a b).id = row.id ∧ (joined a b).serviceId = row.serviceId ∧
    (joined a b).symptomPattern = row.symptomPattern ∧
    (joined a b).fixApplied = row.fixApplied := by
  by_cases newer : b.createdAt ≤ a.createdAt
  · exact ⟨a, .inl rfl, by simp [joined, newer]⟩
  · exact ⟨b, .inr rfl, by simp [joined, newer]⟩

def patternOf (serviceId : ℕ) (row : ServiceMemory) : (String × String) ⊕ ℕ :=
  if row.serviceId = serviceId then .inl (row.symptomPattern, row.fixApplied) else .inr row.id

theorem patternOf_congr {serviceId : ℕ} {a b : ServiceMemory} (id : a.id = b.id)
    (service : a.serviceId = b.serviceId) (symptom : a.symptomPattern = b.symptomPattern)
    (fix : a.fixApplied = b.fixApplied) : patternOf serviceId a = patternOf serviceId b := by
  rw [patternOf, patternOf, id, service, symptom, fix]

def memories (serviceId : ℕ) : Joining ServiceMemory ℕ ((String × String) ⊕ ℕ) where
  id := (·.id)
  key := patternOf serviceId
  join := joined
  assoc := joined_assoc
  key_join a b same := by
    obtain ⟨row, rfl | rfl, id, service, symptom, fix⟩ := joined_cases a b
    · exact patternOf_congr id service symptom fix
    · exact (patternOf_congr id service symptom fix).trans same.symm
  id_join a b := by
    obtain ⟨row, rfl | rfl, id, _⟩ := joined_cases a b
    · exact .inl id
    · exact .inr id

abbrev newer (a b : ServiceMemory) : Prop := a.createdAt ≥ b.createdAt

instance : Std.Total newer := ⟨fun a b => le_total b.createdAt a.createdAt⟩

instance : IsTrans ServiceMemory newer := ⟨fun _ _ _ first later => le_trans later first⟩

def survivorOf : List ServiceMemory → Option ServiceMemory
  | [] => none
  | survivor :: stale => some
    { survivor with
      occurrenceCount := ((survivor :: stale).map (·.occurrenceCount)).sum
      confidence := (stale.map (·.confidence)).foldl max survivor.confidence }

theorem best_perm {rows rows' : List ServiceMemory} (perm : rows.Perm rows') (confidence : ℚ) :
    (rows.map (·.confidence)).foldl max confidence =
      (rows'.map (·.confidence)).foldl max confidence :=
  (perm.map _).foldl_eq _

theorem survivorOf_insert (row : ServiceMemory) (rows : List ServiceMemory) :
    survivorOf (rows.orderedInsert newer row) =
      some ((survivorOf rows).elim row (joined row)) := by
  cases rows with
  | nil => simp [survivorOf]
  | cons survivor stale =>
    have best : ∀ confidence : ℚ, (stale.map (·.confidence)).foldl max
        (max confidence survivor.confidence) =
          max confidence ((stale.map (·.confidence)).foldl max survivor.confidence) :=
      fun confidence => List.foldl_assoc
    by_cases first : newer row survivor
    · rw [List.orderedInsert_cons_of_le _ stale first]
      simp [survivorOf, joined, first, best]
    · rw [List.orderedInsert_of_not_le newer stale first]
      have perm := List.perm_orderedInsert newer row stale
      have counts := (perm.map (·.occurrenceCount)).sum_eq
      have counted : survivor.occurrenceCount +
          ((stale.orderedInsert newer row).map (·.occurrenceCount)).sum =
            row.occurrenceCount +
              (survivor.occurrenceCount + (stale.map (·.occurrenceCount)).sum) := by
        rw [counts, List.map_cons, List.sum_cons, Nat.add_left_comm]
      have confident : ((stale.orderedInsert newer row).map (·.confidence)).foldl max
          survivor.confidence = max row.confidence
            ((stale.map (·.confidence)).foldl max survivor.confidence) := by
        rw [best_perm perm, List.map_cons, List.foldl_cons, max_comm, best]
      simp only [survivorOf, joined, first, if_false, Option.elim_some, List.map_cons,
        List.sum_cons, counted, confident]

theorem survivorOf_sorted (serviceId : ℕ) (rows : List ServiceMemory) :
    survivorOf (rows.insertionSort newer) = (memories serviceId).all rows := by
  induction rows with
  | nil => rfl
  | cons row rows ih =>
    rw [List.insertionSort_cons, survivorOf_insert, ih]
    rfl

variable {table more : List ServiceMemory} {serviceId : ℕ} {row : ServiceMemory}

theorem group_own (own : row.serviceId = serviceId) :
    (memories serviceId).group table ((memories serviceId).key row) =
      table.filter (sameGroup row) := by
  refine List.filter_congr fun other _ => ?_
  change decide (patternOf serviceId other = patternOf serviceId row) = sameGroup row other
  rw [Bool.eq_iff_iff, decide_eq_true_iff, sameGroup_iff, patternOf, patternOf, if_pos own]
  split
  case isTrue service =>
    simp only [own, service, Sum.inl.injEq, Prod.mk.injEq, true_and]
    exact and_congr eq_comm eq_comm
  case isFalse service =>
    simp only [reduceCtorEq, own, false_iff, not_and]
    exact fun same => absurd same.symm service

theorem group_other (ids : (table.map (·.id)).Nodup) (mem : row ∈ table)
    (other : row.serviceId ≠ serviceId) :
    (memories serviceId).group table ((memories serviceId).key row) = [row] := by
  have apart : ∀ old : ServiceMemory, old.id ≠ row.id →
      (memories serviceId).key old ≠ (memories serviceId).key row := by
    intro old different
    change patternOf serviceId old ≠ patternOf serviceId row
    rw [patternOf, patternOf, if_neg other]
    split
    · exact Sum.inl_ne_inr
    · exact fun same => different (Sum.inr.inj same)
  obtain ⟨before, after, rfl⟩ := List.append_of_mem mem
  rw [List.map_append, List.map_cons, List.nodup_middle, List.nodup_cons, ← List.map_append] at ids
  have others : ∀ old ∈ before ++ after,
      ¬ decide ((memories serviceId).key old = (memories serviceId).key row) = true := by
    intro old mem same
    exact apart old (fun id => ids.1 (id ▸ List.mem_map_of_mem mem)) (of_decide_eq_true same)
  rw [Joining.group, List.filter_append, List.filter_cons, if_pos (decide_eq_true rfl),
    List.filter_eq_nil_iff.mpr fun old mem => others old (List.mem_append_left _ mem),
    List.filter_eq_nil_iff.mpr fun old mem => others old (List.mem_append_right _ mem)]
  rfl

theorem merged_group (own : row.serviceId = serviceId) :
    (listServiceMemory table serviceId).filter (samePattern row) =
      (table.filter (sameGroup row)).insertionSort newer := by
  have grouped : (table.filter (·.serviceId == serviceId)).filter (samePattern row) =
      table.filter (sameGroup row) := by
    rw [List.filter_filter]
    refine List.filter_congr fun other _ => ?_
    rw [sameGroup, own, Bool.and_comm, Bool.beq_comm]
  rw [← grouped]
  exact filter_insertionSort _ _

theorem merged_left (ids : (table.map (·.id)).Nodup) (mem : row ∈ table)
    (own : row.serviceId = serviceId) :
    merged (listServiceMemory table serviceId) row = (memories serviceId).left table row := by
  rw [Joining.left, group_own own, ← survivorOf_sorted, merged, merged_group own]
  have perm := List.perm_insertionSort newer (table.filter (sameGroup row))
  have here : row ∈ (table.filter (sameGroup row)).insertionSort newer :=
    perm.mem_iff.mpr (List.mem_filter.mpr ⟨mem, sameGroup_refl row⟩)
  have known : ∀ other ∈ (table.filter (sameGroup row)).insertionSort newer, other ∈ table :=
    fun other mem => List.mem_of_mem_filter (perm.mem_iff.mp mem)
  cases sorted : (table.filter (sameGroup row)).insertionSort newer with
  | nil =>
    rw [sorted] at here
    cases here
  | cons survivor stale =>
    dsimp only
    by_cases same : row.id = survivor.id
    · have own : row = survivor := List.inj_on_of_nodup_map ids mem
        (known survivor (sorted ▸ List.mem_cons_self)) same
      subst own
      rw [if_neg (not_not.mpr rfl), survivorOf, Option.filter]
      split
      case isTrue alone =>
        rw [alone]
        simp [memories]
      case isFalse => simp [memories]
    · rw [if_pos same, survivorOf, Option.filter]
      simp [memories, Ne.symm same]

theorem consolidate_joins (ids : (table.map (·.id)).Nodup) :
    consolidateServiceMemory table serviceId = (memories serviceId).consolidate table := by
  rw [consolidateServiceMemory_eq, Joining.consolidate]
  refine List.filterMap_congr fun row mem => ?_
  by_cases own : row.serviceId = serviceId
  · rw [consolidated, if_neg (not_not.mpr own), merged_left ids mem own]
  · rw [consolidated, if_pos own, Joining.left, group_other ids mem own]
    simp [Joining.all, Option.filter]

theorem consolidate_early (ids : ((table ++ more).map (·.id)).Nodup) :
    consolidateServiceMemory (consolidateServiceMemory table serviceId ++ more) serviceId =
      consolidateServiceMemory (table ++ more) serviceId := by
  have before : (table.map (·.id)).Nodup := by
    rw [List.map_append] at ids
    exact ids.of_append_left
  have after : ((consolidateServiceMemory table serviceId ++ more).map (·.id)).Nodup := by
    rw [List.map_append] at ids ⊢
    exact ids.sublist ((consolidate_ids table serviceId).append_right _)
  rw [consolidate_joins after, consolidate_joins before, consolidate_joins ids,
    Joining.consolidate_append ids]

end OpsPilot.MemoryConsolidation
