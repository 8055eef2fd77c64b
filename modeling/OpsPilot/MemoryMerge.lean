import OpsPilot.Memory

/-! What consolidation makes of the rows of one service. -/

namespace OpsPilot.MemoryMerge
open Models Memory

def sameGroup (a b : ServiceMemory) : Bool := a.serviceId == b.serviceId && samePattern a b

theorem ids_append {rows : List ServiceMemory} (ids : (rows.map (·.id)).Nodup)
    {memory : ServiceMemory} (unused : memory.id ∉ rows.map (·.id)) :
    ((rows ++ [memory]).map (·.id)).Nodup := by
  rw [List.map_append, List.nodup_append]
  refine ⟨ids, List.nodup_singleton _, ?_⟩
  rintro id old _ last rfl
  rw [List.map_singleton, List.mem_singleton] at last
  exact unused (last ▸ old)

theorem sameGroup_iff {a b : ServiceMemory} : sameGroup a b = true ↔
    a.serviceId = b.serviceId ∧ a.symptomPattern = b.symptomPattern ∧ a.fixApplied = b.fixApplied := by
  simp [sameGroup, samePattern]

theorem sameGroup_refl (a : ServiceMemory) : sameGroup a a = true := by simp [sameGroup_iff]

theorem sameGroup_symm {a b : ServiceMemory} (same : sameGroup a b = true) :
    sameGroup b a = true := by
  rw [sameGroup_iff] at same ⊢
  exact ⟨same.1.symm, same.2.1.symm, same.2.2.symm⟩

theorem sameGroup_trans {a b c : ServiceMemory} (first : sameGroup a b = true)
    (later : sameGroup b c = true) : sameGroup a c = true := by
  rw [sameGroup_iff] at first later ⊢
  exact ⟨first.1.trans later.1, first.2.1.trans later.2.1, first.2.2.trans later.2.2⟩

theorem sameGroup_congr {a b : ServiceMemory} (same : sameGroup a b = true) :
    sameGroup a = sameGroup b := by
  funext c
  rw [Bool.eq_iff_iff]
  exact ⟨sameGroup_trans (sameGroup_symm same), sameGroup_trans same⟩

def merged (rows : List ServiceMemory) (row : ServiceMemory) : Option ServiceMemory :=
  match rows.filter (samePattern row) with
  | survivor :: stale =>
    if row.id ≠ survivor.id then none
    else if stale = [] then some row
    else some
      { row with
        occurrenceCount := ((survivor :: stale).map (·.occurrenceCount)).sum
        confidence := (stale.map (·.confidence)).foldl max survivor.confidence }
  | [] => some row

def consolidated (rows : List ServiceMemory) (serviceId : ℕ) (row : ServiceMemory) :
    Option ServiceMemory :=
  if row.serviceId ≠ serviceId then some row else merged rows row

theorem consolidateServiceMemory_eq (table : List ServiceMemory) (serviceId : ℕ) :
    consolidateServiceMemory table serviceId =
      table.filterMap (consolidated (listServiceMemory table serviceId) serviceId) := rfl

/-- A row that stays keeps everything but its count and its confidence. -/
structure Kept (row kept : ServiceMemory) : Prop where
  id : kept.id = row.id
  serviceId : kept.serviceId = row.serviceId
  sourceIncidentId : kept.sourceIncidentId = row.sourceIncidentId
  symptomPattern : kept.symptomPattern = row.symptomPattern
  rootCause : kept.rootCause = row.rootCause
  fixApplied : kept.fixApplied = row.fixApplied
  outcome : kept.outcome = row.outcome
  createdAt : kept.createdAt = row.createdAt

theorem merged_kept {rows : List ServiceMemory} {row kept : ServiceMemory}
    (stays : merged rows row = some kept) : Kept row kept := by
  unfold merged at stays
  split at stays
  · split at stays
    · cases stays
    · split at stays <;> cases stays <;> exact ⟨rfl, rfl, rfl, rfl, rfl, rfl, rfl, rfl⟩
  · cases stays
    exact ⟨rfl, rfl, rfl, rfl, rfl, rfl, rfl, rfl⟩

theorem Kept.sameGroup {row kept : ServiceMemory} (kept' : Kept row kept) :
    sameGroup row kept = true :=
  sameGroup_iff.mpr ⟨kept'.serviceId.symm, kept'.symptomPattern.symm, kept'.fixApplied.symm⟩

theorem consolidate_others (table : List ServiceMemory) (serviceId : ℕ) :
    (consolidateServiceMemory table serviceId).filter (·.serviceId != serviceId) =
      table.filter (·.serviceId != serviceId) := by
  rw [consolidateServiceMemory_eq]
  generalize listServiceMemory table serviceId = rows
  induction table with
  | nil => rfl
  | cons row table ih =>
    by_cases own : row.serviceId = serviceId
    · have dropped : (row :: table).filter (·.serviceId != serviceId) =
          table.filter (·.serviceId != serviceId) := by simp [own]
      have merges : consolidated rows serviceId row = merged rows row := if_neg (not_not.mpr own)
      rw [dropped, ← ih]
      cases stays : merged rows row with
      | none => rw [List.filterMap_cons_none (merges.trans stays)]
      | some kept =>
        rw [List.filterMap_cons_some (merges.trans stays)]
        have same : kept.serviceId = serviceId := (merged_kept stays).serviceId.trans own
        simp [same]
    · have first : consolidated rows serviceId row = some row := if_pos own
      rw [List.filterMap_cons_some first, List.filter_cons, List.filter_cons, ih]

theorem filterMap_ids {f : ServiceMemory → Option ServiceMemory}
    (keeps : ∀ row kept, f row = some kept → kept.id = row.id) (rows : List ServiceMemory) :
    ((rows.filterMap f).map (·.id)).Sublist (rows.map (·.id)) := by
  induction rows with
  | nil => exact .refl _
  | cons row rows ih =>
    cases stays : f row with
    | none =>
      rw [List.filterMap_cons_none stays]
      exact ih.cons _
    | some kept =>
      rw [List.filterMap_cons_some stays, List.map_cons, List.map_cons, keeps row kept stays]
      exact ih.cons_cons _

/-- Consolidation makes no new id. -/
theorem consolidate_ids (table : List ServiceMemory) (serviceId : ℕ) :
    ((consolidateServiceMemory table serviceId).map (·.id)).Sublist (table.map (·.id)) := by
  refine filterMap_ids (fun row kept stays => ?_) table
  change consolidated (listServiceMemory table serviceId) serviceId row = some kept at stays
  unfold consolidated at stays
  split at stays
  · cases stays
    rfl
  · exact (merged_kept stays).id

theorem listServiceMemory_perm (table : List ServiceMemory) (serviceId : ℕ) :
    (listServiceMemory table serviceId).Perm (table.filter (·.serviceId == serviceId)) :=
  List.perm_insertionSort _ _

theorem listServiceMemory_newest (table : List ServiceMemory) (serviceId : ℕ) :
    (listServiceMemory table serviceId).Pairwise fun a b => b.createdAt ≤ a.createdAt := by
  have total : Std.Total fun a b : ServiceMemory => a.createdAt ≥ b.createdAt :=
    ⟨fun a b => le_total b.createdAt a.createdAt⟩
  have transitive : IsTrans ServiceMemory fun a b => a.createdAt ≥ b.createdAt :=
    ⟨fun _ _ _ first later => le_trans later first⟩
  exact List.pairwise_insertionSort _ _

theorem group_perm {table : List ServiceMemory} {serviceId : ℕ} {row : ServiceMemory}
    (own : row.serviceId = serviceId) :
    ((listServiceMemory table serviceId).filter (samePattern row)).Perm
      (table.filter (sameGroup row)) := by
  have grouped : (table.filter (·.serviceId == serviceId)).filter (samePattern row) =
      table.filter (sameGroup row) := by
    rw [List.filter_filter]
    refine List.filter_congr fun other _ => ?_
    rw [sameGroup, own, Bool.and_comm, Bool.beq_comm]
  rw [← grouped]
  exact (listServiceMemory_perm table serviceId).filter _

theorem merged_alone {table : List ServiceMemory} {serviceId : ℕ} {row : ServiceMemory}
    (own : row.serviceId = serviceId) (alone : table.filter (sameGroup row) = [row]) :
    merged (listServiceMemory table serviceId) row = some row := by
  have group : List.Perm (_ : List ServiceMemory) (table.filter _) := group_perm own
  rw [alone, List.perm_singleton] at group
  simp [merged, group]

def survives (survivor stale : ServiceMemory) : ServiceMemory :=
  { survivor with
    occurrenceCount := survivor.occurrenceCount + stale.occurrenceCount
    confidence := max survivor.confidence stale.confidence }

theorem merged_pair {table : List ServiceMemory} {serviceId : ℕ} {a b : ServiceMemory}
    (own : a.serviceId = serviceId) (different : a.id ≠ b.id)
    (pair : (table.filter (sameGroup a)).Perm [a, b]) :
    (merged (listServiceMemory table serviceId) a = some (survives a b) ∧
        merged (listServiceMemory table serviceId) b = none ∧ b.createdAt ≤ a.createdAt) ∨
      (merged (listServiceMemory table serviceId) a = none ∧
        merged (listServiceMemory table serviceId) b = some (survives b a) ∧
          a.createdAt ≤ b.createdAt) := by
  have together : sameGroup a b = true :=
    (List.mem_filter.mp (pair.symm.subset (by simp))).2
  have own' : b.serviceId = serviceId := (sameGroup_iff.mp together).1.symm.trans own
  have pair' : (table.filter (sameGroup b)).Perm [a, b] := by rwa [← sameGroup_congr together]
  have groupA := (group_perm own).trans pair
  have groupB := (group_perm own').trans pair'
  have newest := (listServiceMemory_newest table serviceId).filter (samePattern a)
  have patterns : samePattern b = samePattern a := by
    funext other
    obtain ⟨_, pattern, fix⟩ := sameGroup_iff.mp together
    simp [samePattern, pattern, fix]
  rw [patterns] at groupB
  unfold merged
  rw [patterns]
  generalize (listServiceMemory table serviceId).filter (samePattern a) = group at groupA newest
  have two : group = [a, b] ∨ group = [b, a] := by
    obtain ⟨x, y, rfl⟩ := List.length_eq_two.mp (groupA.length_eq.trans rfl)
    have first : x = a ∨ x = b := by simpa using groupA.subset (List.mem_cons_self)
    have second : y = a ∨ y = b := by simpa using groupA.subset (a := y) (by simp)
    have holdsA : a = x ∨ a = y := by simpa using groupA.symm.subset (a := a) (by simp)
    have holdsB : b = x ∨ b = y := by simpa using groupA.symm.subset (a := b) (by simp)
    have apart : a ≠ b := fun same => different (congrArg _ same)
    rcases first with rfl | rfl <;> rcases second with rfl | rfl <;> simp_all
  rcases two with rfl | rfl
  · refine .inl ⟨?_, ?_, ?_⟩
    · simp [survives]
    · simp [Ne.symm different]
    · simpa using newest
  · refine .inr ⟨?_, ?_, ?_⟩
    · simp [different]
    · simp [survives]
    · simpa using newest

def total (rows : List ServiceMemory) : ℕ := (rows.map (·.occurrenceCount)).sum

theorem total_append (rows rows' : List ServiceMemory) :
    total (rows ++ rows') = total rows + total rows' := by
  simp [total]

theorem total_perm {rows rows' : List ServiceMemory} (perm : rows.Perm rows') :
    total rows = total rows' :=
  (perm.map _).sum_eq

theorem total_split (p : ServiceMemory → Bool) (rows : List ServiceMemory) :
    total rows = total (rows.filter p) + total (rows.filter fun row => !p row) := by
  rw [← total_append]
  exact total_perm (List.filter_append_perm p rows).symm

theorem filterMap_filter_not {α β : Type} (f : α → Option β) (p : α → Bool) (l : List α)
    (dropped : ∀ x ∈ l, p x = true → f x = none) :
    l.filterMap f = (l.filter fun x => !p x).filterMap f := by
  induction l with
  | nil => rfl
  | cons x l ih =>
    have later := ih fun y mem => dropped y (List.mem_cons_of_mem _ mem)
    cases here : p x with
    | true =>
      rw [List.filterMap_cons_none (dropped x List.mem_cons_self here), later]
      simp [here]
    | false =>
      simp only [List.filter_cons, here, Bool.not_false, if_true, List.filterMap_cons, later]

theorem samePattern_congr {a b : ServiceMemory} (same : samePattern a b = true) :
    samePattern a = samePattern b := by
  funext c
  simp only [samePattern, Bool.and_eq_true, beq_iff_eq] at same ⊢
  rw [same.1, same.2]

theorem total_merged (rows : List ServiceMemory) (ids : (rows.map (·.id)).Nodup) :
    total (rows.filterMap (merged rows)) = total rows := by
  induction size : rows.length using Nat.strong_induction_on generalizing rows with
  | _ n ih =>
    cases rows with
    | nil => rfl
    | cons row rest =>
      rw [List.map_cons, List.nodup_cons] at ids
      have others_shorter : (rest.filter fun x => !samePattern row x).length < n := by
        have shorter := List.length_filter_le (fun x => !samePattern row x) rest
        rw [List.length_cons] at size
        omega
      have others_ids : ((rest.filter fun x => !samePattern row x).map (·.id)).Nodup :=
        ids.2.sublist (List.filter_sublist.map _)
      have own : (row :: rest).filter (samePattern row) = row :: rest.filter (samePattern row) := by
        simp [samePattern]
      have first : ∃ kept, merged (row :: rest) row = some kept ∧
          kept.occurrenceCount = row.occurrenceCount + total (rest.filter (samePattern row)) := by
        unfold merged
        rw [own]
        dsimp only
        rw [if_neg (by simp)]
        split
        case isTrue alone =>
          rw [alone]
          exact ⟨row, rfl, rfl⟩
        case isFalse => exact ⟨_, rfl, by simp [total]⟩
      have stale : ∀ x ∈ rest, samePattern row x = true → merged (row :: rest) x = none := by
        intro x mem same
        have different : x.id ≠ row.id := fun id => ids.1 (id ▸ List.mem_map_of_mem mem)
        unfold merged
        rw [← samePattern_congr same, own]
        exact if_pos different
      have apart : ∀ x ∈ rest.filter fun x => !samePattern row x,
          merged (row :: rest) x = merged (rest.filter fun x => !samePattern row x) x := by
        intro x mem
        have other : samePattern row x = false := by simpa using (List.mem_filter.mp mem).2
        have none_first : samePattern x row = false := by
          rw [← Bool.not_eq_true] at other ⊢
          exact fun same => other (by rw [← samePattern_congr same]; simp [samePattern])
        have group : (row :: rest).filter (samePattern x) =
            (rest.filter fun x => !samePattern row x).filter (samePattern x) := by
          rw [List.filter_cons, none_first, List.filter_filter]
          refine List.filter_congr fun y _ => ?_
          cases same : samePattern x y with
          | false => rfl
          | true =>
            have outside : samePattern row y = false := by
              rw [← Bool.not_eq_true] at other ⊢
              exact fun joined => other (by
                rw [samePattern_congr joined, ← samePattern_congr same]
                simp [samePattern])
            simp [outside]
        unfold merged
        rw [group]
      obtain ⟨kept, stays, count⟩ := first
      rw [List.filterMap_cons_some stays, filterMap_filter_not _ (samePattern row) rest stale,
        List.filterMap_congr apart]
      have rest_total := ih _ others_shorter _ others_ids rfl
      have split := total_split (samePattern row) rest
      simp only [total, List.map_cons, List.sum_cons] at *
      omega

end OpsPilot.MemoryMerge
