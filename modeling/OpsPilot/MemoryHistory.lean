import OpsPilot.IncidentApi
import OpsPilot.MemoryMerge
import OpsPilot.ThreadVerdicts

/-! The memory table over whole histories of closings and deletions, next to the confirmations
that it stands for. -/

namespace OpsPilot.MemoryHistory
open AgentSchemas SyntheticEnvironment InvestigationState Models Memory Investigation IncidentApi
open PolicyGate MemoryMerge ThreadVerdicts DurableProgram

structure Grouped (table : List ServiceMemory) : Prop where
  ids : (table.map (·.id)).Nodup
  single : ∀ a ∈ table, ∀ b ∈ table, sameGroup a b = true → a = b

section
variable {table : List ServiceMemory} {memory row : ServiceMemory}

theorem Grouped.group (grouped : Grouped table) (mem : row ∈ table) :
    table.filter (sameGroup row) = [row] := by
  have nodup : (table.filter (sameGroup row)).Nodup := grouped.ids.of_map.filter _
  have same : (table.filter (sameGroup row)).Perm [row] := by
    rw [List.perm_ext_iff_of_nodup nodup (List.nodup_singleton row)]
    intro other
    rw [List.mem_filter, List.mem_singleton]
    constructor
    · rintro ⟨mem', together⟩
      exact (grouped.single row mem other mem' together).symm
    · rintro rfl
      exact ⟨mem, sameGroup_refl other⟩
  exact List.perm_singleton.mp same

theorem Grouped.consolidate (grouped : Grouped table) (serviceId : ℕ) :
    consolidateServiceMemory table serviceId = table := by
  have stays : ∀ row ∈ table,
      consolidated (listServiceMemory table serviceId) serviceId row = some row := by
    intro row mem
    by_cases own : row.serviceId = serviceId
    · exact (if_neg (not_not.mpr own)).trans (merged_alone own (grouped.group mem))
    · exact if_pos own
  rw [consolidateServiceMemory_eq, List.filterMap_congr stays, List.filterMap_some]

theorem Grouped.append (grouped : Grouped table) (fresh : memory.id ∉ table.map (·.id))
    (new : ∀ row ∈ table, sameGroup memory row = false) : Grouped (table ++ [memory]) where
  ids := ids_append grouped.ids fresh
  single := by
    intro a here b there together
    simp only [List.mem_append, List.mem_singleton] at here there
    rcases here with here | rfl <;> rcases there with there | rfl
    · exact grouped.single a here b there together
    · exact absurd (sameGroup_symm together) (by rw [new a here]; exact Bool.false_ne_true)
    · exact absurd together (by rw [new b there]; exact Bool.false_ne_true)
    · rfl

theorem Grouped.join (grouped : Grouped table) (fresh : memory.id ∉ table.map (·.id))
    (mem : row ∈ table) (together : sameGroup memory row = true) : ∃ kept,
      ((kept = survives memory row ∧ row.createdAt ≤ memory.createdAt) ∨
        (kept = survives row memory ∧ memory.createdAt ≤ row.createdAt)) ∧
      ∀ x, x ∈ consolidateServiceMemory (table ++ [memory]) memory.serviceId ↔
        (x ∈ table ∧ sameGroup memory x = false) ∨ x = kept := by
  have alone : ∀ x ∈ table, sameGroup memory x = false →
      (table ++ [memory]).filter (sameGroup x) = [x] := by
    intro x mem' apart
    have other : sameGroup x memory = false := by
      rw [← Bool.not_eq_true] at apart ⊢
      exact fun same => apart (sameGroup_symm same)
    rw [List.filter_append, grouped.group mem', List.filter_singleton, other]
    rfl
  have others : ∀ x ∈ table, sameGroup memory x = false →
      consolidated (listServiceMemory (table ++ [memory]) memory.serviceId) memory.serviceId x =
        some x := by
    intro x mem' apart
    by_cases own : x.serviceId = memory.serviceId
    · exact (if_neg (not_not.mpr own)).trans (merged_alone own (alone x mem' apart))
    · exact if_pos own
  have pair : ((table ++ [memory]).filter (sameGroup memory)).Perm [memory, row] := by
    rw [List.filter_append, sameGroup_congr together, grouped.group mem, List.filter_singleton,
      sameGroup_symm together]
    exact List.Perm.swap memory row []
  have different : memory.id ≠ row.id := fun same => fresh (same ▸ List.mem_map_of_mem mem)
  have own : row.serviceId = memory.serviceId := (sameGroup_iff.mp together).1.symm
  have merges : ∀ x : ServiceMemory, x.serviceId = memory.serviceId →
      consolidated (listServiceMemory (table ++ [memory]) memory.serviceId) memory.serviceId x =
        merged (listServiceMemory (table ++ [memory]) memory.serviceId) x :=
    fun x own => if_neg (not_not.mpr own)
  have only : ∀ x ∈ table, sameGroup memory x = true → x = row := by
    intro x mem' same
    exact grouped.single x mem' row mem (sameGroup_trans (sameGroup_symm same) together)
  have members : ∀ x,
      x ∈ consolidateServiceMemory (table ++ [memory]) memory.serviceId ↔
        (x ∈ table ∧ sameGroup memory x = false) ∨
          merged (listServiceMemory (table ++ [memory]) memory.serviceId) memory = some x ∨
          merged (listServiceMemory (table ++ [memory]) memory.serviceId) row = some x := by
    intro x
    rw [consolidateServiceMemory_eq, List.mem_filterMap]
    constructor
    · rintro ⟨old, mem', becomes⟩
      rcases List.mem_append.mp mem' with inside | last
      · cases same : sameGroup memory old with
        | false =>
          rw [others old inside same, Option.some.injEq] at becomes
          exact .inl (becomes ▸ ⟨inside, same⟩)
        | true =>
          obtain rfl := only old inside same
          exact .inr (.inr ((merges old own).symm.trans becomes))
      · obtain rfl := List.mem_singleton.mp last
        exact .inr (.inl ((merges old rfl).symm.trans becomes))
    · rintro (⟨inside, apart⟩ | becomes | becomes)
      · exact ⟨x, List.mem_append_left _ inside, others x inside apart⟩
      · exact ⟨memory, by simp, (merges memory rfl).trans becomes⟩
      · exact ⟨row, List.mem_append_left _ mem, (merges row own).trans becomes⟩
  rcases merged_pair rfl different pair with ⟨keeps, drops, newer⟩ | ⟨drops, keeps, newer⟩
  · refine ⟨survives memory row, .inl ⟨rfl, newer⟩, fun x => ?_⟩
    rw [members, keeps, drops]
    simp only [Option.some.injEq, reduceCtorEq, or_false, @eq_comm _ _ x]
  · refine ⟨survives row memory, .inr ⟨rfl, newer⟩, fun x => ?_⟩
    rw [members, keeps, drops]
    simp only [Option.some.injEq, reduceCtorEq, false_or, @eq_comm _ _ x]

end

inductive MemoryEvent where
  | confirmed (memory : ServiceMemory)
  | deleted (memory : ServiceMemory)

def confirm (row : ServiceMemory) (known : List ServiceMemory) : MemoryEvent → List ServiceMemory
  | .confirmed memory => if sameGroup row memory then known ++ [memory] else known
  | .deleted memory => if sameGroup row memory then [] else known

def confirmations (row : ServiceMemory) (events : List MemoryEvent) : List ServiceMemory :=
  events.foldl (confirm row) []

@[simp] theorem confirmations_append (row : ServiceMemory) (events : List MemoryEvent)
    (event : MemoryEvent) :
    confirmations row (events ++ [event]) = confirm row (confirmations row events) event := by
  simp [confirmations]

theorem confirmations_congr {a b : ServiceMemory} (same : sameGroup a b = true)
    (events : List MemoryEvent) : confirmations a events = confirmations b events := by
  have steps : confirm a = confirm b := by
    funext known event
    cases event <;> simp only [confirm, sameGroup_congr same]
  rw [confirmations, confirmations, steps]

theorem mem_confirmations {row memory : ServiceMemory} {events : List MemoryEvent}
    (mem : memory ∈ confirmations row events) :
    .confirmed memory ∈ events ∧ sameGroup row memory = true := by
  induction events using List.reverseRecOn with
  | nil => cases mem
  | append_singleton events event ih =>
    rw [confirmations_append] at mem
    have older : memory ∈ confirmations row events →
        .confirmed memory ∈ events ++ [event] ∧ sameGroup row memory = true :=
      fun mem => ⟨List.mem_append_left _ (ih mem).1, (ih mem).2⟩
    cases event with
    | confirmed other =>
      simp only [confirm] at mem
      split_ifs at mem with same
      · rcases List.mem_append.mp mem with old | last
        · exact older old
        · obtain rfl := List.mem_singleton.mp last
          exact ⟨by simp, same⟩
      · exact older mem
    | deleted other =>
      simp only [confirm] at mem
      split_ifs at mem
      · cases mem
      · exact older mem

structure StandsFor (row : ServiceMemory) (known : List ServiceMemory) : Prop where
  count : row.occurrenceCount = known.length
  bound : ∀ memory ∈ known, memory.confidence ≤ row.confidence
  best : ∃ memory ∈ known, memory.confidence = row.confidence
  newest : ∀ memory ∈ known, memory.createdAt ≤ row.createdAt
  origin : ∃ memory ∈ known, memory.createdAt = row.createdAt ∧
    memory.rootCause = row.rootCause ∧ memory.sourceIncidentId = row.sourceIncidentId ∧
    memory.outcome = row.outcome

theorem StandsFor.new {memory : ServiceMemory} (once : memory.occurrenceCount = 1) :
    StandsFor memory [memory] where
  count := once
  bound := by simp
  best := ⟨memory, by simp, rfl⟩
  newest := by simp
  origin := ⟨memory, by simp, rfl, rfl, rfl, rfl⟩

theorem StandsFor.takenOver {row memory : ServiceMemory} {known : List ServiceMemory}
    (stands : StandsFor row known) (once : memory.occurrenceCount = 1)
    (newer : row.createdAt ≤ memory.createdAt) :
    StandsFor (survives memory row) (known ++ [memory]) where
  count := by
    rw [List.length_append, List.length_singleton, ← stands.count, Nat.add_comm, ← once]
    rfl
  bound := by
    intro other mem
    rcases List.mem_append.mp mem with old | last
    · exact (stands.bound other old).trans (le_max_right _ _)
    · rw [List.mem_singleton.mp last]
      exact le_max_left _ _
  best := by
    obtain ⟨other, mem, same⟩ := stands.best
    rcases le_total memory.confidence row.confidence with less | more
    · exact ⟨other, List.mem_append_left _ mem, same.trans (max_eq_right less).symm⟩
    · exact ⟨memory, by simp, (max_eq_left more).symm⟩
  newest := by
    intro other mem
    rcases List.mem_append.mp mem with old | last
    · exact (stands.newest other old).trans newer
    · rw [List.mem_singleton.mp last]
      exact le_rfl
  origin := ⟨memory, by simp, rfl, rfl, rfl, rfl⟩

/-- An older confirmation is only counted. -/
theorem StandsFor.counted {row memory : ServiceMemory} {known : List ServiceMemory}
    (stands : StandsFor row known) (once : memory.occurrenceCount = 1)
    (older : memory.createdAt ≤ row.createdAt) :
    StandsFor (survives row memory) (known ++ [memory]) where
  count := by
    rw [List.length_append, List.length_singleton, ← stands.count, ← once]
    rfl
  bound := by
    intro other mem
    rcases List.mem_append.mp mem with old | last
    · exact (stands.bound other old).trans (le_max_left _ _)
    · rw [List.mem_singleton.mp last]
      exact le_max_right _ _
  best := by
    obtain ⟨other, mem, same⟩ := stands.best
    rcases le_total memory.confidence row.confidence with less | more
    · exact ⟨other, List.mem_append_left _ mem, same.trans (max_eq_left less).symm⟩
    · exact ⟨memory, by simp, (max_eq_right more).symm⟩
  newest := by
    intro other mem
    rcases List.mem_append.mp mem with old | last
    · exact stands.newest other old
    · rw [List.mem_singleton.mp last]
      exact older
  origin := by
    obtain ⟨other, mem, facts⟩ := stands.origin
    exact ⟨other, List.mem_append_left _ mem, facts⟩

def outcomes : List String := ["executed", "approved_and_executed", "denied", "blocked"]

structure Admitted (settings : Settings) (memory : ServiceMemory) : Prop where
  fix : memory.fixApplied ≠ "escalate"
  confident : settings.memoryWriteMinConfidence ≤ memory.confidence
  once : memory.occurrenceCount = 1
  outcome : memory.outcome ∈ outcomes

theorem written_admitted {settings : Settings} {memoryId serviceId incidentId : ℕ} {now : ℤ}
    {result : InvestigationResult} {memory : ServiceMemory}
    (verdict : ∀ diagnosis, result.diagnosis = some diagnosis →
      result.policyVerdict = some (policy diagnosis.recommendedAction))
    (written : writeConfirmedMemory settings memoryId serviceId incidentId now result = some memory) :
    Admitted settings memory ∧ memory.id = memoryId ∧ memory.serviceId = serviceId := by
  unfold writeConfirmedMemory at written
  cases found : result.diagnosis with
  | none =>
    rw [found] at written
    cases written
  | some diagnosis =>
    have judged := verdict diagnosis found
    rw [found] at written
    dsimp only at written
    split_ifs at written with escalated doubtful
    cases written
    refine ⟨⟨?_, not_lt.mp doubtful, rfl, ?_⟩, rfl, rfl⟩
    · dsimp only
      generalize diagnosis.recommendedAction = action at escalated
      cases action <;> first | exact absurd rfl escalated | decide
    · dsimp only
      unfold deriveOutcome
      rw [judged]
      generalize diagnosis.recommendedAction = action at escalated
      cases action <;> first | exact absurd rfl escalated | (dsimp only [policy]; try split) <;>
        simp [outcomes]

theorem closeIncident_memory (settings : Settings) (server : Server) (scenario : Scenario) (id : ℕ)
    (incident : Incident) (result : InvestigationResult) (db : Database) : ∃ db',
      db'.serviceMemory = db.serviceMemory ∧ db'.nextMemoryId = db.nextMemoryId ∧
        closeIncident settings server scenario id incident result db =
          addMemory settings server scenario.service.id id result db' := by
  refine ⟨_, ?_, ?_, rfl⟩
  · dsimp only [Database.updateIncident]
    split <;> rfl
  · dsimp only [Database.updateIncident]
    split <;> rfl

def confirmation (settings : Settings) (server : Server) (scenario : Scenario) (id : ℕ)
    (result : InvestigationResult) (db : Database) : List MemoryEvent :=
  ((writeConfirmedMemory settings db.nextMemoryId scenario.service.id id server.now result).map
    .confirmed).toList

/-- Closings and admin deletions one after another, between steps that leave the memory table
alone, from an empty table. -/
inductive History (app : App) : Database → List MemoryEvent → Prop where
  | start {db} (empty : db.serviceMemory = []) : History app db []
  | closed {db events scenario result} (before : History app db events) (server : Server)
      (id : ℕ) (incident : Incident) (closing : ClosingResult app scenario result) :
      History app (closeIncident app.settings server scenario id incident result db)
        (events ++ confirmation app.settings server scenario id result db)
  | deleted {db db' events memoryId entry} (before : History app db events)
      (found : db.serviceMemory.find? (·.id == memoryId) = some entry)
      (removed : deleteMemoryEntry memoryId db = .ok db') :
      History app db' (events ++ [.deleted entry])
  | elsewhere {db db' events} (before : History app db events)
      (rows : db'.serviceMemory = db.serviceMemory) (ids : db'.nextMemoryId = db.nextMemoryId) :
      History app db' events

structure Invariant (settings : Settings) (db : Database) (events : List MemoryEvent) : Prop where
  grouped : Grouped db.serviceMemory
  fresh : ∀ row ∈ db.serviceMemory, row.id < db.nextMemoryId
  stands : ∀ row ∈ db.serviceMemory, StandsFor row (confirmations row events)
  stored : ∀ memory, confirmations memory events ≠ [] →
    ∃ row ∈ db.serviceMemory, sameGroup memory row = true
  admitted : ∀ memory, .confirmed memory ∈ events → Admitted settings memory

section
variable {settings : Settings} {db : Database} {events : List MemoryEvent}
  {memory : ServiceMemory}

theorem confirmations_own {row : ServiceMemory} (same : sameGroup row memory = true) :
    confirmations row (events ++ [.confirmed memory]) = confirmations memory events ++ [memory] := by
  rw [confirmations_congr same, confirmations_append]
  exact if_pos (sameGroup_refl memory)

theorem confirmations_other {row : ServiceMemory} (apart : sameGroup row memory = false) :
    confirmations row (events ++ [.confirmed memory]) = confirmations row events := by
  rw [confirmations_append]
  exact if_neg (ne_true_of_eq_false apart)

theorem sameGroup_apart {a b : ServiceMemory} (apart : sameGroup a b = false) :
    sameGroup b a = false := by
  rw [← Bool.not_eq_true] at apart ⊢
  exact fun same => apart (sameGroup_symm same)

theorem Invariant.unused (inv : Invariant settings db events) (id : memory.id = db.nextMemoryId) :
    memory.id ∉ db.serviceMemory.map (·.id) := by
  intro mem
  obtain ⟨row, mem', same⟩ := List.mem_map.mp mem
  have below := inv.fresh row mem'
  omega

theorem Invariant.gate (inv : Invariant settings db events) (admitted : Admitted settings memory)
    (other : ServiceMemory) (mem : .confirmed other ∈ events ++ [.confirmed memory]) :
    Admitted settings other := by
  rcases List.mem_append.mp mem with old | last
  · exact inv.admitted other old
  · cases List.mem_singleton.mp last
    exact admitted

theorem Invariant.appended (inv : Invariant settings db events)
    (admitted : Admitted settings memory) (id : memory.id = db.nextMemoryId)
    (new : ∀ row ∈ db.serviceMemory, sameGroup memory row = false) {db' : Database}
    (rows : db'.serviceMemory =
      consolidateServiceMemory (db.serviceMemory ++ [memory]) memory.serviceId)
    (next : db'.nextMemoryId = db.nextMemoryId + 1) :
    Invariant settings db' (events ++ [.confirmed memory]) := by
  have grouped := inv.grouped.append (inv.unused id) new
  rw [grouped.consolidate] at rows
  have first : confirmations memory events = [] := by
    by_contra known
    obtain ⟨row, mem, same⟩ := inv.stored memory known
    rw [new row mem] at same
    cases same
  refine ⟨rows ▸ grouped, ?_, ?_, ?_, inv.gate admitted⟩
  · intro row mem
    rw [rows] at mem
    rcases List.mem_append.mp mem with old | last
    · have below := inv.fresh row old
      omega
    · obtain rfl := List.mem_singleton.mp last
      omega
  · intro row mem
    rw [rows] at mem
    rcases List.mem_append.mp mem with old | last
    · rw [confirmations_other (sameGroup_apart (new row old))]
      exact inv.stands row old
    · obtain rfl := List.mem_singleton.mp last
      rw [confirmations_own (sameGroup_refl row), first]
      exact .new admitted.once
  · intro other known
    rw [rows]
    cases same : sameGroup other memory with
    | true => exact ⟨memory, by simp, same⟩
    | false =>
      rw [confirmations_other same] at known
      obtain ⟨row, mem, together⟩ := inv.stored other known
      exact ⟨row, List.mem_append_left _ mem, together⟩

/-- A further confirmation of a group is merged into its row. -/
theorem Invariant.joined (inv : Invariant settings db events) (admitted : Admitted settings memory)
    (id : memory.id = db.nextMemoryId) {row : ServiceMemory} (mem : row ∈ db.serviceMemory)
    (together : sameGroup memory row = true) {db' : Database}
    (rows : db'.serviceMemory =
      consolidateServiceMemory (db.serviceMemory ++ [memory]) memory.serviceId)
    (next : db'.nextMemoryId = db.nextMemoryId + 1) :
    Invariant settings db' (events ++ [.confirmed memory]) := by
  obtain ⟨kept, merges, members⟩ := inv.grouped.join (inv.unused id) mem together
  have stands : StandsFor kept (confirmations memory events ++ [memory]) := by
    have before := inv.stands row mem
    rw [← confirmations_congr together] at before
    rcases merges with ⟨rfl, newer⟩ | ⟨rfl, older⟩
    · exact before.takenOver admitted.once newer
    · exact before.counted admitted.once older
  have own : sameGroup memory kept = true := by
    rcases merges with ⟨rfl, _⟩ | ⟨rfl, _⟩
    · exact sameGroup_iff.mpr ⟨rfl, rfl, rfl⟩
    · exact sameGroup_trans together (sameGroup_iff.mpr ⟨rfl, rfl, rfl⟩)
  have ids := consolidate_ids (db.serviceMemory ++ [memory]) memory.serviceId
  rw [← rows] at ids members
  refine ⟨⟨?_, ?_⟩, ?_, ?_, ?_, inv.gate admitted⟩
  · exact ids.nodup (ids_append inv.grouped.ids (inv.unused id))
  · intro a here b there same
    rcases (members a).mp here with ⟨old, apart⟩ | rfl <;>
      rcases (members b).mp there with ⟨old', apart'⟩ | rfl
    · exact inv.grouped.single a old b old' same
    · rw [sameGroup_trans own (sameGroup_symm same)] at apart
      cases apart
    · rw [sameGroup_trans own same] at apart'
      cases apart'
    · rfl
  · intro x mem'
    have known := ids.subset (List.mem_map_of_mem mem')
    rw [List.map_append, List.mem_append, List.map_singleton, List.mem_singleton] at known
    rcases known with old | last
    · obtain ⟨other, old', same⟩ := List.mem_map.mp old
      have below := inv.fresh other old'
      omega
    · omega
  · intro x mem'
    rcases (members x).mp mem' with ⟨old, apart⟩ | rfl
    · rw [confirmations_other (sameGroup_apart apart)]
      exact inv.stands x old
    · rw [confirmations_own (sameGroup_symm own)]
      exact stands
  · intro other known
    cases same : sameGroup other memory with
    | true => exact ⟨kept, (members kept).mpr (.inr rfl), sameGroup_trans same own⟩
    | false =>
      rw [confirmations_other same] at known
      obtain ⟨x, old, together'⟩ := inv.stored other known
      refine ⟨x, (members x).mpr (.inl ⟨old, ?_⟩), together'⟩
      by_contra joined
      rw [Bool.not_eq_false] at joined
      rw [sameGroup_trans together' (sameGroup_symm joined)] at same
      cases same

theorem Invariant.added (inv : Invariant settings db events) (admitted : Admitted settings memory)
    (id : memory.id = db.nextMemoryId) {db' : Database}
    (rows : db'.serviceMemory =
      consolidateServiceMemory (db.serviceMemory ++ [memory]) memory.serviceId)
    (next : db'.nextMemoryId = db.nextMemoryId + 1) :
    Invariant settings db' (events ++ [.confirmed memory]) := by
  by_cases known : ∃ row ∈ db.serviceMemory, sameGroup memory row = true
  · obtain ⟨row, mem, together⟩ := known
    exact inv.joined admitted id mem together rows next
  · refine inv.appended admitted id (fun row mem => ?_) rows next
    rw [← Bool.not_eq_true]
    exact fun same => known ⟨row, mem, same⟩

theorem Invariant.deleted (inv : Invariant settings db events) {entry : ServiceMemory}
    (mem : entry ∈ db.serviceMemory) {db' : Database}
    (rows : db'.serviceMemory = db.serviceMemory.filter (·.id != entry.id))
    (next : db'.nextMemoryId = db.nextMemoryId) :
    Invariant settings db' (events ++ [.deleted entry]) := by
  have left : ∀ row, row ∈ db'.serviceMemory ↔
      row ∈ db.serviceMemory ∧ sameGroup entry row = false := by
    intro row
    rw [rows, List.mem_filter, bne_iff_ne]
    refine and_congr_right fun old => ?_
    rw [← Bool.not_eq_true, not_iff_not]
    constructor
    · intro same
      rw [List.inj_on_of_nodup_map inv.grouped.ids old mem same]
      exact sameGroup_refl entry
    · intro same
      rw [inv.grouped.single entry mem row old same]
  refine ⟨⟨?_, ?_⟩, ?_, ?_, ?_, ?_⟩
  · rw [rows]
    exact inv.grouped.ids.sublist (List.filter_sublist.map _)
  · intro a here b there
    exact inv.grouped.single a ((left a).mp here).1 b ((left b).mp there).1
  · intro row mem'
    rw [next]
    exact inv.fresh row ((left row).mp mem').1
  · intro row mem'
    obtain ⟨old, apart⟩ := (left row).mp mem'
    have same : confirmations row (events ++ [.deleted entry]) = confirmations row events := by
      rw [confirmations_append]
      exact if_neg (ne_true_of_eq_false (sameGroup_apart apart))
    rw [same]
    exact inv.stands row old
  · intro other known
    rw [confirmations_append] at known
    simp only [confirm] at known
    split_ifs at known with same
    · exact absurd rfl known
    · obtain ⟨row, old, together⟩ := inv.stored other known
      refine ⟨row, (left row).mpr ⟨old, ?_⟩, together⟩
      by_contra joined
      rw [Bool.not_eq_false] at joined
      exact same (sameGroup_trans together (sameGroup_symm joined))
  · intro memory mem'
    rcases List.mem_append.mp mem' with old | last
    · exact inv.admitted memory old
    · cases List.mem_singleton.mp last

end

theorem History.invariant {app : App} {db : Database} {events : List MemoryEvent}
    (history : History app db events) : Invariant app.settings db events := by
  induction history with
  | start empty =>
    refine ⟨⟨?_, ?_⟩, ?_, ?_, ?_, ?_⟩
    · rw [empty]
      exact List.nodup_nil
    · rw [empty]
      exact fun a here => nomatch here
    · rw [empty]
      exact fun row mem => nomatch mem
    · rw [empty]
      exact fun row mem => nomatch mem
    · exact fun memory known => absurd rfl known
    · exact fun memory mem => nomatch mem
  | @closed db events scenario result before server id incident closing ih =>
    obtain ⟨db', rows, ids, same⟩ :=
      closeIncident_memory app.settings server scenario id incident result db
    rw [same]
    unfold addMemory confirmation
    rw [ids]
    cases written : writeConfirmedMemory app.settings db.nextMemoryId scenario.service.id id
        server.now result with
    | none =>
      have kept : Invariant app.settings db' events :=
        ⟨rows ▸ ih.grouped, rows ▸ ids ▸ ih.fresh, rows ▸ ih.stands, rows ▸ ih.stored, ih.admitted⟩
      simpa using kept
    | some memory =>
      obtain ⟨admitted, id', service⟩ :=
        written_admitted (fun diagnosis found => closing.verdict found) written
      refine ih.added admitted id' ?_ ?_
      · dsimp only
        rw [rows, service]
      · rfl
  | @deleted db db' events memoryId entry before found removed ih =>
    unfold deleteMemoryEntry at removed
    rw [found] at removed
    cases removed
    exact ih.deleted (List.mem_of_find?_eq_some found) rfl rfl
  | elsewhere before rows ids ih =>
    exact ⟨rows ▸ ih.grouped, rows ▸ ids ▸ ih.fresh, rows ▸ ih.stands, rows ▸ ih.stored, ih.admitted⟩

/-- What the memory table promises, next to the closings and deletions so far. -/
structure SoundMemory (settings : Settings) (db : Database) (events : List MemoryEvent) : Prop where
  admitted : ∀ row ∈ db.serviceMemory, row.fixApplied ≠ "escalate" ∧
    settings.memoryWriteMinConfidence ≤ row.confidence ∧ 1 ≤ row.occurrenceCount ∧
    row.outcome ∈ outcomes
  ids : (db.serviceMemory.map (·.id)).Nodup
  single : ∀ a ∈ db.serviceMemory, ∀ b ∈ db.serviceMemory, a.serviceId = b.serviceId →
    a.symptomPattern = b.symptomPattern → a.fixApplied = b.fixApplied → a = b
  stands : ∀ row ∈ db.serviceMemory, StandsFor row (confirmations row events)

theorem Invariant.sound {settings : Settings} {db : Database} {events : List MemoryEvent}
    (inv : Invariant settings db events) : SoundMemory settings db events where
  admitted row mem := by
    have stands := inv.stands row mem
    obtain ⟨best, mem₁, confident⟩ := stands.best
    obtain ⟨origin, mem₂, _, _, _, outcome⟩ := stands.origin
    obtain ⟨event, together⟩ := mem_confirmations mem₁
    have fix := (sameGroup_iff.mp together).2.2
    refine ⟨?_, ?_, ?_, ?_⟩
    · rw [fix]
      exact (inv.admitted best event).fix
    · rw [← confident]
      exact (inv.admitted best event).confident
    · rw [stands.count]
      exact List.length_pos_of_mem mem₁
    · rw [← outcome]
      exact (inv.admitted origin (mem_confirmations mem₂).1).outcome
  ids := inv.grouped.ids
  single a here b there service pattern fix :=
    inv.grouped.single a here b there (sameGroup_iff.mpr ⟨service, pattern, fix⟩)
  stands := inv.stands

theorem closeIncident_others (settings : Settings) (server : Server) (scenario : Scenario) (id : ℕ)
    (incident : Incident) (result : InvestigationResult) (db : Database) :
    (closeIncident settings server scenario id incident result db).serviceMemory.filter
        (·.serviceId != scenario.service.id) =
      db.serviceMemory.filter (·.serviceId != scenario.service.id) := by
  obtain ⟨db', rows, ids, same⟩ :=
    closeIncident_memory settings server scenario id incident result db
  rw [same]
  unfold addMemory
  cases written : writeConfirmedMemory settings db'.nextMemoryId scenario.service.id id server.now
      result with
  | none => rw [rows]
  | some memory =>
    have own : memory.serviceId = scenario.service.id := by
      unfold writeConfirmedMemory at written
      split at written
      · cases written
      · split_ifs at written
        cases written
        rfl
    dsimp only
    rw [consolidate_others, rows, List.filter_append]
    simp [own]

/-- For every sequence of closings and deletions: the table is sound, and the next closing leaves
every other service's rows as they are. -/
theorem service_memory_invariant {app : App} {db : Database} {events : List MemoryEvent}
    (history : History app db events) : SoundMemory app.settings db events ∧
      ∀ (server : Server) (scenario : Scenario) (id : ℕ) (incident : Incident)
        (result : InvestigationResult), ClosingResult app scenario result →
        (closeIncident app.settings server scenario id incident result db).serviceMemory.filter
            (·.serviceId != scenario.service.id) =
          db.serviceMemory.filter (·.serviceId != scenario.service.id) :=
  ⟨history.invariant.sound, fun server scenario id incident result _ =>
    closeIncident_others app.settings server scenario id incident result db⟩

def restartDiagnosis : ModelResponse where
  content := [.toolUse
    { id := "toolu_1", name := "submit_diagnosis"
      input := [("diagnosis", .str "connection pool leak"),
        ("evidence", .arr [.str "get_logs: pool exhausted"]), ("confidence", .float (9 / 10)),
        ("recommended_action", .str "restart_service")] }]
  inputTokens := 1000
  outputTokens := 100

def closedTwice (result : InvestigationResult) : Database :=
  let row : Incident := { scenarioId := 1, status := .running, createdAt := 0 }
  closeIncident {} ⟨"process-1", 2⟩ checkoutDeployOutage 2 row result
    (closeIncident {} ⟨"process-1", 1⟩ checkoutDeployOutage 1 row result Database.empty)

/-- The same pattern confirmed by two incidents is one row that counts two. -/
theorem service_memory_invariant_twice : ∃ db events,
    db.serviceMemory.map (fun row => (row.fixApplied, row.outcome, row.occurrenceCount)) =
      [("restart_service", "executed", 2)] ∧ SoundMemory {} db events := by
  let run := eval (runInvestigation checkoutApp checkoutDeployOutage "incident-1")
    (fun _ => .response restartDiagnosis) Database.empty
  have closes : run.1.value?.any (fun result => result.status != .awaitingApproval &&
      (closedTwice result).serviceMemory.map
        (fun row => (row.fixApplied, row.outcome, row.occurrenceCount)) ==
        [("restart_service", "executed", 2)]) = true := by decide +kernel
  obtain ⟨result, outcome, closes⟩ := Outcome.of_value closes
  rw [Bool.and_eq_true, bne_iff_ne, beq_iff_eq] at closes
  have ran : Runs .alone noFaults _ _ run.1 _ _ :=
    eval_runs (runInvestigation checkoutApp checkoutDeployOutage "incident-1")
      (fun _ => .response restartDiagnosis) Database.empty
  rw [outcome] at ran
  have allowed : Runs .alone anyFaults _ _ _ _ _ := ran.mono fun _ _ _ => trivial
  have closing : ClosingResult checkoutApp checkoutDeployOutage result :=
    .ran (.new rfl) allowed closes.1
  exact ⟨_, _, closes.2, (service_memory_invariant (((History.start rfl).closed ⟨"process-1", 1⟩ 1
    _ closing).closed ⟨"process-1", 2⟩ 2 _ closing)).1⟩

end OpsPilot.MemoryHistory
