import OpsPilot.CallHistory
import OpsPilot.IncidentApi
import OpsPilot.RequestPool
import OpsPilot.MemoryMerge
import Mathlib.Data.Fintype.Card

/-! Closings of one service in concurrent READ COMMITTED transactions: each inserts its row, reads
the service's rows with its own, and at its commit updates and deletes rows by their ids. -/

namespace OpsPilot.MemoryInterleaving
open AgentSchemas Models Memory MemoryMerge IncidentApi DurableProgram RequestPool

/-- The committed rows. -/
structure MemoryTable where
  rows : List ServiceMemory
  nextMemoryId : ℕ

inductive MemoryStep where
  | insert
  | select (memory : ServiceMemory)
  | commit (seen : List ServiceMemory) (memory : ServiceMemory)

abbrev MemoryEvent := Event MemoryStep Empty Error

abbrev Transaction := Program MemoryStep Empty MemoryTable Error Unit

/-- A closing of an incident. -/
structure Closing where
  incidentId : ℕ
  now : ℤ
  result : InvestigationResult

deriving instance DecidableEq for ServiceMemory

/-- What the merge of the rows that were read does to a stored row: a `DELETE` or an `UPDATE` of
the changed columns, by id. -/
def flushed (seen : List ServiceMemory) (row : ServiceMemory) : Option ServiceMemory :=
  match seen.find? (·.id == row.id) with
  | none => some row
  | some old => (merged seen old).map fun kept =>
    { row with
      occurrenceCount := if kept.occurrenceCount = old.occurrenceCount then row.occurrenceCount
        else kept.occurrenceCount
      confidence := if kept.confidence = old.confidence then row.confidence
        else kept.confidence }

def touches (seen : List ServiceMemory) (row : ServiceMemory) : Bool := merged seen row != some row

/-- An `UPDATE` finds no row with its id. -/
def updatesMissing (seen : List ServiceMemory) (rows : List ServiceMemory) : Bool :=
  seen.any fun row => touches seen row && (merged seen row).isSome &&
    !(rows.any (·.id == row.id))

def commitRows (seen : List ServiceMemory) (memory : ServiceMemory) (table : MemoryTable) :
    MemoryTable :=
  if updatesMissing seen (table.rows ++ [memory]) then table
  else { table with rows := (table.rows ++ [memory]).filterMap (flushed seen) }

def staleData : Error :=
  .other "UPDATE statement on table 'service_memory' expected to update 1 row(s); 0 were matched."

section
variable (settings : Settings) (serviceId : ℕ)

/-- The row that the write gate lets the closing add. -/
def Closing.memory (closing : Closing) (memoryId : ℕ) : Option ServiceMemory :=
  writeConfirmedMemory settings memoryId serviceId closing.incidentId closing.now closing.result

def Closing.passes (closing : Closing) : Bool := (closing.memory settings serviceId 0).isSome

/-- `write_confirmed_memory`, then `consolidate_service_memory`, then the commit. -/
def commitStep (seen : List ServiceMemory) (memory : ServiceMemory) : Transaction :=
  .act (.commit seen memory) (commitRows seen memory)
    (fun table => if updatesMissing seen (table.rows ++ [memory]) then .raise staleData
      else .ret ()) .raise

def selectStep (memory : ServiceMemory) : Transaction :=
  (Program.perform (.select memory) id fun table =>
    listServiceMemory (table.rows ++ [memory]) serviceId).bind fun seen => commitStep seen memory

def closeTransaction (closing : Closing) : Transaction :=
  if closing.passes settings serviceId then
    (Program.perform .insert (fun table => { table with nextMemoryId := table.nextMemoryId + 1 })
      (·.nextMemoryId)).bind fun memoryId =>
        match closing.memory settings serviceId memoryId with
        | none => .ret ()
        | some memory => selectStep serviceId memory
  else .ret ()

inductive Stage where
  | waiting
  | inserted (memory : ServiceMemory)
  | reading (memory : ServiceMemory) (seen : List ServiceMemory)
  | committed
  | failed (error : Error)
  | dead

def Stage.program (closing : Closing) : Stage → Transaction
  | .waiting => closeTransaction settings serviceId closing
  | .inserted memory => selectStep serviceId memory
  | .reading memory seen => commitStep seen memory
  | .committed => .ret ()
  | .failed e => .raise e
  | .dead => .dead

/-- The row that the transaction has inserted but not committed. -/
def Stage.own : Stage → Option ServiceMemory
  | .inserted memory => some memory
  | .reading memory _ => some memory
  | _ => none

inductive TransactionStep (closing : Closing) (table : MemoryTable) :
    Stage → MemoryEvent → Stage → MemoryTable → Prop where
  | insert {memory} (passes : closing.passes settings serviceId = true)
      (written : closing.memory settings serviceId table.nextMemoryId = some memory) :
      TransactionStep closing table .waiting (.performed .insert) (.inserted memory)
        { table with nextMemoryId := table.nextMemoryId + 1 }
  | select {memory} : TransactionStep closing table (.inserted memory)
      (.performed (.select memory))
      (.reading memory (listServiceMemory (table.rows ++ [memory]) serviceId)) table
  | commit {memory seen} (fits : updatesMissing seen (table.rows ++ [memory]) = false) :
      TransactionStep closing table (.reading memory seen) (.performed (.commit seen memory))
        .committed { table with rows := (table.rows ++ [memory]).filterMap (flushed seen) }
  | refuse {memory seen} (stale : updatesMissing seen (table.rows ++ [memory]) = true) :
      TransactionStep closing table (.reading memory seen) (.performed (.commit seen memory))
        (.failed staleData) table
  | fail {stage} (label error) : TransactionStep closing table stage (.failed label error)
      (.failed error) table
  | die {stage} (label) : TransactionStep closing table stage (.died label) .dead table

variable {settings serviceId}

theorem Closing.memory_of_passes {closing : Closing}
    (passes : closing.passes settings serviceId = true) (memoryId : ℕ) :
    ∃ memory, closing.memory settings serviceId memoryId = some memory := by
  unfold Closing.passes Closing.memory writeConfirmedMemory at passes
  unfold Closing.memory writeConfirmedMemory
  cases found : closing.result.diagnosis with
  | none =>
    rw [found] at passes
    cases passes
  | some diagnosis =>
    rw [found] at passes
    dsimp only at passes ⊢
    split_ifs at passes ⊢
    · cases passes
    · cases passes
    · exact ⟨_, rfl⟩

theorem Closing.memory_fields {closing : Closing} {memoryId : ℕ} {memory : ServiceMemory}
    (written : closing.memory settings serviceId memoryId = some memory) :
    memory.id = memoryId ∧ memory.serviceId = serviceId ∧ memory.occurrenceCount = 1 := by
  have fields := writeConfirmedMemory_written written
  exact ⟨fields.id, fields.serviceId, fields.once⟩

theorem advance_program {closing : Closing} {stage : Stage} {m : Move Empty Error}
    {table table' : MemoryTable} {ev : MemoryEvent} {p : Transaction}
    (step : advance m (stage.program settings serviceId closing) table = some (ev, p, table')) :
    ∃ stage', p = stage'.program settings serviceId closing ∧
      TransactionStep settings serviceId closing table stage ev stage' table' := by
  cases stage with
  | waiting =>
    cases passes : closing.passes settings serviceId with
    | false =>
      have idle : Stage.waiting.program settings serviceId closing = .ret () :=
        if_neg (ne_true_of_eq_false passes)
      rw [idle] at step
      cases m <;> simp [advance] at step
    | true =>
      have begins : Stage.waiting.program settings serviceId closing = _ := if_pos passes
      rw [begins] at step
      obtain ⟨rfl, rfl, rfl⟩ | ⟨e, rfl, rfl, rfl⟩ | ⟨rfl, rfl, rfl⟩ := advance_act step
      · obtain ⟨memory, written⟩ := Closing.memory_of_passes passes table.nextMemoryId
        refine ⟨.inserted memory, ?_, .insert passes written⟩
        simp only [Program.ret_bind, written]
        rfl
      · exact ⟨.failed e, rfl, .fail _ e⟩
      · exact ⟨.dead, rfl, .die _⟩
  | inserted memory =>
    obtain ⟨rfl, rfl, rfl⟩ | ⟨e, rfl, rfl, rfl⟩ | ⟨rfl, rfl, rfl⟩ := advance_act step
    · exact ⟨.reading memory _, rfl, .select⟩
    · exact ⟨.failed e, rfl, .fail _ e⟩
    · exact ⟨.dead, rfl, .die _⟩
  | reading memory seen =>
    obtain ⟨rfl, rfl, rfl⟩ | ⟨e, rfl, rfl, rfl⟩ | ⟨rfl, rfl, rfl⟩ := advance_act step
    · cases fits : updatesMissing seen (table.rows ++ [memory]) with
      | false =>
        refine ⟨.committed, by simp [Stage.program], ?_⟩
        have commits : TransactionStep settings serviceId closing table _ _ _ _ := .commit fits
        simpa [commitRows, fits] using commits
      | true =>
        refine ⟨.failed staleData, by simp [Stage.program], ?_⟩
        have refuses : TransactionStep settings serviceId closing table _ _ _ _ := .refuse fits
        simpa [commitRows, fits] using refuses
    · exact ⟨.failed e, rfl, .fail _ e⟩
    · exact ⟨.dead, rfl, .die _⟩
  | committed => cases m <;> simp [Stage.program, advance] at step
  | failed e => cases m <;> simp [Stage.program, advance] at step
  | dead => cases m <;> simp [Stage.program, advance] at step

end

def serviceTotal (serviceId : ℕ) (rows : List ServiceMemory) : ℕ :=
  total (rows.filter (·.serviceId == serviceId))

theorem flushed_of_untouched {seen : List ServiceMemory} {row : ServiceMemory}
    (untouched : ∀ old ∈ seen, touches seen old = true → old.id ≠ row.id) :
    flushed seen row = some row := by
  unfold flushed
  cases found : seen.find? (·.id == row.id) with
  | none => rfl
  | some old =>
    have same : old.id = row.id := by simpa using List.find?_some found
    have stays : merged seen old = some old := by
      by_contra changes
      exact untouched old (List.mem_of_find?_eq_some found) (bne_iff_ne.mpr changes) same
    simp [stays]

theorem flushed_of_read {seen : List ServiceMemory} {row : ServiceMemory}
    (ids : (seen.map (·.id)).Nodup) (mem : row ∈ seen) : flushed seen row = merged seen row := by
  have found : seen.find? (·.id == row.id) = some row := by
    cases found : seen.find? (·.id == row.id) with
    | none =>
      have nowhere := List.find?_eq_none.mp found row mem
      simp at nowhere
    | some old =>
      have same : old.id = row.id := by simpa using List.find?_some found
      rw [List.inj_on_of_nodup_map ids (List.mem_of_find?_eq_some found) mem same]
  unfold flushed
  rw [found]
  dsimp only
  cases stays : merged seen row with
  | none => rfl
  | some kept =>
    obtain ⟨id, service, incident, pattern, cause, fix, outcome, time⟩ := merged_kept stays
    obtain ⟨_, _, _, _, _, _, _, confidence, count, _⟩ := kept
    cases id
    cases service
    cases incident
    cases pattern
    cases cause
    cases fix
    cases outcome
    cases time
    simp only [Option.map_some, Option.some.injEq, ServiceMemory.mk.injEq, true_and, and_true]
    constructor
    · split
      · exact Eq.symm ‹_›
      · rfl
    · split
      · exact Eq.symm ‹_›
      · rfl

theorem flushed_service {seen : List ServiceMemory} {row kept : ServiceMemory}
    (stays : flushed seen row = some kept) : kept.serviceId = row.serviceId := by
  unfold flushed at stays
  split at stays
  · cases stays
    rfl
  · obtain ⟨_, _, rfl⟩ := Option.map_eq_some_iff.mp stays
    rfl

theorem filter_flushed (serviceId : ℕ) (seen rows : List ServiceMemory) :
    (rows.filterMap (flushed seen)).filter (·.serviceId == serviceId) =
      (rows.filter (·.serviceId == serviceId)).filterMap (flushed seen) := by
  induction rows with
  | nil => rfl
  | cons row rows ih =>
    cases stays : flushed seen row with
    | none =>
      rw [List.filterMap_cons_none stays, List.filter_cons, ih]
      split
      · rw [List.filterMap_cons_none stays]
      · rfl
    | some kept =>
      have same := flushed_service stays
      rw [List.filterMap_cons_some stays, List.filter_cons, List.filter_cons, same, ih]
      split
      · rw [List.filterMap_cons_some stays]
      · rfl

theorem total_touched {seen : List ServiceMemory} (ids : (seen.map (·.id)).Nodup) :
    total ((seen.filter (touches seen)).filterMap (merged seen)) =
      total (seen.filter (touches seen)) := by
  have whole := total_merged seen ids
  have split := total_split (touches seen) seen
  have parts : total (seen.filterMap (merged seen)) =
      total ((seen.filter (touches seen)).filterMap (merged seen)) +
        total ((seen.filter fun row => !touches seen row).filterMap (merged seen)) := by
    rw [← total_append, ← List.filterMap_append]
    exact total_perm ((List.filter_append_perm (touches seen) seen).symm.filterMap _)
  have still : (seen.filter fun row => !touches seen row).filterMap (merged seen) =
      seen.filter fun row => !touches seen row := by
    have stays : ∀ row ∈ seen.filter fun row => !touches seen row, merged seen row = some row := by
      intro row mem
      simpa [touches] using (List.mem_filter.mp mem).2
    rw [List.filterMap_congr stays, List.filterMap_some]
  rw [still] at parts
  omega

section
variable {serviceId : ℕ} {rows seen : List ServiceMemory} {memory : ServiceMemory}

theorem commit_total (rowIds : ((rows ++ [memory]).map (·.id)).Nodup)
    (own : memory.serviceId = serviceId) (seenIds : (seen.map (·.id)).Nodup)
    (present : ∀ old ∈ seen, touches seen old = true → old ∈ rows ++ [memory])
    (service : ∀ old ∈ seen, old.serviceId = serviceId) :
    serviceTotal serviceId ((rows ++ [memory]).filterMap (flushed seen)) =
      serviceTotal serviceId rows + memory.occurrenceCount := by
  have added : serviceTotal serviceId (rows ++ [memory]) =
      serviceTotal serviceId rows + memory.occurrenceCount := by
    rw [serviceTotal, List.filter_append, total_append]
    simp [own, total, serviceTotal]
  rw [← added, serviceTotal, filter_flushed, serviceTotal]
  generalize rows ++ [memory] = all at rowIds present
  have ids : ((all.filter (·.serviceId == serviceId)).map (·.id)).Nodup :=
    rowIds.sublist (List.filter_sublist.map _)
  have stored : ∀ old ∈ seen, touches seen old = true →
      old ∈ all.filter (·.serviceId == serviceId) := fun old mem touched =>
    List.mem_filter.mpr ⟨present old mem touched, beq_iff_eq.mpr (service old mem)⟩
  generalize all.filter (·.serviceId == serviceId) = mine at ids stored
  let p : ServiceMemory → Bool := fun row => (seen.filter (touches seen)).any (·.id == row.id)
  have hit : (mine.filter p).Perm (seen.filter (touches seen)) := by
    rw [List.perm_ext_iff_of_nodup (ids.of_map.filter _) (seenIds.of_map.filter _)]
    intro row
    rw [List.mem_filter, List.any_eq_true]
    constructor
    · rintro ⟨mem, old, mem', same⟩
      obtain ⟨read, touched⟩ := List.mem_filter.mp mem'
      rw [← List.inj_on_of_nodup_map ids (stored old read touched) mem (beq_iff_eq.mp same)]
      exact mem'
    · intro mem
      obtain ⟨read, touched⟩ := List.mem_filter.mp mem
      exact ⟨stored row read touched, row, mem, beq_self_eq_true _⟩
  have missed : (mine.filter fun row => !p row).filterMap (flushed seen) =
      mine.filter fun row => !p row := by
    have stays : ∀ row ∈ mine.filter fun row => !p row, flushed seen row = some row := by
      intro row mem
      refine flushed_of_untouched fun old read touched same => ?_
      have outside := (List.mem_filter.mp mem).2
      have inside : p row = true :=
        List.any_eq_true.mpr ⟨old, List.mem_filter.mpr ⟨read, touched⟩, beq_iff_eq.mpr same⟩
      rw [inside] at outside
      cases outside
    rw [List.filterMap_congr stays, List.filterMap_some]
  have touched : (seen.filter (touches seen)).filterMap (flushed seen) =
      (seen.filter (touches seen)).filterMap (merged seen) :=
    List.filterMap_congr fun row mem => flushed_of_read seenIds (List.mem_filter.mp mem).1
  calc total (mine.filterMap (flushed seen))
      = total ((mine.filter p ++ mine.filter fun row => !p row).filterMap (flushed seen)) :=
        total_perm ((List.filter_append_perm p mine).symm.filterMap _)
    _ = total ((seen.filter (touches seen)).filterMap (merged seen)) +
          total (mine.filter fun row => !p row) := by
        rw [List.filterMap_append, total_append, missed, total_perm (hit.filterMap _), touched]
    _ = total (mine.filter p) + total (mine.filter fun row => !p row) := by
        rw [total_touched seenIds, total_perm hit]
    _ = total mine := (total_split p mine).symm

theorem updatesMissing_eq_false
    (present : ∀ old ∈ seen, touches seen old = true → old ∈ rows ++ [memory]) :
    updatesMissing seen (rows ++ [memory]) = false := by
  rw [← Bool.not_eq_true, updatesMissing, List.any_eq_true]
  rintro ⟨old, read, lost⟩
  simp only [Bool.and_eq_true, Bool.not_eq_true', List.any_eq_false, beq_iff_eq] at lost
  exact lost.2 old (present old read lost.1.1) rfl

end

theorem fits_alone (rows : List ServiceMemory) (memory : ServiceMemory) (serviceId : ℕ) :
    updatesMissing (listServiceMemory (rows ++ [memory]) serviceId) (rows ++ [memory]) = false :=
  updatesMissing_eq_false fun _ read _ =>
    (List.mem_filter.mp ((listServiceMemory_perm _ serviceId).subset read)).1

theorem commitRows_alone {table : MemoryTable} {memory : ServiceMemory} (serviceId : ℕ)
    (ids : ((table.rows ++ [memory]).map (·.id)).Nodup) :
    commitRows (listServiceMemory (table.rows ++ [memory]) serviceId) memory table =
      { table with rows := consolidateServiceMemory (table.rows ++ [memory]) serviceId } := by
  have selected : ∀ row, row ∈ listServiceMemory (table.rows ++ [memory]) serviceId ↔
      row ∈ table.rows ++ [memory] ∧ row.serviceId = serviceId := by
    intro row
    rw [(listServiceMemory_perm _ _).mem_iff, List.mem_filter, beq_iff_eq]
  have same : ∀ row ∈ table.rows ++ [memory],
      flushed (listServiceMemory (table.rows ++ [memory]) serviceId) row =
        consolidated (listServiceMemory (table.rows ++ [memory]) serviceId) serviceId row := by
    intro row mem
    by_cases own : row.serviceId = serviceId
    · have seenIds := ((listServiceMemory_perm (table.rows ++ [memory]) serviceId).map
        (·.id)).nodup_iff.mpr (ids.sublist (List.filter_sublist.map _))
      rw [flushed_of_read seenIds ((selected row).mpr ⟨mem, own⟩), consolidated,
        if_neg (not_not.mpr own)]
    · rw [consolidated, if_pos own]
      refine flushed_of_untouched fun old read _ sameId => own ?_
      obtain ⟨stored, service⟩ := (selected old).mp read
      rw [← List.inj_on_of_nodup_map ids stored mem sameId]
      exact service
  rw [commitRows, fits_alone, if_neg Bool.false_ne_true, consolidateServiceMemory_eq,
    List.filterMap_congr same]

variable {ι : Type} [DecidableEq ι]

abbrev Closings (ι : Type) := Pool ι MemoryStep Empty MemoryTable Error Unit

/-- Concurrent closings of the service, on a table with committed rows. -/
def closingsOf (settings : Settings) (serviceId : ℕ) (table : MemoryTable)
    (closings : ι → Closing) : Closings ι :=
  .start table fun i => closeTransaction settings serviceId (closings i)

def isCommit : MemoryEvent → Bool
  | .performed (.commit _ _) => true
  | _ => false

/-- Who committed a memory row, in order. -/
def committed (history : List (ι × MemoryEvent)) : List ι :=
  (history.filter fun entry => isCommit entry.2).map Prod.fst

/-- A closing commits only while every row that its merge changes or deletes is stored as it read
it, its own row apart. -/
def mergesAsRead : PoolPermit ι MemoryStep Empty MemoryTable Error Unit := fun pool _ ev _ =>
  match ev with
  | .performed (.commit seen memory) =>
      ∀ old ∈ seen, touches seen old = true → old = memory ∨ old ∈ pool.state.rows
  | _ => True

instance (pool : Closings ι) (who : ι) (ev : MemoryEvent) (next : Closings ι) :
    Decidable (mergesAsRead pool who ev next) := by
  unfold mergesAsRead
  split <;> infer_instance

/-- Ids are a primary key, and new ones are larger. -/
structure Keyed (table : MemoryTable) : Prop where
  ids : (table.rows.map (·.id)).Nodup
  fresh : ∀ row ∈ table.rows, row.id < table.nextMemoryId

inductive Healthy (settings : Settings) (serviceId : ℕ) (table : MemoryTable) (closing : Closing) :
    Stage → Prop where
  | waiting : Healthy settings serviceId table closing .waiting
  | inserted {memory} (passes : closing.passes settings serviceId = true)
      (service : memory.serviceId = serviceId) (once : memory.occurrenceCount = 1)
      (below : memory.id < table.nextMemoryId) (unused : memory.id ∉ table.rows.map (·.id)) :
      Healthy settings serviceId table closing (.inserted memory)
  | reading {memory seen} (passes : closing.passes settings serviceId = true)
      (service : memory.serviceId = serviceId) (once : memory.occurrenceCount = 1)
      (below : memory.id < table.nextMemoryId) (unused : memory.id ∉ table.rows.map (·.id))
      (ids : (seen.map (·.id)).Nodup) (same : ∀ old ∈ seen, old.serviceId = serviceId) :
      Healthy settings serviceId table closing (.reading memory seen)
  | committed (passes : closing.passes settings serviceId = true) :
      Healthy settings serviceId table closing .committed
  | failed (error) : Healthy settings serviceId table closing (.failed error)
  | dead : Healthy settings serviceId table closing .dead

section
variable {settings : Settings} {serviceId : ℕ} {closings : ι → Closing}

/-- Another table that has none of the transaction's own ids. -/
theorem Healthy.moved {table table' : MemoryTable} {closing : Closing} {stage : Stage}
    (healthy : Healthy settings serviceId table closing stage)
    (more : table.nextMemoryId ≤ table'.nextMemoryId)
    (apart : ∀ memory, stage.own = some memory → memory.id ∉ table.rows.map (·.id) →
      memory.id ∉ table'.rows.map (·.id)) :
    Healthy settings serviceId table' closing stage := by
  cases healthy with
  | waiting => exact .waiting
  | inserted passes service once below unused =>
    exact .inserted passes service once (by omega) (apart _ rfl unused)
  | reading passes service once below unused ids same =>
    exact .reading passes service once (by omega) (apart _ rfl unused) ids same
  | committed passes => exact .committed passes
  | failed error => exact .failed error
  | dead => exact .dead

theorem Healthy.own {table : MemoryTable} {closing : Closing} {stage : Stage}
    {memory : ServiceMemory} (healthy : Healthy settings serviceId table closing stage)
    (own : stage.own = some memory) :
    memory.id < table.nextMemoryId ∧ memory.id ∉ table.rows.map (·.id) := by
  cases healthy with
  | inserted _ _ _ below unused =>
    cases own
    exact ⟨below, unused⟩
  | reading _ _ _ below unused =>
    cases own
    exact ⟨below, unused⟩
  | waiting | committed | failed | dead => cases own

/-- The stages of all transactions, their ids, and what is committed. -/
structure Inv (settings : Settings) (serviceId : ℕ) (closings : ι → Closing) (before : ℕ)
    (pool : Closings ι) (stage : ι → Stage) : Prop where
  programs : ∀ i, pool.requests i = (stage i).program settings serviceId (closings i)
  keyed : Keyed pool.state
  healthy : ∀ i, Healthy settings serviceId pool.state (closings i) (stage i)
  apart : ∀ i j mine yours, (stage i).own = some mine → (stage j).own = some yours →
    mine.id = yours.id → i = j
  counted : serviceTotal serviceId pool.state.rows = before + (committed pool.history).length
  once : (committed pool.history).Nodup
  done : ∀ i, i ∈ committed pool.history ↔ stage i = .committed

omit [DecidableEq ι] in
theorem committed_append (history : List (ι × MemoryEvent)) (who : ι) (ev : MemoryEvent) :
    committed (history ++ [(who, ev)]) =
      committed history ++ if isCommit ev then [who] else [] := by
  unfold committed
  rw [List.filter_append, List.map_append]
  cases commits : isCommit ev <;> simp [commits]

/-- A step that commits nothing, and leaves the rows alone. -/
theorem Inv.kept {before : ℕ} {pool : Closings ι} {stage : ι → Stage}
    (inv : Inv settings serviceId closings before pool stage) (who : ι) (ev : MemoryEvent)
    (next : Stage) (table : MemoryTable) (quiet : isCommit ev = false)
    (rows : table.rows = pool.state.rows) (more : pool.state.nextMemoryId ≤ table.nextMemoryId)
    (open' : stage who ≠ .committed) (open'' : next ≠ .committed)
    (healthy : Healthy settings serviceId table (closings who) next)
    (own : ∀ memory, next.own = some memory → ∀ j yours, j ≠ who → (stage j).own = some yours →
      memory.id ≠ yours.id) :
    Inv settings serviceId closings before
      (pool.moved who ev (next.program settings serviceId (closings who)) table)
      (Function.update stage who next) where
  programs i := by
    by_cases mine : i = who
    · subst mine
      simp
    · rw [Pool.moved_other _ _ _ _ mine, Function.update_of_ne mine]
      exact inv.programs i
  keyed := by
    refine ⟨?_, fun row mem => ?_⟩
    · rw [Pool.moved_state, rows]
      exact inv.keyed.ids
    · rw [Pool.moved_state, rows] at mem
      exact (inv.keyed.fresh row mem).trans_le more
  healthy i := by
    by_cases mine : i = who
    · subst mine
      simpa using healthy
    · rw [Function.update_of_ne mine]
      exact (inv.healthy i).moved more fun _ _ unused => by rwa [Pool.moved_state, rows]
  apart i j mine yours ownI ownJ same := by
    by_cases first : i = who <;> by_cases second : j = who
    · exact first.trans second.symm
    · rw [first, Function.update_self] at ownI
      rw [Function.update_of_ne second] at ownJ
      exact absurd same (own mine ownI j yours second ownJ)
    · rw [second, Function.update_self] at ownJ
      rw [Function.update_of_ne first] at ownI
      exact absurd same.symm (own yours ownJ i mine first ownI)
    · rw [Function.update_of_ne first] at ownI
      rw [Function.update_of_ne second] at ownJ
      exact inv.apart i j mine yours ownI ownJ same
  counted := by
    rw [Pool.moved_history, committed_append, quiet, Pool.moved_state, rows]
    simpa using inv.counted
  once := by
    rw [Pool.moved_history, committed_append, quiet]
    simpa using inv.once
  done i := by
    rw [Pool.moved_history, committed_append, quiet]
    by_cases mine : i = who
    · subst mine
      have nobody : i ∉ committed pool.history := fun mem => open' ((inv.done i).mp mem)
      simpa [nobody] using open''
    · rw [Function.update_of_ne mine]
      simpa using inv.done i

theorem flushed_id {seen : List ServiceMemory} (row kept : ServiceMemory)
    (stays : flushed seen row = some kept) : kept.id = row.id := by
  unfold flushed at stays
  split at stays
  · cases stays
    rfl
  · obtain ⟨_, _, rfl⟩ := Option.map_eq_some_iff.mp stays
    rfl

theorem Inv.apart_committed {before : ℕ} {pool : Closings ι} {stage : ι → Stage} {who : ι}
    (inv : Inv settings serviceId closings before pool stage) (i j : ι) (a b : ServiceMemory)
    (ownI : (Function.update stage who .committed i).own = some a)
    (ownJ : (Function.update stage who .committed j).own = some b) (same : a.id = b.id) : i = j := by
  have open' : ∀ k c, (Function.update stage who .committed k).own = some c →
      k ≠ who ∧ (stage k).own = some c := by
    intro k c own
    by_cases self : k = who
    · rw [self, Function.update_self] at own
      cases own
    · rw [Function.update_of_ne self] at own
      exact ⟨self, own⟩
  exact inv.apart i j a b (open' i a ownI).2 (open' j b ownJ).2 same

omit [DecidableEq ι] in
theorem Inv.once_committed {before : ℕ} {pool : Closings ι} {stage : ι → Stage} {who : ι}
    (inv : Inv settings serviceId closings before pool stage) (running : stage who ≠ .committed) :
    (committed pool.history ++ [who]).Nodup := by
  have absent : who ∉ committed pool.history := by
    rw [inv.done]
    exact running
  rw [List.nodup_append]
  refine ⟨inv.once, List.nodup_singleton _, ?_⟩
  rintro i mem _ last rfl
  rw [List.mem_singleton] at last
  exact absent (last ▸ mem)

theorem Inv.commits {before : ℕ} {pool : Closings ι} {stage : ι → Stage} {who : ι}
    {memory : ServiceMemory} {seen : List ServiceMemory}
    (inv : Inv settings serviceId closings before pool stage)
    (at_commit : stage who = .reading memory seen)
    (asRead : ∀ old ∈ seen, touches seen old = true → old = memory ∨ old ∈ pool.state.rows) :
    Inv settings serviceId closings before
      (pool.moved who (.performed (.commit seen memory)) (.ret ())
        { pool.state with rows := (pool.state.rows ++ [memory]).filterMap (flushed seen) })
      (Function.update stage who .committed) := by
  have mine := inv.healthy who
  rw [at_commit] at mine
  cases mine with
  | reading passes service once below unused ids same =>
    have rowIds := ids_append inv.keyed.ids unused
    have present : ∀ old ∈ seen, touches seen old = true → old ∈ pool.state.rows ++ [memory] := by
      intro old read touched
      rcases asRead old read touched with rfl | stored
      · simp
      · exact List.mem_append_left _ stored
    have subset := filterMap_ids (f := flushed seen) flushed_id (pool.state.rows ++ [memory])
    have known : ∀ id, id ∈ ((pool.state.rows ++ [memory]).filterMap (flushed seen)).map (·.id) →
        id ∈ pool.state.rows.map (·.id) ∨ id = memory.id := by
      intro id mem
      simpa using subset.subset mem
    refine ⟨fun i => ?_, ⟨subset.nodup rowIds, ?_⟩, fun i => ?_, ?_, ?_, ?_, fun i => ?_⟩
    · by_cases self : i = who
      · subst self
        simp [Stage.program]
      · rw [Pool.moved_other _ _ _ _ self, Function.update_of_ne self]
        exact inv.programs i
    · intro row mem
      rcases known row.id (List.mem_map_of_mem mem) with old | own
      · obtain ⟨other, stored, same⟩ := List.mem_map.mp old
        exact same ▸ inv.keyed.fresh other stored
      · exact own ▸ below
    · by_cases self : i = who
      · subst self
        simpa using Healthy.committed passes
      · rw [Function.update_of_ne self]
        refine (inv.healthy i).moved le_rfl fun yours own free mem => ?_
        rcases known yours.id mem with old | taken
        · exact free old
        · refine self (inv.apart i who yours memory own ?_ taken)
          rw [at_commit]
          rfl
    · exact inv.apart_committed
    · rw [Pool.moved_history, committed_append, Pool.moved_state]
      have added := commit_total rowIds service ids present same
      have counted := inv.counted
      simp only [isCommit, if_true, List.length_append, List.length_singleton]
      omega
    · rw [Pool.moved_history, committed_append]
      simp only [isCommit, if_true]
      exact inv.once_committed (by rw [at_commit]; exact Stage.noConfusion)
    · rw [Pool.moved_history, committed_append]
      by_cases self : i = who
      · subst self
        simp [isCommit]
      · rw [Function.update_of_ne self]
        simpa [isCommit, self] using inv.done i

theorem inv_step {before : ℕ} (pool : Closings ι) (who : ι) (move : Move Empty Error)
    (ev : MemoryEvent) (rest : Transaction) (table : MemoryTable)
    (inv : ∃ stage, Inv settings serviceId closings before pool stage)
    (advanced : advance move (pool.requests who) pool.state = some (ev, rest, table))
    (ok : mergesAsRead pool who ev (pool.moved who ev rest table)) :
    ∃ stage, Inv settings serviceId closings before (pool.moved who ev rest table) stage := by
  obtain ⟨stage, inv⟩ := inv
  rw [inv.programs who] at advanced
  obtain ⟨next, rfl, step⟩ := advance_program advanced
  have mine := inv.healthy who
  generalize here : stage who = now at step mine
  cases step with
  | @insert memory passes written =>
    obtain ⟨id, service, once⟩ := Closing.memory_fields written
    refine ⟨_, inv.kept who _ (.inserted memory) _ rfl rfl (Nat.le_succ _)
      (by rw [here]; exact Stage.noConfusion) Stage.noConfusion ?_ ?_⟩
    · refine .inserted passes service once (by rw [id]; exact Nat.lt_succ_self _) fun mem => ?_
      obtain ⟨row, stored, same⟩ := List.mem_map.mp mem
      have below := inv.keyed.fresh row stored
      omega
    · rintro _ ⟨⟩ j yours _ own same
      have below := ((inv.healthy j).own own).1
      omega
  | @select memory =>
    cases mine with
    | inserted passes service once below unused =>
      have ids : ((listServiceMemory (pool.state.rows ++ [memory]) serviceId).map (·.id)).Nodup := by
        refine (((listServiceMemory_perm _ _).map _).nodup_iff).mpr ?_
        exact List.Nodup.sublist (List.filter_sublist.map _) (ids_append inv.keyed.ids unused)
      refine ⟨_, inv.kept who _ (.reading memory _) _ rfl rfl le_rfl
        (by rw [here]; exact Stage.noConfusion) Stage.noConfusion ?_ ?_⟩
      · refine .reading passes service once below unused ids fun old read => ?_
        have selected := (listServiceMemory_perm _ _).subset read
        exact beq_iff_eq.mp (List.mem_filter.mp selected).2
      · rintro _ ⟨⟩ j yours different own same
        exact different (inv.apart j who yours memory own (by rw [here]; rfl) same.symm)
  | @commit memory seen fits => exact ⟨_, inv.commits here ok⟩
  | @refuse memory seen stale =>
    have present : ∀ old ∈ seen, touches seen old = true →
        old ∈ pool.state.rows ++ [memory] := by
      intro old read touched
      rcases ok old read touched with rfl | stored
      · simp
      · exact List.mem_append_left _ stored
    rw [updatesMissing_eq_false present] at stale
    cases stale
  | fail label error =>
    by_cases finished : now = .committed
    · subst finished
      cases move <;> simp [Stage.program, here, advance] at advanced
    · exact ⟨_, inv.kept who _ (.failed error) _ rfl rfl le_rfl (by rwa [here]) Stage.noConfusion
        (.failed error) fun _ own => by cases own⟩
  | die label =>
    by_cases finished : now = .committed
    · subst finished
      cases move <;> simp [Stage.program, here, advance] at advanced
    · exact ⟨_, inv.kept who _ .dead _ rfl rfl le_rfl (by rwa [here]) Stage.noConfusion .dead
        fun _ own => by cases own⟩

omit [DecidableEq ι] in
theorem inv_start {table : MemoryTable} (keyed : Keyed table) :
    Inv settings serviceId closings (serviceTotal serviceId table.rows)
      (closingsOf settings serviceId table closings) fun _ => .waiting where
  programs _ := rfl
  keyed := keyed
  healthy _ := .waiting
  apart _ _ _ _ own := nomatch own
  counted := rfl
  once := List.nodup_nil
  done _ := by
    constructor
    · intro mem
      cases mem
    · intro same
      cases same

omit [DecidableEq ι] in
/-- A transaction that returned has committed its confirmation, unless the gate refused it. -/
theorem Inv.returned {before : ℕ} {pool : Closings ι} {stage : ι → Stage}
    (inv : Inv settings serviceId closings before pool stage) {i : ι}
    (finished : (pool.requests i).finished = some (.returned ())) :
    i ∈ committed pool.history ↔ (closings i).passes settings serviceId = true := by
  rw [inv.done]
  rw [inv.programs i] at finished
  have healthy := inv.healthy i
  generalize stage i = now at finished healthy
  cases healthy with
  | waiting =>
    constructor
    · intro same
      cases same
    · intro passes
      have begins : Stage.waiting.program settings serviceId (closings i) = _ := if_pos passes
      rw [begins] at finished
      cases finished
  | committed passes => exact ⟨fun _ => passes, fun _ => rfl⟩
  | inserted | reading | failed | dead => cases finished

end

/-- For every interleaving in which merges find their rows as they read them: every commit adds
one confirmation, and once all closings have returned those are the ones the gate let through. -/
theorem confirmations_counted_once [Fintype ι] {settings : Settings} {serviceId : ℕ}
    {table : MemoryTable} (keyed : Keyed table) (closings : ι → Closing) {pool : Closings ι}
    (reach : Reaches mergesAsRead (closingsOf settings serviceId table closings) pool) :
    serviceTotal serviceId pool.state.rows =
        serviceTotal serviceId table.rows + (committed pool.history).length ∧
      ((∀ i, (pool.requests i).finished = some (.returned ())) →
        serviceTotal serviceId pool.state.rows = serviceTotal serviceId table.rows +
          (Finset.univ.filter fun i => (closings i).passes settings serviceId = true).card) := by
  obtain ⟨stage, inv⟩ := reach.invariant inv_step ⟨_, inv_start keyed⟩
  refine ⟨inv.counted, fun finished => ?_⟩
  have all : (committed pool.history).toFinset =
      Finset.univ.filter fun i => (closings i).passes settings serviceId = true := by
    ext i
    simp [inv.returned (finished i)]
  rw [inv.counted, ← all, List.toFinset_card_of_nodup inv.once]

theorem performed_faultless {l : MemoryStep} {update : MemoryTable → MemoryTable}
    {next : MemoryTable → Transaction} {fail : Error → Transaction} {s t : MemoryTable}
    {o : Outcome Error Unit} {g : List MemoryEvent}
    (run : Runs .alone noFaults (.act l update next fail) s o t g) :
    ∃ g', Runs .alone noFaults (next s) (update s) o t g' := by
  obtain ⟨_, same, ⟨g', _, rest, _⟩ | ⟨_, _, fault, _⟩ | ⟨fault, _⟩⟩ := run.of_act
  · cases same
    exact ⟨g', rest⟩
  · exact fault.elim
  · exact fault.elim

/-- A closing that nobody overlaps leaves the table as `addMemory` does. -/
theorem closeTransaction_alone {settings : Settings} {serviceId : ℕ} {closing : Closing}
    {table t : MemoryTable} {o : Outcome Error Unit} {g : List MemoryEvent} {db : Database}
    {server : Server} (keyed : Keyed table) (rows : db.serviceMemory = table.rows)
    (next : db.nextMemoryId = table.nextMemoryId) (now : server.now = closing.now)
    (run : Runs .alone noFaults (closeTransaction settings serviceId closing) table o t g) :
    o = .returned () ∧
      t.rows =
        (addMemory settings server serviceId closing.incidentId closing.result db).serviceMemory ∧
      t.nextMemoryId =
        (addMemory settings server serviceId closing.incidentId closing.result db).nextMemoryId := by
  have written : writeConfirmedMemory settings db.nextMemoryId serviceId closing.incidentId
      server.now closing.result = closing.memory settings serviceId table.nextMemoryId := by
    rw [Closing.memory, next, now]
  unfold closeTransaction at run
  unfold addMemory
  rw [written, rows, next]
  cases passes : closing.passes settings serviceId with
  | false =>
    have refused : closing.memory settings serviceId table.nextMemoryId = none := by
      rw [← Option.not_isSome_iff_eq_none, Closing.memory, writeConfirmedMemory_isSome]
      rw [Closing.passes, Closing.memory, writeConfirmedMemory_isSome] at passes
      exact ne_true_of_eq_false passes
    rw [if_neg (ne_true_of_eq_false passes)] at run
    obtain ⟨rfl, rfl, _⟩ := run.of_ret
    rw [refused]
    exact ⟨rfl, rows.symm, next.symm⟩
  | true =>
    obtain ⟨memory, adds⟩ := Closing.memory_of_passes passes table.nextMemoryId
    have unused : memory.id ∉ table.rows.map (·.id) := by
      intro mem
      obtain ⟨row, stored, same⟩ := List.mem_map.mp mem
      have below := keyed.fresh row stored
      have own := (Closing.memory_fields adds).1
      omega
    rw [if_pos passes] at run
    obtain ⟨_, run⟩ := performed_faultless run
    simp only [Program.ret_bind, adds] at run
    obtain ⟨_, run⟩ := performed_faultless run
    obtain ⟨_, run⟩ := performed_faultless run
    have fits := ne_true_of_eq_false (fits_alone table.rows memory serviceId)
    obtain ⟨rfl, rfl, _⟩ := ((if_neg fits) ▸ run).of_ret
    rw [adds]
    have alone : commitRows (listServiceMemory (table.rows ++ [memory]) serviceId) memory
        ⟨table.rows, table.nextMemoryId + 1⟩ =
        ⟨consolidateServiceMemory (table.rows ++ [memory]) serviceId, table.nextMemoryId + 1⟩ :=
      @commitRows_alone ⟨table.rows, table.nextMemoryId + 1⟩ memory serviceId
        (ids_append keyed.ids unused)
    exact ⟨rfl, congrArg (·.rows) alone, congrArg (·.nextMemoryId) alone⟩

def confirmedOnce : ServiceMemory where
  id := 1
  serviceId := 1
  sourceIncidentId := 1
  symptomPattern := "get_logs: pool exhausted"
  rootCause := "connection pool leak"
  fixApplied := "restart_service"
  outcome := "executed"
  confidence := 9 / 10
  createdAt := 0

def onePattern : MemoryTable := ⟨[confirmedOnce], 2⟩

def samePatternTwice (later : Bool) : Closing where
  incidentId := if later then 3 else 2
  now := if later then 2 else 1
  result :=
    { scenarioKey := "checkout-deploy-outage"
      status := .diagnosed
      diagnosis := some ⟨"connection pool leak", ["get_logs: pool exhausted"], 9 / 10,
        .restartService⟩
      evidenceTrail := []
      stepsUsed := 1
      estimatedCostUsd := 0
      totalInputTokens := 0
      totalOutputTokens := 0
      evidenceGrounded := some true
      ungroundedEvidence := []
      riskTier := some "low"
      policyVerdict := some .execute }

def oneAfterTheOther : List (Bool × Move Empty Error) :=
  [(false, .perform), (false, .perform), (false, .perform),
   (true, .perform), (true, .perform), (true, .perform)]

theorem onePattern_keyed : Keyed onePattern where
  ids := by decide
  fresh := by decide

theorem confirmations_counted_once_in_turn : ∃ pool,
    (closingsOf {} 1 onePattern samePatternTwice).run oneAfterTheOther = some pool ∧
      pool.state.rows.map (·.occurrenceCount) = [3] ∧
      serviceTotal 1 pool.state.rows = 1 + (committed pool.history).length := by
  have permitted : (closingsOf {} 1 onePattern samePatternTwice).Permitted mergesAsRead
      oneAfterTheOther := by
    decide +kernel
  have merges : ((closingsOf {} 1 onePattern samePatternTwice).run oneAfterTheOther).map
      (fun pool => pool.state.rows.map (·.occurrenceCount)) = some [3] := by
    decide +kernel
  obtain ⟨pool, ran, counts⟩ := Option.map_eq_some_iff.mp merges
  exact ⟨pool, ran, counts, (confirmations_counted_once onePattern_keyed samePatternTwice
    (reaches_of_run permitted ran)).1⟩

def bothReadFirst : List (Bool × Move Empty Error) :=
  [(false, .perform), (true, .perform), (false, .perform), (true, .perform),
   (false, .perform), (true, .perform)]

def hasReturned : Transaction → Bool
  | .ret () => true
  | _ => false

theorem finished_of_hasReturned {p : Transaction} (returned : hasReturned p = true) :
    p.finished = some (.returned ()) := by
  cases p with
  | ret => rfl
  | raise | dead | act | ask => cases returned

def noFaultAtAll : PoolPermit Bool MemoryStep Empty MemoryTable Error Unit :=
  fun _ _ ev _ => ev.faultFree

instance (pool : Closings Bool) (who : Bool) (ev : MemoryEvent) (next : Closings Bool) :
    Decidable (noFaultAtAll pool who ev next) :=
  inferInstanceAs (Decidable ev.faultFree)

theorem overlapping_merges_count_twice :
    ¬ ∀ pool, Reaches noFaultAtAll (closingsOf {} 1 onePattern samePatternTwice) pool →
      (∀ i, (pool.requests i).finished = some (.returned ())) →
      serviceTotal 1 pool.state.rows = serviceTotal 1 onePattern.rows +
        (Finset.univ.filter fun i => (samePatternTwice i).passes {} 1 = true).card := by
  intro counted
  have permitted : (closingsOf {} 1 onePattern samePatternTwice).Permitted noFaultAtAll
      bothReadFirst := by
    decide +kernel
  have merges : ((closingsOf {} 1 onePattern samePatternTwice).run bothReadFirst).map
      (fun pool => (serviceTotal 1 pool.state.rows, hasReturned (pool.requests false),
        hasReturned (pool.requests true))) = some (4, true, true) := by
    decide +kernel
  obtain ⟨pool, ran, ends⟩ := Option.map_eq_some_iff.mp merges
  simp only [Prod.mk.injEq] at ends
  have sum := counted pool (reaches_of_run permitted ran) fun i => by
    cases i
    · exact finished_of_hasReturned ends.2.1
    · exact finished_of_hasReturned ends.2.2
  rw [ends.1] at sum
  revert sum
  decide +kernel

def onePatternDatabase : Database :=
  { Database.empty with serviceMemory := [confirmedOnce], nextMemoryId := 2 }

/-- The first of them alone: the stored row counts two. -/
theorem closeTransaction_alone_once : ∃ (t : MemoryTable) (g : List MemoryEvent),
    Runs .alone noFaults (closeTransaction {} 1 (samePatternTwice false)) onePattern
      (.returned ()) t g ∧
    t.rows.map (·.occurrenceCount) = [2] ∧
    t.rows = (addMemory {} ⟨"process-1", 1⟩ 1 2 (samePatternTwice false).result
      onePatternDatabase).serviceMemory := by
  have played : (CallHistory.play noFaults [.perform, .perform, .perform]
      (closeTransaction {} 1 (samePatternTwice false)) onePattern).any
      (fun ended => ended.2.1.rows.map (·.occurrenceCount) == [2]) = true := by decide +kernel
  obtain ⟨⟨o, t, g⟩, ran, counts⟩ := Option.any_eq_true _ _ |>.mp played
  have run := CallHistory.play_runs ran
  have stored : onePatternDatabase.serviceMemory = onePattern.rows := rfl
  have now : (⟨"process-1", 1⟩ : Server).now = (samePatternTwice false).now := rfl
  obtain ⟨rfl, rows, _⟩ := closeTransaction_alone onePattern_keyed stored rfl now run
  exact ⟨t, g, run, beq_iff_eq.mp counts, rows⟩

end OpsPilot.MemoryInterleaving
