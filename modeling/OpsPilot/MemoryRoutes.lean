import OpsPilot.EvalReproducible
import OpsPilot.MemoryExact

/-! The memory routes over a database at work: what is listed about a service, and that an entry
the admin deletes is gone for good. -/

namespace OpsPilot.MemoryRoutes
open ScenarioSpecs SeedGenerator SeedSteps SeedIdempotence SeededScenarios EvalReproducible
open InvestigationState Models Memory MemoryMerge MemoryConsolidation MemoryExact IncidentApi
open Workload MemoryScope DurableProgram RequestPool AssumeGuarantee

/-- `GET /services/{name}/memory` -/
def getServiceMemory (name : String) (tables : SeedGenerator.Tables) (db : Database) :
    Except Error (List ServiceMemory) :=
  match oneOrNone (tables.services.filter (·.name == name)) with
  | .error _ =>
    .error (.other "Multiple rows were found when one or none was required")
  | .ok none => .error (.http 404 ("No service named '" ++ name ++ "'."))
  | .ok (some service) => .ok (listServiceMemory db.serviceMemory service.id)

theorem mem_of_getServiceMemory {name : String} {tables : SeedGenerator.Tables} {db : Database}
    {rows : List ServiceMemory} (listed : getServiceMemory name tables db = .ok rows)
    {memory : ServiceMemory} (mem : memory ∈ rows) : memory ∈ db.serviceMemory := by
  unfold getServiceMemory at listed
  split at listed
  · cases listed
  · cases listed
  · cases listed
    exact List.mem_of_mem_filter ((listServiceMemory_perm _ _).mem_iff.mp mem)

theorem mem_of_retrieveRelevantMemory {table : List ServiceMemory} {serviceId : ℕ}
    {memory : ServiceMemory} (mem : memory ∈ retrieveRelevantMemory table serviceId) :
    memory ∈ table := by
  have ranked := (List.mem_insertionSort _).mp (List.mem_of_mem_take mem)
  exact List.mem_of_mem_filter ranked

variable {ι : Type} [DecidableEq ι]

/-- The tasks at work, with the entries that the admin deletes between their steps. -/
inductive Serves (app : App) (db : Database) (tasks : ι → Task) : Tasks ι → List ℕ → Prop
  | start : Serves app db tasks (startAll app db tasks) []
  | step {pool deleted who move event rest state} (before : Serves app db tasks pool deleted)
      (advanced : advance move (pool.requests who) pool.state = some (event, rest, state)) :
      Serves app db tasks (pool.moved who event rest state) deleted
  | deleted {pool deleted memoryId state} (before : Serves app db tasks pool deleted)
      (ok : deleteMemoryEntry memoryId pool.state = .ok state) :
      Serves app db tasks { pool with state } (memoryId :: deleted)

theorem Serves.reaches {app : App} {db : Database} {tasks : ι → Task} {pool later : Tasks ι}
    {deleted : List ℕ} (serves : Serves app db tasks pool deleted)
    (reach : Reaches anyStep pool later) : Serves app db tasks later deleted := by
  induction reach with
  | refl => exact serves
  | step _ advanced _ before => exact .step before advanced

section
variable {app : App} {s s' : Database} {memoryId : ℕ}

theorem deleteMemoryEntry_ok (ok : deleteMemoryEntry memoryId s = .ok s') :
    (∃ memory ∈ s.serviceMemory, memory.id = memoryId) ∧
      s' = { s with serviceMemory := s.serviceMemory.filter (·.id != memoryId) } := by
  unfold deleteMemoryEntry at ok
  cases found : s.serviceMemory.find? (·.id == memoryId) with
  | none =>
    rw [found] at ok
    cases ok
  | some memory =>
    have same : memory.id = memoryId := by simpa using List.find?_some found
    rw [found] at ok
    cases ok
    subst same
    exact ⟨⟨memory, List.mem_of_find?_eq_some found, rfl⟩, rfl⟩

theorem deleteMemoryEntry_missing (gone : ∀ memory ∈ s.serviceMemory, memory.id ≠ memoryId) :
    deleteMemoryEntry memoryId s =
      .error (.http 404 ("No memory entry with id " ++ toString memoryId ++ ".")) := by
  have none : s.serviceMemory.find? (·.id == memoryId) = none :=
    List.find?_eq_none.mpr fun memory mem same => gone memory mem (beq_iff_eq.mp same)
  rw [deleteMemoryEntry, none]

theorem later_of_deleted (inOrder : Scoped app s) (ok : deleteMemoryEntry memoryId s = .ok s') :
    (scopedMemory app fun _ => True).Later s s' := by
  obtain ⟨_, rfl⟩ := deleteMemoryEntry_ok ok
  have stays : incidentsStay.holds s
      { s with serviceMemory := s.serviceMemory.filter (·.id != memoryId) } :=
    fun id row found => ⟨row, found, rfl⟩
  refine ⟨stays, inOrder.born, fun memory mem => ?_⟩
  exact (inOrder.confirmed memory (List.mem_of_mem_filter mem)).stays stays

end

variable {app : App} {db : Database} {tasks : ι → Task} {pool : Tasks ι} {deleted : List ℕ}

theorem Serves.assured (serves : Serves app db tasks pool deleted) (inOrder : Scoped app db) :
    Scoped app pool.state ∧
      ∀ i, Assures (keepsScope app (fun _ => True) (clockOf (tasks i))) (fun _ _ => True)
        (pool.requests i) pool.state := by
  induction serves with
  | start => exact ⟨inOrder, fun i => program_assures app _ (tasks i) db⟩
  | @step pool deleted who move event rest state before advanced ih =>
    obtain ⟨ordered, assures⟩ := ih
    obtain ⟨_, moved, goes⟩ := (assures who).advance ordered trivial advanced
    refine ⟨moved.2, fun i => ?_⟩
    by_cases mine : i = who
    · subst mine
      rw [Pool.moved_self]
      exact goes
    · rw [Pool.moved_other pool event rest state mine]
      exact (assures i).later moved.1
  | deleted before ok ih =>
    obtain ⟨ordered, assures⟩ := ih
    have moved := later_of_deleted ordered ok
    exact ⟨moved.2, fun i => (assures i).later moved.1⟩

structure Spent (s : Database) (deleted : List ℕ) : Prop where
  fresh : ∀ memory ∈ s.serviceMemory, memory.id < s.nextMemoryId
  used : ∀ id ∈ deleted, id < s.nextMemoryId
  gone : ∀ id ∈ deleted, ∀ memory ∈ s.serviceMemory, memory.id ≠ id

theorem spent_step {s s' : Database} {clock : Option ℤ} {l : Label}
    (step : MemoryStep app clock l s s') (spent : Spent s deleted) : Spent s' deleted := by
  cases step with
  | untouched _ rows ids =>
    refine ⟨fun memory mem => ?_, fun id mem => ids ▸ spent.used id mem, fun id mem => ?_⟩
    · rw [ids]
      exact spent.fresh memory (rows ▸ mem)
    · rw [rows]
      exact spent.gone id mem
  | confirmed memory _ _ _ fresh ids rows =>
    have origin : ∀ kept ∈ s'.serviceMemory,
        kept.id = s.nextMemoryId ∨ ∃ old ∈ s.serviceMemory, kept.id = old.id := by
      intro kept mem
      rw [rows] at mem
      obtain ⟨old, mem, same, _⟩ := mem_consolidate mem
      rcases List.mem_append.mp mem with known | new
      · exact .inr ⟨old, known, same.id⟩
      · exact .inl (same.id.trans (List.mem_singleton.mp new ▸ fresh))
    refine ⟨fun kept mem => ?_, fun id mem => ?_, fun id mem kept there => ?_⟩
    · rw [ids]
      rcases origin kept mem with same | ⟨old, known, same⟩
      · exact same ▸ Nat.lt_succ_self _
      · exact same ▸ (spent.fresh old known).trans (Nat.lt_succ_self _)
    · rw [ids]
      exact (spent.used id mem).trans (Nat.lt_succ_self _)
    · rcases origin kept there with same | ⟨old, known, same⟩
      · exact same ▸ (spent.used id mem).ne'
      · exact same ▸ spent.gone id mem old known

theorem spent_deleted {s s' : Database} {memoryId : ℕ} (spent : Spent s deleted)
    (ok : deleteMemoryEntry memoryId s = .ok s') : Spent s' (memoryId :: deleted) := by
  obtain ⟨⟨memory, present, rfl⟩, rfl⟩ := deleteMemoryEntry_ok ok
  refine ⟨fun kept mem => spent.fresh kept (List.mem_of_mem_filter mem), ?_, ?_⟩
  · exact List.forall_mem_cons.mpr ⟨spent.fresh memory present, spent.used⟩
  · refine List.forall_mem_cons.mpr ⟨fun kept mem => ?_, fun id mem kept there => ?_⟩
    · simpa using (List.mem_filter.mp mem).2
    · exact spent.gone id mem kept (List.mem_of_mem_filter there)

theorem Serves.spent (serves : Serves app db tasks pool deleted) (inOrder : Scoped app db)
    (fresh : ∀ memory ∈ db.serviceMemory, memory.id < db.nextMemoryId) :
    Spent pool.state deleted := by
  induction serves with
  | start => exact ⟨fresh, by simp, by simp⟩
  | @step pool deleted who move event rest state before advanced spent =>
    obtain ⟨ordered, assures⟩ := before.assured inOrder
    cases event with
    | performed l =>
      exact spent_step (Acts.memoryStep ((assures who).performed ordered trivial advanced)) spent
    | answered | failed | died =>
      rw [advance_unchanged (by simp) advanced]
      exact spent
  | deleted before ok spent => exact spent_deleted spent ok

def about (app : App) (db : Database) (name : String) (memory : ServiceMemory) : Bool :=
  ((db.incidents memory.sourceIncidentId).bind fun row => scenarioById app row.scenarioId).any
    (·.service.name == name)

structure Listed (app : App) (past : List ScenarioSpec) (tables : SeedGenerator.Tables)
    (db : Database) : Prop where
  known : ∀ spec ∈ firsts past, ∃ rows,
    getServiceMemory spec.serviceName tables db = .ok rows ∧
      rows.Perm (db.serviceMemory.filter (about app db spec.serviceName)) ∧
      rows.Pairwise fun a b => b.createdAt ≤ a.createdAt
  unknown : ∀ name, name ∉ (firsts past).map (·.serviceName) → getServiceMemory name tables db =
    .error (.http 404 ("No service named '" ++ name ++ "'."))

theorem scenarioById_service {tables : SeedGenerator.Tables}
    (backed : app.tables = environment tables) {id : ℕ} {scenario : SyntheticEnvironment.Scenario}
    (loaded : scenarioById app id = some scenario) :
    ∃ service ∈ tables.services, scenario.service = ⟨service.id, service.name⟩ := by
  rw [scenarioById, backed] at loaded
  obtain ⟨row, _, joined⟩ := List.mem_filterMap.mp (List.mem_of_find?_eq_some loaded)
  obtain ⟨service, found, rfl⟩ := Option.map_eq_some_iff.mp joined
  exact ⟨service, List.mem_of_find?_eq_some found, rfl⟩

theorem about_eq {tables : SeedGenerator.Tables} (sound : Sound tables)
    (backed : app.tables = environment tables) {s : Database} {memory : ServiceMemory}
    (confirmed : Confirmed app s memory) {service : ServiceRow}
    (known : service ∈ tables.services) :
    about app s service.name memory = (memory.serviceId == service.id) := by
  obtain ⟨row, scenario, found, loaded, own⟩ := confirmed.source
  obtain ⟨source, mem, same⟩ := scenarioById_service backed loaded
  rw [same] at own
  simp only [about, found, Option.bind_some, loaded, Option.any_some, same, ← own]
  rw [Bool.eq_iff_iff, beq_iff_eq, beq_iff_eq]
  constructor
  · intro named
    rw [List.inj_on_of_nodup_map sound.names mem known named]
  · intro numbered
    rw [List.inj_on_of_nodup_map sound.ids mem known numbered]

/-- Whatever overlaps and wherever it fails, and whatever is deleted meanwhile: the memory route
lists, newest first, exactly the entries that incidents of the named service confirmed, and
answers 404 for a service that no seeded scenario has. -/
theorem memory_listed {past : List ScenarioSpec} {tables : SeedGenerator.Tables}
    (history : SeedHistory past tables) (backed : app.tables = environment tables)
    (inOrder : Scoped app db) (serves : Serves app db tasks pool deleted) :
    Listed app past tables pool.state := by
  have stands := history.stands
  obtain ⟨ordered, _⟩ := serves.assured inOrder
  refine ⟨fun spec mem => ?_, fun name unseen => ?_⟩
  · obtain ⟨service, known, named, _⟩ := stands.scenario mem
    refine ⟨listServiceMemory pool.state.serviceMemory service.id, ?_, ?_,
      listServiceMemory_newest _ _⟩
    · rw [getServiceMemory, ← named, filter_eq_singleton stands.sound.names known]
      rfl
    · have same : pool.state.serviceMemory.filter (about app pool.state spec.serviceName) =
          pool.state.serviceMemory.filter (·.serviceId == service.id) :=
        List.filter_congr fun memory mem => named ▸
          about_eq stands.sound backed (ordered.confirmed memory mem) known
      rw [same]
      exact listServiceMemory_perm _ _
  · have none : tables.services.filter (·.name == name) = [] := by
      refine List.filter_eq_nil_iff.mpr fun service mem same => unseen ?_
      exact (stands.services name).mp (eq_of_beq same ▸ List.mem_map_of_mem mem)
    rw [getServiceMemory, none]
    rfl

/-- An entry that the admin deleted never comes back, whatever runs before, meanwhile and
afterwards: it is not listed, not there to be deleted again, and not found for a prompt. -/
theorem deleted_gone (inOrder : Scoped app db)
    (fresh : ∀ memory ∈ db.serviceMemory, memory.id < db.nextMemoryId)
    (serves : Serves app db tasks pool deleted) : ∀ id ∈ deleted,
      deleteMemoryEntry id pool.state =
        .error (.http 404 ("No memory entry with id " ++ toString id ++ ".")) ∧
      (∀ name tables rows, getServiceMemory name tables pool.state = .ok rows →
        ∀ memory ∈ rows, memory.id ≠ id) ∧
      ∀ serviceId, ∀ memory ∈ retrieveRelevantMemory pool.state.serviceMemory serviceId,
        memory.id ≠ id := by
  intro id mem
  have gone := (serves.spent inOrder fresh).gone id mem
  refine ⟨deleteMemoryEntry_missing gone, fun name tables rows listed memory mem => ?_,
    fun serviceId memory mem => ?_⟩
  · exact gone memory (mem_of_getServiceMemory listed mem)
  · exact gone memory (mem_of_retrieveRelevantMemory mem)

def seededApp : App := { checkoutApp with tables := environment seededAlone }

theorem scoped_seededApp : Scoped seededApp RunStart.openIncident :=
  ⟨born_openIncident, fun _ none => by cases none⟩

/-- The incident is run to its end. -/
def closing : List (Bool × Move ChatOutcome Error) := remembering.take 22

def evaluating : List (Bool × Move ChatOutcome Error) := remembering.drop 22

theorem memory_listed_recalled : ∃ pool rows,
    (startAll seededApp RunStart.openIncident runThenEvaluate).run closing = some pool ∧
      getServiceMemory checkoutDeployOutageSpec.serviceName seededAlone pool.state = .ok rows ∧
      rows ≠ [] ∧ Listed seededApp [checkoutDeployOutageSpec] seededAlone pool.state := by
  have lists : ((startAll seededApp RunStart.openIncident runThenEvaluate).run closing).any
      (fun pool => match getServiceMemory checkoutDeployOutageSpec.serviceName seededAlone
        pool.state with
        | .ok rows => !rows.isEmpty
        | .error _ => false) = true := by decide +kernel
  obtain ⟨pool, ran, listed⟩ := Option.any_eq_true _ _ |>.mp lists
  have serves := Serves.start.reaches (reaches_of_run (permitted_anyStep closing _) ran)
  split at listed
  case h_1 rows found =>
    refine ⟨pool, rows, ran, found, by simpa using listed, ?_⟩
    exact memory_listed seededAlone_history rfl scoped_seededApp serves
  case h_2 => cases listed

/-- What the incident confirmed is deleted before the evaluation starts. -/
def deletedBetween : Option (Tasks Bool) :=
  ((startAll seededApp RunStart.openIncident runThenEvaluate).run closing).bind fun pool =>
    match deleteMemoryEntry 1 pool.state with
    | .error _ => none
    | .ok state => ({ pool with state } : Tasks Bool).run evaluating

theorem serves_deletedBetween {pool : Tasks Bool} (ran : deletedBetween = some pool) :
    Serves seededApp RunStart.openIncident runThenEvaluate pool [1] := by
  obtain ⟨closed, first, ran⟩ := Option.bind_eq_some_iff.mp ran
  have before := Serves.start.reaches (reaches_of_run (permitted_anyStep closing _) first)
  split at ran
  case h_1 => cases ran
  case h_2 state ok =>
    exact (before.deleted ok).reaches (reaches_of_run (permitted_anyStep evaluating _) ran)

theorem deleted_gone_recalled : ∃ pool, deletedBetween = some pool ∧
    deleteMemoryEntry 1 pool.state = .error (.http 404 ("No memory entry with id " ++
      toString 1 ++ ".")) ∧
    (∀ name tables rows, getServiceMemory name tables pool.state = .ok rows →
      ∀ memory ∈ rows, memory.id ≠ 1) ∧
    ∀ serviceId, ∀ memory ∈ retrieveRelevantMemory pool.state.serviceMemory serviceId,
      memory.id ≠ 1 := by
  have runs : deletedBetween.isSome = true := by decide +kernel
  obtain ⟨pool, ran⟩ := Option.isSome_iff_exists.mp runs
  have fresh : ∀ memory ∈ RunStart.openIncident.serviceMemory,
      memory.id < RunStart.openIncident.nextMemoryId := fun _ none => by cases none
  exact ⟨pool, ran, deleted_gone scoped_seededApp fresh (serves_deletedBetween ran) 1 (by simp)⟩

end OpsPilot.MemoryRoutes
