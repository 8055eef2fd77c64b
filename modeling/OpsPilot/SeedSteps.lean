import Mathlib.Data.List.Basic
import OpsPilot.SeedGenerator

/-! Seeding as a function of the tables: what one scenario adds, and what a whole run adds. -/

namespace OpsPilot.SeedSteps
open ScenarioSpecs SeedGenerator

def withService (tables : Tables) (spec : ScenarioSpec) : ℕ × Tables :=
  match tables.services.find? (·.name == spec.serviceName) with
  | some existing => (existing.id, tables)
  | none => (tables.nextServiceId,
      { tables with
        services := tables.services ++
          [⟨tables.nextServiceId, spec.serviceName, spec.serviceDescription⟩]
        nextServiceId := tables.nextServiceId + 1 })

def missingRunbooks (runbooks : List RunbookRow) (serviceId : ℕ) (spec : ScenarioSpec) :
    List RunbookRow :=
  (spec.runbooks.filter fun runbook =>
    (runbooksOf runbooks serviceId runbook.symptomKeyword).isEmpty).map fun runbook =>
      ⟨serviceId, runbook.symptomKeyword, runbook.content⟩

/-- The tables after a spec with a new key. -/
def seeded (tables : Tables) (spec : ScenarioSpec) : Tables :=
  let (serviceId, tables) := withService tables spec
  { tables with
    scenarios := tables.scenarios ++ [scenarioRow spec serviceId tables.nextScenarioId]
    rows := tables.rows.append (scenarioRows spec serviceId tables.nextScenarioId)
    runbooks := tables.runbooks ++ missingRunbooks tables.runbooks serviceId spec
    nextScenarioId := tables.nextScenarioId + 1 }

def serviceFits (tables : Tables) (spec : ScenarioSpec) : Bool :=
  (tables.services.find? (·.name == spec.serviceName)).isSome ||
    ServiceRow.fits ⟨0, spec.serviceName, spec.serviceDescription⟩

structure Fits (tables : Tables) (spec : ScenarioSpec) : Prop where
  service : serviceFits tables spec = true
  scenario : (scenarioRow spec 0 0).fits = true
  rows : (scenarioRows spec 0 0).fits = true
  runbooks : ∀ row ∈ missingRunbooks tables.runbooks (withService tables spec).1 spec,
    row.fits = true

def Unambiguous (tables : Tables) (spec : ScenarioSpec) : Prop :=
  ∀ runbook ∈ spec.runbooks, (runbooksOf tables.runbooks (withService tables spec).1
    runbook.symptomKeyword).length ≤ 1

theorem oneOrNone_of_nodup {Row Key : Type} [BEq Key] [LawfulBEq Key] {rows : List Row}
    {field : Row → Key} (distinct : (rows.map field).Nodup) (key : Key) :
    oneOrNone (rows.filter (field · == key)) = .ok (rows.find? (field · == key)) := by
  induction rows with
  | nil => rfl
  | cons row rows ih =>
    obtain ⟨new, distinct⟩ := List.nodup_cons.mp distinct
    cases same : field row == key with
    | false =>
      rw [List.filter_cons_of_neg (by simp [same]), List.find?_cons_of_neg (by simp [same])]
      exact ih distinct
    | true =>
      have others : rows.filter (field · == key) = [] := by
        refine List.filter_eq_nil_iff.mpr fun other mem equal => new ?_
        rw [eq_of_beq same, ← eq_of_beq equal]
        exact List.mem_map_of_mem mem
      rw [List.filter_cons_of_pos (by simp [same]), others, List.find?_cons_of_pos (by simp [same])]
      rfl

theorem addRunbook_ok {serviceId : ℕ} {session session' : Session} {runbook : RunbookSpec}
    (ok : addRunbook serviceId session runbook = .ok session') :
    session' = { session with
      pendingRunbooks := session.pendingRunbooks ++
        if (runbooksOf session.tables.runbooks serviceId runbook.symptomKeyword).isEmpty then
          [⟨serviceId, runbook.symptomKeyword, runbook.content⟩] else [] } := by
  unfold addRunbook at ok
  generalize runbooksOf session.tables.runbooks serviceId runbook.symptomKeyword = found at ok ⊢
  match found, ok with
  | [], rfl => rfl
  | [_], rfl => simp

theorem addRunbook_exists {serviceId : ℕ} {session : Session} {runbook : RunbookSpec}
    (few : (runbooksOf session.tables.runbooks serviceId runbook.symptomKeyword).length ≤ 1) :
    ∃ session', addRunbook serviceId session runbook = .ok session' := by
  unfold addRunbook
  generalize runbooksOf session.tables.runbooks serviceId runbook.symptomKeyword = found at few
  match found, few with
  | [], _ => exact ⟨_, rfl⟩
  | [_], _ => exact ⟨_, rfl⟩

theorem addRunbooks_ok {serviceId : ℕ} {session session' : Session} {runbooks : List RunbookSpec}
    (ok : runbooks.foldlM (addRunbook serviceId) session = .ok session') :
    session' = { session with
      pendingRunbooks := session.pendingRunbooks ++ (runbooks.filter fun runbook =>
        (runbooksOf session.tables.runbooks serviceId runbook.symptomKeyword).isEmpty).map
          fun runbook => ⟨serviceId, runbook.symptomKeyword, runbook.content⟩ } := by
  induction runbooks generalizing session with
  | nil =>
    cases ok
    simp
  | cons runbook runbooks ih =>
    rw [List.foldlM_cons] at ok
    cases first : addRunbook serviceId session runbook with
    | error e =>
      rw [first] at ok
      cases ok
    | ok next =>
      rw [first] at ok
      have later := ih ok
      rw [addRunbook_ok first] at later
      rw [later]
      by_cases missing :
          (runbooksOf session.tables.runbooks serviceId runbook.symptomKeyword).isEmpty = true
      · simp [missing]
      · simp [missing]

theorem addRunbooks_exists {serviceId : ℕ} {session : Session} {runbooks : List RunbookSpec}
    (few : ∀ runbook ∈ runbooks,
      (runbooksOf session.tables.runbooks serviceId runbook.symptomKeyword).length ≤ 1) :
    ∃ session', runbooks.foldlM (addRunbook serviceId) session = .ok session' := by
  induction runbooks generalizing session with
  | nil => exact ⟨session, rfl⟩
  | cons runbook runbooks ih =>
    obtain ⟨next, first⟩ := addRunbook_exists (few runbook List.mem_cons_self)
    have same : next.tables = session.tables := by rw [addRunbook_ok first]
    rw [List.foldlM_cons, first]
    exact ih fun other mem => same ▸ few other (List.mem_cons_of_mem _ mem)

@[simp] theorem append_empty (rows : ScenarioRows) : rows.append {} = rows := by
  simp [ScenarioRows.append]

@[simp] theorem empty_append (rows : ScenarioRows) : ScenarioRows.append {} rows = rows := by
  simp [ScenarioRows.append]

@[simp] theorem flush_services (session : Session) :
    session.flush.tables.services = session.tables.services := rfl

@[simp] theorem flush_scenarios (session : Session) :
    session.flush.tables.scenarios = session.tables.scenarios := rfl

@[simp] theorem flush_nextServiceId (session : Session) :
    session.flush.tables.nextServiceId = session.tables.nextServiceId := rfl

@[simp] theorem flush_nextScenarioId (session : Session) :
    session.flush.tables.nextScenarioId = session.tables.nextScenarioId := rfl

def withRows (session : Session) (spec : ScenarioSpec) (serviceId : ℕ) : Session where
  tables :=
    { session.flush.tables with
      scenarios := session.tables.scenarios ++
        [scenarioRow spec serviceId session.tables.nextScenarioId]
      nextScenarioId := session.tables.nextScenarioId + 1 }
  pendingRows := scenarioRows spec serviceId session.tables.nextScenarioId

theorem withRows_flush (session : Session) (spec : ScenarioSpec) (serviceId : ℕ) :
    (withRows session spec serviceId).flush.tables =
      { session.flush.tables with
        scenarios := session.flush.tables.scenarios ++
          [scenarioRow spec serviceId session.flush.tables.nextScenarioId]
        rows := session.flush.tables.rows.append
          (scenarioRows spec serviceId session.flush.tables.nextScenarioId)
        nextScenarioId := session.flush.tables.nextScenarioId + 1 } := by
  simp [withRows, Session.flush]

theorem addScenario_eq (session : Session) (spec : ScenarioSpec) (serviceId : ℕ) :
    session.addScenario (scenarioRow spec serviceId session.tables.nextScenarioId) =
      if session.fits && (scenarioRow spec 0 0).fits then
        .ok { tables := (withRows session spec serviceId).tables } else .error .dataError := rfl

theorem addService_eq (session : Session) (spec : ScenarioSpec) :
    session.addService spec.serviceName spec.serviceDescription =
      if session.fits && ServiceRow.fits ⟨0, spec.serviceName, spec.serviceDescription⟩ then
        .ok { tables :=
          { session.flush.tables with
            services := session.tables.services ++
              [⟨session.tables.nextServiceId, spec.serviceName, spec.serviceDescription⟩]
            nextServiceId := session.tables.nextServiceId + 1 } }
      else .error .dataError := rfl

theorem seedScenario_new {session : Session} {spec : ScenarioSpec}
    (names : (session.tables.services.map (·.name)).Nodup)
    (new : spec.key ∉ session.tables.scenarios.map (·.key)) : ∃ session' : Session,
    (seedScenario session spec =
      if session.fits && serviceFits session.flush.tables spec && (scenarioRow spec 0 0).fits then
        spec.runbooks.foldlM (addRunbook (withService session.flush.tables spec).1)
          (withRows session' spec (withService session.flush.tables spec).1)
      else .error .dataError) ∧
    session'.flush.tables = (withService session.flush.tables spec).2 := by
  have missing : session.tables.scenarios.filter (·.key == spec.key) = [] := by
    refine List.filter_eq_nil_iff.mpr fun row mem same => new ?_
    rw [← eq_of_beq same]
    exact List.mem_map_of_mem mem
  unfold seedScenario getOrCreateService serviceFits withService
  rw [missing, oneOrNone_of_nodup names, flush_services]
  simp only [oneOrNone, bind, Except.bind, pure, Except.pure]
  cases session.tables.services.find? (·.name == spec.serviceName) with
  | some existing =>
    refine ⟨session, ?_, rfl⟩
    dsimp only
    rw [addScenario_eq, Option.isSome_some, Bool.true_or, Bool.and_true]
    cases session.fits && (scenarioRow spec 0 0).fits <;> rfl
  | none =>
    refine ⟨{ tables :=
      { session.flush.tables with
        services := session.tables.services ++
          [⟨session.tables.nextServiceId, spec.serviceName, spec.serviceDescription⟩]
        nextServiceId := session.tables.nextServiceId + 1 } }, ?_, ?_⟩
    · dsimp only
      rw [addService_eq, Option.isSome_none, Bool.false_or]
      cases session.fits && ServiceRow.fits ⟨0, spec.serviceName, spec.serviceDescription⟩ with
      | true =>
        simp only [if_true, Bool.true_and]
        rw [addScenario_eq]
        cases (scenarioRow spec 0 0).fits <;> rfl
      | false => rfl
    · simp [Session.flush]

@[simp] theorem withService_runbooks (tables : Tables) (spec : ScenarioSpec) :
    (withService tables spec).2.runbooks = tables.runbooks := by
  unfold withService
  split <;> rfl

theorem withRows_runbooks {session start : Session} {spec : ScenarioSpec} (serviceId : ℕ)
    (flushed : start.flush.tables = (withService session.flush.tables spec).2) :
    (withRows start spec serviceId).tables.runbooks = session.flush.tables.runbooks := by
  rw [← withService_runbooks session.flush.tables spec, ← flushed]
  rfl

theorem seedScenario_ok {session session' : Session} {spec : ScenarioSpec}
    (ok : seedScenario session spec = .ok session')
    (names : (session.tables.services.map (·.name)).Nodup)
    (new : spec.key ∉ session.tables.scenarios.map (·.key)) :
    (session.fits = true ∧ serviceFits session.flush.tables spec = true ∧
      (scenarioRow spec 0 0).fits = true) ∧ ∃ start : Session,
    start.flush.tables = (withService session.flush.tables spec).2 ∧
    session' = { withRows start spec (withService session.flush.tables spec).1 with
      pendingRunbooks := missingRunbooks session.flush.tables.runbooks
        (withService session.flush.tables spec).1 spec } := by
  obtain ⟨start, same, flushed⟩ := seedScenario_new names new
  rw [same] at ok
  split_ifs at ok with accepted
  refine ⟨by simpa [and_assoc] using accepted, start, flushed, ?_⟩
  rw [addRunbooks_ok ok, withRows_runbooks _ flushed]
  rfl

theorem seedScenario_seeded {session session' : Session} {spec : ScenarioSpec}
    (ok : seedScenario session spec = .ok session')
    (names : (session.tables.services.map (·.name)).Nodup)
    (new : spec.key ∉ session.tables.scenarios.map (·.key)) :
    session'.flush.tables = seeded session.flush.tables spec := by
  obtain ⟨-, start, flushed, rfl⟩ := seedScenario_ok ok names new
  have flush : Session.flush { withRows start spec (withService session.flush.tables spec).1 with
      pendingRunbooks := missingRunbooks session.flush.tables.runbooks
        (withService session.flush.tables spec).1 spec } =
      { tables :=
        { (withRows start spec (withService session.flush.tables spec).1).flush.tables with
          runbooks := session.flush.tables.runbooks ++ missingRunbooks session.flush.tables.runbooks
            (withService session.flush.tables spec).1 spec } } := by
    rw [← withRows_runbooks _ flushed]
    rfl
  rw [flush, withRows_flush, flushed, seeded]
  dsimp only
  rw [withService_runbooks]

theorem scenarioRows_fits (spec : ScenarioSpec) (serviceId scenarioId : ℕ) :
    (scenarioRows spec serviceId scenarioId).fits = (scenarioRows spec 0 0).fits := by
  simp [ScenarioRows.fits, scenarioRows, metricPoints, List.all_flatMap, DeploymentRow.fits,
    MetricPointRow.fits, LogEntryRow.fits, DependencyStatusRow.fits, Function.comp_def]

theorem seedScenario_fits {session session' : Session} {spec : ScenarioSpec}
    (ok : seedScenario session spec = .ok session')
    (names : (session.tables.services.map (·.name)).Nodup)
    (new : spec.key ∉ session.tables.scenarios.map (·.key)) :
    session.fits = true ∧ (session'.fits = true ↔ Fits session.flush.tables spec) := by
  obtain ⟨⟨fits, service, scenario⟩, start, -, rfl⟩ := seedScenario_ok ok names new
  refine ⟨fits, ?_⟩
  rw [Session.fits, Bool.and_eq_true, List.all_eq_true]
  dsimp only [withRows]
  rw [scenarioRows_fits]
  exact ⟨fun pending => ⟨service, scenario, pending.1, pending.2⟩,
    fun all => ⟨all.rows, all.runbooks⟩⟩

theorem seedScenario_exists {session : Session} {spec : ScenarioSpec} (pending : session.fits = true)
    (names : (session.tables.services.map (·.name)).Nodup)
    (new : spec.key ∉ session.tables.scenarios.map (·.key))
    (few : Unambiguous session.flush.tables spec) (fits : Fits session.flush.tables spec) :
    ∃ session', seedScenario session spec = .ok session' := by
  obtain ⟨start, same, flushed⟩ := seedScenario_new names new
  rw [same, if_pos (by rw [pending, fits.service, fits.scenario]; rfl)]
  refine addRunbooks_exists fun runbook mem => ?_
  rw [withRows_runbooks _ flushed]
  exact few runbook mem

theorem seedScenario_known (session : Session) {spec : ScenarioSpec}
    (keys : (session.tables.scenarios.map (·.key)).Nodup)
    (known : spec.key ∈ session.tables.scenarios.map (·.key)) :
    seedScenario session spec = .ok session := by
  obtain ⟨row, mem, same⟩ := List.mem_map.mp known
  have found : (session.tables.scenarios.find? (·.key == spec.key)).isSome = true :=
    List.find?_isSome.mpr ⟨row, mem, by simp [same]⟩
  unfold seedScenario
  rw [oneOrNone_of_nodup keys]
  obtain ⟨existing, found⟩ := Option.isSome_iff_exists.mp found
  rw [found]
  rfl

structure Sound (tables : Tables) : Prop where
  names : (tables.services.map (·.name)).Nodup
  ids : (tables.services.map (·.id)).Nodup
  keys : (tables.scenarios.map (·.key)).Nodup
  servicesBelow : ∀ row ∈ tables.services, row.id < tables.nextServiceId
  rowsBelow : ∀ id, tables.nextScenarioId ≤ id → tables.rows.of id = {}
  runbooksBelow : ∀ row ∈ tables.runbooks, row.serviceId < tables.nextServiceId

theorem sound_empty : Sound {} := by
  constructor <;> simp [ScenarioRows.of]

theorem withService_cases (tables : Tables) (spec : ScenarioSpec) :
    (∃ service ∈ tables.services, service.name = spec.serviceName ∧
      withService tables spec = (service.id, tables)) ∨
    (spec.serviceName ∉ tables.services.map (·.name) ∧
      withService tables spec = (tables.nextServiceId,
        { tables with
          services := tables.services ++
            [⟨tables.nextServiceId, spec.serviceName, spec.serviceDescription⟩]
          nextServiceId := tables.nextServiceId + 1 })) := by
  unfold withService
  cases found : tables.services.find? (·.name == spec.serviceName) with
  | some service =>
    have named := List.find?_some found
    exact .inl ⟨service, List.mem_of_find?_eq_some found, eq_of_beq named, rfl⟩
  | none =>
    refine .inr ⟨fun mem => ?_, rfl⟩
    obtain ⟨service, mem, named⟩ := List.mem_map.mp mem
    exact List.find?_eq_none.mp found service mem (by simp [named])

theorem sound_withService {tables : Tables} (sound : Sound tables) (spec : ScenarioSpec) :
    Sound (withService tables spec).2 := by
  obtain ⟨_, _, _, same⟩ | ⟨new, same⟩ := withService_cases tables spec
  · rw [same]
    exact sound
  · rw [same]
    have fresh : tables.nextServiceId ∉ tables.services.map (·.id) := by
      rintro mem
      obtain ⟨row, mem, same⟩ := List.mem_map.mp mem
      exact absurd (sound.servicesBelow row mem) (by omega)
    refine ⟨?_, ?_, sound.keys, ?_, sound.rowsBelow, fun row mem => ?_⟩
    · simpa [List.nodup_append, sound.names] using new
    · simpa [List.nodup_append, sound.ids] using fresh
    · intro row mem
      obtain mem | mem := List.mem_append.mp mem
      · have := sound.servicesBelow row mem
        show row.id < tables.nextServiceId + 1
        omega
      · rw [List.mem_singleton.mp mem]
        exact Nat.lt_succ_self _
    · have := sound.runbooksBelow row mem
      show row.serviceId < tables.nextServiceId + 1
      omega

theorem withService_service (tables : Tables) (spec : ScenarioSpec) :
    ∃ service ∈ (withService tables spec).2.services, service.name = spec.serviceName ∧
      service.id = (withService tables spec).1 := by
  obtain ⟨service, mem, named, same⟩ | ⟨_, same⟩ := withService_cases tables spec
  · rw [same]
    exact ⟨service, mem, named, rfl⟩
  · rw [same]
    exact ⟨⟨tables.nextServiceId, spec.serviceName, spec.serviceDescription⟩,
      List.mem_append_right _ (List.mem_singleton_self _), rfl, rfl⟩

theorem withService_mono {tables : Tables} {spec : ScenarioSpec} {service : ServiceRow}
    (mem : service ∈ tables.services) : service ∈ (withService tables spec).2.services := by
  unfold withService
  split
  · exact mem
  · exact List.mem_append_left _ mem

@[simp] theorem withService_scenarios (tables : Tables) (spec : ScenarioSpec) :
    (withService tables spec).2.scenarios = tables.scenarios := by
  unfold withService
  split <;> rfl

@[simp] theorem withService_rows (tables : Tables) (spec : ScenarioSpec) :
    (withService tables spec).2.rows = tables.rows := by
  unfold withService
  split <;> rfl

@[simp] theorem withService_nextScenarioId (tables : Tables) (spec : ScenarioSpec) :
    (withService tables spec).2.nextScenarioId = tables.nextScenarioId := by
  unfold withService
  split <;> rfl

@[simp] theorem seeded_services (tables : Tables) (spec : ScenarioSpec) :
    (seeded tables spec).services = (withService tables spec).2.services := rfl

@[simp] theorem seeded_runbooks (tables : Tables) (spec : ScenarioSpec) :
    (seeded tables spec).runbooks =
      tables.runbooks ++ missingRunbooks tables.runbooks (withService tables spec).1 spec := by
  simp [seeded]

@[simp] theorem of_append (rows more : ScenarioRows) (id : ℕ) :
    (rows.append more).of id = (rows.of id).append (more.of id) := by
  simp [ScenarioRows.of, ScenarioRows.append]

theorem metricPoints_scenarioId (serviceId scenarioId : ℕ) (spec : ScenarioSpec) :
    ∀ row ∈ spec.metricSeries.flatMap (metricPoints serviceId scenarioId),
      row.scenarioId = scenarioId := by
  intro row mem
  obtain ⟨series, -, mem⟩ := List.mem_flatMap.mp mem
  obtain ⟨point, -, rfl⟩ := List.mem_map.mp mem
  rfl

theorem scenarioRows_of_self (spec : ScenarioSpec) (serviceId scenarioId : ℕ) :
    (scenarioRows spec serviceId scenarioId).of scenarioId =
      scenarioRows spec serviceId scenarioId := by
  have points := List.filter_eq_self.mpr fun row mem =>
    beq_iff_eq.mpr (metricPoints_scenarioId serviceId scenarioId spec row mem)
  simp [ScenarioRows.of, scenarioRows, points]

theorem scenarioRows_of_ne (spec : ScenarioSpec) (serviceId : ℕ) {scenarioId id : ℕ}
    (other : id ≠ scenarioId) : (scenarioRows spec serviceId scenarioId).of id = {} := by
  have points : (spec.metricSeries.flatMap (metricPoints serviceId scenarioId)).filter
      (·.scenarioId == id) = [] := by
    refine List.filter_eq_nil_iff.mpr fun row mem same => other ?_
    rw [← metricPoints_scenarioId serviceId scenarioId spec row mem, eq_of_beq same]
  simp [ScenarioRows.of, scenarioRows, points, other.symm]

theorem sound_seeded {tables : Tables} {spec : ScenarioSpec} (sound : Sound tables)
    (new : spec.key ∉ tables.scenarios.map (·.key)) : Sound (seeded tables spec) := by
  have within := sound_withService sound spec
  have below : (withService tables spec).1 < (withService tables spec).2.nextServiceId := by
    obtain ⟨service, mem, -, same⟩ := withService_service tables spec
    exact same ▸ within.servicesBelow service mem
  refine ⟨within.names, within.ids, ?_, within.servicesBelow, fun id after => ?_,
    fun row mem => ?_⟩
  · simpa [seeded, List.nodup_append, sound.keys, scenarioRow] using new
  · have after : tables.nextScenarioId + 1 ≤ id := by simpa [seeded] using after
    simp [seeded, sound.rowsBelow id (by omega), scenarioRows_of_ne spec _
      (show id ≠ tables.nextScenarioId by omega)]
  · obtain mem | mem := List.mem_append.mp mem
    · exact within.runbooksBelow row mem
    · obtain ⟨runbook, -, rfl⟩ := List.mem_map.mp mem
      exact below

/-- The specs that are seeded where the known keys have scenarios: the first of each new key. -/
def newSpecs (known : List String) : List ScenarioSpec → List ScenarioSpec
  | [] => []
  | spec :: specs =>
    if spec.key ∈ known then newSpecs known specs
    else spec :: newSpecs (known ++ [spec.key]) specs

def keysOf (tables : Tables) : List String := tables.scenarios.map (·.key)

def seededAll (tables : Tables) (specs : List ScenarioSpec) : Tables :=
  (newSpecs (keysOf tables) specs).foldl seeded tables

@[simp] theorem keysOf_flush (session : Session) :
    keysOf session.flush.tables = session.tables.scenarios.map (·.key) := rfl

@[simp] theorem keysOf_seeded (tables : Tables) (spec : ScenarioSpec) :
    keysOf (seeded tables spec) = keysOf tables ++ [spec.key] := by
  simp [keysOf, seeded, scenarioRow]

theorem seededAll_known {tables : Tables} {spec : ScenarioSpec} (specs : List ScenarioSpec)
    (known : spec.key ∈ keysOf tables) :
    seededAll tables (spec :: specs) = seededAll tables specs := by
  simp [seededAll, newSpecs, known]

theorem seededAll_new {tables : Tables} {spec : ScenarioSpec} (specs : List ScenarioSpec)
    (new : spec.key ∉ keysOf tables) :
    seededAll tables (spec :: specs) = seededAll (seeded tables spec) specs := by
  simp [seededAll, newSpecs, new]

theorem newSpecs_fresh {known : List String} (nodup : known.Nodup) (specs : List ScenarioSpec) :
    (known ++ (newSpecs known specs).map (·.key)).Nodup := by
  induction specs generalizing known with
  | nil => simpa [newSpecs] using nodup
  | cons spec specs ih =>
    by_cases seen : spec.key ∈ known
    · rw [newSpecs, if_pos seen]
      exact ih nodup
    · rw [newSpecs, if_neg seen, List.map_cons, List.append_cons]
      exact ih (List.nodup_append'.mpr
        ⟨nodup, List.nodup_singleton _, List.disjoint_singleton.mpr seen⟩)

theorem key_mem_newSpecs (known : List String) {specs : List ScenarioSpec} {spec : ScenarioSpec}
    (mem : spec ∈ specs) : spec.key ∈ known ++ (newSpecs known specs).map (·.key) := by
  induction specs generalizing known with
  | nil => cases mem
  | cons first specs ih =>
    by_cases seen : first.key ∈ known
    · rw [newSpecs, if_pos seen]
      obtain rfl | mem := List.mem_cons.mp mem
      · exact List.mem_append_left _ seen
      · exact ih known mem
    · rw [newSpecs, if_neg seen, List.map_cons, List.append_cons]
      obtain rfl | mem := List.mem_cons.mp mem
      · exact List.mem_append_left _ (List.mem_append_right _ (List.mem_singleton_self _))
      · exact ih _ mem

theorem mem_newSpecs {known : List String} {specs : List ScenarioSpec} {spec : ScenarioSpec} :
    spec ∈ newSpecs known specs ↔
      specs.find? (·.key == spec.key) = some spec ∧ spec.key ∉ known := by
  induction specs generalizing known with
  | nil => simp [newSpecs]
  | cons first specs ih =>
    by_cases seen : first.key ∈ known
    · rw [newSpecs, if_pos seen, ih]
      refine and_congr_left fun new => ?_
      rw [List.find?_cons_of_neg]
      rw [beq_iff_eq]
      exact fun same => new (same ▸ seen)
    · rw [newSpecs, if_neg seen, List.mem_cons, ih]
      by_cases same : first.key = spec.key
      · rw [List.find?_cons_of_pos (by simp [same]), Option.some_inj]
        constructor
        · rintro (rfl | ⟨-, new⟩)
          · exact ⟨rfl, seen⟩
          · exact absurd (List.mem_append_right _ (List.mem_singleton.mpr same.symm)) new
        · exact fun h => .inl h.1.symm
      · rw [List.find?_cons_of_neg (by simp [same])]
        constructor
        · rintro (rfl | ⟨found, new⟩)
          · exact absurd rfl same
          · exact ⟨found, fun mem => new (List.mem_append_left _ mem)⟩
        · rintro ⟨found, new⟩
          refine .inr ⟨found, fun mem => ?_⟩
          obtain mem | mem := List.mem_append.mp mem
          · exact new mem
          · exact same (List.mem_singleton.mp mem).symm

theorem sound_foldl {tables : Tables} (sound : Sound tables) {specs : List ScenarioSpec}
    (fresh : (keysOf tables ++ specs.map (·.key)).Nodup) : Sound (specs.foldl seeded tables) := by
  induction specs generalizing tables with
  | nil => exact sound
  | cons spec specs ih =>
    rw [List.map_cons, List.append_cons] at fresh
    refine ih (sound_seeded sound ?_) (by rwa [keysOf_seeded])
    have := (List.nodup_append.mp (List.nodup_append.mp fresh).1).2.2
    exact fun mem => this _ mem _ (List.mem_singleton_self _) rfl

theorem sound_seededAll {tables : Tables} (sound : Sound tables) (specs : List ScenarioSpec) :
    Sound (seededAll tables specs) :=
  sound_foldl sound (newSpecs_fresh sound.keys specs)

theorem seedNext_known {session : Session} {spec : ScenarioSpec} (count : ℕ)
    (sound : Sound session.flush.tables) (known : spec.key ∈ keysOf session.flush.tables) :
    seedNext (count, session) spec = .ok (count, session) := by
  obtain ⟨row, mem, same⟩ := List.mem_map.mp known
  have found : (session.tables.scenarios.filter (·.key == spec.key)).length ≠ 0 := by
    rw [Ne, List.length_eq_zero_iff, List.filter_eq_nil_iff]
    exact fun none => none row mem (by simp [same])
  unfold seedNext
  dsimp only
  rw [seedScenario_known session sound.keys known, if_neg found]
  rfl

theorem seedNext_new {session : Session} {spec : ScenarioSpec} (count : ℕ)
    (new : spec.key ∉ keysOf session.flush.tables) :
    seedNext (count, session) spec = (seedScenario session spec).map (count + 1, ·) := by
  have missing : (session.tables.scenarios.filter (·.key == spec.key)).length = 0 := by
    rw [List.length_eq_zero_iff, List.filter_eq_nil_iff]
    refine fun row mem same => new ?_
    rw [← eq_of_beq same]
    exact List.mem_map_of_mem mem
  unfold seedNext
  dsimp only
  simp only [if_pos missing]

theorem seedLoop_ok {session session' : Session} {count count' : ℕ} {specs : List ScenarioSpec}
    (sound : Sound session.flush.tables)
    (ok : specs.foldlM seedNext (count, session) = .ok (count', session')) :
    count' = count + (newSpecs (keysOf session.flush.tables) specs).length ∧
    session'.flush.tables = seededAll session.flush.tables specs := by
  induction specs generalizing session count with
  | nil =>
    cases ok
    exact ⟨rfl, rfl⟩
  | cons spec specs ih =>
    rw [List.foldlM_cons] at ok
    by_cases known : spec.key ∈ keysOf session.flush.tables
    · rw [seedNext_known count sound known] at ok
      rw [seededAll_known specs known, newSpecs, if_pos known]
      exact ih sound ok
    · rw [seedNext_new count known] at ok
      cases first : seedScenario session spec with
      | error e =>
        rw [first] at ok
        cases ok
      | ok next =>
        rw [first] at ok
        have flushed := seedScenario_seeded first sound.names known
        obtain ⟨counted, after⟩ := ih (flushed ▸ sound_seeded sound known) ok
        rw [flushed, keysOf_seeded] at counted
        rw [flushed] at after
        rw [seededAll_new specs known, newSpecs, if_neg known, List.length_cons]
        exact ⟨by omega, after⟩

theorem seedLoop_exists {session : Session} (count : ℕ) {specs : List ScenarioSpec}
    (sound : Sound session.flush.tables) (pending : session.fits = true)
    (good : ∀ before spec after,
      newSpecs (keysOf session.flush.tables) specs = before ++ spec :: after →
      Unambiguous (before.foldl seeded session.flush.tables) spec ∧
        Fits (before.foldl seeded session.flush.tables) spec) :
    ∃ count' session', specs.foldlM seedNext (count, session) = .ok (count', session') ∧
      session'.fits = true := by
  induction specs generalizing session count with
  | nil => exact ⟨_, _, rfl, pending⟩
  | cons spec specs ih =>
    rw [List.foldlM_cons]
    by_cases known : spec.key ∈ keysOf session.flush.tables
    · rw [seedNext_known count sound known]
      rw [newSpecs, if_pos known] at good
      exact ih count sound pending good
    · rw [newSpecs, if_neg known] at good
      obtain ⟨few, fits⟩ := good [] spec _ rfl
      obtain ⟨next, first⟩ := seedScenario_exists pending sound.names known few fits
      have flushed := seedScenario_seeded first sound.names known
      have added := (seedScenario_fits first sound.names known).2.mpr fits
      rw [seedNext_new count known, first]
      refine ih _ (flushed ▸ sound_seeded sound known) added fun before later after split => ?_
      rw [flushed, keysOf_seeded] at split
      rw [flushed]
      exact good (spec :: before) later after (by rw [split]; rfl)

theorem flush_start (tables : Tables) :
    Session.flush { tables := tables } = { tables := tables } := by
  simp [Session.flush]

theorem seedAll_loop {tables tables' : Tables} {count : ℕ} {specs : List ScenarioSpec}
    (ok : seedAll specs tables = .ok (count, tables')) : ∃ session : Session,
    specs.foldlM seedNext (0, { tables := tables }) = .ok (count, session) ∧
      session.fits = true ∧ tables' = session.flush.tables := by
  unfold seedAll Session.commit at ok
  cases loop : specs.foldlM seedNext (0, { tables := tables }) with
  | error e =>
    rw [loop] at ok
    cases ok
  | ok reached =>
    obtain ⟨count', session⟩ := reached
    rw [loop] at ok
    cases fits : session.fits with
    | false =>
      simp only [bind, Except.bind, fits, Bool.false_eq_true, if_false] at ok
      cases ok
    | true =>
      simp only [bind, Except.bind, fits, if_true] at ok
      cases ok
      exact ⟨session, rfl, fits, rfl⟩

theorem seedAll_ok {tables tables' : Tables} {count : ℕ} {specs : List ScenarioSpec}
    (sound : Sound tables) (ok : seedAll specs tables = .ok (count, tables')) :
    count = (newSpecs (keysOf tables) specs).length ∧ tables' = seededAll tables specs := by
  obtain ⟨session, loop, -, rfl⟩ := seedAll_loop ok
  have start : Sound (Session.flush { tables := tables }).tables := by rwa [flush_start]
  have after := seedLoop_ok start loop
  rw [flush_start] at after
  simpa using after

theorem seedAll_exists {tables : Tables} (specs : List ScenarioSpec) (sound : Sound tables)
    (good : ∀ before spec after, newSpecs (keysOf tables) specs = before ++ spec :: after →
      Unambiguous (before.foldl seeded tables) spec ∧ Fits (before.foldl seeded tables) spec) :
    seedAll specs tables =
      .ok ((newSpecs (keysOf tables) specs).length, seededAll tables specs) := by
  have start : Sound (Session.flush { tables := tables }).tables := by rwa [flush_start]
  obtain ⟨count, session, loop, fits⟩ :=
    seedLoop_exists 0 start rfl (by rw [flush_start]; exact good)
  have ok : seedAll specs tables = .ok (count, session.flush.tables) := by
    rw [seedAll, loop]
    simp only [bind, Except.bind, Session.commit, if_pos fits]
    rfl
  obtain ⟨counted, after⟩ := seedAll_ok sound ok
  rw [ok, counted, after]

end OpsPilot.SeedSteps
