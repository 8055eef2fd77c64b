import OpsPilot.Models
import OpsPilot.ReproducibleTools
import OpsPilot.SeedIdempotence

/-! The seeded tables as the tools and the inspection routes read them: under every key they hold
the first definition that was ever seeded, with the runbooks of its service. -/

namespace OpsPilot.SeededScenarios
open JsonText ScenarioSpecs SeedGenerator SeedSteps SeedIdempotence ReadOnlyTools
open ReproducibleTools Models Columns

/-- The databases that runs of `seed_all` produce, next to the definitions that the runs went
through; a run that raises leaves only gaps in the ids. -/
inductive SeedHistory : List ScenarioSpec → Tables → Prop
  | empty : SeedHistory [] {}
  | run {past specs : List ScenarioSpec} {tables tables' : Tables} {count : ℕ}
      (earlier : SeedHistory past tables) (ok : seedAll specs tables = .ok (count, tables')) :
      SeedHistory (past ++ specs) tables'
  | raised {past : List ScenarioSpec} {tables : Tables} (earlier : SeedHistory past tables)
      (services scenarios : ℕ) :
      SeedHistory past { tables with
        nextServiceId := tables.nextServiceId + services
        nextScenarioId := tables.nextScenarioId + scenarios }

theorem SeedHistory.produced {past : List ScenarioSpec} {tables : Tables}
    (history : SeedHistory past tables) : Produced tables := by
  induction history with
  | empty => exact .empty
  | run _ ok earlier => exact .run earlier ok
  | raised _ services scenarios earlier => exact .raised earlier services scenarios

abbrev firsts (past : List ScenarioSpec) : List ScenarioSpec := newSpecs [] past

theorem newSpecs_append (known : List String) (specs more : List ScenarioSpec) :
    newSpecs known (specs ++ more) = newSpecs known specs ++
      newSpecs (known ++ (newSpecs known specs).map (·.key)) more := by
  induction specs generalizing known with
  | nil => simp [newSpecs]
  | cons spec specs ih =>
    by_cases seen : spec.key ∈ known
    · simp only [List.cons_append, newSpecs, seen, if_true, ih]
    · simp only [List.cons_append, newSpecs, seen, if_false, ih, List.map_cons, List.append_assoc,
        List.nil_append]

/-- The runbooks of the service that the definitions leave: a definition adds those whose keyword
its service does not have yet. -/
def keptRunbooks (name : String) (specs : List ScenarioSpec) : List RunbookSpec :=
  specs.foldl (fun kept spec =>
    if spec.serviceName = name then
      kept ++ spec.runbooks.filter fun runbook =>
        kept.all (·.symptomKeyword != runbook.symptomKeyword)
    else kept) []

theorem keptRunbooks_append (name : String) (specs : List ScenarioSpec) (spec : ScenarioSpec) :
    keptRunbooks name (specs ++ [spec]) =
      if spec.serviceName = name then
        keptRunbooks name specs ++ spec.runbooks.filter fun runbook =>
          (keptRunbooks name specs).all (·.symptomKeyword != runbook.symptomKeyword)
      else keptRunbooks name specs := by
  simp [keptRunbooks]

theorem keptRunbooks_absent {name : String} {specs : List ScenarioSpec}
    (absent : ∀ spec ∈ specs, spec.serviceName ≠ name) : keptRunbooks name specs = [] := by
  induction specs using List.reverseRecOn with
  | nil => rfl
  | append_singleton specs spec ih =>
    rw [keptRunbooks_append, if_neg (absent spec (by simp))]
    exact ih fun other mem => absent other (List.mem_append_left _ mem)

def runbookRow (serviceId : ℕ) (runbook : RunbookSpec) : RunbookRow :=
  ⟨serviceId, runbook.symptomKeyword, runbook.content⟩

structure Stands (specs : List ScenarioSpec) (tables : Tables) : Prop where
  sound : Sound tables
  keys : keysOf tables = specs.map (·.key)
  holds : ∀ spec ∈ specs, Holds tables spec
  services : ∀ name, name ∈ tables.services.map (·.name) ↔ name ∈ specs.map (·.serviceName)
  runbooks : ∀ service ∈ tables.services, tables.runbooks.filter (·.serviceId == service.id) =
    (keptRunbooks service.name specs).map (runbookRow service.id)

theorem stands_empty : Stands [] {} := by
  constructor <;> simp [sound_empty, keysOf]

variable {specs : List ScenarioSpec} {tables : Tables} {spec : ScenarioSpec}

theorem services_seeded (stands : Stands specs tables) (spec : ScenarioSpec) (name : String) :
    name ∈ (seeded tables spec).services.map (·.name) ↔
      name ∈ (specs ++ [spec]).map (·.serviceName) := by
  rw [seeded_services, List.map_append, List.mem_append, ← stands.services]
  obtain ⟨service, mem, named, same⟩ | ⟨_, same⟩ := withService_cases tables spec
  · have own : spec.serviceName ∈ tables.services.map (·.name) :=
      named ▸ List.mem_map_of_mem mem
    rw [same]
    simp only [List.map_cons, List.map_nil, List.mem_singleton]
    exact ⟨.inl, fun either => either.elim id (· ▸ own)⟩
  · rw [same]
    simp

theorem runbooks_before (stands : Stands specs tables) {service : ServiceRow}
    (mem : service ∈ (withService tables spec).2.services) :
    tables.runbooks.filter (·.serviceId == service.id) =
      (keptRunbooks service.name specs).map (runbookRow service.id) := by
  obtain ⟨_, _, _, same⟩ | ⟨new, same⟩ := withService_cases tables spec
  · rw [same] at mem
    exact stands.runbooks service mem
  · rw [same] at mem
    obtain known | added := List.mem_append.mp mem
    · exact stands.runbooks service known
    · rw [List.mem_singleton.mp added, keptRunbooks_absent]
      · refine List.filter_eq_nil_iff.mpr fun row found own => ?_
        have below := stands.sound.runbooksBelow row found
        exact absurd (eq_of_beq own) below.ne
      · intro other mem named
        exact new ((stands.services _).mpr (List.mem_map.mpr ⟨other, mem, named⟩))

theorem missingRunbooks_eq {runbooks : List RunbookRow} {serviceId : ℕ}
    {kept : List RunbookSpec}
    (before : runbooks.filter (·.serviceId == serviceId) = kept.map (runbookRow serviceId))
    (spec : ScenarioSpec) : missingRunbooks runbooks serviceId spec =
      (spec.runbooks.filter fun runbook =>
        kept.all (·.symptomKeyword != runbook.symptomKeyword)).map (runbookRow serviceId) := by
  have empty : ∀ keyword, (runbooksOf runbooks serviceId keyword).isEmpty =
      kept.all (·.symptomKeyword != keyword) := by
    intro keyword
    have swap : runbooksOf runbooks serviceId keyword =
        (runbooks.filter (·.serviceId == serviceId)).filter (·.symptomKeyword == keyword) := by
      simp only [runbooksOf, List.filter_filter, Bool.and_comm]
    rw [swap, before, List.filter_map, List.isEmpty_map, Bool.eq_iff_iff]
    simp [runbookRow]
  simp only [missingRunbooks, empty]
  rfl

theorem runbooks_seeded (stands : Stands specs tables) {service : ServiceRow}
    (mem : service ∈ (seeded tables spec).services) :
    (seeded tables spec).runbooks.filter (·.serviceId == service.id) =
      (keptRunbooks service.name (specs ++ [spec])).map (runbookRow service.id) := by
  rw [seeded_services] at mem
  have within := sound_withService stands.sound spec
  obtain ⟨own, ownMem, ownNamed, ownId⟩ := withService_service tables spec
  rw [seeded_runbooks, List.filter_append, runbooks_before stands mem, keptRunbooks_append]
  by_cases named : spec.serviceName = service.name
  · have same : own = service := List.inj_on_of_nodup_map within.names ownMem mem
      (ownNamed.trans named)
    rw [if_pos named, ← ownId, same, missingRunbooks_eq (runbooks_before stands mem) spec,
      List.map_append, List.filter_eq_self.mpr]
    intro row found
    obtain ⟨_, _, rfl⟩ := List.mem_map.mp found
    exact beq_self_eq_true _
  · have apart : own.id ≠ service.id := fun same => named (ownNamed ▸
      congrArg ServiceRow.name (List.inj_on_of_nodup_map within.ids ownMem mem same))
    rw [if_neg named, ← ownId, List.filter_eq_nil_iff.mpr, List.append_nil]
    intro row found same
    obtain ⟨_, _, rfl⟩ := List.mem_map.mp found
    exact apart (eq_of_beq same)

theorem stands_seeded (stands : Stands specs tables) (new : spec.key ∉ keysOf tables) :
    Stands (specs ++ [spec]) (seeded tables spec) := by
  refine ⟨sound_seeded stands.sound new, ?_, fun other mem => ?_, services_seeded stands spec,
    fun service mem => runbooks_seeded stands mem⟩
  · rw [keysOf_seeded, stands.keys, List.map_append]
    rfl
  · obtain known | added := List.mem_append.mp mem
    · exact holds_seeded (stands.holds other known) spec
    · rw [List.mem_singleton.mp added]
      exact holds_seeded_self stands.sound spec

theorem stands_foldl (stands : Stands specs tables) {more : List ScenarioSpec}
    (fresh : (keysOf tables ++ more.map (·.key)).Nodup) :
    Stands (specs ++ more) (more.foldl seeded tables) := by
  induction more generalizing specs tables with
  | nil => rwa [List.append_nil]
  | cons spec more ih =>
    obtain ⟨new, fresh⟩ := fresh_cons fresh
    rw [List.append_cons]
    exact ih (stands_seeded stands new) fresh

theorem SeedHistory.stands {past : List ScenarioSpec} (history : SeedHistory past tables) :
    Stands (firsts past) tables := by
  induction history with
  | empty => exact stands_empty
  | @run past specs tables _ _ _ ok stands =>
    obtain ⟨-, rfl⟩ := seedAll_ok stands.sound ok
    have fresh := newSpecs_fresh stands.sound.keys specs
    rw [firsts, newSpecs_append, List.nil_append, ← stands.keys]
    exact stands_foldl stands fresh
  | raised earlier services scenarios stands =>
    refine ⟨sound_of_produced (.raised earlier.produced services scenarios), stands.keys,
      fun spec mem => ?_, stands.services, stands.runbooks⟩
    obtain ⟨service, known, named, id, below, row, rows⟩ := stands.holds spec mem
    exact ⟨service, known, named, id, Nat.lt_add_right _ below, row, rows⟩

def scenarioOf (services : List ServiceRow) (row : ScenarioRow) :
    Option SyntheticEnvironment.Scenario :=
  (services.find? (·.id == row.serviceId)).map fun service =>
    { id := row.id
      key := row.key
      service := ⟨service.id, service.name⟩
      title := row.title
      description := row.description
      incidentStartedAt := row.incidentStartedAt }

def environment (tables : Tables) : SyntheticEnvironment.Tables where
  scenarios := tables.scenarios.filterMap (scenarioOf tables.services)
  deployments := tables.rows.deployments.map fun row =>
    ⟨row.scenarioId, row.version, row.deployedAt, row.diffSummary⟩
  metricPoints := tables.rows.metricPoints.map fun row =>
    ⟨row.scenarioId, row.metricName, row.timestamp, row.value⟩
  logEntries := tables.rows.logEntries.map fun row =>
    ⟨row.scenarioId, row.timestamp, row.level, row.message⟩
  dependencyStatuses := tables.rows.dependencyStatuses.map fun row =>
    ⟨row.scenarioId, row.dependencyName, row.status, row.checkedAt⟩
  runbooks := tables.runbooks.map fun row => ⟨row.serviceId, row.symptomKeyword, row.content⟩

def authoredScenario (spec : ScenarioSpec) (serviceId scenarioId : ℕ) :
    SyntheticEnvironment.Scenario where
  id := scenarioId
  key := spec.key
  service := ⟨serviceId, spec.serviceName⟩
  title := spec.title
  description := spec.description
  incidentStartedAt := spec.incidentStartedAt

/-- Nothing but the definition's own rows and its service's runbooks, under id 0. -/
def authored (py : Platform) (specs : List ScenarioSpec) (spec : ScenarioSpec) : ToolContext where
  py := py
  tables := environment
    { rows := scenarioRows spec 0 0
      runbooks := (keptRunbooks spec.serviceName specs).map (runbookRow 0) }
  scenario := authoredScenario spec 0 0

def anonymous (ctx : ToolContext) : ToolContext where
  py := ctx.py
  tables :=
    { scenarios := []
      deployments := (ctx.tables.deployments.filter (·.scenarioId == ctx.scenario.id)).map
        ({ · with scenarioId := 0 })
      metricPoints := (ctx.tables.metricPoints.filter (·.scenarioId == ctx.scenario.id)).map
        ({ · with scenarioId := 0 })
      logEntries := (ctx.tables.logEntries.filter (·.scenarioId == ctx.scenario.id)).map
        ({ · with scenarioId := 0 })
      dependencyStatuses := (ctx.tables.dependencyStatuses.filter
        (·.scenarioId == ctx.scenario.id)).map ({ · with scenarioId := 0 })
      runbooks := (ctx.tables.runbooks.filter (·.serviceId == ctx.scenario.service.id)).map
        ({ · with serviceId := 0 }) }
  scenario := { ctx.scenario with id := 0, service := { ctx.scenario.service with id := 0 } }

section
variable {Row Key : Type} [LE Key] [DecidableLE Key] {erase : Row → Row} {own own' : Row → Bool}
  {key : Row → Key}

omit [LE Key] [DecidableLE Key] in
theorem filter_erased (renamed : ∀ row, own' (erase row) = true) {wanted : Row → Bool}
    (same : ∀ row, wanted (erase row) = wanted row) (rows : List Row) :
    ((rows.filter own).map erase).filter (fun row => own' row && wanted row) =
      (rows.filter fun row => own row && wanted row).map erase := by
  rw [List.filter_map, List.filter_filter]
  simp only [Function.comp_def, renamed, same, Bool.true_and, Bool.and_comm]

omit [LE Key] [DecidableLE Key] in
theorem filter_renamed (renamed : ∀ row, own' (erase row) = true) (rows : List Row) :
    (rows.map erase).filter own' = rows.map erase := by
  refine List.filter_eq_self.mpr fun row mem => ?_
  obtain ⟨old, _, rfl⟩ := List.mem_map.mp mem
  exact renamed old

theorem orderBy_erased (same : ∀ row, key (erase row) = key row) (rows : List Row) :
    SyntheticEnvironment.orderBy key (rows.map erase) =
      (SyntheticEnvironment.orderBy key rows).map erase :=
  (List.map_insertionSort _ _ _ _ fun _ _ _ _ => by simp only [same]).symm

end

variable (ctx : ToolContext)

theorem getMetrics_anonymous (args : GetMetricsArgs) :
    getMetrics (anonymous ctx) args = getMetrics ctx args := by
  simp only [getMetrics, anonymous, Bool.and_assoc]
  rw [filter_erased, orderBy_erased, List.map_map]
  · rfl
  all_goals exact fun _ => rfl

theorem getLogs_anonymous (args : GetLogsArgs) :
    getLogs (anonymous ctx) args = getLogs ctx args := by
  simp only [getLogs, anonymous, Bool.and_assoc]
  rw [filter_erased, orderBy_erased, ← List.map_take, List.map_map]
  · rfl
  all_goals exact fun _ => rfl

theorem getRecentDeployments_anonymous (args : GetRecentDeploymentsArgs) :
    getRecentDeployments (anonymous ctx) args = getRecentDeployments ctx args := by
  simp only [getRecentDeployments, anonymous]
  rw [filter_erased, orderBy_erased, List.map_map]
  · rfl
  all_goals exact fun _ => rfl

theorem getDependencyStatus_anonymous (args : GetDependencyStatusArgs) :
    getDependencyStatus (anonymous ctx) args = getDependencyStatus ctx args := by
  simp only [getDependencyStatus, anonymous]
  rw [filter_renamed, orderBy_erased, List.map_map]
  · rfl
  all_goals exact fun _ => rfl

theorem getRunbook_anonymous (args : GetRunbookArgs) :
    getRunbook (anonymous ctx) args = getRunbook ctx args := by
  have answer : ∀ ctx : ToolContext, getRunbook ctx args = runbookAnswer args
      ((ctx.tables.runbooks.filter (selectsRunbook ctx)).find? (matchesKeyword ctx args)) :=
    fun _ => rfl
  rw [answer, answer, runbookAnswer_eq_iff]
  simp only [anonymous]
  rw [filter_renamed fun _ => rfl, List.find?_map, Option.map_map]
  rfl

theorem toolSpec_anonymous {Args : Type} {name : String}
    {modelValidate : Platform → Json → Except String Args} {modelDump : Args → Json}
    {handler : ToolContext → Args → Json}
    (same : ∀ args, handler (anonymous ctx) args = handler ctx args) (input : Json) :
    (toolSpec name modelValidate modelDump handler).validate (anonymous ctx) input =
      (toolSpec name modelValidate modelDump handler).validate ctx input := by
  simp only [toolSpec, same]
  rfl

theorem tools_anonymous {tool : ToolSpec} (listed : tool ∈ toolRegistry) (input : Json) :
    tool.validate (anonymous ctx) input = tool.validate ctx input := by
  simp only [toolRegistry, List.mem_cons, List.not_mem_nil, or_false] at listed
  rcases listed with rfl | rfl | rfl | rfl | rfl
  · exact toolSpec_anonymous ctx (getMetrics_anonymous ctx) input
  · exact toolSpec_anonymous ctx (getLogs_anonymous ctx) input
  · exact toolSpec_anonymous ctx (getRecentDeployments_anonymous ctx) input
  · exact toolSpec_anonymous ctx (getDependencyStatus_anonymous ctx) input
  · exact toolSpec_anonymous ctx (getRunbook_anonymous ctx) input

theorem result_anonymous (call : HandlerCall) : call.result (anonymous ctx) = call.result ctx := by
  cases call with
  | getMetrics args => exact getMetrics_anonymous ctx args
  | getLogs args => exact getLogs_anonymous ctx args
  | getRecentDeployments args => exact getRecentDeployments_anonymous ctx args
  | getDependencyStatus args => exact getDependencyStatus_anonymous ctx args
  | getRunbook args => exact getRunbook_anonymous ctx args

theorem reordered_anonymous {stored : SyntheticEnvironment.Tables}
    (reordered : Reordered ctx.tables stored) :
    Reordered (anonymous ctx).tables (anonymous { ctx with tables := stored }).tables where
  scenarios := .refl _
  deployments := (reordered.deployments.filter _).map _
  metricPoints := (reordered.metricPoints.filter _).map _
  logEntries := (reordered.logEntries.filter _).map _
  dependencyStatuses := (reordered.dependencyStatuses.filter _).map _
  runbooks := (reordered.runbooks.filter _).map _

/-- Each definition's scenario, under the ids that it was given. -/
theorem Stands.scenario (stands : Stands specs tables) (mem : spec ∈ specs) :
    ∃ service ∈ tables.services, service.name = spec.serviceName ∧ ∃ id,
      tables.scenarios.filter (·.key == spec.key) = [scenarioRow spec service.id id] ∧
      tables.rows.of id = scenarioRows spec service.id id := by
  obtain ⟨service, known, named, id, -, row, rows⟩ := stands.holds spec mem
  exact ⟨service, known, named, id, filter_eq_singleton stands.sound.keys row, rows⟩

theorem environment_scenario (sound : Sound tables) {service : ServiceRow} {id : ℕ}
    (known : service ∈ tables.services) (named : service.name = spec.serviceName)
    (row : tables.scenarios.filter (·.key == spec.key) = [scenarioRow spec service.id id]) :
    (environment tables).scenarios.find? (·.key == spec.key) =
      some (authoredScenario spec service.id id) := by
  have joined : scenarioOf tables.services (scenarioRow spec service.id id) =
      some (authoredScenario spec service.id id) := by
    have found : tables.services.find? (·.id == service.id) = some service := by
      rw [← List.head?_filter, filter_eq_singleton sound.ids known]
      rfl
    simp only [scenarioOf, scenarioRow, found, Option.map_some, named]
    rfl
  have keyed : ∀ other ∈ tables.scenarios, other.key = spec.key →
      other = scenarioRow spec service.id id := by
    intro other mem same
    have both : other ∈ tables.scenarios.filter (·.key == spec.key) :=
      List.mem_filter.mpr ⟨mem, beq_iff_eq.mpr same⟩
    rw [row] at both
    exact List.mem_singleton.mp both
  have mem : scenarioRow spec service.id id ∈ tables.scenarios :=
    List.mem_of_mem_filter (row ▸ List.mem_singleton_self _)
  rw [environment, List.find?_filterMap]
  cases found : tables.scenarios.find?
      (fun row => (scenarioOf tables.services row).any (·.key == spec.key)) with
  | none =>
    have missed := List.find?_eq_none.mp found _ mem
    rw [joined] at missed
    exact absurd (beq_self_eq_true spec.key) missed
  | some other =>
    have keeps := List.find?_some found
    obtain ⟨scenario, loaded, same⟩ := Option.any_eq_true _ _ |>.mp keeps
    have key : scenario.key = other.key := by
      obtain ⟨_, _, rfl⟩ := Option.map_eq_some_iff.mp loaded
      rfl
    rw [keyed other (List.mem_of_find?_eq_some found) (key ▸ eq_of_beq same)]
    exact joined

theorem environment_missing {key : String} (missing : key ∉ keysOf tables) :
    (environment tables).scenarios.find? (·.key == key) = none := by
  refine List.find?_eq_none.mpr fun scenario mem same => missing ?_
  obtain ⟨row, written, loaded⟩ := List.mem_filterMap.mp mem
  obtain ⟨_, _, rfl⟩ := Option.map_eq_some_iff.mp loaded
  exact eq_of_beq same ▸ List.mem_map_of_mem written

theorem anonymous_environment (py : Platform) (stands : Stands specs tables)
    {service : ServiceRow} {id : ℕ} (known : service ∈ tables.services)
    (named : service.name = spec.serviceName)
    (rows : tables.rows.of id = scenarioRows spec service.id id) :
    anonymous ⟨py, environment tables, authoredScenario spec service.id id⟩ =
      authored py specs spec := by
  have deployments := congrArg ScenarioRows.deployments rows
  have metricPoints := congrArg ScenarioRows.metricPoints rows
  have logEntries := congrArg ScenarioRows.logEntries rows
  have dependencyStatuses := congrArg ScenarioRows.dependencyStatuses rows
  have runbooks := stands.runbooks service known
  simp only [ScenarioRows.of, scenarioRows] at deployments metricPoints
  simp only [ScenarioRows.of, scenarioRows] at logEntries dependencyStatuses
  rw [named] at runbooks
  simp only [anonymous, authored, environment, authoredScenario, scenarioRows, List.filter_map,
    Function.comp_def, deployments, metricPoints, logEntries, dependencyStatuses, runbooks,
    List.map_map, List.map_flatMap, SeedGenerator.metricPoints, runbookRow, List.filterMap_nil]

theorem mem_firsts {past : List ScenarioSpec} :
    spec ∈ firsts past ↔ past.find? (·.key == spec.key) = some spec := by
  simp [firsts, mem_newSpecs]

theorem keys_firsts (past : List ScenarioSpec) (key : String) :
    key ∈ (firsts past).map (·.key) ↔ key ∈ past.map (·.key) := by
  constructor
  · intro mem
    obtain ⟨spec, first, rfl⟩ := List.mem_map.mp mem
    exact List.mem_map_of_mem (List.mem_of_find?_eq_some (mem_firsts.mp first))
  · intro mem
    obtain ⟨spec, written, rfl⟩ := List.mem_map.mp mem
    exact key_mem_newSpecs [] written

theorem SeedHistory.missing {past : List ScenarioSpec} (history : SeedHistory past tables)
    {key : String} (unseen : key ∉ past.map (·.key)) : key ∉ keysOf tables := by
  rw [history.stands.keys, keys_firsts]
  exact unseen

theorem SeedHistory.scenario (py : Platform) {past : List ScenarioSpec}
    (history : SeedHistory past tables) (first : past.find? (·.key == spec.key) = some spec) :
    ∃ scenario, (environment tables).scenarios.find? (·.key == spec.key) = some scenario ∧
      anonymous ⟨py, environment tables, scenario⟩ = authored py (firsts past) spec := by
  have stands := history.stands
  obtain ⟨service, known, named, id, row, rows⟩ := stands.scenario (mem_firsts.mpr first)
  exact ⟨authoredScenario spec service.id id, environment_scenario stands.sound known named row,
    anonymous_environment py stands known named rows⟩

/-- Whatever was seeded before or after, whatever ids were given out and in whatever order the
database has the rows: a tool that is bound to the scenario of a key answers as the first
definition of that key has it, with the definition's rows in some order, which does not show where
ties are harmless. It knows no runbook but those that definitions of its service brought. -/
theorem seeded_tools (py : Platform) {past : List ScenarioSpec}
    (history : SeedHistory past tables) (first : past.find? (·.key == spec.key) = some spec)
    {stored : SyntheticEnvironment.Tables} (reordered : Reordered (environment tables) stored) :
    ∃ scenario, (environment tables).scenarios.find? (·.key == spec.key) = some scenario ∧
      scenario.title = spec.title ∧ scenario.description = spec.description ∧
      scenario.service.name = spec.serviceName ∧
      (∃ rows, Reordered (authored py (firsts past) spec).tables rows ∧
        ∀ tool ∈ toolRegistry, ∀ input, tool.validate ⟨py, stored, scenario⟩ input =
          tool.validate { authored py (firsts past) spec with tables := rows } input) ∧
      ∀ call, TiesHarmless (authored py (firsts past) spec) call →
        call.result ⟨py, stored, scenario⟩ = call.result (authored py (firsts past) spec) := by
  obtain ⟨scenario, found, same⟩ := history.scenario py first
  have rows := reordered_anonymous ⟨py, environment tables, scenario⟩ reordered
  have moved : anonymous ⟨py, stored, scenario⟩ = { authored py (firsts past) spec with
      tables := (anonymous ⟨py, stored, scenario⟩).tables } := by
    rw [← same]
    rfl
  rw [same] at rows
  refine ⟨scenario, found, congrArg (·.scenario.title) same,
    congrArg (·.scenario.description) same, congrArg (·.scenario.service.name) same,
    ⟨_, rows, fun tool listed input => ?_⟩, fun call harmless => ?_⟩
  · rw [← tools_anonymous _ listed, moved]
  · rw [← result_anonymous, moved]
    exact reproducible_of_harmless harmless _ rows

set_option maxRecDepth 2000 in
theorem checkoutDeployOutageSpec_fits (tables : Tables) (key : String)
    (short : varchar 64 key = true) :
    Fits tables { checkoutDeployOutageSpec with key := key } := by
  have service : ServiceRow.fits ⟨0, checkoutDeployOutageSpec.serviceName,
      checkoutDeployOutageSpec.serviceDescription⟩ = true := by
    simp only [ServiceRow.fits, checkoutDeployOutageSpec, Bool.and_eq_true]
    exact ⟨(varchar_ofList _ _).trans (by decide +kernel),
      (text_ofList _).trans (by decide +kernel)⟩
  refine ⟨?_, ?_, ?_, fun row mem => ?_⟩
  · rw [serviceFits, Bool.or_eq_true]
    exact .inr service
  · simp only [ScenarioRow.fits, scenarioRow, short, groundTruth, jsonb, jsonbItems, jsonbFields,
      checkoutDeployOutageSpec, SyntheticEnvironment.checkoutDeployOutage, text_append,
      Bool.true_and, Bool.and_true, Bool.and_eq_true, List.map]
    and_intros
    all_goals exact (text_ofList _).trans (by decide +kernel)
  · simp only [ScenarioRows.fits, scenarioRows, metricPoints, checkoutDeployOutageSpec, List.map,
      List.all, List.all_append, DeploymentRow.fits, MetricPointRow.fits, LogEntryRow.fits,
      DependencyStatusRow.fits, List.flatMap_cons, List.flatMap_nil, List.zipIdx, Bool.and_true,
      Bool.and_eq_true]
    and_intros
    all_goals exact (text_ofList _).trans (by decide +kernel)
  · obtain ⟨runbook, missing, rfl⟩ := List.mem_map.mp mem
    rw [List.mem_singleton.mp (List.mem_filter.mp missing).1]
    simp only [RunbookRow.fits, text_append, Bool.and_eq_true]
    and_intros
    all_goals exact (text_ofList _).trans (by decide +kernel)
theorem seedAll_one {tables : Tables} {specs : List ScenarioSpec} {spec : ScenarioSpec}
    (sound : Sound tables) (distinct : Distinct tables)
    (alone : newSpecs (keysOf tables) specs = [spec]) (fits : Fits tables spec) :
    seedAll specs tables = .ok (1, seededAll tables specs) := by
  rw [seedAll_exists specs sound, alone]
  · rfl
  · intro before other after split
    rw [alone] at split
    obtain ⟨rfl, same⟩ | ⟨_, rfl, none⟩ := List.cons_eq_append_iff.mp split
    · obtain ⟨rfl, -⟩ := List.cons.inj same
      exact ⟨unambiguous_of_distinct distinct _, fits⟩
    · simp at none

theorem checkoutDeployOutageSpec_seeded : seedAll [checkoutDeployOutageSpec] {} =
    .ok (1, seededAll {} [checkoutDeployOutageSpec]) :=
  seedAll_one sound_empty List.nodup_nil rfl
    (checkoutDeployOutageSpec_fits {} checkoutDeployOutageSpec.key
      ((varchar_ofList _ _).trans (by decide +kernel)))

/-- A scenario seeded again under its key, with another story and without its logs. -/
def revisedSpec : ScenarioSpec :=
  { checkoutDeployOutageSpec with title := "Checkout latency", logs := [] }

def repeatedSpec : ScenarioSpec := { checkoutDeployOutageSpec with key := "checkout-again" }

def seededTwice : Tables :=
  seededAll { seededAll {} [checkoutDeployOutageSpec] with nextScenarioId := 5 }
    [revisedSpec, repeatedSpec]

theorem seededTwice_history :
    SeedHistory [checkoutDeployOutageSpec, revisedSpec, repeatedSpec] seededTwice := by
  have twice : seedAll [revisedSpec, repeatedSpec]
      { seededAll {} [checkoutDeployOutageSpec] with nextScenarioId := 5 } =
        .ok (1, seededTwice) := by
    have produced : Produced { seededAll {} [checkoutDeployOutageSpec] with nextScenarioId := 5 } :=
      .raised (.run .empty checkoutDeployOutageSpec_seeded) 0 3
    refine seedAll_one (sound_of_produced produced) (List.nodup_singleton _) rfl
      (checkoutDeployOutageSpec_fits _ "checkout-again" ?_)
    exact (varchar_ofList _ _).trans (by decide +kernel)
  exact .run (.raised (.run .empty checkoutDeployOutageSpec_seeded) 0 3) twice

def reversedLogs : SyntheticEnvironment.Tables :=
  { environment seededTwice with logEntries := (environment seededTwice).logEntries.reverse }

theorem seeded_tools_revised : ∃ scenario,
    (environment seededTwice).scenarios.find? (·.key == checkoutDeployOutageSpec.key) =
      some scenario ∧
    scenario.title = checkoutDeployOutageSpec.title ∧
    scenario.description = checkoutDeployOutageSpec.description ∧
    scenario.service.name = checkoutDeployOutageSpec.serviceName ∧
    (∃ rows, Reordered (authored Platform.ascii [checkoutDeployOutageSpec, repeatedSpec]
        checkoutDeployOutageSpec).tables rows ∧
      ∀ tool ∈ toolRegistry, ∀ input,
        tool.validate ⟨Platform.ascii, reversedLogs, scenario⟩ input =
          tool.validate { authored Platform.ascii [checkoutDeployOutageSpec, repeatedSpec]
            checkoutDeployOutageSpec with tables := rows } input) ∧
    ∀ call, TiesHarmless (authored Platform.ascii [checkoutDeployOutageSpec, repeatedSpec]
        checkoutDeployOutageSpec) call →
      call.result ⟨Platform.ascii, reversedLogs, scenario⟩ =
        call.result (authored Platform.ascii [checkoutDeployOutageSpec, repeatedSpec]
          checkoutDeployOutageSpec) :=
  seeded_tools Platform.ascii seededTwice_history rfl
    { Reordered.refl _ with logEntries := List.reverse_perm _ }

/-- `GET /services` -/
def listServices (tables : Tables) : List ServiceRow :=
  SyntheticEnvironment.orderBy (·.name) tables.services

/-- `GET /scenarios` -/
def listScenarios (tables : Tables) : List ScenarioRow :=
  SyntheticEnvironment.orderBy (·.key) tables.scenarios

structure ScenarioDetail where
  id : ℕ
  key : String
  serviceId : ℕ
  title : String
  description : String
  injectedCause : String
  incidentStartedAt : ℤ
  groundTruth : Json
  deploymentCount : ℕ
  metricPointCount : ℕ
  logEntryCount : ℕ
  dependencyStatusCount : ℕ

/-- `GET /scenarios/{key}` -/
def getScenario (key : String) (tables : Tables) : Except Error ScenarioDetail :=
  match oneOrNone (tables.scenarios.filter (·.key == key)) with
  | .error _ =>
    .error (.other "Multiple rows were found when one or none was required")
  | .ok none => .error (.http 404 ("No scenario with key '" ++ key ++ "'."))
  | .ok (some scenario) => .ok
    { id := scenario.id
      key := scenario.key
      serviceId := scenario.serviceId
      title := scenario.title
      description := scenario.description
      injectedCause := scenario.injectedCause
      incidentStartedAt := scenario.incidentStartedAt
      groundTruth := scenario.groundTruth
      deploymentCount :=
        (tables.rows.deployments.filter (·.scenarioId == scenario.id)).length
      metricPointCount :=
        (tables.rows.metricPoints.filter (·.scenarioId == scenario.id)).length
      logEntryCount := (tables.rows.logEntries.filter (·.scenarioId == scenario.id)).length
      dependencyStatusCount :=
        (tables.rows.dependencyStatuses.filter (·.scenarioId == scenario.id)).length }

def detailOf (spec : ScenarioSpec) (serviceId scenarioId : ℕ) : ScenarioDetail where
  id := scenarioId
  key := spec.key
  serviceId := serviceId
  title := spec.title
  description := spec.description
  injectedCause := spec.injectedCause
  incidentStartedAt := spec.incidentStartedAt
  groundTruth := groundTruth spec.groundTruth
  deploymentCount := spec.deployments.length
  metricPointCount := (spec.metricSeries.map (·.values.length)).sum
  logEntryCount := spec.logs.length
  dependencyStatusCount := spec.dependencyStatuses.length

theorem getScenario_stands (stands : Stands specs tables) (mem : spec ∈ specs) :
    ∃ service ∈ tables.services, service.name = spec.serviceName ∧ ∃ id,
      getScenario spec.key tables = .ok (detailOf spec service.id id) := by
  obtain ⟨service, known, named, id, row, rows⟩ := stands.scenario mem
  refine ⟨service, known, named, id, ?_⟩
  have points := congrArg (·.metricPoints.length) rows
  have deployments := congrArg (·.deployments.length) rows
  have logs := congrArg (·.logEntries.length) rows
  have statuses := congrArg (·.dependencyStatuses.length) rows
  simp only [ScenarioRows.of, scenarioRows, List.length_map, List.length_flatMap,
    SeedGenerator.metricPoints, List.length_zipIdx] at points deployments logs statuses
  simp only [getScenario, row, oneOrNone, scenarioRow, points, deployments, logs, statuses]
  rfl

theorem getScenario_missing {key : String} (missing : key ∉ keysOf tables) :
    getScenario key tables = .error (.http 404 ("No scenario with key '" ++ key ++ "'.")) := by
  have none : tables.scenarios.filter (·.key == key) = [] := by
    refine List.filter_eq_nil_iff.mpr fun row mem same => missing ?_
    exact eq_of_beq same ▸ List.mem_map_of_mem mem
  rw [getScenario, none]
  rfl

theorem orderBy_strict {Row : Type} {field : Row → String} {rows : List Row}
    (distinct : (rows.map field).Nodup) :
    ((SyntheticEnvironment.orderBy field rows).map field).Pairwise (· < ·) := by
  have ordered : (RowOrder.sorted field rows).Pairwise fun a b => field a ≤ field b :=
    RowOrder.sorted_pairwise field rows
  have perm := (RowOrder.sorted_perm field rows).map field
  have apart := List.pairwise_map.mp (perm.nodup_iff.mpr distinct)
  refine List.pairwise_map.mpr (ordered.imp₂ (fun a b below apart => ?_) apart)
  exact lt_of_le_of_ne below apart

/-- What the routes answer after runs over these definitions. -/
structure Inspected (past : List ScenarioSpec) (tables : Tables) : Prop where
  detail : ∀ spec, past.find? (·.key == spec.key) = some spec →
    ∃ service ∈ listServices tables, service.name = spec.serviceName ∧ ∃ id,
      getScenario spec.key tables = .ok (detailOf spec service.id id)
  missing : ∀ key, key ∉ past.map (·.key) →
    getScenario key tables = .error (.http 404 ("No scenario with key '" ++ key ++ "'."))
  scenarios : ((listScenarios tables).map (·.key)).Pairwise (· < ·) ∧
    ∀ key, key ∈ (listScenarios tables).map (·.key) ↔ key ∈ past.map (·.key)
  services : ((listServices tables).map (·.name)).Pairwise (· < ·) ∧
    ∀ name, name ∈ (listServices tables).map (·.name) ↔ name ∈ (firsts past).map (·.serviceName)

/-- After any runs of `seed_all` the routes show every key that was seeded once, with what its
first definition says, and nothing under any other key. -/
theorem seeded_inspected {past : List ScenarioSpec} (history : SeedHistory past tables) :
    Inspected past tables := by
  have stands := history.stands
  have services := RowOrder.sorted_perm ServiceRow.name tables.services
  refine ⟨fun spec first => ?_, fun key unseen => ?_,
    ⟨orderBy_strict stands.sound.keys, fun key => ?_⟩,
    ⟨orderBy_strict stands.sound.names, fun name => ?_⟩⟩
  · obtain ⟨service, known, named, id, shown⟩ := getScenario_stands stands (mem_firsts.mpr first)
    exact ⟨service, services.mem_iff.mpr known, named, id, shown⟩
  · exact getScenario_missing (history.missing unseen)
  · rw [← keys_firsts, ← stands.keys]
    exact ((RowOrder.sorted_perm ScenarioRow.key tables.scenarios).map (·.key)).mem_iff
  · rw [← stands.services]
    exact (services.map (·.name)).mem_iff

theorem seeded_inspected_revised :
    Inspected [checkoutDeployOutageSpec, revisedSpec, repeatedSpec] seededTwice ∧
      getScenario "checkout-again" seededTwice = .ok (detailOf repeatedSpec 1 5) :=
  ⟨seeded_inspected seededTwice_history, rfl⟩

end OpsPilot.SeededScenarios
