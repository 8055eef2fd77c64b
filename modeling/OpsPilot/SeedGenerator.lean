import OpsPilot.Columns
import OpsPilot.ScenarioSpecs

/-! Seeding the tables from scenario definitions, in one session whose pending rows no query sees
until they are flushed. -/

namespace OpsPilot.SeedGenerator
open JsonText Columns ScenarioSpecs

structure ServiceRow where
  id : ℕ
  name : String
  description : String

def ServiceRow.fits (row : ServiceRow) : Bool :=
  varchar 64 row.name && text row.description

structure ScenarioRow where
  id : ℕ
  key : String
  serviceId : ℕ
  title : String
  description : String
  injectedCause : String
  incidentStartedAt : ℤ
  groundTruth : Json

def ScenarioRow.fits (row : ScenarioRow) : Bool :=
  varchar 64 row.key && varchar 200 row.title && text row.description &&
    text row.injectedCause && jsonb row.groundTruth

structure DeploymentRow where
  scenarioId : ℕ
  serviceId : ℕ
  version : String
  deployedAt : ℤ
  diffSummary : String

def DeploymentRow.fits (row : DeploymentRow) : Bool :=
  varchar 32 row.version && text row.diffSummary

structure MetricPointRow where
  scenarioId : ℕ
  serviceId : ℕ
  metricName : String
  timestamp : ℤ
  value : ℚ

def MetricPointRow.fits (row : MetricPointRow) : Bool :=
  varchar 32 row.metricName

structure LogEntryRow where
  scenarioId : ℕ
  serviceId : ℕ
  timestamp : ℤ
  level : String
  message : String

def LogEntryRow.fits (row : LogEntryRow) : Bool :=
  varchar 16 row.level && text row.message

structure DependencyStatusRow where
  scenarioId : ℕ
  dependencyName : String
  status : String
  checkedAt : ℤ

def DependencyStatusRow.fits (row : DependencyStatusRow) : Bool :=
  varchar 64 row.dependencyName && varchar 16 row.status

structure RunbookRow where
  serviceId : ℕ
  symptomKeyword : String
  content : String

def RunbookRow.fits (row : RunbookRow) : Bool :=
  varchar 64 row.symptomKeyword && text row.content

structure ScenarioRows where
  deployments : List DeploymentRow := []
  metricPoints : List MetricPointRow := []
  logEntries : List LogEntryRow := []
  dependencyStatuses : List DependencyStatusRow := []

namespace ScenarioRows

def append (rows more : ScenarioRows) : ScenarioRows where
  deployments := rows.deployments ++ more.deployments
  metricPoints := rows.metricPoints ++ more.metricPoints
  logEntries := rows.logEntries ++ more.logEntries
  dependencyStatuses := rows.dependencyStatuses ++ more.dependencyStatuses

/-- The rows of one scenario. -/
def of (scenarioId : ℕ) (rows : ScenarioRows) : ScenarioRows where
  deployments := rows.deployments.filter (·.scenarioId == scenarioId)
  metricPoints := rows.metricPoints.filter (·.scenarioId == scenarioId)
  logEntries := rows.logEntries.filter (·.scenarioId == scenarioId)
  dependencyStatuses := rows.dependencyStatuses.filter (·.scenarioId == scenarioId)

def fits (rows : ScenarioRows) : Bool :=
  rows.deployments.all DeploymentRow.fits && rows.metricPoints.all MetricPointRow.fits &&
    rows.logEntries.all LogEntryRow.fits && rows.dependencyStatuses.all DependencyStatusRow.fits

end ScenarioRows

/-- What is committed, or flushed in the running transaction. -/
structure Tables where
  services : List ServiceRow := []
  scenarios : List ScenarioRow := []
  rows : ScenarioRows := {}
  runbooks : List RunbookRow := []
  nextServiceId : ℕ := 1
  nextScenarioId : ℕ := 1

structure Session where
  tables : Tables
  pendingRows : ScenarioRows := {}
  pendingRunbooks : List RunbookRow := []

inductive SeedError where
  | multipleResultsFound
  /-- A pending row does not fit its columns. U+0000 is refused by a query already; here it is by
  the flush of the row that the query was for. -/
  | dataError

/-- The pending rows are such that the database takes them. -/
def Session.fits (session : Session) : Bool :=
  session.pendingRows.fits && session.pendingRunbooks.all RunbookRow.fits

def Session.flush (session : Session) : Session where
  tables :=
    { session.tables with
      rows := session.tables.rows.append session.pendingRows
      runbooks := session.tables.runbooks ++ session.pendingRunbooks }

/-- `session.add(service)` and `session.flush()` -/
def Session.addService (session : Session) (name description : String) :
    Except SeedError Session :=
  let service : ServiceRow := ⟨session.tables.nextServiceId, name, description⟩
  if session.fits && service.fits then
    .ok { tables :=
      { session.flush.tables with
        services := session.tables.services ++ [service]
        nextServiceId := session.tables.nextServiceId + 1 } }
  else .error .dataError

/-- `session.add(scenario)` and `session.flush()` -/
def Session.addScenario (session : Session) (scenario : ScenarioRow) : Except SeedError Session :=
  if session.fits && scenario.fits then
    .ok { tables :=
      { session.flush.tables with
        scenarios := session.tables.scenarios ++ [scenario]
        nextScenarioId := session.tables.nextScenarioId + 1 } }
  else .error .dataError

/-- `session.commit()` -/
def Session.commit (session : Session) : Except SeedError Tables :=
  if session.fits then .ok session.flush.tables else .error .dataError

/-- `.one_or_none()` -/
def oneOrNone {Row : Type} : List Row → Except SeedError (Option Row)
  | [] => .ok none
  | [row] => .ok (some row)
  | _ :: _ :: _ => .error .multipleResultsFound

def getOrCreateService (session : Session) (name description : String) :
    Except SeedError (ℕ × Session) := do
  match ← oneOrNone (session.tables.services.filter (·.name == name)) with
  | some existing => return (existing.id, session)
  | none => return (session.tables.nextServiceId, ← session.addService name description)

def groundTruth (truth : GroundTruthSpec) : Json :=
  .obj [("expected_evidence", .arr (truth.expectedEvidence.map .str)),
    ("expected_diagnosis", .str truth.expectedDiagnosis),
    ("expected_action", .str truth.expectedAction),
    ("expected_policy_verdict", .str truth.expectedPolicyVerdict), ("notes", .str truth.notes)]

def scenarioRow (spec : ScenarioSpec) (serviceId scenarioId : ℕ) : ScenarioRow where
  id := scenarioId
  key := spec.key
  serviceId := serviceId
  title := spec.title
  description := spec.description
  injectedCause := spec.injectedCause
  incidentStartedAt := spec.incidentStartedAt
  groundTruth := groundTruth spec.groundTruth

def minute : ℤ := 60000000

/-- The `i`-th value of a series at `start + i * step_minutes`. -/
def metricPoints (serviceId scenarioId : ℕ) (series : MetricSeriesSpec) : List MetricPointRow :=
  series.values.zipIdx.map fun (value, i) =>
    ⟨scenarioId, serviceId, series.metricName, series.start + series.stepMinutes * i * minute, value⟩

def scenarioRows (spec : ScenarioSpec) (serviceId scenarioId : ℕ) : ScenarioRows where
  deployments := spec.deployments.map fun deployment =>
    ⟨scenarioId, serviceId, deployment.version, deployment.deployedAt, deployment.diffSummary⟩
  metricPoints := spec.metricSeries.flatMap (metricPoints serviceId scenarioId)
  logEntries := spec.logs.map fun log =>
    ⟨scenarioId, serviceId, log.timestamp, log.level, log.message⟩
  dependencyStatuses := spec.dependencyStatuses.map fun status =>
    ⟨scenarioId, status.dependencyName, status.status, status.checkedAt⟩

def Session.addRows (session : Session) (rows : ScenarioRows) : Session :=
  { session with pendingRows := session.pendingRows.append rows }

def runbooksOf (runbooks : List RunbookRow) (serviceId : ℕ) (keyword : String) : List RunbookRow :=
  runbooks.filter fun row => row.serviceId == serviceId && row.symptomKeyword == keyword

def addRunbook (serviceId : ℕ) (session : Session) (runbook : RunbookSpec) :
    Except SeedError Session :=
  match oneOrNone (runbooksOf session.tables.runbooks serviceId runbook.symptomKeyword) with
  | .error e => .error e
  | .ok (some _) => .ok session
  | .ok none => .ok { session with
      pendingRunbooks := session.pendingRunbooks ++
        [⟨serviceId, runbook.symptomKeyword, runbook.content⟩] }

def seedScenario (session : Session) (spec : ScenarioSpec) : Except SeedError Session := do
  match ← oneOrNone (session.tables.scenarios.filter (·.key == spec.key)) with
  | some _ => return session
  | none =>
    let (serviceId, session) ← getOrCreateService session spec.serviceName spec.serviceDescription
    let scenarioId := session.tables.nextScenarioId
    let session ← session.addScenario (scenarioRow spec serviceId scenarioId)
    spec.runbooks.foldlM (addRunbook serviceId)
      (session.addRows (scenarioRows spec serviceId scenarioId))

/-- One round of the loop in `seed_all`. -/
def seedNext (state : ℕ × Session) (spec : ScenarioSpec) : Except SeedError (ℕ × Session) :=
  let before := (state.2.tables.scenarios.filter (·.key == spec.key)).length
  (seedScenario state.2 spec).map fun session =>
    (if before = 0 then state.1 + 1 else state.1, session)

def seedAll (specs : List ScenarioSpec) (tables : Tables) : Except SeedError (ℕ × Tables) := do
  let (seeded, session) ← specs.foldlM seedNext (0, { tables := tables })
  return (seeded, ← session.commit)

end OpsPilot.SeedGenerator
