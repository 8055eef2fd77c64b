import OpsPilot.Investigation

/-! The incident endpoints. A request works on a snapshot of the incident row that its session
loaded; a commit expires the snapshot, and the next use of it loads the row again. -/

namespace OpsPilot.IncidentApi
open JsonText AgentSchemas SyntheticEnvironment RemediationTools InvestigationState Models
open GraphNodes Memory Investigation DurableProgram

/-- The process that serves a request, and the time at which it does. -/
structure Server where
  processInstanceId : String
  now : ℤ

structure ApprovalDecision where
  approved : Bool
  actor : String
  params : Option Json := none

structure IncidentDetail where
  id : ℕ
  incident : Incident
  scenarioKey : String
  serviceName : String

inductive EntryKind where
  | incidentStarted
  | evidenceGathered
  | diagnosisFormed
  | approvalRequested
  | approvalDecided
  | finalStatus
deriving DecidableEq

structure TimelineEntry where
  kind : EntryKind
  step : Option ℕ
  label : String
  detail : Option Json
  timestamp : Option ℤ

inductive Response where
  | incident (detail : IncidentDetail)
  | incidents (details : List IncidentDetail)
  | timeline (incidentId : ℕ) (entries : List TimelineEntry)

def threadIdOf (incidentId : ℕ) : String := "incident-" ++ toString incidentId

def scenarioById (app : App) (id : ℕ) : Option Scenario := app.tables.scenarios.find? (·.id == id)

def scenarioByKey (app : App) (key : String) : Option Scenario :=
  app.tables.scenarios.find? (·.key == key)

def loadIncident (id : ℕ) : Backend (Option Incident) := read (.loadIncident id) (·.incidents id)

def getIncidentOr404 (id : ℕ) : Backend Incident :=
  (loadIncident id).bind fun
    | none => .raise (.http 404 ("No incident with id " ++ toString id ++ "."))
    | some incident => .ret incident

/-- Using a snapshot after the session committed. -/
def reread (id : ℕ) (incident : Incident) (expired : Bool) : Backend Incident :=
  if expired then (loadIncident id).bind one else .ret incident

def toIncidentDetail (app : App) (id : ℕ) (incident : Incident) : Backend IncidentDetail :=
  (one (scenarioById app incident.scenarioId)).bind fun scenario =>
    .ret ⟨id, incident, scenario.key, scenario.service.name⟩

def evidenceRow (incidentId : ℕ) (now : ℤ) (record : ToolCallRecord) : AuditLogEntry :=
  ⟨incidentId, record.step, record.toolName, record.arguments, record.result, record.error, now⟩

def persistNewEvidence (db : Database) (incidentId : ℕ) (result : InvestigationResult) (now : ℤ) :
    Database :=
  let alreadyPersisted := (db.auditOf incidentId).length
  { db with auditLog := db.auditLog ++
      (result.evidenceTrail.drop alreadyPersisted).map (evidenceRow incidentId now) }

/-- `{**(fields or {}), "process_instance_id": PROCESS_INSTANCE_ID}` -/
def stamped (server : Server) (fields : Option Json) : Json :=
  .obj (Json.setField "process_instance_id" (.str server.processInstanceId)
    (fields.getD (.obj [])).fields)

def requestRow (server : Server) (incidentId : ℕ) (result : InvestigationResult) : AuditLogEntry :=
  ⟨incidentId, result.stepsUsed, "approval_requested", stamped server result.pendingApproval,
    none, none, server.now⟩

def decisionRow (server : Server) (incidentId : ℕ) (result : InvestigationResult) : AuditLogEntry :=
  ⟨incidentId, result.stepsUsed, "approval_decision", stamped server result.approvalDecision,
    result.remediationResult, none, server.now⟩

def addAudit (db : Database) (row : AuditLogEntry) : Database :=
  { db with auditLog := db.auditLog ++ [row] }

def pauseIncident (server : Server) (id : ℕ) (result : InvestigationResult) (db : Database) :
    Database :=
  let db := persistNewEvidence db id result server.now
  let db := db.updateIncident id fun row =>
    { row with
      status := .awaitingApproval
      pendingApproval := result.pendingApproval
      awaitingSince := some server.now
      stepsUsed := some result.stepsUsed
      estimatedCostUsd := some result.estimatedCostUsd }
  addAudit db (requestRow server id result)

def addMemory (settings : Settings) (server : Server) (serviceId incidentId : ℕ)
    (result : InvestigationResult) (db : Database) : Database :=
  match writeConfirmedMemory settings db.nextMemoryId serviceId incidentId server.now result with
  | none => db
  | some memory =>
    { db with
      serviceMemory := consolidateServiceMemory (db.serviceMemory ++ [memory]) serviceId
      nextMemoryId := db.nextMemoryId + 1 }

/-- The snapshot's status, not the row's, tells whether a pause is being resolved. -/
def closeIncident (settings : Settings) (server : Server) (scenario : Scenario) (id : ℕ)
    (incident : Incident) (result : InvestigationResult) (db : Database) : Database :=
  let db := persistNewEvidence db id result server.now
  let db := if incident.status = .awaitingApproval
    then addAudit db (decisionRow server id result) else db
  let db := db.updateIncident id fun row =>
    { row with
      status := .reported result.status
      diagnosis := result.diagnosis.map SubmitDiagnosisArgs.modelDump
      stepsUsed := some result.stepsUsed
      estimatedCostUsd := some result.estimatedCostUsd
      completedAt := some server.now
      pendingApproval := none
      awaitingSince := none }
  addMemory settings server scenario.service.id id result db

def applyResult (app : App) (server : Server) (id : ℕ) (incident : Incident)
    (result : InvestigationResult) : Backend Unit :=
  if result.status = .awaitingApproval then
    write (.applyResult id result) (pauseIncident server id result)
  else
    (one (scenarioById app incident.scenarioId)).bind fun scenario =>
      write (.applyResult id result)
        (closeIncident app.settings server scenario id incident result)

def loadScenario (app : App) (id : ℕ) : Backend Scenario :=
  (read (.loadScenario id) fun _ => scenarioById app id).bind one

def timeoutDecision : Json :=
  .obj [("approved", .bool false), ("actor", .str "system:sla-timeout"), ("params", .obj []),
    ("timed_out", .bool true)]

def slaExpired (app : App) (now : ℤ) (incident : Incident) : Bool :=
  match incident.status, incident.awaitingSince with
  | .reported .awaitingApproval, some since =>
    decide (app.settings.approvalSlaSeconds * 1000000 ≤ now - since)
  | _, _ => false

/-- An exception of the resume is swallowed; one of its query on the request's own session has
aborted the transaction, so that the next query of the request raises. -/
def swallow : Error → Backend (Option InvestigationResult)
  | .abortedTransaction => .raise .abortedTransaction
  | _ => .ret none

theorem swallow_eq {e : Error} (other : e ≠ .abortedTransaction) : swallow e = .ret none := by
  cases e with
  | abortedTransaction => exact absurd rfl other
  | _ => rfl

/-- Returns whether the session committed. No exception of the query before the resume is
swallowed, and none of what is done with its result. -/
def maybeApplyApprovalTimeout (app : App) (server : Server) (id : ℕ) (incident : Incident) :
    Backend Bool :=
  if slaExpired app server.now incident then
    (loadScenario app incident.scenarioId).bind fun scenario =>
      (Program.tryCatch
        ((resumeInvestigation app scenario (threadIdOf id) timeoutDecision).bind
          fun result => .ret (some result))
        swallow).bind fun
          | none => .ret false
          | some result => (applyResult app server id incident result).bind fun _ => .ret true
  else .ret false

def createIncident (app : App) (server : Server) (scenarioKey : String) : Backend Response :=
  match scenarioByKey app scenarioKey with
  | none => .raise (.http 404 ("No scenario with key '" ++ scenarioKey ++ "'."))
  | some scenario =>
    (Program.perform (.createIncident scenarioKey)
      (fun db => { db with
        incidents := Function.update db.incidents db.nextIncidentId (some
          { scenarioId := scenario.id, status := .opened, createdAt := server.now })
        nextIncidentId := db.nextIncidentId + 1 })
      (·.nextIncidentId)).bind fun id =>
        (loadIncident id).bind fun row => (one row).bind fun incident =>
          (toIncidentDetail app id incident).bind fun detail => .ret (.incident detail)

def allIncidents (db : Database) : List (ℕ × Incident) :=
  ((List.range db.nextIncidentId).filterMap fun id =>
    (db.incidents id).map fun row => (id, row)).insertionSort
      fun a b => a.2.createdAt ≥ b.2.createdAt

def timeoutEach (app : App) (server : Server) : List (ℕ × Incident) → Bool → Backend Bool
  | [], expired => .ret expired
  | (id, incident) :: rest, expired =>
    (reread id incident expired).bind fun incident =>
      (maybeApplyApprovalTimeout app server id incident).bind fun committed =>
        timeoutEach app server rest (expired || committed)

def detailEach (app : App) : List (ℕ × Incident) → Bool → Backend (List IncidentDetail)
  | [], _ => .ret []
  | (id, incident) :: rest, expired =>
    (reread id incident expired).bind fun incident =>
      (toIncidentDetail app id incident).bind fun detail =>
        (detailEach app rest expired).bind fun details => .ret (detail :: details)

def listIncidents (app : App) (server : Server) : Backend Response :=
  (read .listIncidents allIncidents).bind fun incidents =>
    (timeoutEach app server incidents false).bind fun expired =>
      (detailEach app incidents expired).bind fun details => .ret (.incidents details)

/-- Loads the row, and lets an expired pause resolve itself before anything else. -/
def loadCurrent (app : App) (server : Server) (id : ℕ) : Backend Incident :=
  (getIncidentOr404 id).bind fun incident =>
    (maybeApplyApprovalTimeout app server id incident).bind fun committed =>
      reread id incident committed

def getIncident (app : App) (server : Server) (id : ℕ) : Backend Response :=
  (loadCurrent app server id).bind fun incident =>
    (toIncidentDetail app id incident).bind fun detail => .ret (.incident detail)

def markRunning (server : Server) (id : ℕ) (db : Database) : Database :=
  db.updateIncident id fun row =>
    { row with status := .running, startedAt := some server.now }

/-- `run_incident` once the row says that the incident is running. -/
def runStarted (app : App) (server : Server) (id : ℕ) (incident : Incident) (scenario : Scenario) :
    Backend Response :=
  (reread id incident true).bind fun incident =>
    (runInvestigation app scenario (threadIdOf id)).bind fun result =>
      (applyResult app server id incident result).bind fun _ =>
        (reread id incident true).bind fun incident =>
          (toIncidentDetail app id incident).bind fun detail => .ret (.incident detail)

def runIncident (app : App) (server : Server) (id : ℕ) : Backend Response :=
  (getIncidentOr404 id).bind fun incident =>
    if incident.status ≠ .opened then
      .raise (.http 409 ("Incident " ++ toString id ++ " has already been run (status: " ++
        incident.status.name ++ ")."))
    else
      (one (scenarioById app incident.scenarioId)).bind fun scenario =>
        (write (.commitRunning id) (markRunning server id)).bind fun _ =>
          runStarted app server id incident scenario

def approvalParamModels : List (String × (Platform → Json → Except String Json)) :=
  [("rollback_deployment", fun py params =>
      (RollbackDeploymentArgs.modelValidate py params).map RollbackDeploymentArgs.modelDump),
   ("toggle_feature_flag", fun py params =>
      (ToggleFeatureFlagArgs.modelValidate py params).map ToggleFeatureFlagArgs.modelDump)]

/-- `(pending_approval or {}).get("action_type")` -/
def pendingActionType (incident : Incident) : String :=
  match (incident.pendingApproval.getD (.obj [])).field? "action_type" with
  | some (.str actionType) => actionType
  | _ => ""

def checkParams (app : App) (incident : Incident) (approved : Bool) (params : Json) :
    Backend Unit :=
  if approved then
    match approvalParamModels.lookup (pendingActionType incident) with
    | none => .ret ()
    | some validate =>
      match validate app.py params with
      | .ok _ => .ret ()
      | .error text => .raise (.http 422 ("Invalid params for approving '" ++
          pendingActionType incident ++ "': " ++ text))
  else .ret ()

def decisionOf (body : ApprovalDecision) : Json :=
  .obj [("approved", .bool body.approved), ("actor", .str body.actor),
    ("params", orEmpty body.params)]

def decideApproval (app : App) (server : Server) (id : ℕ) (body : ApprovalDecision) :
    Backend Response :=
  (loadCurrent app server id).bind fun incident =>
    if incident.status ≠ .awaitingApproval then
      .raise (.http 409 ("Incident " ++ toString id ++ " is not awaiting approval (status: " ++
        incident.status.name ++ ")."))
    else
      (checkParams app incident body.approved (orEmpty body.params)).bind fun _ =>
        (one (scenarioById app incident.scenarioId)).bind fun scenario =>
          (resumeInvestigation app scenario (threadIdOf id) (decisionOf body)).bind
            fun result => (applyResult app server id incident result).bind fun _ =>
              (reread id incident true).bind fun incident =>
                (toIncidentDetail app id incident).bind fun detail => .ret (.incident detail)

def field (arguments : Json) (name : String) : Option Json :=
  match arguments.field? name with
  | some .null => none
  | value => value

/-- `f"{args.get(name, default)}"` -/
def fieldText (py : Platform) (arguments : Json) (name default : String) : String :=
  match arguments.field? name with
  | none => default
  | some value => py.display value

def isTruthy (arguments : Json) (name : String) : Bool :=
  ((arguments.field? name).map Json.truthy).getD false

def rowDetail (row : AuditLogEntry) : Json :=
  .obj [("arguments", row.arguments), ("result", row.result.getD .null),
    ("error", (row.error.map .str).getD .null)]

def dedupSuffix : String :=
  " — remediation already executed once (crash-and-resume detected, not re-run)"

def restartSuffix : String := " — resumed after a process restart"

def decisionLabel (py : Platform) (arguments : Json) : String :=
  if isTruthy arguments "timed_out" then "Approval auto-escalated after SLA timeout"
  else
    (if isTruthy arguments "approved" then "Approved" else "Denied") ++ " by " ++
      fieldText py arguments "actor" "unknown"

def deduplicated (result : Option Json) : Bool :=
  match result with
  | some (.obj fields) => isTruthy (.obj fields) "deduplicated"
  | _ => false

/-- `pause_process_id is not None and resume_process_id != pause_process_id` -/
def restarted (pauseProcessId resumeProcessId : Option Json) : Bool :=
  match pauseProcessId with
  | none => false
  | some pause => !(resumeProcessId.getD .null).equal pause

def rowEntry (py : Platform) (pauseProcessId : Option Json) (row : AuditLogEntry) :
    EntryKind × String × Option Json :=
  if row.toolName = "submit_diagnosis" then
    (.diagnosisFormed,
      if row.error.isNone then "Diagnosis submitted" else "Diagnosis rejected — invalid",
      pauseProcessId)
  else if row.toolName = "approval_requested" then
    (.approvalRequested,
      "Approval requested for " ++ fieldText py row.arguments "action_type" "an action",
      field row.arguments "process_instance_id")
  else if row.toolName = "approval_decision" then
    (.approvalDecided,
      decisionLabel py row.arguments ++
        (if deduplicated row.result then dedupSuffix else "") ++
        (if restarted pauseProcessId (field row.arguments "process_instance_id")
          then restartSuffix else ""),
      pauseProcessId)
  else
    (.evidenceGathered,
      if row.error.isNone then "Called " ++ row.toolName else "Called " ++ row.toolName ++ " — error",
      pauseProcessId)

def rowEntries (py : Platform) : Option Json → List AuditLogEntry → List TimelineEntry
  | _, [] => []
  | pauseProcessId, row :: rows =>
    let entry := rowEntry py pauseProcessId row
    ⟨entry.1, some row.step, entry.2.1, some (rowDetail row), some row.createdAt⟩ ::
      rowEntries py entry.2.2 rows

def openingEntry (scenario : Scenario) (incident : Incident) : TimelineEntry :=
  ⟨.incidentStarted, none,
    "Incident opened for " ++ scenario.service.name ++ ": " ++ scenario.title,
    none, some incident.createdAt⟩

def isClosed (status : IncidentStatus) : Bool :=
  match status with
  | .opened => false
  | .running => false
  | .reported .awaitingApproval => false
  | .reported _ => true

def closingEntry (incident : Incident) : TimelineEntry :=
  ⟨.finalStatus, none, "Incident closed: " ++ incident.status.name, incident.diagnosis,
    incident.completedAt⟩

/-- `ORDER BY step, id` -/
def timelineRows (db : Database) (id : ℕ) : List AuditLogEntry := orderBy (·.step) (db.auditOf id)

def timelineOf (py : Platform) (scenario : Scenario) (incident : Incident)
    (rows : List AuditLogEntry) : List TimelineEntry :=
  openingEntry scenario incident :: rowEntries py none rows ++
    if isClosed incident.status then [closingEntry incident] else []

def getTimeline (app : App) (server : Server) (id : ℕ) : Backend Response :=
  (loadCurrent app server id).bind fun incident =>
    (one (scenarioById app incident.scenarioId)).bind fun scenario =>
      (read (.loadAudit id) (timelineRows · id)).bind fun rows =>
        .ret (.timeline id (timelineOf app.py scenario incident rows))

inductive Endpoint where
  | createIncident (scenarioKey : String)
  | listIncidents
  | getIncident (id : ℕ)
  | runIncident (id : ℕ)
  | decideApproval (id : ℕ) (body : ApprovalDecision)
  | getTimeline (id : ℕ)

structure Request where
  endpoint : Endpoint
  server : Server

def serve (app : App) (request : Request) : Backend Response :=
  match request.endpoint with
  | .createIncident scenarioKey => createIncident app request.server scenarioKey
  | .listIncidents => listIncidents app request.server
  | .getIncident id => getIncident app request.server id
  | .runIncident id => runIncident app request.server id
  | .decideApproval id body => decideApproval app request.server id body
  | .getTimeline id => getTimeline app request.server id

/-- `n` steps, none of which fails. -/
def steps (n : ℕ) : List (Move ChatOutcome Error) := List.replicate n .perform

/-- A creation: the row, and its reading. -/
def createSteps : List (Move ChatOutcome Error) := steps 2

/-- A run up to its model call: the row, `running`, the row again, the memory, the thread, its input
and the first node. -/
def untilModel : List (Move ChatOutcome Error) := steps 7

/-- From a diagnosis that needs approval to the answer: four nodes with their checkpoints, the
interrupt, the result and the row. -/
def untilPause : List (Move ChatOutcome Error) := steps 9

/-- From a diagnosis that is executed at once to the answer: the remediation in addition. -/
def untilRestart : List (Move ChatOutcome Error) := steps 14

/-- An approval within its SLA: the row, the resumed thread with the remediation, the result and the
row again. -/
def approvalSteps : List (Move ChatOutcome Error) := steps 14

end OpsPilot.IncidentApi
