import OpsPilot.InvestigationState
import OpsPilot.StateGraph

/-! The tables that requests write, and the atomic steps they take on them. A list table is in
order of its ids, which an insert appends to. -/

namespace OpsPilot.Models
open JsonText AgentSchemas InvestigationState DurableProgram

inductive IncidentStatus where
  | opened
  | running
  | reported (status : InvestigationStatus)
deriving DecidableEq

abbrev IncidentStatus.awaitingApproval : IncidentStatus := .reported .awaitingApproval

def IncidentStatus.name : IncidentStatus → String
  | .opened => "open"
  | .running => "running"
  | .reported .diagnosed => "diagnosed"
  | .reported .awaitingApproval => "awaiting_approval"
  | .reported .incompleteStepCeiling => "incomplete_step_ceiling"
  | .reported .incompleteCostCeiling => "incomplete_cost_ceiling"
  | .reported .incompleteProviderError => "incomplete_provider_error"

/-- A row of the incidents table, which is keyed by id. -/
structure Incident where
  scenarioId : ℕ
  status : IncidentStatus
  diagnosis : Option Json := none
  stepsUsed : Option ℕ := none
  estimatedCostUsd : Option ℚ := none
  createdAt : ℤ
  startedAt : Option ℤ := none
  completedAt : Option ℤ := none
  pendingApproval : Option Json := none
  awaitingSince : Option ℤ := none

structure AuditLogEntry where
  incidentId : ℕ
  step : ℕ
  toolName : String
  arguments : Json
  result : Option Json
  error : Option String
  createdAt : ℤ

/-- The four values an idempotency key is made of. -/
structure RemediationCall where
  threadId : String
  actionType : String
  target : String
  params : Json

structure RemediationExecution where
  idempotencyKey : String
  call : RemediationCall
  result : Json

structure ServiceMemory where
  id : ℕ
  serviceId : ℕ
  sourceIncidentId : ℕ
  symptomPattern : String
  rootCause : String
  fixApplied : String
  outcome : String
  confidence : ℚ
  occurrenceCount : ℕ := 1
  createdAt : ℤ

inductive Node where
  | gatherContext
  | hypothesize
  | classifyRisk
  | evaluatePolicy
  | decide
deriving DecidableEq

abbrev Saved := StateGraph.Checkpoint Node GraphState

structure Database where
  incidents : ℕ → Option Incident
  nextIncidentId : ℕ
  auditLog : List AuditLogEntry
  remediationExecutions : List RemediationExecution
  serviceMemory : List ServiceMemory
  nextMemoryId : ℕ
  checkpoints : String → Option Saved

namespace Database

def empty : Database := ⟨fun _ => none, 1, [], [], [], 1, fun _ => none⟩

/-- `query(RemediationExecution).filter_by(idempotency_key=key)` -/
def remediation? (db : Database) (key : String) : Option RemediationExecution :=
  db.remediationExecutions.find? (·.idempotencyKey == key)

/-- `query(AuditLogEntry).filter_by(incident_id=id)`, in id order -/
def auditOf (db : Database) (id : ℕ) : List AuditLogEntry :=
  db.auditLog.filter (·.incidentId == id)

def status? (db : Database) (id : ℕ) : Option IncidentStatus :=
  (db.incidents id).map (·.status)

/-- `UPDATE incidents ... WHERE id = id` -/
def updateIncident (db : Database) (id : ℕ) (change : Incident → Incident) : Database :=
  { db with incidents := Function.update db.incidents id ((db.incidents id).map change) }

def saveCheckpoint (db : Database) (threadId : String) (checkpoint : Saved) : Database :=
  { db with checkpoints := Function.update db.checkpoints threadId (some checkpoint) }

end Database

inductive Error where
  | http (status : ℕ) (detail : String)
  | transientProvider (text : String)
  | graphRecursion
  | integrity
  | noResultFound
  /-- A query failed, and with it every later one of the session. -/
  | abortedTransaction
  | other (text : String)

inductive Label where
  | loadIncident (id : ℕ)
  | loadScenario (id : ℕ)
  | listIncidents
  | createIncident (scenarioKey : String)
  | commitRunning (id : ℕ)
  | retrieveMemory (serviceId : ℕ)
  | loadCheckpoint (threadId : String)
  | loadService (serviceId : ℕ)
  | saveCheckpoint (threadId : String)
  | visit (threadId : String) (node : Node) (values : GraphState)
  | chat (request : ChatRequest)
  | sleep (seconds : ℕ)
  | toolCall (name : String)
  | interrupt (threadId : String) (payload : Json)
  | resume (threadId : String) (decision : Json)
  | lookup (key : String)
  | executor (key : String) (call : RemediationCall)
  | insert (key : String)
  | commit (row : RemediationExecution)
  | applyResult (incidentId : ℕ) (result : InvestigationResult)
  | loadAudit (incidentId : ℕ)

abbrev BackendEvent := Event Label ChatOutcome Error

/-- Code of the backend: steps on the database, and calls of the chat function. -/
abbrev Backend (α : Type) := Program Label ChatOutcome Database Error α

/-- A step that changes no table. -/
def mark (label : Label) : Backend Unit := Program.perform label id fun _ => ()

def read {α : Type} (label : Label) (query : Database → α) : Backend α :=
  Program.perform label id query

def write (label : Label) (update : Database → Database) : Backend Unit :=
  Program.perform label update fun _ => ()

/-- `.one()` -/
def one {α : Type} : Option α → Backend α
  | some row => .ret row
  | none => .raise .noResultFound

end OpsPilot.Models
