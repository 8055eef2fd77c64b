import OpsPilot.GraphNodes
import OpsPilot.Memory

/-! The investigation graph on one thread, and how a run or a resume drives it. -/

namespace OpsPilot.Investigation
open JsonText AgentSchemas SyntheticEnvironment InvestigationState Models GatherContext
open GraphNodes Memory

def runNode (app : App) (deps : NodeDeps) (node : Node) (values : GraphState)
    (answer : Option Json) : Backend (StateGraph.Visit GraphUpdate Json) :=
  match node with
  | .gatherContext => (gatherContext app deps values).bind fun update => .ret (.update update)
  | .hypothesize => .ret (.update (hypothesize app.py values))
  | .classifyRisk => .ret (.update (classifyRisk values))
  | .evaluatePolicy => evaluatePolicy app deps values answer
  | .decide => .ret (.update (decide deps values))

def route (deps : NodeDeps) (node : Node) (values : GraphState) : Option Node :=
  match node with
  | .gatherContext =>
    match routeAfterGatherContext deps values with
    | .continue => some .gatherContext
    | .diagnosed => some .hypothesize
    | .ceiling => some .decide
  | .hypothesize => some .classifyRisk
  | .classifyRisk => some .evaluatePolicy
  | .evaluatePolicy => some .decide
  | .decide => none

/-- A node's partial update is merged into the values it was given. -/
def visit (app : App) (deps : NodeDeps) (node : Node) (values : GraphState)
    (answer : Option Json) : Backend (StateGraph.Visit GraphState Json) :=
  (mark (.visit deps.threadId node values)).bind fun _ =>
    (runNode app deps node values answer).bind fun
      | .interrupt payload => .ret (.interrupt payload)
      | .update update => .ret (.update (values.merge update))

def buildGraph (app : App) (deps : NodeDeps) :
    StateGraph.Graph Label ChatOutcome Database Error Node GraphState Json Json where
  entry := .gatherContext
  visit := visit app deps
  route := route deps
  save checkpoint := write (.saveCheckpoint deps.threadId)
    (·.saveCheckpoint deps.threadId checkpoint)
  pause payload := mark (.interrupt deps.threadId payload)
  recursionError := .graphRecursion

/-- Ceilings that a caller may set. -/
structure Ceilings where
  maxSteps : Option ℕ := none
  maxCostUsd : Option ℚ := none

def depsOf (app : App) (scenario : Scenario) (ceilings : Ceilings) (threadId : String)
    (memoryContext : String) : NodeDeps where
  scenario := scenario
  maxSteps := ceilings.maxSteps.getD app.settings.agentMaxSteps
  maxCostUsd := ceilings.maxCostUsd.getD app.settings.agentMaxCostUsd
  threadId := threadId
  memoryContext := memoryContext

def buildDeps (app : App) (scenario : Scenario) (ceilings : Ceilings) (threadId : String)
    (memoryEnabled : Bool) : Backend NodeDeps :=
  (if memoryEnabled then
    read (.retrieveMemory scenario.service.id) fun db =>
      formatMemoryForPrompt (retrieveRelevantMemory db.serviceMemory scenario.service.id)
  else .ret "").bind fun memoryContext =>
    .ret (depsOf app scenario ceilings threadId memoryContext)

def recursionLimit (deps : NodeDeps) : ℕ := deps.maxSteps + 10

def pausedResult (scenario : Scenario) (final : GraphState) (payload : Json) :
    InvestigationResult where
  scenarioKey := scenario.key
  status := .awaitingApproval
  diagnosis := final.diagnosis
  evidenceTrail := final.evidenceTrail
  stepsUsed := final.stepsUsed
  estimatedCostUsd := roundTo 6 final.estimatedCostUsd
  totalInputTokens := final.totalInputTokens
  totalOutputTokens := final.totalOutputTokens
  evidenceGrounded := final.evidenceGrounded
  ungroundedEvidence := final.ungroundedEvidence
  riskTier := final.riskTier
  pendingApproval := some payload

def finishedResult (scenario : Scenario) (final : GraphState) (status : InvestigationStatus) :
    InvestigationResult where
  scenarioKey := scenario.key
  status := status
  diagnosis := final.diagnosis
  evidenceTrail := final.evidenceTrail
  stepsUsed := final.stepsUsed
  estimatedCostUsd := roundTo 6 final.estimatedCostUsd
  totalInputTokens := final.totalInputTokens
  totalOutputTokens := final.totalOutputTokens
  evidenceGrounded := final.evidenceGrounded
  ungroundedEvidence := final.ungroundedEvidence
  riskTier := final.riskTier
  policyVerdict := final.policyVerdict
  remediationResult := final.remediationResult
  approvalDecision := final.approvalDecision

/-- A graph that ended without a status fails the result's own validation. -/
def resultFromState (py : Platform) (scenario : Scenario) :
    GraphState × Option Json → Backend InvestigationResult
  | (final, some payload) => .ret (pausedResult scenario final payload)
  | (final, none) =>
    match final.status with
    | none => .raise (.other (py.validationError "InvestigationResult" .null))
    | some status => .ret (finishedResult scenario final status)

def loadCheckpoint (threadId : String) : Backend (Option Saved) :=
  read (.loadCheckpoint threadId) (·.checkpoints threadId)

/-- The lazy query of `scenario.service`, which `evaluate_policy` reads before anything else. -/
def loadService (scenario : Scenario) (saved : Saved) : Backend Unit :=
  if saved.next = some .evaluatePolicy then mark (.loadService scenario.service.id) else .ret ()

def runInvestigation (app : App) (scenario : Scenario) (threadId : String)
    (ceilings : Ceilings := {}) (memoryEnabled : Bool := true) : Backend InvestigationResult :=
  (buildDeps app scenario ceilings threadId memoryEnabled).bind fun deps =>
    (loadCheckpoint threadId).bind fun saved =>
      ((buildGraph app deps).invoke (recursionLimit deps)
        (initialState.asInput (saved.map (·.values)))).bind
          (resultFromState app.py scenario)

def resumeInvestigation (app : App) (scenario : Scenario) (threadId : String) (decision : Json)
    (ceilings : Ceilings := {}) : Backend InvestigationResult :=
  (buildDeps app scenario ceilings threadId false).bind fun deps =>
    (mark (.resume threadId decision)).bind fun _ =>
      (loadCheckpoint threadId).bind fun
        | none => .raise (.other "no checkpoint to resume from")
        | some saved => (loadService scenario saved).bind fun _ =>
          ((buildGraph app deps).resume (recursionLimit deps) saved decision).bind
            (resultFromState app.py scenario)

end OpsPilot.Investigation
