import OpsPilot.RemediationTools

/-! The state of one investigation, the partial updates its nodes return, and the messages
that pass between the graph and the model. -/

namespace OpsPilot.InvestigationState
open JsonText PolicyEngine AgentSchemas SyntheticEnvironment

structure ToolUseBlock where
  id : String
  name : String
  input : List (String × Json)

inductive ContentBlock where
  | text (text : String)
  | toolUse (block : ToolUseBlock)

structure ModelResponse where
  content : List ContentBlock
  inputTokens : ℤ
  outputTokens : ℤ

/-- `[b for b in response.content if hasattr(b, "name")]` -/
def ModelResponse.toolUseBlocks (response : ModelResponse) : List ToolUseBlock :=
  response.content.filterMap fun
    | .text _ => none
    | .toolUse block => some block

/-- What one call of the chat function comes back with. -/
inductive ChatOutcome where
  | response (response : ModelResponse)
  | transient (text : String)

structure ToolResult where
  toolUseId : String
  content : String
  isError : Bool := false

inductive Message where
  | user (text : String)
  | assistant (content : List ContentBlock)
  | toolResults (results : List ToolResult)

structure ChatRequest where
  messages : List Message
  system : String

structure GraphState where
  messages : List Message
  evidenceTrail : List ToolCallRecord
  stepsUsed : ℕ
  estimatedCostUsd : ℚ
  totalInputTokens : ℤ
  totalOutputTokens : ℤ
  diagnosis : Option SubmitDiagnosisArgs
  evidenceGrounded : Option Bool
  ungroundedEvidence : List String
  riskTier : Option String
  policyVerdict : Option PolicyVerdict
  remediationResult : Option Json
  approvalDecision : Option Json
  providerError : Option String
  status : Option InvestigationStatus

def initialState : GraphState where
  messages := [.user "Investigate this incident and submit your diagnosis."]
  evidenceTrail := []
  stepsUsed := 0
  estimatedCostUsd := 0
  totalInputTokens := 0
  totalOutputTokens := 0
  diagnosis := none
  evidenceGrounded := none
  ungroundedEvidence := []
  riskTier := none
  policyVerdict := none
  remediationResult := none
  approvalDecision := none
  providerError := none
  status := none

/-- A partial update: a key that a node leaves out is `none`, and two keys are lists to add. -/
structure GraphUpdate where
  messages : List Message := []
  evidenceTrail : List ToolCallRecord := []
  stepsUsed : Option ℕ := none
  estimatedCostUsd : Option ℚ := none
  totalInputTokens : Option ℤ := none
  totalOutputTokens : Option ℤ := none
  diagnosis : Option (Option SubmitDiagnosisArgs) := none
  evidenceGrounded : Option (Option Bool) := none
  ungroundedEvidence : Option (List String) := none
  riskTier : Option (Option String) := none
  policyVerdict : Option (Option PolicyVerdict) := none
  remediationResult : Option (Option Json) := none
  approvalDecision : Option (Option Json) := none
  providerError : Option (Option String) := none
  status : Option (Option InvestigationStatus) := none

/-- `operator.add` on the two annotated keys, last write wins on the others. -/
def GraphState.merge (state : GraphState) (update : GraphUpdate) : GraphState where
  messages := state.messages ++ update.messages
  evidenceTrail := state.evidenceTrail ++ update.evidenceTrail
  stepsUsed := update.stepsUsed.getD state.stepsUsed
  estimatedCostUsd := update.estimatedCostUsd.getD state.estimatedCostUsd
  totalInputTokens := update.totalInputTokens.getD state.totalInputTokens
  totalOutputTokens := update.totalOutputTokens.getD state.totalOutputTokens
  diagnosis := update.diagnosis.getD state.diagnosis
  evidenceGrounded := update.evidenceGrounded.getD state.evidenceGrounded
  ungroundedEvidence := update.ungroundedEvidence.getD state.ungroundedEvidence
  riskTier := update.riskTier.getD state.riskTier
  policyVerdict := update.policyVerdict.getD state.policyVerdict
  remediationResult := update.remediationResult.getD state.remediationResult
  approvalDecision := update.approvalDecision.getD state.approvalDecision
  providerError := update.providerError.getD state.providerError
  status := update.status.getD state.status

/-- Input for a thread: its values are merged into whatever the thread already holds. -/
def GraphState.asInput (input : GraphState) : Option GraphState → GraphState
  | none => input
  | some old =>
    { input with
      messages := old.messages ++ input.messages
      evidenceTrail := old.evidenceTrail ++ input.evidenceTrail }

structure NodeDeps where
  scenario : Scenario
  maxSteps : ℕ
  maxCostUsd : ℚ
  threadId : String
  memoryContext : String := ""

/-- What every request shares: the platform, the settings and the seeded tables. -/
structure App where
  py : Platform
  settings : Settings
  tables : Tables

/-- The first seeded scenario under the default settings, to evaluate runs on. -/
def checkoutApp : App := ⟨Platform.ascii, {}, { scenarios := [checkoutDeployOutage] }⟩

end OpsPilot.InvestigationState
