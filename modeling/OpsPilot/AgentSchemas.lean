import OpsPilot.Platform
import OpsPilot.PolicyEngine

/-! Structured inputs and outputs of the agent, and how raw values are validated into them. -/

namespace OpsPilot.AgentSchemas
open JsonText PolicyEngine

inductive RecommendedAction where
  | rollbackDeployment
  | restartService
  | scaleService
  | toggleFeatureFlag
  | escalate
  | noAction
  | deleteData
deriving DecidableEq

namespace RecommendedAction

def name : RecommendedAction → String
  | .rollbackDeployment => "rollback_deployment"
  | .restartService => "restart_service"
  | .scaleService => "scale_service"
  | .toggleFeatureFlag => "toggle_feature_flag"
  | .escalate => "escalate"
  | .noAction => "no_action"
  | .deleteData => "delete_data"

def all : List RecommendedAction :=
  [.rollbackDeployment, .restartService, .scaleService, .toggleFeatureFlag, .escalate,
   .noAction, .deleteData]

/-- A `Literal` accepts exactly the listed strings. -/
def ofJson : Json → Option RecommendedAction
  | .str s => all.find? (fun action => action.name = s)
  | _ => none

end RecommendedAction

structure SubmitDiagnosisArgs where
  diagnosis : String
  evidence : List String
  confidence : ℚ
  recommendedAction : RecommendedAction

namespace SubmitDiagnosisArgs

def textItem : Json → Option String
  | .str s => some s
  | _ => none

def read (py : Platform) (input : Json) : Option SubmitDiagnosisArgs := do
  let diagnosis ← (← input.field? "diagnosis") |> textItem
  guard (10 ≤ diagnosis.length)
  let .arr items ← input.field? "evidence" | none
  let evidence ← items.mapM textItem
  guard (1 ≤ evidence.length)
  let confidence ← py.laxFloat (← input.field? "confidence")
  guard (0 ≤ confidence ∧ confidence ≤ 1)
  let recommendedAction ← RecommendedAction.ofJson (← input.field? "recommended_action")
  return { diagnosis, evidence, confidence, recommendedAction }

def modelValidate (py : Platform) (input : Json) : Except String SubmitDiagnosisArgs :=
  match read py input with
  | some args => .ok args
  | none => .error (py.validationError "SubmitDiagnosisArgs" input)

def modelDump (args : SubmitDiagnosisArgs) : Json :=
  .obj [("diagnosis", .str args.diagnosis),
    ("evidence", .arr (args.evidence.map .str)),
    ("confidence", .float args.confidence),
    ("recommended_action", .str args.recommendedAction.name)]

theorem evidence_within (args : SubmitDiagnosisArgs) {citation : String}
    (cited : citation ∈ args.evidence) : Json.Within (.str citation) args.modelDump := by
  have listed : Json.Within (.str citation) (.arr (args.evidence.map .str)) :=
    .item (List.mem_map.mpr ⟨citation, cited, rfl⟩) (.refl _)
  have field : ("evidence", Json.arr (args.evidence.map .str)) ∈ args.modelDump.fields := by
    simp [modelDump, Json.fields]
  exact .field field listed

end SubmitDiagnosisArgs

/-- One row of the evidence trail. -/
structure ToolCallRecord where
  step : ℕ
  toolName : String
  arguments : Json
  result : Option Json := none
  error : Option String := none

namespace ToolCallRecord

def modelDump (record : ToolCallRecord) : Json :=
  .obj [("step", .int record.step),
    ("tool_name", .str record.toolName),
    ("arguments", record.arguments),
    ("result", record.result.getD .null),
    ("error", (record.error.map .str).getD .null)]

end ToolCallRecord

inductive InvestigationStatus where
  | diagnosed
  | awaitingApproval
  | incompleteStepCeiling
  | incompleteCostCeiling
  | incompleteProviderError
deriving DecidableEq

structure InvestigationResult where
  scenarioKey : String
  status : InvestigationStatus
  diagnosis : Option SubmitDiagnosisArgs
  evidenceTrail : List ToolCallRecord
  stepsUsed : ℕ
  estimatedCostUsd : ℚ
  totalInputTokens : ℤ
  totalOutputTokens : ℤ
  evidenceGrounded : Option Bool
  ungroundedEvidence : List String
  riskTier : Option String
  policyVerdict : Option PolicyVerdict := none
  remediationResult : Option Json := none
  pendingApproval : Option Json := none
  approvalDecision : Option Json := none

end OpsPilot.AgentSchemas
