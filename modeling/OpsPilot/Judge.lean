import OpsPilot.EvalRegression
import OpsPilot.ChatClient

/-! The LLM judge: one model call, whose first tool call is validated into scores or refused. -/

namespace OpsPilot.Judge
open JsonText AgentSchemas ScenarioSpecs InvestigationState Models ChatClient EvalRegression

abbrev Score := {q : ℚ // 0 ≤ q ∧ q ≤ 1}

/-- `JudgeScores` with its reasoning. -/
structure Judgment where
  diagnosisAccuracy : Score
  diagnosisAccuracyReasoning : String
  evidenceGroundedness : Score
  evidenceGroundednessReasoning : String
  remediationQuality : Score
  remediationQualityReasoning : String
  escalationCorrect : Bool
  escalationReasoning : String

namespace Judgment

def scores (judgment : Judgment) : JudgeScores where
  diagnosisAccuracy := judgment.diagnosisAccuracy
  evidenceGroundedness := judgment.evidenceGroundedness
  remediationQuality := judgment.remediationQuality
  escalationCorrect := judgment.escalationCorrect

def readScore (py : Platform) (input : Json) (name : String) : Option Score := do
  let score ← py.laxFloat (← input.field? name)
  if within : 0 ≤ score ∧ score ≤ 1 then some ⟨score, within⟩ else none

def readText (input : Json) (name : String) : Option String := do
  let text ← input.field? name
  SubmitDiagnosisArgs.textItem text

def read (py : Platform) (input : Json) : Option Judgment := do
  let diagnosisAccuracy ← readScore py input "diagnosis_accuracy"
  let diagnosisAccuracyReasoning ← readText input "diagnosis_accuracy_reasoning"
  let evidenceGroundedness ← readScore py input "evidence_groundedness"
  let evidenceGroundednessReasoning ← readText input "evidence_groundedness_reasoning"
  let remediationQuality ← readScore py input "remediation_quality"
  let remediationQualityReasoning ← readText input "remediation_quality_reasoning"
  let escalationCorrect ← py.laxBool (← input.field? "escalation_correct")
  let escalationReasoning ← readText input "escalation_reasoning"
  return {
    diagnosisAccuracy, diagnosisAccuracyReasoning, evidenceGroundedness
    evidenceGroundednessReasoning, remediationQuality, remediationQualityReasoning
    escalationCorrect, escalationReasoning }

def modelValidate (py : Platform) (input : Json) : Except String Judgment :=
  match read py input with
  | some judgment => .ok judgment
  | none => .error (py.validationError "JudgeScores" input)

def modelDump (judgment : Judgment) : Json :=
  .obj [("diagnosis_accuracy", .float judgment.diagnosisAccuracy),
    ("diagnosis_accuracy_reasoning", .str judgment.diagnosisAccuracyReasoning),
    ("evidence_groundedness", .float judgment.evidenceGroundedness),
    ("evidence_groundedness_reasoning", .str judgment.evidenceGroundednessReasoning),
    ("remediation_quality", .float judgment.remediationQuality),
    ("remediation_quality_reasoning", .str judgment.remediationQualityReasoning),
    ("escalation_correct", .bool judgment.escalationCorrect),
    ("escalation_reasoning", .str judgment.escalationReasoning)]

theorem read_modelDump (py : Platform) (judgment : Judgment) :
    read py judgment.modelDump = some judgment := by
  obtain ⟨⟨_, accurate⟩, _, ⟨_, grounded⟩, _, ⟨_, remedied⟩, _, _, _⟩ := judgment
  simp [read, readScore, readText, modelDump, Json.field?, SubmitDiagnosisArgs.textItem,
    List.lookup_cons, py.laxFloat_float, py.laxBool_bool, accurate, grounded, remedied]

end Judgment

def systemPrompt : String :=
  "You are an impartial evaluator for OpsPilot, an SRE incident-investigation agent. You " ++
  "will be given a scenario's ground truth and the agent's actual diagnosis for that " ++
  "scenario. Score the agent's output on each requested dimension independently — a low " ++
  "score on one dimension must not bias another. Be specific in your reasoning for each " ++
  "score. Call submit_judgment exactly once with all four scores."

def buildJudgePrompt (py : Platform) (scenario : ScenarioSpec) (diagnosis : SubmitDiagnosisArgs) :
    String :=
  "Scenario: " ++ scenario.title ++ "\n\n" ++
  "Ground truth root cause: " ++ scenario.groundTruth.expectedDiagnosis ++ "\n" ++
  "Ground truth expected action: " ++ scenario.groundTruth.expectedAction ++ "\n" ++
  "Ground truth expected policy verdict: " ++ scenario.groundTruth.expectedPolicyVerdict ++
  "\n\n" ++
  "Agent's actual diagnosis: " ++ diagnosis.diagnosis ++ "\n" ++
  "Agent's cited evidence: " ++
    String.ofList (py.dumps (.arr (diagnosis.evidence.map .str))) ++ "\n" ++
  "Agent's recommended action: " ++ diagnosis.recommendedAction.name ++ "\n" ++
  "Agent's stated confidence: " ++ String.ofList (py.floatRepr diagnosis.confidence) ++ "\n"

def judgeRequest (py : Platform) (scenario : ScenarioSpec) (diagnosis : SubmitDiagnosisArgs) :
    ChatRequest where
  messages := [.user (buildJudgePrompt py scenario diagnosis)]
  system := systemPrompt

/-- What is made of the judge's response; the error is the text of a `JudgeError`. -/
def judgmentOf (py : Platform) (scenario : ScenarioSpec) (response : ModelResponse) :
    Except String Judgment :=
  match response.toolUseBlocks with
  | [] => .error ("Judge for '" ++ scenario.key ++ "' did not call submit_judgment.")
  | block :: _ =>
    match Judgment.modelValidate py (.obj block.input) with
    | .ok judgment => .ok judgment
    | .error text =>
      .error ("Judge for '" ++ scenario.key ++ "' returned invalid scores: " ++ text)

def judgeInvestigation (py : Platform) (scenario : ScenarioSpec)
    (diagnosis : SubmitDiagnosisArgs) : Backend (Except String Judgment) :=
  (callWithRetries (judgeRequest py scenario diagnosis) maxRetries 1).bind fun response =>
    .ret (judgmentOf py scenario response)

end OpsPilot.Judge
