import OpsPilot.AgentSchemas
import OpsPilot.ScenarioSpecs
import Mathlib.Data.Finset.Card

/-! The evaluation checks that are scored by code: a function of a scenario's ground truth and
an investigation's result. -/

namespace OpsPilot.EvalScores
open PolicyEngine AgentSchemas ScenarioSpecs

def verdictName : PolicyVerdict → String
  | .execute => "EXECUTE"
  | .requireApproval => "REQUIRE_APPROVAL"
  | .block => "BLOCK"
  | .escalate => "ESCALATE"

def evidenceCategoryTool : List (String × String) :=
  [("deployment", "get_recent_deployments"),
   ("metrics", "get_metrics"),
   ("logs", "get_logs"),
   ("dependency_status", "get_dependency_status"),
   ("runbook", "get_runbook")]

structure DeterministicScores where
  reachedDiagnosis : Bool
  policyVerdictCorrect : Option Bool := none
  recommendedActionExactMatch : Option Bool := none
  evidenceGroundedHeuristic : Option Bool := none
  toolSelectionScore : ℚ
  unnecessaryToolCallCount : ℕ
  argumentErrorCount : ℕ
  stepsUsed : ℕ
  estimatedCostUsd : ℚ
  totalInputTokens : ℤ
  totalOutputTokens : ℤ
  latencySeconds : ℚ

/-- A pause is the outcome that a `REQUIRE_APPROVAL` scenario is meant to have. -/
def effectivePolicyVerdict (result : InvestigationResult) : Option String :=
  match result.status with
  | .diagnosed => result.policyVerdict.map verdictName
  | .awaitingApproval => some "REQUIRE_APPROVAL"
  | _ => none

/-- `evidence.split(":", 1)[0]` -/
def evidenceCategory (evidence : String) : String :=
  String.ofList (evidence.toList.takeWhile (· != ':'))

def expectedTools (scenario : ScenarioSpec) : Finset String :=
  (scenario.groundTruth.expectedEvidence.filterMap fun evidence =>
    evidenceCategoryTool.lookup (evidenceCategory evidence)).toFinset

def calledTools (result : InvestigationResult) : Finset String :=
  ((result.evidenceTrail.map (·.toolName)).filter (· != "submit_diagnosis")).toFinset

def reached (result : InvestigationResult) : Bool :=
  result.status == .diagnosed || result.status == .awaitingApproval

def scoreDeterministic (scenario : ScenarioSpec) (result : InvestigationResult)
    (latencySeconds : ℚ) : DeterministicScores where
  reachedDiagnosis := reached result
  policyVerdictCorrect :=
    if reached result then
      some (effectivePolicyVerdict result == some scenario.groundTruth.expectedPolicyVerdict)
    else none
  recommendedActionExactMatch :=
    if reached result then
      result.diagnosis.map fun diagnosis =>
        diagnosis.recommendedAction.name == scenario.groundTruth.expectedAction
    else none
  evidenceGroundedHeuristic := result.evidenceGrounded
  toolSelectionScore :=
    if (expectedTools scenario).card = 0 then 1
    else roundTo 3 ((expectedTools scenario ∩ calledTools result).card /
      (expectedTools scenario).card)
  unnecessaryToolCallCount := (calledTools result \ expectedTools scenario).card
  argumentErrorCount := result.evidenceTrail.countP (·.error.isSome)
  stepsUsed := result.stepsUsed
  estimatedCostUsd := result.estimatedCostUsd
  totalInputTokens := result.totalInputTokens
  totalOutputTokens := result.totalOutputTokens
  latencySeconds := roundTo 3 latencySeconds

end OpsPilot.EvalScores
