import OpsPilot.EvalScores
import Mathlib.Tactic.Linarith

/-! The aggregate of an evaluation run, and the comparison of two runs. -/

namespace OpsPilot.EvalRegression
open EvalScores

structure JudgeScores where
  diagnosisAccuracy : ℚ
  evidenceGroundedness : ℚ
  remediationQuality : ℚ
  escalationCorrect : Bool

structure ScenarioEvalResult where
  deterministic : DeterministicScores
  judge : Option JudgeScores := none

structure AggregateScores where
  scenarioCount : ℕ
  completionRate : ℚ
  policyVerdictAccuracy : ℚ
  recommendedActionExactMatchRate : ℚ
  meanToolSelectionScore : ℚ
  totalUnnecessaryToolCalls : ℕ
  totalArgumentErrors : ℕ
  meanDiagnosisAccuracy : Option ℚ := none
  meanEvidenceGroundedness : Option ℚ := none
  meanRemediationQuality : Option ℚ := none
  escalationCorrectnessRate : Option ℚ := none
  meanStepsUsed : ℚ
  totalCostUsd : ℚ
  totalInputTokens : ℤ
  totalOutputTokens : ℤ
  meanLatencySeconds : ℚ

def mean (values : List (Option ℚ)) : Option ℚ :=
  let present := values.filterMap id
  if present = [] then none else some (roundTo 4 (present.sum / present.length))

def ofBool (b : Bool) : ℚ := if b then 1 else 0

def aggregate (results : List ScenarioEvalResult) : AggregateScores :=
  let reached := results.filter (·.deterministic.reachedDiagnosis)
  let judged := results.filterMap (·.judge)
  { scenarioCount := results.length
    completionRate := if results = [] then 0 else roundTo 4 (reached.length / results.length)
    policyVerdictAccuracy :=
      (mean (reached.map (·.deterministic.policyVerdictCorrect.map ofBool))).getD 0
    recommendedActionExactMatchRate :=
      (mean (reached.map (·.deterministic.recommendedActionExactMatch.map ofBool))).getD 0
    meanToolSelectionScore :=
      (mean (results.map (some ·.deterministic.toolSelectionScore))).getD 0
    totalUnnecessaryToolCalls := (results.map (·.deterministic.unnecessaryToolCallCount)).sum
    totalArgumentErrors := (results.map (·.deterministic.argumentErrorCount)).sum
    meanDiagnosisAccuracy := mean (judged.map (some ·.diagnosisAccuracy))
    meanEvidenceGroundedness := mean (judged.map (some ·.evidenceGroundedness))
    meanRemediationQuality := mean (judged.map (some ·.remediationQuality))
    escalationCorrectnessRate := mean (judged.map (some <| ofBool ·.escalationCorrect))
    meanStepsUsed := (mean (results.map (some ·.deterministic.stepsUsed))).getD 0
    totalCostUsd := roundTo 6 (results.map (·.deterministic.estimatedCostUsd)).sum
    totalInputTokens := (results.map (·.deterministic.totalInputTokens)).sum
    totalOutputTokens := (results.map (·.deterministic.totalOutputTokens)).sum
    meanLatencySeconds := (mean (results.map (some ·.deterministic.latencySeconds))).getD 0 }

structure EvalRun where
  runLabel : String
  aggregate : AggregateScores

/-- The metrics that a comparison is documented to look at. -/
inductive Metric where
  | completionRate
  | policyVerdictAccuracy
  | recommendedActionExactMatchRate
  | meanToolSelectionScore
  | meanDiagnosisAccuracy
  | meanEvidenceGroundedness
  | meanRemediationQuality
  | escalationCorrectnessRate
  | totalUnnecessaryToolCalls
  | totalArgumentErrors
deriving DecidableEq

/-- `getattr(aggregate, metric)` -/
def AggregateScores.get (scores : AggregateScores) : Metric → Option ℚ
  | .completionRate => some scores.completionRate
  | .policyVerdictAccuracy => some scores.policyVerdictAccuracy
  | .recommendedActionExactMatchRate => some scores.recommendedActionExactMatchRate
  | .meanToolSelectionScore => some scores.meanToolSelectionScore
  | .meanDiagnosisAccuracy => scores.meanDiagnosisAccuracy
  | .meanEvidenceGroundedness => scores.meanEvidenceGroundedness
  | .meanRemediationQuality => scores.meanRemediationQuality
  | .escalationCorrectnessRate => scores.escalationCorrectnessRate
  | .totalUnnecessaryToolCalls => some scores.totalUnnecessaryToolCalls
  | .totalArgumentErrors => some scores.totalArgumentErrors

def higherIsBetter : List Metric :=
  [.completionRate, .policyVerdictAccuracy, .recommendedActionExactMatchRate,
   .meanToolSelectionScore, .meanDiagnosisAccuracy, .meanEvidenceGroundedness,
   .meanRemediationQuality, .escalationCorrectnessRate]

structure MetricDelta where
  metric : Metric
  baseline : ℚ
  candidate : ℚ
  delta : ℚ

structure RegressionReport where
  baselineLabel : String
  candidateLabel : String
  regressions : List MetricDelta := []
  improvements : List MetricDelta := []
  unchanged : List Metric := []

def compareMetric (baseline candidate : EvalRun) (threshold : ℚ) (report : RegressionReport)
    (metric : Metric) : RegressionReport :=
  match baseline.aggregate.get metric, candidate.aggregate.get metric with
  | some b, some c =>
    let delta := roundTo 4 (c - b)
    let entry : MetricDelta := ⟨metric, b, c, delta⟩
    if delta ≤ -threshold then { report with regressions := report.regressions ++ [entry] }
    else if delta ≥ threshold then { report with improvements := report.improvements ++ [entry] }
    else { report with unchanged := report.unchanged ++ [metric] }
  | _, _ => report

def compareRuns (baseline candidate : EvalRun) (threshold : ℚ) : RegressionReport :=
  higherIsBetter.foldl (compareMetric baseline candidate threshold)
    { baselineLabel := baseline.runLabel, candidateLabel := candidate.runLabel }

inductive Movement where
  | regressed
  | improved
  | unchanged
deriving DecidableEq

def movement (threshold delta : ℚ) : Movement :=
  if delta ≤ -threshold then .regressed else if delta ≥ threshold then .improved else .unchanged

/-- The metrics that a report lists under a movement. -/
def RegressionReport.listed (report : RegressionReport) : Movement → List Metric
  | .regressed => report.regressions.map (·.metric)
  | .improved => report.improvements.map (·.metric)
  | .unchanged => report.unchanged

section
variable (baseline candidate : EvalRun) (threshold : ℚ)

/-- How the comparison classifies a metric, if both runs have it. -/
def classified (metric : Metric) : Option Movement :=
  match baseline.aggregate.get metric, candidate.aggregate.get metric with
  | some b, some c => some (movement threshold (roundTo 4 (c - b)))
  | _, _ => none

theorem compareMetric_listed (report : RegressionReport) (metric : Metric) (moved : Movement) :
    (compareMetric baseline candidate threshold report metric).listed moved =
      report.listed moved ++ [metric].filter
        fun m => classified baseline candidate threshold m == some moved := by
  have single : ∀ now : Movement, classified baseline candidate threshold metric = some now →
      [metric].filter (fun m => classified baseline candidate threshold m == some moved) =
        if now = moved then [metric] else [] := by
    intro now same
    by_cases here : now = moved <;> simp [same, here]
  unfold compareMetric
  cases left : baseline.aggregate.get metric with
  | none => simp [classified, left]
  | some b =>
    cases right : candidate.aggregate.get metric with
    | none => simp [classified, left, right]
    | some c =>
      have now : classified baseline candidate threshold metric =
          some (movement threshold (roundTo 4 (c - b))) := by
        simp only [classified, left, right]
      rw [single _ now, movement]
      dsimp only
      split_ifs <;> cases moved <;> simp_all [RegressionReport.listed]

theorem foldl_compareMetric_listed (metrics : List Metric) (report : RegressionReport)
    (moved : Movement) :
    (metrics.foldl (compareMetric baseline candidate threshold) report).listed moved =
      report.listed moved ++ metrics.filter
        fun m => classified baseline candidate threshold m == some moved := by
  induction metrics generalizing report with
  | nil => simp
  | cons metric metrics ih =>
    rw [List.foldl_cons, ih, compareMetric_listed, List.append_assoc, ← List.filter_append,
      List.singleton_append]

theorem compareRuns_listed (moved : Movement) :
    (compareRuns baseline candidate threshold).listed moved = higherIsBetter.filter
      fun m => classified baseline candidate threshold m == some moved := by
  rw [compareRuns, foldl_compareMetric_listed]
  cases moved <;> rfl

end

def lowerIsBetter : List Metric := [.totalUnnecessaryToolCalls, .totalArgumentErrors]

def gain (metric : Metric) (baseline candidate : ℚ) : ℚ :=
  if metric ∈ lowerIsBetter then baseline - candidate else candidate - baseline

/-- A metric that moved by the threshold or more is reported, and otherwise listed as unchanged. -/
structure Reported (report : RegressionReport) (metric : Metric) (threshold gain : ℚ) : Prop where
  regressed : gain ≤ -threshold → metric ∈ report.listed .regressed
  improved : threshold ≤ gain → metric ∈ report.listed .improved
  unchanged : -threshold < gain → gain < threshold → metric ∈ report.listed .unchanged

theorem movement_regressed {threshold delta : ℚ} (worse : delta ≤ -threshold) :
    movement threshold delta = .regressed := if_pos worse

theorem movement_improved {threshold delta : ℚ} (positive : 0 < threshold)
    (better : threshold ≤ delta) : movement threshold delta = .improved := by
  rw [movement, if_neg (by linarith), if_pos better]

theorem movement_unchanged {threshold delta : ℚ} (above : -threshold < delta)
    (below : delta < threshold) : movement threshold delta = .unchanged := by
  rw [movement, if_neg (by linarith), if_neg (by linarith)]

theorem mem_listed {baseline candidate : EvalRun} {threshold : ℚ} {metric : Metric}
    {moved : Movement} : metric ∈ (compareRuns baseline candidate threshold).listed moved ↔
      metric ∈ higherIsBetter ∧ classified baseline candidate threshold metric = some moved := by
  rw [compareRuns_listed, List.mem_filter, beq_iff_eq]

theorem gain_of_higher {metric : Metric} (higher : metric ∈ higherIsBetter) (b c : ℚ) :
    gain metric b c = c - b := by
  have apart : ∀ metric ∈ higherIsBetter, metric ∉ lowerIsBetter := by decide
  exact if_neg (apart metric higher)

/-- For every two runs and every metric that both have: it is reported as its gain says if and only
if it is one of the eight that the comparison loops over. -/
theorem reported_iff {baseline candidate : EvalRun} {threshold b c : ℚ} {metric : Metric}
    (positive : 0 < threshold) (before : baseline.aggregate.get metric = some b)
    (after : candidate.aggregate.get metric = some c) (decimal : Decimal 4 b)
    (decimal' : Decimal 4 c) :
    Reported (compareRuns baseline candidate threshold) metric threshold (gain metric b c) ↔
      metric ∈ higherIsBetter := by
  constructor
  · rintro ⟨regressed, improved, unchanged⟩
    rcases le_or_gt (gain metric b c) (-threshold) with worse | above
    · exact (mem_listed.mp (regressed worse)).1
    · rcases le_or_gt threshold (gain metric b c) with better | below
      · exact (mem_listed.mp (improved better)).1
      · exact (mem_listed.mp (unchanged above below)).1
  · intro higher
    have now : classified baseline candidate threshold metric =
        some (movement threshold (gain metric b c)) := by
      simp only [classified, before, after]
      rw [(decimal'.sub decimal).roundTo, gain_of_higher higher]
    refine ⟨fun worse => ?_, fun better => ?_, fun above below => ?_⟩
    · exact mem_listed.mpr ⟨higher, by rw [now, movement_regressed worse]⟩
    · exact mem_listed.mpr ⟨higher, by rw [now, movement_improved positive better]⟩
    · exact mem_listed.mpr ⟨higher, by rw [now, movement_unchanged above below]⟩

/-- A run with this share of right verdicts and this many rejected arguments. -/
def evalRun (label : String) (accuracy : ℚ) (argumentErrors : ℕ) : EvalRun where
  runLabel := label
  aggregate :=
    { scenarioCount := 1, completionRate := 1, policyVerdictAccuracy := accuracy
      recommendedActionExactMatchRate := 1, meanToolSelectionScore := 1
      totalUnnecessaryToolCalls := 0, totalArgumentErrors := argumentErrors, meanStepsUsed := 3
      totalCostUsd := 1 / 100, totalInputTokens := 1000, totalOutputTokens := 200
      meanLatencySeconds := 2 }

theorem reported_accuracy : Reported (compareRuns (evalRun "baseline" 1 0)
    (evalRun "degraded-prompt" (3 / 5) 0) (1 / 20)) .policyVerdictAccuracy (1 / 20)
    (gain .policyVerdictAccuracy 1 (3 / 5)) :=
  (reported_iff (by norm_num) rfl rfl ⟨10000, by norm_num⟩
    ⟨6000, by norm_num⟩).mpr (by decide)

/-- Twelve more rejected arguments appear nowhere in the report. -/
theorem unreported_argumentErrors : ¬ Reported (compareRuns (evalRun "baseline" 1 0)
    (evalRun "degraded-prompt" 1 12) (1 / 20)) .totalArgumentErrors (1 / 20)
    (gain .totalArgumentErrors 0 12) := by
  intro reported
  have listed := reported.regressed (by decide +kernel)
  rw [compareRuns_listed] at listed
  exact absurd (List.mem_filter.mp listed).1 (by decide)

end OpsPilot.EvalRegression
