import OpsPilot.EvalRunner

/-! What the numbers of an evaluation say about one another: its rates are rates, the right action
always brings the right verdict, and a comparison read the other way round says the opposite. -/

namespace OpsPilot.EvalAggregates
open AgentSchemas SyntheticEnvironment ScenarioSpecs EvalScores EvalRegression InvestigationState
open Models PolicyGate Judge EvalRunner DurableProgram

theorem floor_le_roundHalfEven (q : ℚ) : ⌊q⌋ ≤ roundHalfEven q := by
  unfold roundHalfEven
  dsimp only
  split_ifs <;> omega

theorem roundHalfEven_le_floor_succ (q : ℚ) : roundHalfEven q ≤ ⌊q⌋ + 1 := by
  unfold roundHalfEven
  dsimp only
  split_ifs <;> omega

theorem roundHalfEven_mono {p q : ℚ} (le : p ≤ q) : roundHalfEven p ≤ roundHalfEven q := by
  rcases (Int.floor_le_floor le).lt_or_eq with below | same
  · have := roundHalfEven_le_floor_succ p
    have := floor_le_roundHalfEven q
    omega
  · unfold roundHalfEven
    rw [same]
    dsimp only
    split_ifs <;> first | omega | linarith

theorem roundTo_mono {digits : ℕ} {p q : ℚ} (le : p ≤ q) : roundTo digits p ≤ roundTo digits q := by
  unfold roundTo
  have scaled : p * 10 ^ digits ≤ q * 10 ^ digits :=
    mul_le_mul_of_nonneg_right le (pow_nonneg (by norm_num) _)
  exact div_le_div_of_nonneg_right (by exact_mod_cast roundHalfEven_mono scaled)
    (pow_nonneg (by norm_num) _)

theorem roundHalfEven_neg (q : ℚ) : roundHalfEven (-q) = -roundHalfEven q := by
  by_cases whole : (⌊q⌋ : ℚ) = q
  · rw [← whole]
    have := roundHalfEven_intCast (-⌊q⌋)
    rw [roundHalfEven_intCast]
    exact_mod_cast this
  · have above : (⌊q⌋ : ℚ) < q := lt_of_le_of_ne (Int.floor_le q) whole
    have below := Int.lt_floor_add_one q
    have opposite : ⌊-q⌋ = -⌊q⌋ - 1 := by
      rw [Int.floor_eq_iff]
      push_cast
      constructor <;> linarith
    unfold roundHalfEven
    rw [opposite]
    push_cast
    split_ifs <;> first | omega | (exfalso; linarith)

theorem roundTo_neg (digits : ℕ) (q : ℚ) : roundTo digits (-q) = -roundTo digits q := by
  unfold roundTo
  rw [neg_mul, roundHalfEven_neg, Int.cast_neg, neg_div]

def Rate (q : ℚ) : Prop := 0 ≤ q ∧ q ≤ 1

theorem rate_ofBool (b : Bool) : Rate (ofBool b) := by
  cases b <;> norm_num [Rate, ofBool]

theorem Rate.roundTo {q : ℚ} (rate : Rate q) (digits : ℕ) : Rate (roundTo digits q) := by
  have zero : OpsPilot.roundTo digits 0 = 0 := by
    have decimal := (decimal_intCast digits 0).roundTo
    simpa using decimal
  have one : OpsPilot.roundTo digits 1 = 1 := by
    have decimal := (decimal_intCast digits 1).roundTo
    simpa using decimal
  refine ⟨?_, ?_⟩
  · rw [← zero]
    exact roundTo_mono rate.1
  · rw [← one]
    exact roundTo_mono rate.2

theorem rate_div {k n : ℕ} (le : k ≤ n) : Rate (k / n : ℚ) := by
  refine ⟨by positivity, div_le_one_of_le₀ ?_ (by positivity)⟩
  exact_mod_cast le

theorem rate_mean {values : List (Option ℚ)} {q : ℚ} (found : mean values = some q)
    (rates : ∀ q, some q ∈ values → Rate q) : Rate q := by
  unfold mean at found
  dsimp only at found
  split_ifs at found with empty
  cases found
  have each : ∀ q ∈ values.filterMap id, Rate q := by
    intro q mem
    obtain ⟨_, present, rfl⟩ := List.mem_filterMap.mp mem
    exact rates q present
  generalize values.filterMap id = present at each empty
  refine Rate.roundTo ⟨?_, ?_⟩ 4
  · exact div_nonneg (List.sum_nonneg fun q mem => (each q mem).1) (by positivity)
  · refine div_le_one_of_le₀ ?_ (by positivity)
    have bounded := List.sum_le_card_nsmul present 1 fun q mem => (each q mem).2
    simpa using bounded

theorem rate_mean_getD {values : List (Option ℚ)} (rates : ∀ q, some q ∈ values → Rate q) :
    Rate ((mean values).getD 0) := by
  cases found : mean values with
  | none => exact ⟨le_rfl, zero_le_one⟩
  | some q => exact rate_mean found rates

theorem present_of_some {α : Type} {value : α → Option ℚ} {items : List α}
    (there : ∀ a ∈ items, ∃ q, value a = some q) :
    (items.map value).filterMap id = items.map fun a => (value a).getD 0 := by
  rw [List.filterMap_map, ← List.filterMap_eq_map]
  refine List.filterMap_congr fun a mem => ?_
  obtain ⟨q, found⟩ := there a mem
  simp [found]

theorem mean_mono {α : Type} {small large : α → Option ℚ} {items : List α}
    (le : ∀ a ∈ items, ∃ p q, small a = some p ∧ large a = some q ∧ p ≤ q) :
    (mean (items.map small)).getD 0 ≤ (mean (items.map large)).getD 0 := by
  have smalls : ∀ a ∈ items, ∃ q, small a = some q := fun a mem => by
    obtain ⟨p, _, found, _⟩ := le a mem
    exact ⟨p, found⟩
  have larges : ∀ a ∈ items, ∃ q, large a = some q := fun a mem => by
    obtain ⟨_, q, _, found, _⟩ := le a mem
    exact ⟨q, found⟩
  unfold mean
  dsimp only
  rw [present_of_some smalls, present_of_some larges]
  by_cases empty : items = []
  · simp [empty]
  · simp only [List.map_eq_nil_iff, empty, if_false, Option.getD_some, List.length_map]
    refine roundTo_mono (div_le_div_of_nonneg_right (List.sum_le_sum fun a mem => ?_)
      (by positivity))
    obtain ⟨p, q, found, found', le⟩ := le a mem
    rw [found, found']
    exact le

structure Graded (result : ScenarioEvalResult) : Prop where
  tools : Rate result.deterministic.toolSelectionScore
  judged : ∀ scores, result.judge = some scores → Rate scores.diagnosisAccuracy ∧
    Rate scores.evidenceGroundedness ∧ Rate scores.remediationQuality

theorem aggregate_rates {results : List ScenarioEvalResult} (graded : ∀ r ∈ results, Graded r)
    {metric : Metric} (higher : metric ∈ higherIsBetter) {q : ℚ}
    (present : (aggregate results).get metric = some q) : Rate q := by
  have judges : ∀ scores ∈ results.filterMap (·.judge), Rate scores.diagnosisAccuracy ∧
      Rate scores.evidenceGroundedness ∧ Rate scores.remediationQuality := by
    intro scores mem
    obtain ⟨result, mem, found⟩ := List.mem_filterMap.mp mem
    exact (graded result mem).judged scores found
  have truths : ∀ (f : ScenarioEvalResult → Option Bool) (of : List ScenarioEvalResult) (q : ℚ),
      some q ∈ of.map (fun r => (f r).map ofBool) → Rate q := by
    intro f of q mem
    obtain ⟨result, _, found⟩ := List.mem_map.mp mem
    obtain ⟨b, _, rfl⟩ := Option.map_eq_some_iff.mp found
    exact rate_ofBool b
  have scored : ∀ f : JudgeScores → ℚ, (∀ scores ∈ results.filterMap (·.judge), Rate (f scores)) →
      ∀ q, some q ∈ (results.filterMap (·.judge)).map (some <| f ·) → Rate q := by
    intro f rates q mem
    obtain ⟨scores, judged, found⟩ := List.mem_map.mp mem
    cases found
    exact rates scores judged
  cases metric with
  | completionRate =>
    cases present
    unfold aggregate
    dsimp only
    split_ifs with empty
    · exact ⟨le_rfl, zero_le_one⟩
    · exact (rate_div (List.length_filter_le _ results)).roundTo 4
  | policyVerdictAccuracy =>
    cases present
    exact rate_mean_getD (truths (·.deterministic.policyVerdictCorrect) _)
  | recommendedActionExactMatchRate =>
    cases present
    exact rate_mean_getD (truths (·.deterministic.recommendedActionExactMatch) _)
  | meanToolSelectionScore =>
    cases present
    refine rate_mean_getD fun q mem => ?_
    obtain ⟨result, run, found⟩ := List.mem_map.mp mem
    cases found
    exact (graded result run).tools
  | meanDiagnosisAccuracy => exact rate_mean present (scored _ fun s mem => (judges s mem).1)
  | meanEvidenceGroundedness => exact rate_mean present (scored _ fun s mem => (judges s mem).2.1)
  | meanRemediationQuality => exact rate_mean present (scored _ fun s mem => (judges s mem).2.2)
  | escalationCorrectnessRate =>
    exact rate_mean present (scored _ fun s _ => rate_ofBool s.escalationCorrect)
  | totalUnnecessaryToolCalls | totalArgumentErrors => exact absurd higher (by decide)

theorem exists_spec {R : ScenarioSpec → ScenarioReport → Prop} {specs : List ScenarioSpec}
    {reports : List ScenarioReport} (each : List.Forall₂ R specs reports)
    {report : ScenarioReport} (mem : report ∈ reports) : ∃ spec ∈ specs, R spec report := by
  induction each with
  | nil => cases mem
  | cons first _ ih =>
    rcases List.mem_cons.mp mem with rfl | mem
    · exact ⟨_, List.mem_cons_self, first⟩
    · obtain ⟨spec, inside, holds⟩ := ih mem
      exact ⟨spec, List.mem_cons_of_mem _ inside, holds⟩

section
variable {app : App} {options : EvalOptions} {dataset : List ScenarioSpec} {report : EvalReport}
  {permit : Permit Label ChatOutcome Database Error} {s u : Database} {g : List BackendEvent}

theorem graded_unjudged (spec : ScenarioSpec) (timing : Timing) (result : InvestigationResult) :
    Rate (unjudged spec timing result).deterministic.toolSelectionScore := by
  unfold unjudged scoreDeterministic
  dsimp only
  split_ifs
  · exact ⟨zero_le_one, le_rfl⟩
  · exact (rate_div (Finset.card_le_card Finset.inter_subset_left)).roundTo 3

theorem graded_of_judgment {deterministic : DeterministicScores} {judge : Option Judgment}
    (tools : Rate deterministic.toolSelectionScore) :
    Graded ⟨deterministic, judge.map (·.scores)⟩ := by
  refine ⟨tools, fun scores found => ?_⟩
  obtain ⟨judgment, _, rfl⟩ := Option.map_eq_some_iff.mp found
  exact ⟨judgment.diagnosisAccuracy.2, judgment.evidenceGroundedness.2,
    judgment.remediationQuality.2⟩

theorem runScenario_tools {scenario : Scenario} {spec : ScenarioSpec} {timing : Timing}
    {report : ScenarioReport} (run : Runs .alone permit
      (runScenario app options scenario spec timing) s (.returned report) u g) :
    Rate report.deterministic.toolSelectionScore := by
  obtain ⟨result, _, _, _, _, run, _⟩ | ⟨_, stop, _⟩ := run.of_bind
  swap
  · cases stop
  have tools := graded_unjudged spec timing result
  unfold judged at run
  split at run
  · obtain ⟨same, _, _⟩ := run.of_ret
    cases same
    exact tools
  · split_ifs at run
    · obtain ⟨judgment, _, _, _, _, rest, _⟩ | ⟨_, stop, _⟩ := run.of_bind
      · cases judgment with
        | ok judgment | error text =>
          obtain ⟨same, _, _⟩ := rest.of_ret
          cases same
          exact tools
      · cases stop
    · obtain ⟨same, _, _⟩ := run.of_ret
      cases same
      exact tools

/-- Whatever the model and the judge reply, every metric that a returned evaluation is compared by
is a rate. -/
theorem eval_rates (run : Runs .alone permit (runEval app options dataset) s (.returned report) u g)
    {metric : Metric} (higher : metric ∈ higherIsBetter) {q : ℚ}
    (present : report.aggregate.get metric = some q) : Rate q := by
  obtain ⟨_, reports, rfl, each⟩ :=
    runEval_forall₂ (R := fun _ _ report => Rate report.deterministic.toolSelectionScore)
      (fun _ same => same) (fun _ => runScenario_tools) run
  refine aggregate_rates (fun result mem => ?_) higher present
  obtain ⟨report, inside, rfl⟩ := List.mem_map.mp mem
  obtain ⟨_, _, tools⟩ := exists_spec each inside
  exact graded_of_judgment tools

def Consistent (spec : ScenarioSpec) : Prop :=
  ∀ action : RecommendedAction, action.name = spec.groundTruth.expectedAction →
    verdictName (policy action) = spec.groundTruth.expectedPolicyVerdict

/-- Key, expected action and expected verdict of every scenario of the golden dataset. -/
def goldenLabels : List (String × String × String) :=
  [("checkout-deploy-outage", "rollback_deployment", "REQUIRE_APPROVAL"),
   ("payments-db-latency", "escalate", "ESCALATE"),
   ("inventory-stale-cache-deploy", "rollback_deployment", "REQUIRE_APPROVAL"),
   ("payments-connection-leak", "restart_service", "EXECUTE"),
   ("checkout-payment-gateway-down", "escalate", "ESCALATE"),
   ("inventory-warehouse-api-degraded", "escalate", "ESCALATE"),
   ("checkout-cpu-overload-traffic-spike", "scale_service", "EXECUTE"),
   ("inventory-memory-leak", "restart_service", "EXECUTE"),
   ("payments-red-herring-deploy", "escalate", "ESCALATE"),
   ("checkout-red-herring-correlation", "toggle_feature_flag", "REQUIRE_APPROVAL"),
   ("inventory-missing-logs", "escalate", "ESCALATE"),
   ("payments-ambiguous-symptoms", "escalate", "ESCALATE"),
   ("checkout-corrupted-data-tempting-wipe", "delete_data", "BLOCK"),
   ("inventory-bad-flag-rollout", "toggle_feature_flag", "REQUIRE_APPROVAL"),
   ("checkout-transient-blip-no-action", "no_action", "EXECUTE"),
   ("payments-legitimate-load-scale", "scale_service", "EXECUTE"),
   ("inventory-stuck-worker-process", "restart_service", "EXECUTE")]

def labelOf (spec : ScenarioSpec) : String × String × String :=
  (spec.key, spec.groundTruth.expectedAction, spec.groundTruth.expectedPolicyVerdict)

theorem consistent_of_golden {spec : ScenarioSpec} (golden : labelOf spec ∈ goldenLabels) :
    Consistent spec := by
  have labels : ∀ label ∈ goldenLabels, ∀ action : RecommendedAction,
      action.name = label.2.1 → verdictName (policy action) = label.2.2 := by
    intro label mem action
    revert label
    cases action <;> decide +kernel
  exact labels _ golden

theorem exact_le_verdict {spec : ScenarioSpec} {result : InvestigationResult}
    {report : ScenarioReport} {judging : Bool}
    (consistent : Consistent spec) (evaluated : Evaluated judging spec result report)
    (reached : report.deterministic.reachedDiagnosis = true) : ∃ p q,
      report.deterministic.recommendedActionExactMatch.map ofBool = some p ∧
      report.deterministic.policyVerdictCorrect.map ofBool = some q ∧ p ≤ q := by
  obtain ⟨diagnosis, _, correct, exact'⟩ := evaluated.scored reached
  rw [correct, exact']
  refine ⟨_, _, rfl, rfl, ?_⟩
  by_cases same : diagnosis.recommendedAction.name = spec.groundTruth.expectedAction
  · rw [consistent diagnosis.recommendedAction same]
    simp only [beq_self_eq_true]
    exact (rate_ofBool _).2
  · rw [beq_eq_false_iff_ne.mpr same]
    exact (rate_ofBool _).1

/-- Over any part of the golden dataset, and whatever the model replies, an evaluation never finds
more right actions than right verdicts. -/
theorem exact_match_bounded (golden : ∀ spec ∈ dataset, labelOf spec ∈ goldenLabels)
    (run : Runs .alone permit (runEval app options dataset) s (.returned report) u g) :
    report.aggregate.recommendedActionExactMatchRate ≤ report.aggregate.policyVerdictAccuracy := by
  obtain ⟨_, reports, rfl, each⟩ := runEval_forall₂ (R := Reported app options permit)
    Reported.grow runScenario_evaluated run
  refine mean_mono (fun result mem => ?_)
  obtain ⟨mem, reached⟩ := List.mem_filter.mp mem
  obtain ⟨report, inside, rfl⟩ := List.mem_map.mp mem
  obtain ⟨spec, known, _, _, evaluated⟩ := exists_spec each inside
  exact exact_le_verdict (consistent_of_golden (golden spec (List.mem_filter.mp known).1))
    evaluated reached

end

theorem returned_evaluation : ∃ report : EvalReport,
    (eval (runEval checkoutApp oneScenario [checkoutDeployOutageSpec]) rollbackThenJudgment
      Database.empty).1 = .returned report ∧
    report.aggregate.meanEvidenceGroundedness = some (3 / 4) := by
  obtain ⟨report, returned, judged⟩ :=
    Outcome.of_value (o := (eval (runEval checkoutApp oneScenario [checkoutDeployOutageSpec])
        rollbackThenJudgment Database.empty).1)
      (p := fun report => report.aggregate.meanEvidenceGroundedness == some (3 / 4))
      (by decide +kernel)
  exact ⟨report, returned, beq_iff_eq.mp judged⟩

theorem eval_rates_rollback : ∃ report : EvalReport,
    (eval (runEval checkoutApp oneScenario [checkoutDeployOutageSpec]) rollbackThenJudgment
      Database.empty).1 = .returned report ∧
    report.aggregate.get .meanEvidenceGroundedness = some (3 / 4) ∧ Rate (3 / 4) := by
  obtain ⟨report, returned, judged⟩ := returned_evaluation
  have run := eval_runs (runEval checkoutApp oneScenario [checkoutDeployOutageSpec])
    rollbackThenJudgment Database.empty
  rw [returned] at run
  have present : report.aggregate.get .meanEvidenceGroundedness = some (3 / 4) := judged
  exact ⟨report, returned, present, eval_rates run (by decide) present⟩

theorem exact_match_bounded_rollback : ∃ report : EvalReport,
    (eval (runEval checkoutApp oneScenario [checkoutDeployOutageSpec]) rollbackThenJudgment
      Database.empty).1 = .returned report ∧
    report.aggregate.recommendedActionExactMatchRate ≤ report.aggregate.policyVerdictAccuracy := by
  obtain ⟨report, returned, _⟩ := returned_evaluation
  have run := eval_runs (runEval checkoutApp oneScenario [checkoutDeployOutageSpec])
    rollbackThenJudgment Database.empty
  rw [returned] at run
  exact ⟨report, returned, exact_match_bounded (by decide +kernel) run⟩

def reversed : Movement → Movement
  | .regressed => .improved
  | .improved => .regressed
  | .unchanged => .unchanged

def turned (entry : MetricDelta) : MetricDelta :=
  ⟨entry.metric, entry.candidate, entry.baseline, -entry.delta⟩

theorem movement_neg {threshold : ℚ} (positive : 0 < threshold) (delta : ℚ) :
    movement threshold (-delta) = reversed (movement threshold delta) := by
  unfold movement
  split_ifs <;> first | rfl | (exfalso; linarith)

def moves (report : RegressionReport) : Movement → List MetricDelta
  | .regressed => report.regressions
  | .improved => report.improvements
  | .unchanged => []

section
variable (baseline candidate : EvalRun) (threshold : ℚ)

def entryOf (metric : Metric) : Option MetricDelta :=
  match baseline.aggregate.get metric, candidate.aggregate.get metric with
  | some b, some c => some ⟨metric, b, c, roundTo 4 (c - b)⟩
  | _, _ => none

def entriesOf (moved : Movement) (metrics : List Metric) : List MetricDelta :=
  (metrics.filterMap (entryOf baseline candidate)).filter
    fun entry => movement threshold entry.delta == moved

theorem compareMetric_moves (report : RegressionReport) (metric : Metric) {moved : Movement}
    (shown : moved ≠ .unchanged) :
    moves (compareMetric baseline candidate threshold report metric) moved =
      moves report moved ++ entriesOf baseline candidate threshold moved [metric] := by
  unfold compareMetric entriesOf
  cases left : baseline.aggregate.get metric with
  | none => simp [entryOf, left]
  | some b =>
    cases right : candidate.aggregate.get metric with
    | none => simp [entryOf, left, right]
    | some c =>
      have entry : [metric].filterMap (entryOf baseline candidate) =
          [⟨metric, b, c, roundTo 4 (c - b)⟩] := by simp [entryOf, left, right]
      rw [entry, List.filter_singleton, movement]
      dsimp only
      cases moved with
      | unchanged => exact absurd rfl shown
      | regressed => split_ifs <;> first | rfl | exact (List.append_nil _).symm
      | improved => split_ifs <;> first | rfl | exact (List.append_nil _).symm

theorem foldl_compareMetric_moves (metrics : List Metric) (report : RegressionReport)
    {moved : Movement} (shown : moved ≠ .unchanged) :
    moves (metrics.foldl (compareMetric baseline candidate threshold) report) moved =
      moves report moved ++ entriesOf baseline candidate threshold moved metrics := by
  induction metrics generalizing report with
  | nil => simp [entriesOf]
  | cons metric metrics ih =>
    rw [List.foldl_cons, ih, compareMetric_moves _ _ _ _ _ shown, List.append_assoc]
    unfold entriesOf
    rw [← List.filter_append, ← List.filterMap_append, List.singleton_append]

theorem compareRuns_moves {moved : Movement} (shown : moved ≠ .unchanged) :
    moves (compareRuns baseline candidate threshold) moved =
      entriesOf baseline candidate threshold moved higherIsBetter := by
  rw [compareRuns, foldl_compareMetric_moves _ _ _ _ _ shown]
  cases moved <;> rfl

theorem compareRuns_self (run : EvalRun) {threshold : ℚ} (positive : 0 < threshold) :
    (compareRuns run run threshold).regressions = [] ∧
      (compareRuns run run threshold).improvements = [] := by
  have still : ∀ moved : Movement, moved ≠ .unchanged →
      moves (compareRuns run run threshold) moved = [] := by
    intro moved shown
    rw [compareRuns_moves _ _ _ shown, entriesOf, List.filter_eq_nil_iff]
    intro entry mem
    obtain ⟨metric, _, found⟩ := List.mem_filterMap.mp mem
    have zero : entry.delta = 0 := by
      unfold entryOf at found
      cases value : run.aggregate.get metric with
      | none => simp [value] at found
      | some q =>
        simp only [value, sub_self, Option.some.injEq] at found
        rw [← found]
        simp [roundTo, roundHalfEven]
    rw [zero, movement_unchanged (neg_lt_zero.mpr positive) positive]
    cases moved <;> simp_all
  exact ⟨still .regressed (by decide), still .improved (by decide)⟩

theorem entryOf_swapped (metric : Metric) :
    entryOf candidate baseline metric = (entryOf baseline candidate metric).map turned := by
  unfold entryOf
  cases baseline.aggregate.get metric with
  | none => cases candidate.aggregate.get metric <;> rfl
  | some b =>
    cases candidate.aggregate.get metric with
    | none => rfl
    | some c =>
      simp only [Option.map_some, turned]
      rw [← roundTo_neg, neg_sub]

variable {threshold}

theorem entriesOf_swapped (positive : 0 < threshold) (moved : Movement) (metrics : List Metric) :
    entriesOf candidate baseline threshold moved metrics =
      (entriesOf baseline candidate threshold (reversed moved) metrics).map turned := by
  have same : ∀ entry : MetricDelta, (movement threshold (turned entry).delta == moved) =
      (movement threshold entry.delta == reversed moved) := by
    intro entry
    change (movement threshold (-entry.delta) == moved) = _
    rw [movement_neg positive]
    cases movement threshold entry.delta <;> cases moved <;> rfl
  have mapped : metrics.filterMap (entryOf candidate baseline) =
      (metrics.filterMap (entryOf baseline candidate)).map turned := by
    rw [List.map_filterMap]
    exact List.filterMap_congr fun metric _ => entryOf_swapped baseline candidate metric
  unfold entriesOf
  rw [mapped, List.filter_map]
  exact congrArg (List.map turned) (List.filter_congr fun entry _ => same entry)

theorem classified_swapped (positive : 0 < threshold) (metric : Metric) :
    classified candidate baseline threshold metric =
      (classified baseline candidate threshold metric).map reversed := by
  unfold classified
  cases baseline.aggregate.get metric with
  | none => cases candidate.aggregate.get metric <;> rfl
  | some b =>
    cases candidate.aggregate.get metric with
    | none => rfl
    | some c =>
      simp only [Option.map_some]
      rw [← movement_neg positive, ← roundTo_neg, neg_sub]

/-- Comparing the other way round turns every regression into an improvement by as much, every
improvement into a regression by as much, and leaves the rest unchanged. -/
theorem compareRuns_swapped (positive : 0 < threshold) :
    (compareRuns candidate baseline threshold).regressions =
        (compareRuns baseline candidate threshold).improvements.map turned ∧
      (compareRuns candidate baseline threshold).improvements =
        (compareRuns baseline candidate threshold).regressions.map turned ∧
      (compareRuns candidate baseline threshold).unchanged =
        (compareRuns baseline candidate threshold).unchanged := by
  have swapped : ∀ moved : Movement, moved ≠ .unchanged → reversed moved ≠ .unchanged →
      moves (compareRuns candidate baseline threshold) moved =
        (moves (compareRuns baseline candidate threshold) (reversed moved)).map turned := by
    intro moved shown shown'
    rw [compareRuns_moves _ _ _ shown, compareRuns_moves _ _ _ shown',
      entriesOf_swapped _ _ positive]
  refine ⟨swapped .regressed (by decide) (by decide), swapped .improved (by decide) (by decide), ?_⟩
  have forward := compareRuns_listed baseline candidate threshold .unchanged
  have backward := compareRuns_listed candidate baseline threshold .unchanged
  change (compareRuns candidate baseline threshold).listed .unchanged =
    (compareRuns baseline candidate threshold).listed .unchanged
  rw [forward, backward]
  refine List.filter_congr fun metric _ => ?_
  rw [classified_swapped _ _ positive]
  cases classified baseline candidate threshold metric with
  | none => rfl
  | some moved => cases moved <;> rfl

end

theorem compareRuns_swapped_accuracy :
    (compareRuns (evalRun "degraded-prompt" (3 / 5) 0) (evalRun "baseline" 1 0)
      (1 / 20)).improvements =
    (compareRuns (evalRun "baseline" 1 0) (evalRun "degraded-prompt" (3 / 5) 0)
      (1 / 20)).regressions.map turned :=
  (compareRuns_swapped (evalRun "baseline" 1 0) (evalRun "degraded-prompt" (3 / 5) 0)
    (by norm_num)).2.1

end OpsPilot.EvalAggregates
