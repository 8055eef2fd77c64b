import OpsPilot.Columns
import OpsPilot.Judge
import OpsPilot.RequestScope
import OpsPilot.ResultCoherence

/-! The golden dataset run through the investigation that incidents go through, scenario by
scenario, each on a thread of its own. -/

namespace OpsPilot.EvalRunner
open PolicyEngine AgentSchemas SyntheticEnvironment ScenarioSpecs EvalScores EvalRegression
open InvestigationState Models ChatClient StepEffects Investigation IncidentApi PolicyGate
open GraphRun RunCeilings PauseRequests ResultCoherence Judge RequestScope Columns DurableProgram

/-- One scenario's part of an evaluation run. -/
structure ScenarioReport where
  scenarioKey : String
  status : InvestigationStatus
  deterministic : DeterministicScores
  judge : Option Judgment := none
  judgeError : Option String := none

/-- What the aggregate is computed from. -/
def ScenarioReport.result (report : ScenarioReport) : ScenarioEvalResult where
  deterministic := report.deterministic
  judge := report.judge.map (·.scores)

structure EvalReport where
  runLabel : String
  startedAt : ℤ
  scenarioKeys : List String
  scenarios : List ScenarioReport
  aggregate : AggregateScores

/-- Readings of the monotonic clock around one investigation. -/
structure Timing where
  started : ℚ
  ended : ℚ

/-- `judging` when there is a chat function for the judge. -/
structure EvalOptions where
  judging : Bool := true
  scenarioKeys : Option (List String) := none
  runLabel : String := "eval"
  ceilings : Ceilings := {}
  memoryEnabled : Bool := true
  timing : ℕ → Timing
  now : ℤ

def evalThread (py : Platform) (key : String) (started : ℚ) : String :=
  "eval-" ++ key ++ "-" ++ String.ofList (py.floatRepr started)

variable (app : App) (options : EvalOptions)

/-- The judge is only asked about a diagnosis. -/
def judged (spec : ScenarioSpec) (report : ScenarioReport) :
    Option SubmitDiagnosisArgs → Backend ScenarioReport
  | none => .ret report
  | some diagnosis =>
    if options.judging then
      (judgeInvestigation app.py spec diagnosis).bind fun
        | .ok judgment => .ret { report with judge := some judgment }
        | .error text => .ret { report with judgeError := some text }
    else .ret report

def unjudged (spec : ScenarioSpec) (timing : Timing) (result : InvestigationResult) :
    ScenarioReport where
  scenarioKey := spec.key
  status := result.status
  deterministic := scoreDeterministic spec result (timing.ended - timing.started)

def runScenario (scenario : Scenario) (spec : ScenarioSpec) (timing : Timing) :
    Backend ScenarioReport :=
  (runInvestigation app scenario (evalThread app.py spec.key timing.started) options.ceilings
    options.memoryEnabled).bind fun result =>
      judged app options spec (unjudged spec timing result) result.diagnosis

/-- The scenarios that are left, the next of which is number `n`. -/
def runScenarios : ℕ → List ScenarioSpec → Backend (List ScenarioReport)
  | _, [] => .ret []
  | n, spec :: specs =>
    (one (scenarioByKey app spec.key)).bind fun scenario =>
      (runScenario app options scenario spec (options.timing n)).bind fun report =>
        (runScenarios (n + 1) specs).bind fun reports => .ret (report :: reports)

/-- `scenario_keys is None or s.key in scenario_keys` -/
def selected (dataset : List ScenarioSpec) : List ScenarioSpec :=
  dataset.filter fun spec => options.scenarioKeys.all (·.contains spec.key)

def reportOf (specs : List ScenarioSpec) (reports : List ScenarioReport) : EvalReport where
  runLabel := options.runLabel
  startedAt := options.now
  scenarioKeys := specs.map (·.key)
  scenarios := reports
  aggregate := aggregate (reports.map (·.result))

def keysText : String :=
  app.py.display (match options.scenarioKeys with
    | none => .null
    | some keys => .arr (keys.map .str))

/-- `dataset` stands for the golden dataset. -/
def runEval (dataset : List ScenarioSpec) : Backend EvalReport :=
  if selected options dataset = [] then
    .raise (.other ("No scenarios matched scenario_keys=" ++ keysText app options))
  else
    (runScenarios app options 0 (selected options dataset)).bind fun reports =>
      .ret (reportOf options (selected options dataset) reports)

variable {app options}

def EvalCall (app : App) (call : RemediationCall) : Prop :=
  Routine call ∧ ∃ key started, call.threadId = evalThread app.py key started

theorem Allowed.evalCall {key : String} {started : ℚ} {call : RemediationCall}
    (allowed : Allowed app.py (evalThread app.py key started) none call) : EvalCall app call := by
  obtain ⟨own, routine | ⟨_, missing, _⟩⟩ := allowed
  · exact ⟨routine, key, started, own⟩
  · cases missing

section
variable {allowed : Label → Prop} (spec : ScenarioSpec)

theorem judged_does (report : ScenarioReport) (diagnosis : Option SubmitDiagnosisArgs)
    (calls : ∀ request, Does allowed (callWithRetries request maxRetries 1)) :
    Does allowed (judged app options spec report diagnosis) := by
  unfold judged
  split
  · trivial
  · split
    · refine Guarantees.bind ((calls _).bind fun _ => trivial) ?_
      rintro (text | judgment) <;> trivial
    · trivial

theorem runEval_does (dataset : List ScenarioSpec)
    (calls : ∀ request, Does allowed (callWithRetries request maxRetries 1))
    (runs : ∀ scenario key started, Does allowed (runInvestigation app scenario
      (evalThread app.py key started) options.ceilings options.memoryEnabled)) :
    Does allowed (runEval app options dataset) := by
  unfold runEval
  split
  · trivial
  · refine Guarantees.bind ?_ fun _ => trivial
    generalize selected options dataset = specs, 0 = n
    induction specs generalizing n with
    | nil => trivial
    | cons spec specs ih =>
      refine (does_one _).bind fun scenario => ?_
      refine ((runs scenario spec.key _).bind fun result => judged_does spec _ _ calls).bind
        fun report => ?_
      exact (ih (n + 1)).bind fun _ => trivial

end

theorem runEval_licensed (app : App) (options : EvalOptions) (dataset : List ScenarioSpec) :
    Does (licensed (EvalCall app)) (runEval app options dataset) :=
  runEval_does dataset
    (fun request => licensed_of_threads fun threadId => callWithRetries_does threadId request _ _)
    fun scenario _ _ => runInvestigation_licensed scenario _ _ fun _ => Allowed.evalCall

theorem evalThread_ne (py : Platform) (key : String) (started : ℚ) (id : ℕ) :
    evalThread py key started ≠ threadIdOf id := by
  intro same
  have first : ((evalThread py key started).toList.head? = (threadIdOf id).toList.head?) := by
    rw [same]
  simp [evalThread, threadIdOf] at first

theorem elsewhere_of_thread {threadId : String} {id : ℕ} (other : threadId ≠ threadIdOf id)
    {l : Label} (inside : inThread threadId l) : elsewhere id l := by
  cases l with
  | saveCheckpoint | interrupt =>
    cases inside
    exact other
  | commit row => exact fun same => other (inside.symm.trans same)
  | executor key call => exact fun same => other (inside.symm.trans same)
  | createIncident | commitRunning | applyResult | resume => exact inside.elim
  | _ => trivial

theorem runEval_elsewhere (app : App) (options : EvalOptions) (dataset : List ScenarioSpec)
    (id : ℕ) : Does (elsewhere id) (runEval app options dataset) :=
  runEval_does dataset
    (fun request => (callWithRetries_does (evalThread app.py "" 0) request _ _).mono
      fun _ => elsewhere_of_thread (evalThread_ne app.py _ _ id))
    fun scenario key started => (runInvestigation_does app scenario _ _ _).mono
      fun _ => elsewhere_of_thread (evalThread_ne app.py key started id)

structure Evaluated (judging : Bool) (spec : ScenarioSpec) (result : InvestigationResult)
    (report : ScenarioReport) : Prop where
  key : report.scenarioKey = spec.key
  status : report.status = result.status
  deterministic : ∃ latencySeconds, report.deterministic =
    scoreDeterministic spec result latencySeconds
  reached : report.deterministic.reachedDiagnosis = true ↔
    report.status = .diagnosed ∨ report.status = .awaitingApproval
  scored : report.deterministic.reachedDiagnosis = true → ∃ diagnosis,
    result.diagnosis = some diagnosis ∧
    report.deterministic.policyVerdictCorrect = some (verdictName
      (policy diagnosis.recommendedAction) == spec.groundTruth.expectedPolicyVerdict) ∧
    report.deterministic.recommendedActionExactMatch =
      some (diagnosis.recommendedAction.name == spec.groundTruth.expectedAction)
  unscored : report.deterministic.reachedDiagnosis = false →
    report.deterministic.policyVerdictCorrect = none ∧
    report.deterministic.recommendedActionExactMatch = none
  judged : (report.judge.isSome ^^ report.judgeError.isSome) =
    (judging && report.deterministic.reachedDiagnosis)
  unjudged : (report.judge.isSome && report.judgeError.isSome) = false

def Investigated (app : App) (options : EvalOptions)
    (permit : Permit Label ChatOutcome Database Error) (g : List BackendEvent)
    (spec : ScenarioSpec) (result : InvestigationResult) : Prop :=
  ∃ scenario started s t steps, scenarioByKey app spec.key = some scenario ∧ steps <:+: g ∧
    Runs .alone permit (runInvestigation app scenario (evalThread app.py spec.key started)
      options.ceilings options.memoryEnabled) s (.returned result) t steps

/-- The report of one scenario, in an evaluation with these steps. -/
def Reported (app : App) (options : EvalOptions)
    (permit : Permit Label ChatOutcome Database Error) (g : List BackendEvent)
    (spec : ScenarioSpec) (report : ScenarioReport) : Prop :=
  ∃ result, Investigated app options permit g spec result ∧
    Evaluated options.judging spec result report

section
variable {permit : Permit Label ChatOutcome Database Error} {scenario : Scenario}
  {spec : ScenarioSpec} {timing : Timing} {result : InvestigationResult} {report : ScenarioReport}
  {s u : Database} {g : List BackendEvent}

theorem recommendedVerdict_eq (scenario : Scenario) (diagnosis : SubmitDiagnosisArgs) :
    recommendedVerdict scenario diagnosis = policy diagnosis.recommendedAction := by
  unfold recommendedVerdict evaluate
  generalize diagnosis.recommendedAction = action
  cases action <;> rfl

theorem reached_iff : reached result = true ↔
    result.status = .diagnosed ∨ result.status = .awaitingApproval := by
  simp [reached]

theorem diagnosis_of_reached (coherent : Coherent scenario result) :
    reached result = result.diagnosis.isSome := by
  by_cases ended : result.status = .diagnosed ∨ result.status = .awaitingApproval
  · rw [reached_iff.mpr ended]
    rcases ended with diagnosed | awaiting
    · obtain ⟨_, found, _⟩ := coherent.diagnosed diagnosed
      rw [found]
      rfl
    · obtain ⟨_, _, found, _⟩ := coherent.awaiting awaiting
      rw [found]
      rfl
  · rw [Bool.eq_false_iff.mpr fun same => ended (reached_iff.mp same)]
    obtain ⟨undiagnosed, unpaused⟩ := not_or.mp ended
    rw [(coherent.incomplete unpaused undiagnosed).1]
    rfl

theorem evaluated_of_coherent (coherent : Coherent scenario result) (spec : ScenarioSpec)
    (timing : Timing) : Evaluated false spec result (unjudged spec timing result) := by
  have matched : (unjudged spec timing result).deterministic.recommendedActionExactMatch =
      if reached result = true then result.diagnosis.map fun diagnosis =>
        diagnosis.recommendedAction.name == spec.groundTruth.expectedAction else none := rfl
  refine ⟨rfl, rfl, ⟨_, rfl⟩, reached_iff, fun did => ?_, fun unreached => ⟨?_, ?_⟩, rfl, rfl⟩
  · obtain ⟨diagnosis, found, correct⟩ := coherent.scored spec _ did
    refine ⟨diagnosis, found, ?_, ?_⟩
    · rw [← recommendedVerdict_eq scenario]
      exact correct
    · have did : reached result = true := did
      rw [matched, if_pos did, found]
      rfl
  · exact if_neg (Bool.eq_false_iff.mp unreached)
  · have unreached : reached result = false := unreached
    rw [matched, if_neg (Bool.eq_false_iff.mp unreached)]

theorem judged_evaluated (coherent : Coherent scenario result)
    (run : Runs .alone permit (judged app options spec (unjudged spec timing result)
      result.diagnosis) s (.returned report) u g) :
    Evaluated options.judging spec result report := by
  have base := evaluated_of_coherent coherent spec timing
  have reaches : (unjudged spec timing result).deterministic.reachedDiagnosis =
      result.diagnosis.isSome := diagnosis_of_reached coherent
  cases found : result.diagnosis with
  | none =>
    rw [found] at run reaches
    obtain ⟨same, _, _⟩ := run.of_ret
    cases same
    exact ⟨base.key, base.status, base.deterministic, base.reached, base.scored, base.unscored,
      by rw [reaches]; simp [unjudged], rfl⟩
  | some diagnosis =>
    rw [found] at run reaches
    unfold judged at run
    dsimp only at run
    split_ifs at run with judging
    · obtain ⟨judgment, _, _, _, _, rest, _⟩ | ⟨_, stop, _⟩ := run.of_bind
      · cases judgment with
        | ok judgment | error text =>
          obtain ⟨same, _, _⟩ := rest.of_ret
          cases same
          exact ⟨base.key, base.status, base.deterministic, base.reached, base.scored,
            base.unscored, by rw [judging, reaches]; rfl, by simp [unjudged]⟩
      · cases stop
    · obtain ⟨same, _, _⟩ := run.of_ret
      cases same
      exact ⟨base.key, base.status, base.deterministic, base.reached, base.scored, base.unscored,
        by simp [judging, unjudged], rfl⟩

theorem run_coherent {threadId : String} {ceilings : Ceilings} {memoryEnabled : Bool}
    (run : Runs .alone permit (runInvestigation app scenario threadId ceilings memoryEnabled) s
      (.returned result) u g) : Coherent scenario result := by
  have among : Runs (ResultCoherence.elsewhere threadId) permit
      (runInvestigation app scenario threadId ceilings memoryEnabled) s (.returned result) u g :=
    run.among (by rintro _ _ rfl; rfl)
  exact (((keeps_sound permit app scenario threadId).run (sound_entry scenario) among).coherent
    rfl).1

theorem runScenario_evaluated (known : scenarioByKey app spec.key = some scenario)
    (run : Runs .alone permit (runScenario app options scenario spec timing) s (.returned report)
      u g) : Reported app options permit g spec report := by
  obtain ⟨result, _, _, _, first, rest, rfl⟩ | ⟨_, stop, _⟩ := run.of_bind
  · exact ⟨result, ⟨scenario, _, _, _, _, known, (List.prefix_append _ _).isInfix, first⟩,
      judged_evaluated (run_coherent first) rest⟩
  · cases stop

theorem Reported.grow {g' : List BackendEvent} (part : g <:+: g')
    (reported : Reported app options permit g spec report) :
    Reported app options permit g' spec report := by
  obtain ⟨result, ⟨scenario, started, s, t, steps, known, inside, run⟩, evaluated⟩ := reported
  exact ⟨result, ⟨scenario, started, s, t, steps, known, inside.trans part, run⟩, evaluated⟩

section
variable {R : List BackendEvent → ScenarioSpec → ScenarioReport → Prop}

theorem runScenarios_forall₂
    (grow : ∀ {g g' spec report}, g <:+: g' → R g spec report → R g' spec report)
    (each : ∀ {scenario spec timing s report u g}, scenarioByKey app spec.key = some scenario →
      Runs .alone permit (runScenario app options scenario spec timing) s (.returned report) u g →
        R g spec report)
    {n : ℕ} {specs : List ScenarioSpec} {reports : List ScenarioReport}
    (run : Runs .alone permit (runScenarios app options n specs) s (.returned reports) u g) :
    List.Forall₂ (R g) specs reports := by
  induction specs generalizing n reports s u g with
  | nil =>
    obtain ⟨same, _, _⟩ := run.of_ret
    cases same
    exact .nil
  | cons spec specs ih =>
    unfold runScenarios at run
    cases known : scenarioByKey app spec.key with
    | none =>
      rw [known] at run
      obtain ⟨same, _, _⟩ := run.of_raise
      cases same
    | some scenario =>
      rw [known] at run
      change Runs _ _ ((runScenario app options scenario spec (options.timing n)).bind _) s
        (.returned reports) u g at run
      obtain ⟨report, _, g₁, g₂, first, rest, rfl⟩ | ⟨_, stop, _⟩ := run.of_bind
      swap
      · cases stop
      obtain ⟨reports, _, g₃, g₄, later, last, rfl⟩ | ⟨_, stop, _⟩ := rest.of_bind
      swap
      · cases stop
      obtain ⟨same, _, _⟩ := last.of_ret
      cases same
      refine .cons (grow (List.prefix_append _ _).isInfix (each known first)) ?_
      exact (ih later).imp fun spec report => grow ⟨g₁, g₄, List.append_assoc _ _ _⟩

theorem runEval_forall₂
    (grow : ∀ {g g' spec report}, g <:+: g' → R g spec report → R g' spec report)
    (each : ∀ {scenario spec timing s report u g}, scenarioByKey app spec.key = some scenario →
      Runs .alone permit (runScenario app options scenario spec timing) s (.returned report) u g →
        R g spec report)
    {dataset : List ScenarioSpec} {report : EvalReport}
    (run : Runs .alone permit (runEval app options dataset) s (.returned report) u g) :
    selected options dataset ≠ [] ∧ ∃ reports,
      report = reportOf options (selected options dataset) reports ∧
        List.Forall₂ (R g) (selected options dataset) reports := by
  unfold runEval at run
  split_ifs at run with empty
  · obtain ⟨same, _, _⟩ := run.of_raise
    cases same
  obtain ⟨reports, _, g₁, g₂, scenarios, rest, rfl⟩ | ⟨_, stop, _⟩ := run.of_bind
  · obtain ⟨same, _, _⟩ := rest.of_ret
    cases same
    refine ⟨empty, reports, rfl, ?_⟩
    exact (runScenarios_forall₂ (R := R) grow each scenarios).imp fun spec report =>
      grow (List.prefix_append _ _).isInfix
  · cases stop

end

/-- An evaluation that returns has evaluated the selected scenarios, all of them and in the order
of the dataset, each on the diagnosis of its own investigation, whatever failed on the way. -/
theorem eval_reports {dataset : List ScenarioSpec} {report : EvalReport}
    (run : Runs .alone permit (runEval app options dataset) s (.returned report) u g) :
    selected options dataset ≠ [] ∧ report.scenarioKeys = (selected options dataset).map (·.key) ∧
      List.Forall₂ (Reported app options permit g) (selected options dataset) report.scenarios ∧
      report.aggregate = aggregate (report.scenarios.map (·.result)) := by
  obtain ⟨nonempty, reports, rfl, reported⟩ := runEval_forall₂
    (R := Reported app options permit) Reported.grow runScenario_evaluated run
  exact ⟨nonempty, rfl, reported, rfl⟩

/-- It returns, or the judge's provider failed on every attempt. -/
def Concluded {α : Type} (options : EvalOptions) (o : Outcome Error α) : Prop :=
  (∃ a, o = .returned a) ∨ options.judging = true ∧ ∃ text, o = .raised (.transientProvider text)

theorem Concluded.stopped {α β : Type} {part : Outcome Error α} {whole : Outcome Error β}
    (ended : Concluded options part) (stop : Stopped part whole) : Concluded options whole := by
  rcases ended with ⟨_, rfl⟩ | ⟨judging, text, rfl⟩
  · cases stop
  · cases stop
    exact .inr ⟨judging, text, rfl⟩

end

def fairJudgment : ModelResponse where
  content := [.toolUse
    { id := "toolu_2", name := "submit_judgment"
      input := [("diagnosis_accuracy", .float 1),
        ("diagnosis_accuracy_reasoning", .str "names the pool size"),
        ("evidence_groundedness", .float (3 / 4)),
        ("evidence_groundedness_reasoning", .str "one citation"),
        ("remediation_quality", .float 1), ("remediation_quality_reasoning", .str "reverts it"),
        ("escalation_correct", .bool true), ("escalation_reasoning", .str "needs approval")] }]
  inputTokens := 400
  outputTokens := 120

def oneScenario : EvalOptions where
  timing _ := ⟨0, 2⟩
  now := 0

/-- The agent diagnoses in its first call, and then the judge is asked. -/
def rollbackThenJudgment : ℕ → ChatOutcome
  | 0 => .response rollbackDiagnosis
  | _ + 1 => .response fairJudgment

theorem eval_reports_rollback : ∃ (report : EvalReport) (g : List BackendEvent),
    (eval (runEval checkoutApp oneScenario [checkoutDeployOutageSpec]) rollbackThenJudgment
      Database.empty).1 = .returned report ∧
    report.aggregate.policyVerdictAccuracy = 1 ∧ report.scenarioKeys = ["checkout-deploy-outage"] ∧
    List.Forall₂ (Reported checkoutApp oneScenario noFaults g) [checkoutDeployOutageSpec]
      report.scenarios := by
  obtain ⟨report, returned, accurate⟩ :=
    Outcome.of_value (o := (eval (runEval checkoutApp oneScenario [checkoutDeployOutageSpec])
        rollbackThenJudgment Database.empty).1)
      (p := fun report => report.aggregate.policyVerdictAccuracy == 1) (by decide +kernel)
  have run := eval_runs (runEval checkoutApp oneScenario [checkoutDeployOutageSpec])
    rollbackThenJudgment Database.empty
  rw [returned] at run
  obtain ⟨_, keys, reported, _⟩ := eval_reports run
  exact ⟨report, _, returned, beq_iff_eq.mp accurate, keys, reported⟩

end OpsPilot.EvalRunner
