import OpsPilot.EvalRunner
import OpsPilot.SeededScenarios

/-! An evaluation without memory on a seeded database: it is a function of the definitions that
the database was seeded from, whatever else was seeded and whatever ids were given out. -/

namespace OpsPilot.EvalReproducible
open JsonText PolicyEngine SyntheticEnvironment ReadOnlyTools RemediationTools ScenarioSpecs
open InvestigationState Models GatherContext GraphNodes Investigation IncidentApi SeedSteps
open SeededScenarios EvalRunner DurableProgram

def anonymousApp (app : App) (scenario : Scenario) : App :=
  { app with tables := (anonymous ⟨app.py, app.tables, scenario⟩).tables }

def anonymousScenario (scenario : Scenario) : Scenario :=
  { scenario with id := 0, service := { scenario.service with id := 0 } }

def anonymousDeps (deps : NodeDeps) : NodeDeps :=
  { deps with scenario := anonymousScenario deps.scenario }

theorem toolUse_anonymous (ctx : ToolContext) (step : ℕ) (round : Round) (block : ToolUseBlock) :
    toolUse (anonymous ctx) step round block = toolUse ctx step round block := by
  unfold toolUse
  split
  · rfl
  · cases found : registered block.name with
    | none => rfl
    | some tool =>
      have listed : tool ∈ toolRegistry := List.mem_of_find?_eq_some found
      simp only [tools_anonymous ctx listed]
      rfl

theorem gatherContext_anonymous (app : App) (deps : NodeDeps) (state : GraphState) :
    gatherContext (anonymousApp app deps.scenario) (anonymousDeps deps) state =
      gatherContext app deps state := by
  have round : toolUse (anonymous ⟨app.py, app.tables, deps.scenario⟩) (state.stepsUsed + 1) =
      toolUse ⟨app.py, app.tables, deps.scenario⟩ (state.stepsUsed + 1) := by
    funext round block
    exact toolUse_anonymous _ _ round block
  unfold gatherContext
  dsimp only
  rw [← round]
  rfl

theorem approvable_anonymous {action : String}
    {validate : Platform → RemediationContext → Json → Except String Remediation}
    (found : approvableActions.lookup action = some validate) (py : Platform) (scenario : Scenario)
    (params : Json) :
    validate py ⟨anonymousScenario scenario⟩ params = validate py ⟨scenario⟩ params := by
  obtain ⟨before, after, split, _⟩ := List.lookup_eq_some_iff.mp found
  have listed : (action, validate) ∈ approvableActions :=
    split ▸ List.mem_append_right _ List.mem_cons_self
  simp only [approvableActions, List.mem_cons, List.not_mem_nil, or_false, Prod.mk.injEq] at listed
  rcases listed with ⟨-, rfl⟩ | ⟨-, rfl⟩ <;> rfl

theorem autoExecutable_anonymous {action : String} {autoExecutor : RemediationContext → Json}
    (found : autoExecutable.lookup action = some autoExecutor) (scenario : Scenario) :
    autoExecutor ⟨anonymousScenario scenario⟩ = autoExecutor ⟨scenario⟩ := by
  obtain ⟨before, after, split, _⟩ := List.lookup_eq_some_iff.mp found
  have listed : (action, autoExecutor) ∈ autoExecutable :=
    split ▸ List.mem_append_right _ List.mem_cons_self
  simp only [autoExecutable, List.mem_cons, List.not_mem_nil, or_false, Prod.mk.injEq] at listed
  rcases listed with ⟨-, rfl⟩ | ⟨-, rfl⟩ <;> rfl

theorem resolvedCall_anonymous (app : App) (deps : NodeDeps) (action : String)
    (verdict : PolicyVerdict) (decision : Option Json) :
    resolvedCall (anonymousApp app deps.scenario) (anonymousDeps deps) action verdict decision =
      resolvedCall app deps action verdict decision := by
  unfold resolvedCall
  cases verdict with
  | requireApproval =>
    dsimp only
    cases found : approvableActions.lookup action with
    | none => rfl
    | some validate =>
      have same := approvable_anonymous found app.py deps.scenario
        (orEmpty (decision.bind (·.field? "params")))
      simp only [anonymousApp, anonymousDeps, same]
      rfl
  | execute =>
    dsimp only
    cases found : autoExecutable.lookup action with
    | none => rfl
    | some autoExecutor =>
      simp only [Option.map_some, anonymousDeps, autoExecutable_anonymous found]
      rfl
  | block => rfl
  | escalate => rfl

theorem evaluatePolicy_anonymous (app : App) (deps : NodeDeps) (state : GraphState)
    (answer : Option Json) :
    evaluatePolicy (anonymousApp app deps.scenario) (anonymousDeps deps) state answer =
      evaluatePolicy app deps state answer := by
  unfold evaluatePolicy
  simp only [resolveVerdict_eq, resolvedCall_anonymous]
  rfl

theorem buildGraph_anonymous (app : App) (deps : NodeDeps) :
    buildGraph (anonymousApp app deps.scenario) (anonymousDeps deps) = buildGraph app deps := by
  have visits : visit (anonymousApp app deps.scenario) (anonymousDeps deps) = visit app deps := by
    funext node values answer
    unfold visit
    cases node with
    | gatherContext =>
      simp only [runNode, gatherContext_anonymous]
      rfl
    | evaluatePolicy =>
      simp only [runNode, evaluatePolicy_anonymous]
      rfl
    | _ => rfl
  unfold buildGraph
  rw [visits]
  rfl

theorem runInvestigation_anonymous (app : App) (scenario : Scenario) (threadId : String)
    (ceilings : Ceilings) :
    runInvestigation (anonymousApp app scenario) (anonymousScenario scenario) threadId ceilings
      false = runInvestigation app scenario threadId ceilings false := by
  have graph : buildGraph (anonymousApp app scenario)
      (depsOf (anonymousApp app scenario) (anonymousScenario scenario) ceilings threadId "") =
      buildGraph app (depsOf app scenario ceilings threadId "") :=
    buildGraph_anonymous app (depsOf app scenario ceilings threadId "")
  unfold runInvestigation buildDeps
  simp only [Bool.false_eq_true, if_false, Program.ret_bind, graph]
  rfl

variable {app : App} {options : EvalOptions}

theorem runScenario_anonymous (memoryless : options.memoryEnabled = false) (scenario : Scenario)
    (spec : ScenarioSpec) (timing : Timing) :
    runScenario (anonymousApp app scenario) options (anonymousScenario scenario) spec timing =
      runScenario app options scenario spec timing := by
  unfold runScenario
  rw [memoryless, ← runInvestigation_anonymous app]
  rfl

theorem runScenarios_same {app' : App} {specs : List ScenarioSpec}
    (loads : ∀ spec ∈ specs, ∀ timing,
      (one (scenarioByKey app spec.key)).bind (runScenario app options · spec timing) =
        (one (scenarioByKey app' spec.key)).bind (runScenario app' options · spec timing))
    (n : ℕ) : runScenarios app options n specs = runScenarios app' options n specs := by
  induction specs generalizing n with
  | nil => rfl
  | cons spec specs ih =>
    have first := loads spec List.mem_cons_self (options.timing n)
    have rest := ih (fun other mem => loads other (List.mem_cons_of_mem _ mem)) (n + 1)
    simp only [runScenarios, ← Program.bind_assoc, first, rest]

variable {past past' : List ScenarioSpec} {tables tables' : SeedGenerator.Tables}

theorem runScenario_seeded (app : App) (memoryless : options.memoryEnabled = false)
    (history : SeedHistory past tables) (spec : ScenarioSpec) (timing : Timing) :
    (one (scenarioByKey { app with tables := environment tables } spec.key)).bind
        (runScenario { app with tables := environment tables } options · spec timing) =
      match past.find? (·.key == spec.key) with
      | none => one none
      | some first =>
        runScenario { app with tables := (authored app.py (firsts past) first).tables } options
          (authored app.py (firsts past) first).scenario spec timing := by
  cases found : past.find? (·.key == spec.key) with
  | none =>
    have unseen : spec.key ∉ past.map (·.key) := by
      intro mem
      obtain ⟨other, written, same⟩ := List.mem_map.mp mem
      exact List.find?_eq_none.mp found other written (beq_iff_eq.mpr same)
    have missing : scenarioByKey { app with tables := environment tables } spec.key = none :=
      environment_missing (history.missing unseen)
    rw [missing]
    rfl
  | some first =>
    have key : first.key = spec.key := by simpa using List.find?_some found
    rw [← key] at found ⊢
    obtain ⟨scenario, loaded, same⟩ := history.scenario app.py found
    have loads : scenarioByKey { app with tables := environment tables } first.key =
        some scenario := loaded
    rw [loads]
    change runScenario _ options scenario spec timing = _
    dsimp only
    rw [← runScenario_anonymous memoryless, ← same]
    rfl

/-- Two databases seeded in any two ways: where they saw the same first definition of every
evaluated key, and have the same runbooks for its service, an evaluation without memory is the same
program on both. -/
theorem eval_reproducible (app : App) (memoryless : options.memoryEnabled = false)
    (history : SeedHistory past tables) (history' : SeedHistory past' tables')
    {dataset : List ScenarioSpec}
    (same : ∀ spec ∈ selected options dataset,
      past.find? (·.key == spec.key) = past'.find? (·.key == spec.key))
    (runbooks : ∀ spec ∈ selected options dataset, ∀ first,
      past.find? (·.key == spec.key) = some first →
        keptRunbooks first.serviceName (firsts past) =
          keptRunbooks first.serviceName (firsts past')) :
    runEval { app with tables := environment tables } options dataset =
      runEval { app with tables := environment tables' } options dataset := by
  have scenarios :
      runScenarios { app with tables := environment tables } options 0 (selected options dataset) =
        runScenarios { app with tables := environment tables' } options 0
          (selected options dataset) := by
    refine runScenarios_same (fun spec mem timing => ?_) 0
    rw [runScenario_seeded app memoryless history, runScenario_seeded app memoryless history',
      ← same spec mem]
    cases found : past.find? (·.key == spec.key) with
    | none => rfl
    | some first =>
      have kept := runbooks spec mem first found
      simp only [authored, kept]
  unfold runEval
  rw [scenarios]
  rfl

def seededAlone : SeedGenerator.Tables := seededAll {} [checkoutDeployOutageSpec]

theorem seededAlone_history : SeedHistory [checkoutDeployOutageSpec] seededAlone :=
  .run .empty checkoutDeployOutageSpec_seeded

def unjudgedOptions : EvalOptions where
  judging := false
  memoryEnabled := false
  timing _ := ⟨0, 2⟩
  now := 0

theorem eval_reproducible_revised :
    runEval { checkoutApp with tables := environment seededTwice } unjudgedOptions
        [checkoutDeployOutageSpec] =
      runEval { checkoutApp with tables := environment seededAlone } unjudgedOptions
        [checkoutDeployOutageSpec] := by
  refine eval_reproducible checkoutApp rfl seededTwice_history seededAlone_history
    (fun spec mem => ?_) fun spec mem first found => ?_
  · rw [List.mem_singleton.mp (List.mem_of_mem_filter mem)]
    rfl
  · rw [List.mem_singleton.mp (List.mem_of_mem_filter mem)] at found
    have same : some checkoutDeployOutageSpec = some first := found
    cases same
    rfl

end OpsPilot.EvalReproducible
