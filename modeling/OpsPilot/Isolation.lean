import OpsPilot.Noninterference
import OpsPilot.PolicyGate

/-! A whole investigation depends on the rows of its own scenario, service and thread only: from
databases that agree on these it asks the model the same and returns the same. -/

namespace OpsPilot.Isolation
open JsonText SyntheticEnvironment ReadOnlyTools InvestigationState Models ChatClient
open GatherContext IdempotentExecution GraphNodes Memory Investigation PolicyGate DurableProgram
open Noninterference

/-- The rows of one scenario and of its service, in the same order. -/
structure SameScenario (scenario : Scenario) (tables tables' : Tables) : Prop where
  metricPoints : tables.metricPoints.filter (·.scenarioId == scenario.id) =
    tables'.metricPoints.filter (·.scenarioId == scenario.id)
  logEntries : tables.logEntries.filter (·.scenarioId == scenario.id) =
    tables'.logEntries.filter (·.scenarioId == scenario.id)
  deployments : tables.deployments.filter (·.scenarioId == scenario.id) =
    tables'.deployments.filter (·.scenarioId == scenario.id)
  dependencyStatuses : tables.dependencyStatuses.filter (·.scenarioId == scenario.id) =
    tables'.dependencyStatuses.filter (·.scenarioId == scenario.id)
  runbooks : tables.runbooks.filter (·.serviceId == scenario.service.id) =
    tables'.runbooks.filter (·.serviceId == scenario.service.id)

theorem filter_scoped {Row : Type} {rows rows' : List Row} {scope : Row → Bool}
    (same : rows.filter scope = rows'.filter scope) (wanted : Row → Bool) :
    rows.filter (fun r => scope r && wanted r) = rows'.filter fun r => scope r && wanted r := by
  have swap : ∀ r, (scope r && wanted r) = (wanted r && scope r) := fun r => Bool.and_comm _ _
  simp only [swap, ← List.filter_filter, same]

variable {py : Platform} {tables tables' : Tables} {scenario : Scenario}

theorem getMetrics_scoped (same : SameScenario scenario tables tables') (args : GetMetricsArgs) :
    getMetrics ⟨py, tables, scenario⟩ args = getMetrics ⟨py, tables', scenario⟩ args := by
  simp only [getMetrics, Bool.and_assoc, filter_scoped same.metricPoints]

theorem getLogs_scoped (same : SameScenario scenario tables tables') (args : GetLogsArgs) :
    getLogs ⟨py, tables, scenario⟩ args = getLogs ⟨py, tables', scenario⟩ args := by
  simp only [getLogs, Bool.and_assoc, filter_scoped same.logEntries]

theorem getRecentDeployments_scoped (same : SameScenario scenario tables tables')
    (args : GetRecentDeploymentsArgs) : getRecentDeployments ⟨py, tables, scenario⟩ args =
      getRecentDeployments ⟨py, tables', scenario⟩ args := by
  simp only [getRecentDeployments, filter_scoped same.deployments]

theorem getDependencyStatus_scoped (same : SameScenario scenario tables tables')
    (args : GetDependencyStatusArgs) : getDependencyStatus ⟨py, tables, scenario⟩ args =
      getDependencyStatus ⟨py, tables', scenario⟩ args := by
  simp only [getDependencyStatus, same.dependencyStatuses]

theorem getRunbook_scoped (same : SameScenario scenario tables tables') (args : GetRunbookArgs) :
    getRunbook ⟨py, tables, scenario⟩ args = getRunbook ⟨py, tables', scenario⟩ args := by
  simp only [getRunbook, same.runbooks]

theorem toolSpec_scoped {Args : Type} {name : String}
    {modelValidate : Platform → Json → Except String Args} {modelDump : Args → Json}
    {handler : ToolContext → Args → Json}
    (same : ∀ args, handler ⟨py, tables, scenario⟩ args = handler ⟨py, tables', scenario⟩ args)
    (input : Json) :
    (toolSpec name modelValidate modelDump handler).validate ⟨py, tables, scenario⟩ input =
      (toolSpec name modelValidate modelDump handler).validate ⟨py, tables', scenario⟩ input := by
  simp only [toolSpec, same]

theorem registered_scoped (same : SameScenario scenario tables tables') {name : String}
    {spec : ToolSpec} (found : registered name = some spec) (input : Json) :
    spec.validate ⟨py, tables, scenario⟩ input = spec.validate ⟨py, tables', scenario⟩ input := by
  have listed : spec ∈ toolRegistry := List.mem_of_find?_eq_some found
  simp only [toolRegistry, List.mem_cons, List.not_mem_nil, or_false] at listed
  rcases listed with rfl | rfl | rfl | rfl | rfl
  · exact toolSpec_scoped (getMetrics_scoped same) input
  · exact toolSpec_scoped (getLogs_scoped same) input
  · exact toolSpec_scoped (getRecentDeployments_scoped same) input
  · exact toolSpec_scoped (getDependencyStatus_scoped same) input
  · exact toolSpec_scoped (getRunbook_scoped same) input

theorem toolUse_scoped (same : SameScenario scenario tables tables') (step : ℕ) (round : Round)
    (block : ToolUseBlock) :
    toolUse ⟨py, tables, scenario⟩ step round block =
      toolUse ⟨py, tables', scenario⟩ step round block := by
  unfold toolUse
  split
  · rfl
  · cases found : registered block.name with
    | none => rfl
    | some spec => simp only [registered_scoped same found]

theorem gatherContext_scoped {app : App} {deps : NodeDeps}
    (same : SameScenario deps.scenario app.tables tables') (state : GraphState) :
    gatherContext app deps state = gatherContext { app with tables := tables' } deps state := by
  have round : toolUse ⟨app.py, app.tables, deps.scenario⟩ (state.stepsUsed + 1) =
      toolUse ⟨app.py, tables', deps.scenario⟩ (state.stepsUsed + 1) := by
    funext round block
    exact toolUse_scoped same _ round block
  unfold gatherContext
  dsimp only
  rw [round]

theorem runInvestigation_scoped {app : App}
    (same : SameScenario scenario app.tables tables') (threadId : String) (ceilings : Ceilings)
    (memoryEnabled : Bool) :
    runInvestigation app scenario threadId ceilings memoryEnabled =
      runInvestigation { app with tables := tables' } scenario threadId ceilings memoryEnabled := by
  have graph : ∀ deps : NodeDeps, deps.scenario = scenario →
      buildGraph app deps = buildGraph { app with tables := tables' } deps := by
    rintro deps rfl
    have visits : visit app deps = visit { app with tables := tables' } deps := by
      funext node values answer
      unfold visit
      cases node with
      | gatherContext => simp only [runNode, gatherContext_scoped same]
      | _ => rfl
    unfold buildGraph
    rw [visits]
  unfold runInvestigation buildDeps
  cases memoryEnabled with
  | false => simp only [Bool.false_eq_true, if_false, Program.ret_bind, depsOf, graph]
  | true => simp only [if_true, Program.bind_assoc, Program.ret_bind, depsOf, graph]

structure SameThread (py : Platform) (scenario : Scenario) (threadId : String)
    (memoryEnabled : Bool) (s t : Database) : Prop where
  checkpoint : s.checkpoints threadId = t.checkpoints threadId
  remediations : ∀ call : RemediationCall, call.threadId = threadId →
    s.remediation? (idempotencyKey py call) = t.remediation? (idempotencyKey py call)
  memory : memoryEnabled = true → s.serviceMemory.filter (·.serviceId == scenario.service.id) =
    t.serviceMemory.filter (·.serviceId == scenario.service.id)

variable {threadId : String} {memoryEnabled : Bool} {app : App} {deps : NodeDeps}

theorem blind_mark {Agree : Database → Database → Prop} (l : Label) :
    Blind Agree (mark l : Backend Unit) :=
  Blind.perform fun _ _ agree => ⟨agree, rfl⟩

theorem blind_read {Agree : Database → Database → Prop} {α : Type} {l : Label}
    {query : Database → α} (same : ∀ s t, Agree s t → query s = query t) :
    Blind Agree (read l query : Backend α) :=
  Blind.perform fun s t agree => ⟨agree, same s t agree⟩

theorem callWithRetries_blind {Agree : Database → Database → Prop} (request : ChatRequest)
    (retries attempt : ℕ) : Blind Agree (callWithRetries request retries attempt) := by
  induction retries generalizing attempt with
  | zero =>
    refine ⟨?_, fun _ => trivial⟩
    rintro (response | text) <;> trivial
  | succ retries ih =>
    have retry : Blind Agree
        ((mark (.sleep attempt)).bind fun _ => callWithRetries request retries (attempt + 1)) :=
      (blind_mark _).bind fun _ => ih _
    refine ⟨?_, ?_⟩
    · rintro (response | text)
      · trivial
      · exact retry
    · intro e
      cases e with
      | transientProvider text => exact retry
      | _ => trivial

theorem toolRound_blind {Agree : Database → Database → Prop} (ctx : ToolContext) (step : ℕ)
    (blocks : List ToolUseBlock) (round : Round) :
    Blind Agree (blocks.foldlM (toolUse ctx step) round) := by
  induction blocks generalizing round with
  | nil => trivial
  | cons block blocks ih =>
    rw [List.foldlM_cons, Program.bind_eq]
    refine Blind.bind ?_ ih
    obtain quiet | ⟨name, called⟩ := toolUse_eq ctx step round block
    · rw [quiet]
      trivial
    · rw [called]
      exact ⟨fun _ _ agree => ⟨agree, rfl⟩, fun _ => trivial, fun _ => trivial⟩

theorem gatherContext_blind {Agree : Database → Database → Prop} (app : App) (deps : NodeDeps)
    (state : GraphState) : Blind Agree (gatherContext app deps state) := by
  refine Blind.bind ?_ ?_
  · refine Blind.tryCatch ((callWithRetries_blind _ _ _).bind fun _ => trivial) fun e => ?_
    cases e <;> trivial
  · rintro (text | response)
    · trivial
    · dsimp only
      split
      · trivial
      · exact (toolRound_blind _ _ _ _).bind fun _ => trivial

theorem remediation?_append (db : Database) (row : RemediationExecution) (key : String) :
    Database.remediation? { db with remediationExecutions := db.remediationExecutions ++ [row] } key =
      (db.remediation? key).or (if row.idempotencyKey == key then some row else none) := by
  simp [Database.remediation?, List.find?_append, List.find?_cons]
  split <;> simp_all

structure Threadwise (py : Platform) (threadId : String) (Agree : Database → Database → Prop) :
    Prop where
  checkpoint : ∀ {s t}, Agree s t → s.checkpoints threadId = t.checkpoints threadId
  remediations : ∀ {s t}, Agree s t → ∀ call : RemediationCall, call.threadId = threadId →
    s.remediation? (idempotencyKey py call) = t.remediation? (idempotencyKey py call)
  saves : ∀ {s t}, Agree s t → ∀ checkpoint,
    Agree (s.saveCheckpoint threadId checkpoint) (t.saveCheckpoint threadId checkpoint)
  inserts : ∀ {s t}, Agree s t → ∀ row : RemediationExecution, row.call.threadId = threadId →
    Agree { s with remediationExecutions := s.remediationExecutions ++ [row] }
      { t with remediationExecutions := t.remediationExecutions ++ [row] }

theorem sameThread_threadwise :
    Threadwise py threadId (SameThread py scenario threadId memoryEnabled) where
  checkpoint agree := agree.checkpoint
  remediations agree := agree.remediations
  saves agree _ := ⟨by simp [Database.saveCheckpoint], agree.remediations, agree.memory⟩
  inserts agree row _ := by
    refine ⟨agree.checkpoint, fun call mine => ?_, agree.memory⟩
    rw [remediation?_append, remediation?_append, agree.remediations call mine]

section
variable {Agree : Database → Database → Prop}

theorem commitExecution_blind (thread : Threadwise py threadId Agree) {row : RemediationExecution}
    (own : row.call.threadId = threadId) (keyed : row.idempotencyKey = idempotencyKey py row.call) :
    Blind Agree (commitExecution row) := by
  refine ⟨fun s t agree => ?_, fun s => ?_, fun _ => trivial⟩
  · have same := thread.remediations agree row.call own
    rw [← keyed] at same
    refine ⟨?_, by simp only [same]⟩
    simp only [same]
    cases found : t.remediation? row.idempotencyKey with
    | some _ => exact agree
    | none => exact thread.inserts agree row own
  · dsimp only
    split <;> trivial

theorem executeIdempotently_blind (thread : Threadwise py threadId Agree) {call : RemediationCall}
    (own : call.threadId = threadId) (executor : Json) :
    Blind Agree (executeIdempotently py call executor) := by
  refine Blind.bind (blind_read fun s t agree => thread.remediations agree call own) ?_
  rintro (_ | existing)
  · exact (blind_read fun _ _ _ => rfl).bind fun result => (blind_mark _).bind fun _ =>
      (commitExecution_blind thread own rfl).bind fun _ => trivial
  · trivial

theorem evaluatePolicy_blind (thread : Threadwise app.py deps.threadId Agree) (state : GraphState)
    (answer : Option Json) : Blind Agree (evaluatePolicy app deps state answer) := by
  cases found : state.diagnosis with
  | none =>
    unfold evaluatePolicy
    rw [found]
    trivial
  | some diagnosis =>
    by_cases pausing : verdictOf deps diagnosis = .requireApproval ∧ answer.isNone
    · have interrupts : evaluatePolicy app deps state answer =
          .ret (.interrupt (approvalPayload deps diagnosis)) := by
        unfold evaluatePolicy
        rw [found]
        exact if_pos pausing
      rw [interrupts]
      trivial
    · rw [evaluatePolicy_eq found pausing]
      cases asked : gateCall app deps diagnosis answer with
      | none => trivial
      | some remediation =>
        exact (executeIdempotently_blind thread (gateCall_thread asked) _).bind fun _ => trivial

theorem visit_blind (thread : Threadwise app.py deps.threadId Agree) (node : Node)
    (values : GraphState) (answer : Option Json) :
    Blind Agree (visit app deps node values answer) := by
  refine (blind_mark _).bind fun _ => Blind.bind ?_ (by rintro (update | payload) <;> trivial)
  cases node with
  | gatherContext => exact (gatherContext_blind app deps values).bind fun _ => trivial
  | hypothesize => trivial
  | classifyRisk => trivial
  | evaluatePolicy => exact evaluatePolicy_blind thread values answer
  | decide => trivial

theorem saveCheckpoint_blind (thread : Threadwise py threadId Agree) (checkpoint : Saved) :
    Blind Agree (write (.saveCheckpoint threadId) (·.saveCheckpoint threadId checkpoint)) :=
  Blind.perform fun _ _ agree => ⟨thread.saves agree checkpoint, rfl⟩

theorem graph_blind (thread : Threadwise app.py deps.threadId Agree) (limit : ℕ)
    (checkpoint : Saved) (answer : Option Json) :
    Blind Agree ((buildGraph app deps).supersteps limit checkpoint answer) :=
  supersteps_blind (visit_blind thread) (saveCheckpoint_blind thread) (fun _ => blind_mark _) _ _ _

theorem invoke_blind (thread : Threadwise app.py deps.threadId Agree) (limit : ℕ)
    (input : GraphState) : Blind Agree ((buildGraph app deps).invoke limit input) :=
  (saveCheckpoint_blind thread _).bind fun _ => graph_blind thread _ _ _

theorem resultFromState_blind (py : Platform) (scenario : Scenario)
    (final : GraphState × Option Json) : Blind Agree (resultFromState py scenario final) := by
  obtain ⟨values, _ | payload⟩ := final
  · unfold resultFromState
    dsimp only
    split <;> trivial
  · trivial

theorem resumeInvestigation_blind (thread : Threadwise app.py threadId Agree) (decision : Json)
    (ceilings : Ceilings) :
    Blind Agree (resumeInvestigation app scenario threadId decision ceilings) := by
  refine (blind_mark _).bind fun _ => (blind_read fun _ _ agree => thread.checkpoint agree).bind ?_
  rintro (_ | saved)
  · trivial
  · refine Blind.bind ?_ fun _ => (graph_blind thread _ _ _).bind (resultFromState_blind _ _)
    unfold loadService
    split
    · exact blind_mark _
    · trivial

end

theorem runInvestigation_blind (app : App) (scenario : Scenario) (threadId : String)
    (ceilings : Ceilings) (memoryEnabled : Bool) :
    Blind (SameThread app.py scenario threadId memoryEnabled)
      (runInvestigation app scenario threadId ceilings memoryEnabled) := by
  have rest : ∀ memoryContext, Blind (SameThread app.py scenario threadId memoryEnabled)
      ((loadCheckpoint threadId).bind fun saved =>
        ((buildGraph app (depsOf app scenario ceilings threadId memoryContext)).invoke
          (recursionLimit (depsOf app scenario ceilings threadId memoryContext))
          (initialState.asInput (saved.map (·.values)))).bind (resultFromState app.py scenario)) := by
    intro memoryContext
    refine (blind_read fun _ _ agree => agree.checkpoint).bind fun saved => ?_
    have thread : Threadwise app.py (depsOf app scenario ceilings threadId memoryContext).threadId
        (SameThread app.py scenario threadId memoryEnabled) := sameThread_threadwise
    exact (invoke_blind thread _ _).bind (resultFromState_blind _ _)
  unfold runInvestigation buildDeps
  cases memoryEnabled with
  | false => exact rest ""
  | true =>
    rw [if_pos rfl, Program.bind_assoc]
    refine Blind.bind (blind_read fun s t agree => ?_) rest
    rw [retrieveRelevantMemory, retrieveRelevantMemory, agree.memory rfl]

/-- No row of another thread is stored under a key of this one: the hash does not collide. -/
def KeysApart (py : Platform) (threadId : String) (db : Database) : Prop :=
  ∀ row ∈ db.remediationExecutions, ∀ call : RemediationCall, call.threadId = threadId →
    row.idempotencyKey = idempotencyKey py call → row.call.threadId = threadId

/-- The rows of one service and one thread, in the same order. -/
structure SameRows (scenario : Scenario) (threadId : String) (memoryEnabled : Bool)
    (s t : Database) : Prop where
  checkpoint : s.checkpoints threadId = t.checkpoints threadId
  remediations : s.remediationExecutions.filter (·.call.threadId == threadId) =
    t.remediationExecutions.filter (·.call.threadId == threadId)
  memory : memoryEnabled = true → s.serviceMemory.filter (·.serviceId == scenario.service.id) =
    t.serviceMemory.filter (·.serviceId == scenario.service.id)

theorem find?_scoped {Row : Type} {rows : List Row} {wanted scope : Row → Bool}
    (inside : ∀ r ∈ rows, wanted r = true → scope r = true) :
    rows.find? wanted = (rows.filter scope).find? wanted := by
  induction rows with
  | nil => rfl
  | cons row rows ih =>
    have later := ih fun r mem => inside r (List.mem_cons_of_mem _ mem)
    cases found : wanted row with
    | true => simp [found, inside row List.mem_cons_self found]
    | false =>
      rw [List.find?_cons_of_neg (by simp [found]), later, List.filter_cons]
      split
      · rw [List.find?_cons_of_neg (by simp [found])]
      · rfl

theorem remediation?_scoped {db : Database} (apart : KeysApart py threadId db)
    {call : RemediationCall} (own : call.threadId = threadId) :
    db.remediation? (idempotencyKey py call) =
      (db.remediationExecutions.filter (·.call.threadId == threadId)).find?
        (·.idempotencyKey == idempotencyKey py call) := by
  refine find?_scoped fun row mem keyed => ?_
  exact beq_iff_eq.mpr (apart row mem call own (beq_iff_eq.mp keyed))

theorem SameRows.sameThread {s t : Database} (rows : SameRows scenario threadId memoryEnabled s t)
    (apart : KeysApart py threadId s) (apart' : KeysApart py threadId t) :
    SameThread py scenario threadId memoryEnabled s t where
  checkpoint := rows.checkpoint
  remediations call own := by
    rw [remediation?_scoped apart own, remediation?_scoped apart' own, rows.remediations]
  memory := rows.memory

/-- For every chat function, and for every pattern of faults: from databases that agree on the rows
of the scenario, the service and the thread, the run asks the model the same and ends alike. -/
theorem investigation_isolated (app : App) (tables' : Tables) (scenario : Scenario)
    (threadId : String) (ceilings : Ceilings) (memoryEnabled : Bool) (s t : Database)
    (seeded : SameScenario scenario app.tables tables')
    (rows : SameRows scenario threadId memoryEnabled s t) (apart : KeysApart app.py threadId s)
    (apart' : KeysApart app.py threadId t) :
    let run := runInvestigation app scenario threadId ceilings memoryEnabled
    let run' :=
      runInvestigation { app with tables := tables' } scenario threadId ceilings memoryEnabled
    (∀ chat, (respond chat run [] s).1 = (respond chat run' [] t).1 ∧
      (respond chat run [] s).2.2 = (respond chat run' [] t).2.2) ∧
    ∀ o u g, Runs .alone anyFaults run s o u g → ∃ v, Runs .alone anyFaults run' t o v g := by
  intro run run'
  have same : run = run' := runInvestigation_scoped seeded threadId ceilings memoryEnabled
  have blind : Blind (SameThread app.py scenario threadId memoryEnabled) run :=
    runInvestigation_blind app scenario threadId ceilings memoryEnabled
  have agree := rows.sameThread apart apart'
  rw [← same]
  refine ⟨fun chat => ?_, fun o u g ran => ?_⟩
  · obtain ⟨outcome, events, _⟩ := blind.respond agree
    exact ⟨outcome, events⟩
  · obtain ⟨v, ran', _⟩ := blind.runs (fun _ _ _ ok => ok) agree ran
    exact ⟨v, ran'⟩

def otherTables : Tables :=
  { scenarios := [checkoutDeployOutage]
    logEntries := [⟨2, 1768485720000000, "error", "payments timed out"⟩]
    runbooks := [⟨2, "timeout", "raise the pool size"⟩] }

def crowded : Database :=
  { Database.empty with
    remediationExecutions := [⟨"k", ⟨"incident-2", "restart_service", "payments-api", .obj []⟩, .null⟩]
    serviceMemory := [⟨1, 2, 2, "timeouts", "pool exhausted", "restart_service", "executed", 1, 1, 0⟩]
    checkpoints := Function.update (fun _ => none) "incident-2" (some ⟨initialState, none⟩) }

theorem crowded_keysApart : KeysApart Platform.ascii "incident-1" crowded := by
  have object : ∀ fields, (Platform.ascii.dumps (.obj fields)).head? = some '{' := by
    rintro (_ | ⟨key, value⟩) <;> rfl
  intro row mem call own keyed
  obtain rfl := List.mem_singleton.mp mem
  have text : "k".toList = Platform.ascii.dumps (Json.sortKeys (.obj
      [("thread_id", .str call.threadId), ("action_type", .str call.actionType),
       ("target", .str call.target), ("params", call.params)])) := by
    rw [show "k" = idempotencyKey Platform.ascii call from keyed]
    exact String.toList_ofList
  rw [Json.sortKeys] at text
  cases (congrArg List.head? text).trans (object _)

theorem investigation_isolated_checkout :
    let chat := fun _ => .ok (.response rollbackDiagnosis)
    let run := respond chat (runInvestigation checkoutApp checkoutDeployOutage "incident-1") []
      Database.empty
    let run' := respond chat (runInvestigation { checkoutApp with tables := otherTables }
      checkoutDeployOutage "incident-1") [] crowded
    run.1 = run'.1 ∧ run.2.2 = run'.2.2 := by
  have seeded : SameScenario checkoutDeployOutage checkoutApp.tables otherTables :=
    ⟨rfl, rfl, rfl, rfl, rfl⟩
  have rows : SameRows checkoutDeployOutage "incident-1" true Database.empty crowded :=
    ⟨rfl, rfl, fun _ => rfl⟩
  have isolated := investigation_isolated checkoutApp otherTables checkoutDeployOutage "incident-1"
    {} true Database.empty crowded seeded rows (fun _ mem => nomatch mem) crowded_keysApart
  exact isolated.1 fun _ => .ok (.response rollbackDiagnosis)

end OpsPilot.Isolation
