import OpsPilot.RunCeilings

/-! The policy gate decides alone: verdict, remediation and its recorded result are a function of
the recommended action and the decision, whatever else a run did. -/

namespace OpsPilot.PolicyGate
open JsonText PolicyEngine AgentSchemas SyntheticEnvironment RemediationTools InvestigationState
open Models RunTrace GatherContext IdempotentExecution GraphNodes Investigation Superstep
open GatherLoop GraphRun RunCeilings DurableProgram

def policy : RecommendedAction → PolicyVerdict
  | .noAction => .execute
  | .restartService => .execute
  | .scaleService => .execute
  | .toggleFeatureFlag => .requireApproval
  | .rollbackDeployment => .requireApproval
  | .escalate => .escalate
  | .deleteData => .block

def approvedParams (py : Platform) (action : RecommendedAction) (decision : Json) : Option Json :=
  let params := orEmpty (decision.field? "params")
  match action with
  | .rollbackDeployment =>
    (RollbackDeploymentArgs.modelValidate py params).toOption.map RollbackDeploymentArgs.modelDump
  | .toggleFeatureFlag =>
    (ToggleFeatureFlagArgs.modelValidate py params).toOption.map ToggleFeatureFlagArgs.modelDump
  | _ => none

def autoParams : RecommendedAction → Option Json
  | .restartService => some (.obj [])
  | .scaleService => some (.obj [])
  | _ => none

def decidedParams (py : Platform) (action : RecommendedAction) (decision : Json) : Option Json :=
  if isApproved (some decision) then approvedParams py action decision else none

def approvedResult (py : Platform) (scenario : Scenario) (action : RecommendedAction)
    (decision : Json) : Option Json :=
  let params := orEmpty (decision.field? "params")
  match action with
  | .rollbackDeployment => (RollbackDeploymentArgs.modelValidate py params).toOption.map
      (rollbackDeployment ⟨scenario⟩)
  | .toggleFeatureFlag => (ToggleFeatureFlagArgs.modelValidate py params).toOption.map
      (toggleFeatureFlag ⟨scenario⟩)
  | _ => none

def autoResult (scenario : Scenario) : RecommendedAction → Option Json
  | .restartService => some (restartService ⟨scenario⟩ {})
  | .scaleService => some (scaleService ⟨scenario⟩ {})
  | _ => none

def decidedResult (py : Platform) (scenario : Scenario) (action : RecommendedAction)
    (decision : Json) : Option Json :=
  if isApproved (some decision) then approvedResult py scenario action decision else none

/-- `remediation_result` after an executor that ran for the first time. -/
def firstResult (result : Option Json) : Option Json :=
  result.map fun result => withDeduplicated (result, false)

def invocation (threadId service : String) (action : RecommendedAction) (params : Option Json) :
    List RemediationCall :=
  (params.map fun params => ⟨threadId, action.name, service, params⟩).toList

variable {app : App} {deps : NodeDeps}

theorem verdictOf_eq (deps : NodeDeps) (diagnosis : SubmitDiagnosisArgs) :
    verdictOf deps diagnosis = policy diagnosis.recommendedAction := by
  unfold verdictOf proposedAction PolicyEngine.evaluate
  generalize diagnosis.recommendedAction = action
  cases action <;> rfl

theorem gateCall_unanswered (app : App) (deps : NodeDeps) (diagnosis : SubmitDiagnosisArgs) :
    ((gateCall app deps diagnosis none).map Prod.fst).toList =
      invocation deps.threadId deps.scenario.service.name diagnosis.recommendedAction
        (autoParams diagnosis.recommendedAction) := by
  unfold gateCall
  rw [verdictOf_eq]
  generalize diagnosis.recommendedAction = action
  cases action <;> rfl

theorem approved_asked {Args : Type} {modelValidate : Platform → Json → Except String Args}
    {modelDump : Args → Json} {handler : RemediationContext → Args → Json} {actionType : String}
    (listed : approvableActions.lookup actionType = some (approvable modelValidate modelDump handler))
    (app : App) (deps : NodeDeps) {decision : Option Json} (approved : isApproved decision = true) :
    resolvedCall app deps actionType .requireApproval decision =
      (modelValidate app.py (orEmpty (decision.bind (·.field? "params")))).toOption.map fun args =>
        (⟨deps.threadId, actionType, deps.scenario.service.name, modelDump args⟩,
          handler ⟨deps.scenario⟩ args) := by
  unfold resolvedCall
  rw [if_pos approved, listed]
  dsimp only [approvable]
  cases modelValidate app.py (orEmpty (decision.bind (·.field? "params"))) <;> rfl

theorem approved_call {Args : Type} {modelValidate : Platform → Json → Except String Args}
    {modelDump : Args → Json} {handler : RemediationContext → Args → Json} {actionType : String}
    (listed : approvableActions.lookup actionType = some (approvable modelValidate modelDump handler))
    (app : App) (deps : NodeDeps) {decision : Option Json} (approved : isApproved decision = true) :
    (resolvedCall app deps actionType .requireApproval decision).map Prod.fst =
      (modelValidate app.py (orEmpty (decision.bind (·.field? "params")))).toOption.map
        fun args => ⟨deps.threadId, actionType, deps.scenario.service.name, modelDump args⟩ := by
  rw [approved_asked listed app deps approved, Option.map_map]
  rfl

theorem gateCall_decided (app : App) (deps : NodeDeps) {diagnosis : SubmitDiagnosisArgs}
    (approval : policy diagnosis.recommendedAction = .requireApproval) (decision : Json) :
    ((gateCall app deps diagnosis (some decision)).map Prod.fst).toList =
      invocation deps.threadId deps.scenario.service.name diagnosis.recommendedAction
        (decidedParams app.py diagnosis.recommendedAction decision) := by
  unfold gateCall invocation decidedParams
  rw [verdictOf_eq, approval]
  by_cases approved : isApproved (some decision) = true
  swap
  · simp only [if_neg approved, resolvedCall]
    rfl
  rw [if_pos approved]
  generalize diagnosis.recommendedAction = action at approval
  cases action <;> cases approval
  · rw [approved_call rfl app deps approved, approvedParams, Option.map_map]
    rfl
  · rw [approved_call rfl app deps approved, approvedParams, Option.map_map]
    rfl

theorem gateResult_unanswered (app : App) (deps : NodeDeps) (diagnosis : SubmitDiagnosisArgs) :
    (gateCall app deps diagnosis none).map Prod.snd =
      autoResult deps.scenario diagnosis.recommendedAction := by
  unfold gateCall
  rw [verdictOf_eq]
  generalize diagnosis.recommendedAction = action
  cases action <;> rfl

theorem gateResult_decided (app : App) (deps : NodeDeps) {diagnosis : SubmitDiagnosisArgs}
    (approval : policy diagnosis.recommendedAction = .requireApproval) (decision : Json) :
    (gateCall app deps diagnosis (some decision)).map Prod.snd =
      decidedResult app.py deps.scenario diagnosis.recommendedAction decision := by
  unfold gateCall decidedResult
  rw [verdictOf_eq, approval]
  by_cases approved : isApproved (some decision) = true
  swap
  · simp only [if_neg approved, resolvedCall]
    rfl
  rw [if_pos approved]
  generalize diagnosis.recommendedAction = action at approval
  cases action <;> cases approval
  · rw [approved_asked rfl app deps approved, Option.map_map]
    rfl
  · rw [approved_asked rfl app deps approved, Option.map_map]
    rfl

theorem gateCall_thread {diagnosis : SubmitDiagnosisArgs} {answer : Option Json}
    {call : RemediationCall} {executor : Json}
    (asked : gateCall app deps diagnosis answer = some (call, executor)) :
    call.threadId = deps.threadId := by
  unfold gateCall resolvedCall at asked
  split at asked
  · split_ifs at asked
    split at asked
    · cases asked
    · split at asked
      · cases asked
      · cases asked
        rfl
  · obtain ⟨autoExecutor, _, same⟩ := Option.map_eq_some_iff.mp asked
    cases same
    rfl
  · cases asked

def Fresh (py : Platform) (threadId : String) (db : Database) : Prop :=
  ∀ call : RemediationCall, call.threadId = threadId → db.remediation? (idempotencyKey py call) = none

theorem Fresh.of_same {py : Platform} {threadId : String} {s t : Database}
    (fresh : Fresh py threadId s) (same : t.remediationExecutions = s.remediationExecutions) :
    Fresh py threadId t := by
  intro call mine
  rw [← fresh call mine, Database.remediation?, Database.remediation?, same]

theorem remediations_kept {threadId : String} {s t : Database} (kept : Kept .alone threadId s t) :
    t.remediationExecutions = s.remediationExecutions :=
  kept.induction (motive := fun s t => t.remediationExecutions = s.remediationExecutions)
    (fun _ => rfl) (fun first later => later.trans first) (by rintro _ _ ⟨⟩; rfl) (fun _ _ => rfl)

variable {permit : Permit Label ChatOutcome Database Error}

structure Resolved (app : App) (deps : NodeDeps) (action : RecommendedAction)
    (asked : Option (RemediationCall × Json)) (g : List BackendEvent) (after : GraphState) :
    Prop where
  invocations : invocations g = (asked.map Prod.fst).toList
  verdict : after.policyVerdict = some (policy action)
  remediated : after.remediationResult = firstResult (asked.map Prod.snd)

theorem gate_resolves {values : GraphState} {answer : Option Json} {diagnosis : SubmitDiagnosisArgs}
    {update : GraphUpdate} {s t : Database} {g : List BackendEvent}
    (found : values.diagnosis = some diagnosis) (fresh : Fresh app.py deps.threadId s)
    (ends : PolicyEnds .alone permit app deps values answer s (.returned (.update update)) t g) :
    Resolved app deps diagnosis.recommendedAction (gateCall app deps diagnosis answer) g
      (values.merge update) := by
  cases ends with
  | undiagnosed missing =>
    rw [found] at missing
    cases missing
  | idle found' _ nothing =>
    cases found.symm.trans found'
    rw [nothing]
    exact ⟨rfl, congrArg some (verdictOf_eq deps diagnosis), rfl⟩
  | stopped _ _ stop _ => cases stop
  | ran found' _ asked ends =>
    cases found.symm.trans found'
    rw [asked]
    cases ends with
    | found same taken =>
      cases same
      rw [fresh _ (gateCall_thread asked)] at taken
      cases taken
    | executed => exact ⟨rfl, congrArg some (verdictOf_eq deps diagnosis), rfl⟩
    | stopped _ fault _ => exact fault.elim

theorem invocations_checkTrace (app : App) (deps : NodeDeps) (state : GraphState) :
    invocations (checkTrace app deps state) = [] := rfl

theorem invocations_of_prelude {prelude : List BackendEvent}
    (quiet : ∀ ev ∈ prelude, ∃ l, ev = .performed l ∧ ofPrelude l) : invocations prelude = [] := by
  rw [invocations, List.filterMap_eq_nil_iff]
  intro ev mem
  obtain ⟨l, rfl, inside⟩ := quiet ev mem
  cases l <;> first | rfl | exact inside.elim

def lastAction (app : App) (h : List BackendEvent) : Option RecommendedAction :=
  (lastDiagnosis app h).map (·.recommendedAction)

structure GateRun (app : App) (threadId : String) (scenario : Scenario)
    (action : Option RecommendedAction) (h : List BackendEvent) (after : Database)
    (result : InvestigationResult) : Prop where
  pauses : result.status = .awaitingApproval ↔ action.map policy = some .requireApproval
  invocations : invocations h =
    action.elim [] fun action => invocation threadId scenario.service.name action (autoParams action)
  remediated : result.remediationResult = firstResult (action.bind (autoResult scenario))
  verdict : result.status ≠ .awaitingApproval → result.policyVerdict = action.map policy
  paused : result.status = .awaitingApproval → Fresh app.py threadId after ∧
    ∃ values diagnosis, after.checkpoints threadId = some ⟨values, some .evaluatePolicy⟩ ∧
      values.diagnosis = some diagnosis ∧ action = some diagnosis.recommendedAction

theorem autoParams_of_approval {action : RecommendedAction}
    (approval : policy action = .requireApproval) : autoParams action = none := by
  cases action <;> first | rfl | cases approval

theorem autoResult_of_approval (scenario : Scenario) {action : RecommendedAction}
    (approval : policy action = .requireApproval) : autoResult scenario action = none := by
  cases action <;> first | rfl | cases approval

theorem GateRun.of_undiagnosed {threadId : String} {scenario : Scenario} {h : List BackendEvent}
    {after : Database} {result : InvestigationResult} (closed : result.status ≠ .awaitingApproval)
    (quiet : RunTrace.invocations h = []) (unremediated : result.remediationResult = none)
    (unjudged : result.policyVerdict = none) :
    GateRun app threadId scenario none h after result :=
  ⟨⟨fun same => absurd same closed, fun same => nomatch same⟩, quiet, unremediated,
    fun _ => unjudged, fun same => absurd same closed⟩

theorem GateRun.of_paused {threadId : String} {scenario shown : Scenario} {h : List BackendEvent}
    {after : Database} {values : GraphState} {diagnosis : SubmitDiagnosisArgs} {payload : Json}
    (approval : policy diagnosis.recommendedAction = .requireApproval)
    (found : values.diagnosis = some diagnosis) (quiet : RunTrace.invocations h = [])
    (fresh : Fresh app.py threadId after)
    (saved : after.checkpoints threadId = some ⟨values, some .evaluatePolicy⟩) :
    GateRun app threadId scenario (some diagnosis.recommendedAction) h after
      (pausedResult shown values payload) where
  pauses := ⟨fun _ => congrArg some approval, fun _ => rfl⟩
  invocations := by
    rw [quiet, Option.elim_some, autoParams_of_approval approval]
    rfl
  remediated := by
    rw [Option.bind_some, autoResult_of_approval scenario approval]
    rfl
  verdict closed := absurd rfl closed
  paused _ := ⟨fresh, values, diagnosis, saved, found, rfl⟩

theorem GateRun.of_resolved {h g : List BackendEvent} {diagnosis : SubmitDiagnosisArgs}
    {after : Database} {state : GraphState} {status : InvestigationStatus} {scenario : Scenario}
    (closed : status ≠ .awaitingApproval)
    (answered : policy diagnosis.recommendedAction ≠ .requireApproval)
    (framed : RunTrace.invocations h = RunTrace.invocations g)
    (resolved : Resolved app deps diagnosis.recommendedAction (gateCall app deps diagnosis none) g
      state) :
    GateRun app deps.threadId deps.scenario (some diagnosis.recommendedAction) h after
      (finishedResult scenario (state.merge (GraphNodes.decide deps state)) status) where
  pauses := ⟨fun same => absurd same closed, fun same => absurd (Option.some.inj same) answered⟩
  invocations := framed.trans (resolved.invocations.trans (gateCall_unanswered app deps diagnosis))
  remediated := resolved.remediated.trans
    (congrArg firstResult (gateResult_unanswered app deps diagnosis))
  verdict _ := resolved.verdict
  paused same := absurd same closed

theorem undiagnosed_of_ceiling {answer : Option ModelResponse} {last : GraphState}
    (recent : Recent app answer last) (route : routeAfterGatherContext deps last = .ceiling) :
    last.diagnosis = none := by
  unfold routeAfterGatherContext at route
  split_ifs at route with failed found
  · rw [recent.diagnosis, recent.providerError.mp failed]
    rfl
  · simpa using found

theorem finalStatus_closed (deps : NodeDeps) (state : GraphState) :
    finalStatus deps state ≠ .awaitingApproval := by
  unfold finalStatus
  split_ifs <;> exact InvestigationStatus.noConfusion

theorem policy_answered {values : GraphState} {diagnosis : SubmitDiagnosisArgs}
    {update : GraphUpdate} {s t : Database} {g : List BackendEvent}
    (found : values.diagnosis = some diagnosis)
    (ends : PolicyEnds .alone permit app deps values none s (.returned (.update update)) t g) :
    verdictOf deps diagnosis ≠ .requireApproval := by
  cases ends with
  | undiagnosed missing => cases found.symm.trans missing
  | idle found' answered _ =>
    cases found.symm.trans found'
    exact fun approval => nomatch answered approval
  | ran found' answered _ _ =>
    cases found.symm.trans found'
    exact fun approval => nomatch answered approval
  | stopped _ _ stop _ => cases stop

theorem gate_unanswered {values final : GraphState} {diagnosis : SubmitDiagnosisArgs}
    {ask : Option Json} {s u : Database} {h g : List BackendEvent} {scenario : Scenario}
    {result : InvestigationResult} (found : values.diagnosis = some diagnosis)
    (fresh : Fresh app.py deps.threadId s)
    (saved : s.checkpoints deps.threadId = some ⟨values, some .evaluatePolicy⟩)
    (framed : invocations h = invocations g)
    (ends : GateEnds .alone permit app deps values none s (.returned (final, ask)) u g)
    (returns : resultFromState app.py scenario (final, ask) = .ret result) :
    GateRun app deps.threadId deps.scenario (some diagnosis.recommendedAction) h u result := by
  cases ends with
  | before _ cause =>
    rcases cause with fault | ⟨same, _⟩
    · exact fault.elim
    · cases same
  | unsaved _ _ _ fault => exact fault.elim
  | undecided _ _ _ _ fault => exact fault.elim
  | paused again approval _ same =>
    cases same
    cases found.symm.trans again
    rw [verdictOf_eq] at approval
    obtain rfl : pausedResult scenario values _ = result := Program.ret.inj returns
    exact .of_paused approval found framed fresh saved
  | @finished _ update _ _ _ g entering ends leaving later =>
    cases entering
    obtain rfl : finishedResult scenario _ (finalStatus deps _) = result := Program.ret.inj returns
    have answered : policy diagnosis.recommendedAction ≠ .requireApproval := by
      rw [← verdictOf_eq deps]
      exact policy_answered found ends
    have quiet : invocations h = invocations g := by
      rw [framed, ← List.singleton_append, invocations_append, invocations_append]
      exact List.append_nil _
    exact .of_resolved (finalStatus_closed deps _) answered quiet (gate_resolves found fresh ends)

theorem runEnds_gate {start final : GraphState} {ask : Option Json} {s u : Database}
    {prelude g : List BackendEvent} {scenario : Scenario} {result : InvestigationResult}
    (quiet : ∀ ev ∈ prelude, ∃ l, ev = .performed l ∧ ofPrelude l)
    (unjudged : start.policyVerdict = none) (unremediated : start.remediationResult = none)
    (sound : start.providerError = none) (unsolved : start.diagnosis = none)
    (fresh : Fresh app.py deps.threadId s)
    (ends : RunEnds .alone permit app deps start s (.returned (final, ask)) u g)
    (returns : resultFromState app.py scenario (final, ask) = .ret result) :
    GateRun app deps.threadId deps.scenario (lastAction app (prelude ++ g)) (prelude ++ g) u
      result := by
  have silent := invocations_of_prelude quiet
  cases ends with
  | faulted fault => exact fault.elim
  | @ceiling _ _ last _ g loop route trace kept =>
    have framed := framed trace quiet (ceiling_tail deps last)
    obtain ⟨diagnosis, _⟩ := framed.lastDiagnosis loop sound unsolved
    have missing : last.diagnosis = none := by
      obtain ⟨answer, _, recent⟩ := loop.recent sound unsolved
      exact undiagnosed_of_ceiling recent route
    obtain rfl : finishedResult scenario (last.merge (GraphNodes.decide deps last))
      (finalStatus deps last) = result := Program.ret.inj returns
    have idle : invocations (prelude ++ (g ++ [.performed (.visit deps.threadId .decide last),
        .performed (.saveCheckpoint deps.threadId)])) = [] := by
      rw [invocations_append, invocations_append, silent, trace.invocations]
      rfl
    rw [lastAction, diagnosis, missing]
    exact .of_undiagnosed (finalStatus_closed deps last) idle
      (loop.unjudged.remediationResult.trans unremediated)
      (loop.unjudged.policyVerdict.trans unjudged)
  | @gate _ _ last t _ _ g g' loop route trace kept ends =>
    have framed := framed trace quiet (gate_tail last ends)
    obtain ⟨diagnosis, _⟩ := framed.lastDiagnosis loop sound unsolved
    obtain ⟨_, solved⟩ := diagnosis_of_route route
    obtain ⟨solution, found⟩ := Option.isSome_iff_exists.mp solved
    have found' : (checked app.py last).diagnosis = some solution :=
      (carried_checked app.py last).diagnosis.trans found
    have before : invocations (prelude ++ (g ++ (checkTrace app deps last ++ g'))) =
        invocations g' := by
      rw [invocations_append, invocations_append, invocations_append, silent, trace.invocations,
        invocations_checkTrace]
      rfl
    rw [List.append_assoc, lastAction, diagnosis, found]
    exact gate_unanswered found' (fresh.of_same (remediations_kept (kept.save _)))
      (by simp [Database.saveCheckpoint]) before ends returns

theorem investigation_gate {scenario : Scenario} {threadId : String} {ceilings : Ceilings}
    {s u : Database} {o : Outcome Error InvestigationResult} {h : List BackendEvent}
    (ends : InvestigationEnds .alone noFaults app scenario threadId ceilings s o u h)
    (fresh : Fresh app.py threadId s) :
    ∃ result, o = .returned result ∧ GateRun app threadId scenario (lastAction app h) h u
      result := by
  cases ends with
  | stopped cause =>
    rcases cause with fault | refused
    · exact (fault.of_noFaults fun _ _ ok => ok).elim
    · exact (not_refused refused).elim
  | @returned memory s₁ t final ask result _ g g' same quiet kept ends returns =>
    cases same
    have fields : ∀ saved, (initialState.asInput saved).policyVerdict = none ∧
        (initialState.asInput saved).remediationResult = none ∧
        (initialState.asInput saved).providerError = none ∧
        (initialState.asInput saved).diagnosis = none := by
      rintro (_ | values) <;> exact ⟨rfl, rfl, rfl, rfl⟩
    obtain ⟨unjudged, unremediated, sound, unsolved⟩ :=
      fields ((s.checkpoints threadId).map (·.values))
    exact ⟨result, rfl, runEnds_gate quiet unjudged unremediated sound unsolved
      (fresh.of_same (remediations_kept kept)) ends returns⟩

theorem resume_gate {scenario : Scenario} {threadId : String} {decision : Json}
    {ceilings : Ceilings} {values : GraphState} {diagnosis : SubmitDiagnosisArgs} {s u : Database}
    {o : Outcome Error InvestigationResult} {h : List BackendEvent}
    (ends : ResumeEnds .alone noFaults app scenario threadId decision ceilings s o u h)
    (paused : s.checkpoints threadId = some ⟨values, some .evaluatePolicy⟩)
    (found : values.diagnosis = some diagnosis)
    (approval : policy diagnosis.recommendedAction = .requireApproval)
    (fresh : Fresh app.py threadId s) :
    ∃ result, o = .returned result ∧
      result.policyVerdict = some (policy diagnosis.recommendedAction) ∧
      result.remediationResult =
        firstResult (decidedResult app.py scenario diagnosis.recommendedAction decision) ∧
      invocations h = invocation threadId scenario.service.name diagnosis.recommendedAction
        (decidedParams app.py diagnosis.recommendedAction decision) := by
  have faultless : ∀ {α : Type} {o : Outcome Error α},
      ¬ Faulted (noFaults : Permit Label ChatOutcome Database Error) o :=
    fun fault => fault.of_noFaults fun _ _ ok => ok
  cases ends with
  | stopped _ fault => exact absurd fault faultless
  | missing same missing =>
    cases same
    cases paused.symm.trans missing
  | walked service first _ later loaded read quiet walk finish =>
    cases first
    cases later
    cases read
    cases Option.some.inj (paused.symm.trans loaded)
    cases gate_ends (ceilings.maxSteps.getD app.settings.agentMaxSteps + 8) walk with
    | paused _ _ unanswered => cases unanswered
    | before _ cause =>
      rcases cause with fault | refused
      · exact absurd fault faultless
      · exact (not_refused refused).elim
    | unsaved _ _ _ fault => exact absurd fault faultless
    | undecided _ _ _ _ fault => exact absurd fault faultless
    | @finished _ update _ _ _ g entering ends _ _ =>
      cases entering
      have resolved := gate_resolves found fresh ends
      cases finish with
      | stopped stop => cases stop
      | invalid raises => cases raises
      | returned returns =>
        obtain rfl : finishedResult scenario _ (finalStatus _ _) = _ := Program.ret.inj returns
        refine ⟨_, rfl, resolved.verdict, ?_, ?_⟩
        · exact resolved.remediated.trans
            (congrArg firstResult (gateResult_decided _ _ approval decision))
        have asking : invocations service = [] := by
          refine List.filterMap_eq_nil_iff.mpr fun ev mem => ?_
          rw [quiet ev mem]
          rfl
        have framed : ∀ g' : List BackendEvent, invocations
            (.performed (.resume threadId decision) :: .performed (.loadCheckpoint threadId) ::
              (service ++ .performed (.visit threadId .evaluatePolicy values) :: (g ++ g'))) =
            invocations g ++ invocations g' := by
          intro g'
          change invocations (service ++ _) = _
          rw [invocations_append, asking]
          exact invocations_append g g'
        have called := gateCall_decided app (depsOf app scenario ceilings threadId "") approval
          decision
        exact (framed _).trans ((List.append_nil _).trans (resolved.invocations.trans called))

/-- For every run on a thread without recorded remediations, and for every decision a pause is
resumed with: pausing, verdict, invocations and the result that the handler of the action gave are
functions of the action and the decision. -/
theorem gate_decides_alone (app : App) (scenario : Scenario) (threadId : String)
    (ceilings : Ceilings) (memoryEnabled : Bool) (db : Database) (replies : ℕ → ChatOutcome)
    (fresh : Fresh app.py threadId db) :
    let run := eval (runInvestigation app scenario threadId ceilings memoryEnabled) replies db
    let action := lastAction app run.2.2
    let invoked := invocation threadId scenario.service.name
    ∃ result, run.1 = .returned result ∧
      (result.status = .awaitingApproval ↔ action.map policy = some .requireApproval) ∧
      (result.status ≠ .awaitingApproval → result.policyVerdict = action.map policy) ∧
      invocations run.2.2 = (action.elim [] fun action => invoked action (autoParams action)) ∧
      result.remediationResult = firstResult (action.bind (autoResult scenario)) ∧
      (result.status = .awaitingApproval → ∀ decision ceilings' replies',
        let resumed := eval (resumeInvestigation app scenario threadId decision ceilings')
          replies' run.2.1
        ∃ result', resumed.1 = .returned result' ∧ result'.policyVerdict = action.map policy ∧
          result'.remediationResult = firstResult
            (action.bind fun action => decidedResult app.py scenario action decision) ∧
          invocations resumed.2.2 = action.elim [] fun action =>
            invoked action (decidedParams app.py action decision)) := by
  intro run action invoked
  have ends := runInvestigation_ends (eval_runs
    (runInvestigation app scenario threadId ceilings memoryEnabled) replies db)
  obtain ⟨result, returned, gate⟩ := investigation_gate ends fresh
  refine ⟨result, returned, gate.pauses, gate.verdict, gate.invocations, gate.remediated, ?_⟩
  intro pausing decision ceilings' replies'
  obtain ⟨fresh', values, diagnosis, paused, found, same⟩ := gate.paused pausing
  have approval := gate.pauses.mp pausing
  have asked : action = some diagnosis.recommendedAction := same
  rw [same] at approval
  rw [asked]
  exact resume_gate (resumeInvestigation_ends (eval_runs
    (resumeInvestigation app scenario threadId decision ceilings') replies' run.2.1))
    paused found (Option.some.inj approval) fresh'

/-- A run that rolls a deployment back on approval, on an empty database. -/
def rollbackDiagnosis : ModelResponse where
  content := [.toolUse
    { id := "toolu_1", name := "submit_diagnosis"
      input := [("diagnosis", .str "v2.8 broke checkout"),
        ("evidence", .arr [.str "get_recent_deployments: v2.8"]), ("confidence", .float (9 / 10)),
        ("recommended_action", .str "rollback_deployment")] }]
  inputTokens := 1000
  outputTokens := 100

theorem gate_decides_alone_rollback :
    let run := eval (runInvestigation checkoutApp checkoutDeployOutage "incident-1") (fun _ =>
      .response rollbackDiagnosis) Database.empty
    let resumed := eval (resumeInvestigation checkoutApp checkoutDeployOutage "incident-1"
      (.obj [("approved", .bool true), ("params", .obj [("target_version", .str "v2.7")])]))
      (fun _ => .transient "") run.2.1
    invocations run.2.2 = [] ∧ invocations resumed.2.2 =
      [⟨"incident-1", "rollback_deployment", "checkout-api",
        .obj [("target_version", .str "v2.7")]⟩] := by
  intro run resumed
  have action : lastAction checkoutApp run.2.2 = some .rollbackDeployment := by decide +kernel
  have gate := gate_decides_alone checkoutApp checkoutDeployOutage "incident-1" {} true
    Database.empty (fun _ => .response rollbackDiagnosis) (fun _ _ => rfl)
  obtain ⟨result, _, pauses, _, invoked, _, resumes⟩ := gate
  obtain ⟨_, _, _, _, decided⟩ := resumes (pauses.mpr (by rw [action]; rfl)) _ {} _
  rw [action] at invoked decided
  exact ⟨invoked, decided⟩

end OpsPilot.PolicyGate
