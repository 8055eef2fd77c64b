import OpsPilot.PendingApproval
import OpsPilot.ExpiredApproval
import OpsPilot.Isolation

/-! An approval in time: the endpoint refuses its parameters, or the pending action is executed
with them. -/

namespace OpsPilot.AcceptedApproval
open JsonText AgentSchemas SyntheticEnvironment RemediationTools InvestigationState Models Memory
open RunTrace IdempotentExecution GraphNodes Investigation IncidentApi GraphRun PolicyGate
open InvestigationOutcomes IncidentTurns IncidentPhases ApprovalTimeout Isolation ExpiredPause
open ExpiredApproval PendingApproval DurableProgram

variable {app : App} {s t u : Database} {h : EventLog} {server : Server} {id : ℕ} {row : Incident}
  {body : ApprovalDecision} {scenario : Scenario} {values : GraphState}
  {diagnosis : SubmitDiagnosisArgs}

def Validates (app : App) (scenario : Scenario) (row : Incident) (body : ApprovalDecision)
    (validated : Except String Remediation) : Prop :=
  ∃ validate, approvableActions.lookup (pendingActionType row) = some validate ∧
    validate app.py ⟨scenario⟩ (orEmpty body.params) = validated

theorem orEmpty_orEmpty (params : Option Json) : orEmpty (some (orEmpty params)) = orEmpty params := by
  cases params with
  | none => rfl
  | some params =>
    by_cases truthy : params.truthy = true
    · simp only [orEmpty, if_pos truthy]
    · simp only [orEmpty, if_neg truthy, ite_self]

theorem pendingActionType_eq (pending : Pending s id row values diagnosis) :
    pendingActionType row = diagnosis.recommendedAction.name := by
  obtain ⟨payload, shown, action⟩ := pending.shown
  unfold pendingActionType
  rw [shown, Option.getD_some, action]

theorem checkParams_agrees {Args : Type} {modelValidate : Platform → Json → Except String Args}
    {modelDump : Args → Json} {handler : RemediationContext → Args → Json}
    (api : approvalParamModels.lookup (pendingActionType row) =
      some fun py params => (modelValidate py params).map modelDump)
    (node : approvableActions.lookup (pendingActionType row) =
      some (approvable modelValidate modelDump handler)) (scenario : Scenario) :
    (checkParams app row true (orEmpty body.params) = .ret () ∧
      ∃ remediation, Validates app scenario row body (.ok remediation)) ∨
    ∃ text reason, checkParams app row true (orEmpty body.params) = .raise (.http 422 text) ∧
      Validates app scenario row body (.error reason) := by
  unfold checkParams Validates
  rw [if_pos rfl, api, node]
  dsimp only
  cases valid : modelValidate app.py (orEmpty body.params) with
  | ok args =>
    refine .inl ⟨rfl, ⟨modelDump args, handler ⟨scenario⟩ args⟩, _, rfl, ?_⟩
    rw [approvable, valid]
  | error reason =>
    refine .inr ⟨_, reason, rfl, _, rfl, ?_⟩
    rw [approvable, valid]

theorem checkParams_validates (app : App) (body : ApprovalDecision)
    (pending : Pending s id row values diagnosis) (scenario : Scenario) :
    (checkParams app row true (orEmpty body.params) = .ret () ∧
      ∃ remediation, Validates app scenario row body (.ok remediation)) ∨
    ∃ text reason, checkParams app row true (orEmpty body.params) = .raise (.http 422 text) ∧
      Validates app scenario row body (.error reason) := by
  have action := pendingActionType_eq pending
  have approval := pending.approval
  cases recommended : diagnosis.recommendedAction with
  | rollbackDeployment =>
    rw [recommended] at action
    exact checkParams_agrees (by rw [action]; rfl) (by rw [action]; rfl) scenario
  | toggleFeatureFlag =>
    rw [recommended] at action
    exact checkParams_agrees (by rw [action]; rfl) (by rw [action]; rfl) scenario
  | noAction | restartService | scaleService | escalate | deleteData =>
    rw [recommended] at approval
    cases approval

def approvedCall (id : ℕ) (scenario : Scenario) (row : Incident) (remediation : Remediation) :
    RemediationCall :=
  ⟨threadIdOf id, pendingActionType row, scenario.service.name, remediation.params⟩

/-- The result of a remediation names its action, its service and every parameter. -/
structure Shows (call : RemediationCall) (result : Json) : Prop where
  action : result.field? "action" = some (.str call.actionType)
  service : result.field? "service" = some (.str call.target)
  params : ∀ param ∈ call.params.fields, result.field? param.1 = some param.2

theorem approved_shows (pending : Pending s id row values diagnosis) {remediation : Remediation}
    (validated : Validates app scenario row body (.ok remediation)) :
    Shows (approvedCall id scenario row remediation)
      (withDeduplicated (remediation.result, false)) := by
  obtain ⟨validate, listed, valid⟩ := validated
  have action := pendingActionType_eq pending
  have approval := pending.approval
  unfold approvedCall
  rw [action] at listed ⊢
  cases recommended : diagnosis.recommendedAction with
  | rollbackDeployment =>
    rw [recommended] at listed
    cases listed
    unfold approvable at valid
    split at valid
    · cases valid
    · cases valid
      refine ⟨rfl, rfl, fun param mem => ?_⟩
      rw [List.mem_singleton.mp mem]
      rfl
  | toggleFeatureFlag =>
    rw [recommended] at listed
    cases listed
    unfold approvable at valid
    split at valid
    · cases valid
    · cases valid
      refine ⟨rfl, rfl, fun param mem => ?_⟩
      rcases List.mem_cons.mp mem with rfl | mem
      · rfl
      · rw [List.mem_singleton.mp mem]
        rfl
  | noAction | restartService | scaleService | escalate | deleteData =>
    rw [recommended] at approval
    cases approval

theorem isApproved_decisionOf (body : ApprovalDecision) :
    isApproved (some (decisionOf body)) = body.approved := rfl

theorem gateCall_approved (pending : Pending s id row values diagnosis)
    (approved : body.approved = true) {remediation : Remediation}
    (validated : Validates app scenario row body (.ok remediation)) :
    gateCall app (resumeDeps app scenario (threadIdOf id)) diagnosis (some (decisionOf body)) =
      some (approvedCall id scenario row remediation, remediation.result) := by
  obtain ⟨validate, listed, valid⟩ := validated
  have params : (some (decisionOf body)).bind (·.field? "params") = some (orEmpty body.params) := rfl
  unfold gateCall resolvedCall
  rw [verdictOf_eq, pending.approval]
  dsimp only
  rw [isApproved_decisionOf, if_pos approved, ← pendingActionType_eq pending, listed]
  dsimp only
  have context : RemediationContext.mk (resumeDeps app scenario (threadIdOf id)).scenario =
    ⟨scenario⟩ := rfl
  rw [params, orEmpty_orEmpty, context, valid]
  rfl

theorem fresh_of_unremediated (clean : Unremediated s id)
    (apart : KeysApart app.py (threadIdOf id) s) : Fresh app.py (threadIdOf id) s := by
  intro call mine
  refine List.find?_eq_none.mpr fun row mem keyed => ?_
  exact clean row mem (apart row mem call mine (beq_iff_eq.mp keyed))

theorem policy_executes {permit : Permit Label ChatOutcome Database Error} {deps : NodeDeps}
    {answer : Option Json} {call : RemediationCall} {executor : Json} {update : GraphUpdate}
    {g : List BackendEvent} (found : values.diagnosis = some diagnosis)
    (fresh : Fresh app.py deps.threadId s)
    (asked : gateCall app deps diagnosis answer = some (call, executor))
    (ends : PolicyEnds .alone permit app deps values answer s (.returned (.update update)) t g) :
    t.remediationExecutions =
      s.remediationExecutions ++ [⟨idempotencyKey app.py call, call, executor⟩] := by
  cases ends with
  | undiagnosed missing => cases found.symm.trans missing
  | idle found' _ nothing =>
    cases found.symm.trans found'
    cases asked.symm.trans nothing
  | stopped _ _ stop => cases stop
  | ran found' _ asked' ends =>
    cases found.symm.trans found'
    cases asked.symm.trans asked'
    cases ends with
    | found same taken =>
      cases same
      rw [fresh _ (gateCall_thread asked)] at taken
      cases taken
    | executed first _ later =>
      cases first
      cases later
      rfl
    | stopped _ fault => exact fault.elim

structure Remedied (s t : Database) (py : Platform) (decision : Json) (call : RemediationCall)
    (executor : Json) (result : InvestigationResult) (g : List BackendEvent) : Prop where
  decision : result.approvalDecision = some decision
  verdict : result.policyVerdict = some .requireApproval
  remediation : result.remediationResult = some (withDeduplicated (executor, false))
  invoked : invocations g = [call]
  stored : t.remediationExecutions =
    s.remediationExecutions ++ [⟨idempotencyKey py call, call, executor⟩]

theorem resume_remedies {decision executor : Json} {call : RemediationCall}
    {result : InvestigationResult} {g : List BackendEvent}
    (pending : Pending s id row values diagnosis) (fresh : Fresh app.py (threadIdOf id) s)
    (asked : gateCall app (resumeDeps app scenario (threadIdOf id)) diagnosis (some decision) =
      some (call, executor))
    (run : Runs .alone noFaults (resumeInvestigation app scenario (threadIdOf id) decision) s
      (.returned result) t g) : Remedied s t app.py decision call executor result g := by
  have called := gateCall_decided app (resumeDeps app scenario (threadIdOf id)) pending.approval
    decision
  have handled := gateResult_decided app (resumeDeps app scenario (threadIdOf id))
    pending.approval decision
  rw [asked] at called handled
  obtain ⟨_, same, _, remediated, invoked⟩ := resume_gate (resumeInvestigation_ends run) pending.stored
    pending.diagnosed pending.approval fresh
  cases same
  obtain ⟨_, stop⟩ | ⟨_, _, advances⟩ := resume_advances run pending.stored trivial
  · exact absurd rfl (stop result)
  cases advances with
  | unmoved stop | executed _ stop | judged _ stop => exact absurd rfl (stop result)
  | @finished _ update _ _ ends =>
    obtain ⟨verdict, answer⟩ := policy_decided pending.diagnosed pending.approval ends
    have stored := policy_executes pending.diagnosed fresh asked ends
    exact ⟨answer, verdict, remediated.trans (congrArg firstResult handled.symm),
      invoked.trans called.symm, stored⟩

/-- How a call that approves in time ends: its parameters are refused before anything happened, or
the incident is closed with the pending action executed under them. -/
inductive ApprovalEnds (app : App) (server : Server) (id : ℕ) (row : Incident)
    (body : ApprovalDecision) (s : Database) :
    Outcome Error Response → Database → List BackendEvent → Prop where
  | refused {scenario text reason} (known : scenarioById app row.scenarioId = some scenario)
      (invalid : Validates app scenario row body (.error reason)) :
      ApprovalEnds app server id row body s (.raised (.http 422 text)) s
        [.performed (.loadIncident id)]
  | executed {scenario remediation result response row' u g}
      (known : scenarioById app row.scenarioId = some scenario)
      (valid : Validates app scenario row body (.ok remediation))
      (invoked : invocations g = [approvedCall id scenario row remediation])
      (stored : u.remediationExecutions = s.remediationExecutions ++
        [⟨idempotencyKey app.py (approvedCall id scenario row remediation),
          approvedCall id scenario row remediation, remediation.result⟩])
      (found : u.incidents id = some row') (closed : isClosed row'.status = true)
      (recorded : decisionRow server id result ∈ u.auditOf id)
      (decision : result.approvalDecision = some (decisionOf body))
      (remedied : result.remediationResult = some (withDeduplicated (remediation.result, false)))
      (shown : Shows (approvedCall id scenario row remediation)
        (withDeduplicated (remediation.result, false)))
      (outcome : deriveOutcome result = "approved_and_executed") :
      ApprovalEnds app server id row body s (.returned response) u g

theorem timeoutEnds_within {permit : Permit Label ChatOutcome Database Error}
    {o : Outcome Error Bool} {g : List BackendEvent}
    (within : slaExpired app server.now row = false)
    (ends : TimeoutEnds app permit server id row s o u g) :
    o = .returned false ∧ u = s ∧ g = [] := by
  cases ends with
  | fresh => exact ⟨rfl, rfl, rfl⟩
  | unloaded expired | lost expired | swallowed expired | aborted expired | died expired
    | resolved expired | unapplied expired => cases within.symm.trans expired

theorem loadCurrent_within {permit : Permit Label ChatOutcome Database Error}
    {o : Outcome Error Incident} {g : List BackendEvent}
    (found : s.incidents id = some row) (within : slaExpired app server.now row = false)
    (reads : ∀ o g, ¬ StepFails (α := Incident) permit (.loadIncident id) s o g)
    (run : Runs .alone permit (loadCurrent app server id) s o u g) :
    o = .returned row ∧ u = s ∧ g = [.performed (.loadIncident id)] := by
  cases loadCurrent_ends run with
  | faulted fails => exact (reads _ _ fails).elim
  | missing absent => cases absent.symm.trans found
  | stopped found' stop ends =>
    cases found.symm.trans found'
    obtain ⟨rfl, _⟩ := timeoutEnds_within within ends
    cases stop
  | unread found' ends =>
    cases found.symm.trans found'
    cases (timeoutEnds_within within ends).1
  | loaded found' ends current reloading =>
    cases found.symm.trans found'
    obtain ⟨same, rfl, rfl⟩ := timeoutEnds_within within ends
    cases same
    cases found.symm.trans current
    subst reloading
    exact ⟨rfl, rfl, rfl⟩

theorem applied_records {result : InvestigationResult}
    (applied : Applied app server id row result t u) (closing : result.status ≠ .awaitingApproval)
    (awaiting : row.status = .awaitingApproval) :
    decisionRow server id result ∈ u.auditOf id ∧
      u.remediationExecutions = t.remediationExecutions := by
  cases applied with
  | paused pausing => exact absurd pausing closing
  | closed scenario =>
    refine ⟨?_, closeIncident_remediations _ _ _ _ _ _ _⟩
    rw [auditOf_closeIncident, if_pos rfl, if_pos awaiting]
    simp

theorem invocations_applied (g : List BackendEvent) (result : InvestigationResult) :
    invocations (g ++ [.performed (.applyResult id result), .performed (.loadIncident id)]) =
      invocations g := by
  rw [invocations_append]
  exact List.append_nil _

theorem faultless_approval_executes {o : Outcome Error Response} {g : List BackendEvent}
    (history : TurnHistory app s h) (found : s.incidents id = some row)
    (awaiting : row.status = .awaitingApproval) (finished : ¬ Unfinished h id)
    (apart : KeysApart app.py (threadIdOf id) s)
    (within : slaExpired app server.now row = false) (approved : body.approved = true)
    (run : Runs .alone noFaults (decideApproval app server id body) s o u g) :
    ApprovalEnds app server id row body s o u g := by
  obtain ⟨clean, values, diagnosis, pending⟩ := waiting_tracked history found awaiting finished
  have gate : AtGate h id ⟨values, some .evaluatePolicy⟩ :=
    .waiting pending.diagnosed pending.approval
  obtain ⟨scenario, known⟩ := Option.isSome_iff_exists.mp (turnHistory_seeded history id row found)
  rw [decideApproval_eq] at run
  obtain ⟨row', t, g₁, g₂, loading, later, rfl⟩ | ⟨o', stop, loading⟩ := run.of_bind
  swap
  · obtain ⟨rfl, _⟩ := loadCurrent_within found within (fun _ _ => StepFails.faultless) loading
    cases stop
  obtain ⟨same, rfl, rfl⟩ := loadCurrent_within found within (fun _ _ => StepFails.faultless) loading
  cases same
  obtain ⟨accepted, remediation, valid⟩ | ⟨text, reason, refused, invalid⟩ :=
    checkParams_validates app body pending scenario
  · rw [← approved] at accepted
    obtain ⟨⟨response, rfl⟩, result, t', resolves⟩ :=
      decideLoaded_resolves history found awaiting pending.stored gate accepted later
    obtain ⟨row', found', closed⟩ := resolves.closes found
    obtain ⟨⟨_, g', known', resume, rfl⟩, applied, closing⟩ := resolves
    cases known.symm.trans known'
    have remedied := resume_remedies pending (fresh_of_unremediated clean apart)
      (gateCall_approved pending approved valid) resume
    obtain ⟨recorded, kept⟩ := applied_records applied closing awaiting
    refine .executed known valid ?_ (kept.trans remedied.stored) found' closed recorded
      remedied.decision remedied.remediation (approved_shows pending valid) ?_
    · rw [invocations_append, invocations_applied, remedied.invoked]
      rfl
    · unfold deriveOutcome
      rw [remedied.verdict, remedied.decision]
      exact if_pos approved
  · unfold decideLoaded at later
    rw [if_neg (not_not.mpr awaiting), approved, refused] at later
    obtain ⟨rfl, rfl, rfl⟩ := later.of_raise
    exact .refused known invalid

def promptServer : Server := ⟨"process-1", 60000000⟩

def isWaiting (s : Database) (h : EventLog) : Bool :=
  s.remediationExecutions.isEmpty &&
    (h.all fun
      | (_, .performed (.resume _ _)) => false
      | _ => true) &&
    (s.incidents 1).any fun row =>
      row.status == .awaitingApproval && !slaExpired checkoutApp promptServer.now row

theorem waiting_of_isWaiting {s : Database} {h : EventLog} (waits : isWaiting s h = true) :
    ∃ row, s.incidents 1 = some row ∧ row.status = .awaitingApproval ∧ ¬ Unfinished h 1 ∧
      KeysApart checkoutApp.py (threadIdOf 1) s ∧
      slaExpired checkoutApp promptServer.now row = false := by
  obtain ⟨facts, waiting⟩ := Bool.and_eq_true _ _ |>.mp waits
  obtain ⟨empty, unresumed⟩ := Bool.and_eq_true _ _ |>.mp facts
  obtain ⟨row, found, status⟩ := Option.any_eq_true _ _ |>.mp waiting
  obtain ⟨awaiting, within⟩ := Bool.and_eq_true _ _ |>.mp status
  refine ⟨row, found, beq_iff_eq.mp awaiting, ?_, ?_, (Bool.not_eq_true' _).mp within⟩
  · rintro ⟨h₁, h₂, request, decision, rfl, _⟩
    have quiet := List.all_eq_true.mp unresumed _ (List.mem_append_right h₁ List.mem_cons_self)
    cases quiet
  · intro row mem
    rw [List.isEmpty_iff.mp empty] at mem
    cases mem

end OpsPilot.AcceptedApproval
