import OpsPilot.GatherContext
import OpsPilot.IdempotentExecution

/-! The nodes after `gather_context`: grounding check, risk preview, policy gate, final status. -/

namespace OpsPilot.GraphNodes
open JsonText PolicyEngine AgentSchemas RemediationTools InvestigationState Models
open IdempotentExecution DurableProgram

/-- `\s` -/
def isWhitespace (c : Char) : Bool :=
  let n := c.toNat
  (9 ≤ n && n ≤ 13) || (28 ≤ n && n ≤ 32) || n == 133 || n == 160 || n == 5760 ||
    (8192 ≤ n && n ≤ 8202) || n == 8232 || n == 8233 || n == 8239 || n == 8287 || n == 12288

/-- `[:\s]` -/
def isSeparator (c : Char) : Bool := c == ':' || isWhitespace c

/-- `[t for t in re.split(r"[:\s]+", citation.lower()) if len(t) > 3]` -/
def tokens (py : Platform) (citation : String) : List (List Char) :=
  ((py.lower citation.toList).splitOnP isSeparator).filter (3 < ·.length)

def looksGrounded (py : Platform) (citation : String) (gatheredBlob : List Char) : Bool :=
  if tokens py citation = [] then true
  else (tokens py citation).any fun token => decide (token <:+: gatheredBlob)

/-- `json.dumps([r.model_dump() for r in evidence_trail]).lower()` -/
def gatheredBlob (py : Platform) (trail : List ToolCallRecord) : List Char :=
  py.lower (py.dumps (.arr (trail.map ToolCallRecord.modelDump)))

def hypothesize (py : Platform) (state : GraphState) : GraphUpdate :=
  match state.diagnosis with
  | none => { evidenceGrounded := some none, ungroundedEvidence := some [] }
  | some diagnosis =>
    let blob := gatheredBlob py state.evidenceTrail
    let ungrounded := diagnosis.evidence.filter fun e => !looksGrounded py e blob
    { evidenceGrounded := some (some (ungrounded.length == 0))
      ungroundedEvidence := some ungrounded }

def riskTiers : List (String × String) :=
  [("no_action", "none"),
   ("escalate", "none"),
   ("restart_service", "low"),
   ("scale_service", "low"),
   ("toggle_feature_flag", "medium"),
   ("rollback_deployment", "medium"),
   ("delete_data", "critical")]

def classifyRisk (state : GraphState) : GraphUpdate :=
  match state.diagnosis with
  | none => { riskTier := some none }
  | some diagnosis =>
    { riskTier := some (some ((riskTiers.lookup diagnosis.recommendedAction.name).getD "unknown")) }

/-- `{**result, "deduplicated": deduplicated}` -/
def withDeduplicated (executed : Json × Bool) : Json :=
  .obj (Json.setField "deduplicated" (.bool executed.2) executed.1.fields)

/-- `params or {}` -/
def orEmpty : Option Json → Json
  | none => .obj []
  | some params => if params.truthy then params else .obj []

def executeApprovedAction (app : App) (deps : NodeDeps) (actionType : String)
    (params : Option Json) : Backend (Option Json) :=
  match approvableActions.lookup actionType with
  | none => .ret none
  | some validate =>
    match validate app.py ⟨deps.scenario⟩ (orEmpty params) with
    | .error _ => .ret none
    | .ok remediation =>
      (executeIdempotently app.py
        ⟨deps.threadId, actionType, deps.scenario.service.name, remediation.params⟩
        remediation.result).bind fun executed => .ret (some (withDeduplicated executed))

/-- `decision is not None and decision.get("approved")` -/
def isApproved (decision : Option Json) : Bool :=
  match decision with
  | none => false
  | some decision => ((decision.field? "approved").map Json.truthy).getD false

def resolveVerdict (app : App) (deps : NodeDeps) (diagnosis : SubmitDiagnosisArgs)
    (verdict : PolicyVerdict) (decision : Option Json) : Backend GraphUpdate :=
  if verdict = .requireApproval then
    (if isApproved decision then
      executeApprovedAction app deps diagnosis.recommendedAction.name
        (decision.bind (·.field? "params"))
    else .ret none).bind fun remediationResult =>
      .ret { policyVerdict := some (some verdict), remediationResult := some remediationResult
             approvalDecision := some decision }
  else
    (if verdict = PolicyVerdict.execute then
      match autoExecutable.lookup diagnosis.recommendedAction.name with
      | none => (.ret none : Backend (Option Json))
      | some autoExecutor =>
        (executeIdempotently app.py
          ⟨deps.threadId, diagnosis.recommendedAction.name, deps.scenario.service.name, .obj []⟩
          (autoExecutor ⟨deps.scenario⟩)).bind fun executed =>
            .ret (some (withDeduplicated executed))
    else .ret none).bind fun remediationResult =>
      .ret { policyVerdict := some (some verdict), remediationResult := some remediationResult
             approvalDecision := some none }

/-- What `interrupt` shows to whoever decides. -/
def approvalPayload (deps : NodeDeps) (diagnosis : SubmitDiagnosisArgs) : Json :=
  .obj [("action_type", .str diagnosis.recommendedAction.name),
    ("service", .str deps.scenario.service.name), ("diagnosis", .str diagnosis.diagnosis),
    ("confidence", .float diagnosis.confidence)]

def proposedAction (deps : NodeDeps) (diagnosis : SubmitDiagnosisArgs) : ProposedAction :=
  ⟨diagnosis.recommendedAction.name, deps.scenario.service.name, .obj []⟩

/-- Without an answer, an action that needs approval interrupts the node. -/
def evaluatePolicy (app : App) (deps : NodeDeps) (state : GraphState) (answer : Option Json) :
    Backend (StateGraph.Visit GraphUpdate Json) :=
  match state.diagnosis with
  | none => .ret (.update { policyVerdict := some none, remediationResult := some none
                            approvalDecision := some none })
  | some diagnosis =>
    let verdict := PolicyEngine.evaluate (proposedAction deps diagnosis)
    if verdict = .requireApproval ∧ answer.isNone then
      .ret (.interrupt (approvalPayload deps diagnosis))
    else
      let decision := if verdict = .requireApproval then answer else none
      (resolveVerdict app deps diagnosis verdict decision).bind fun update => .ret (.update update)

def resolvedCall (app : App) (deps : NodeDeps) (actionType : String) (verdict : PolicyVerdict)
    (decision : Option Json) : Option (RemediationCall × Json) :=
  match verdict with
  | .requireApproval =>
    if isApproved decision then
      match approvableActions.lookup actionType with
      | none => none
      | some validate =>
        match validate app.py ⟨deps.scenario⟩ (orEmpty (decision.bind (·.field? "params"))) with
        | .error _ => none
        | .ok remediation => some
          (⟨deps.threadId, actionType, deps.scenario.service.name, remediation.params⟩,
            remediation.result)
    else none
  | .execute => (autoExecutable.lookup actionType).map fun autoExecutor =>
      (⟨deps.threadId, actionType, deps.scenario.service.name, .obj []⟩,
        autoExecutor ⟨deps.scenario⟩)
  | _ => none

def resolved (verdict : PolicyVerdict) (decision : Option Json) (result : Option Json) :
    GraphUpdate :=
  { policyVerdict := some (some verdict), remediationResult := some result
    approvalDecision := some (if verdict = .requireApproval then decision else none) }

theorem resolveVerdict_eq (app : App) (deps : NodeDeps) (diagnosis : SubmitDiagnosisArgs)
    (verdict : PolicyVerdict) (decision : Option Json) :
    resolveVerdict app deps diagnosis verdict decision =
      match resolvedCall app deps diagnosis.recommendedAction.name verdict decision with
      | none => .ret (resolved verdict decision none)
      | some (call, executor) =>
        (executeIdempotently app.py call executor).bind fun executed =>
          .ret (resolved verdict decision (some (withDeduplicated executed))) := by
  cases verdict with
  | requireApproval =>
    simp only [resolveVerdict, resolvedCall, if_true]
    by_cases approved : isApproved decision = true
    · simp only [if_pos approved, executeApprovedAction]
      cases approvableActions.lookup diagnosis.recommendedAction.name with
      | none => rfl
      | some validate =>
        dsimp only
        cases validate app.py ⟨deps.scenario⟩ (orEmpty (decision.bind (·.field? "params"))) with
        | error text => rfl
        | ok remediation =>
          dsimp only
          rw [Program.bind_assoc]
          rfl
    · simp only [if_neg approved]
      rfl
  | execute =>
    simp only [resolveVerdict, resolvedCall, reduceCtorEq, if_false, if_true]
    cases autoExecutable.lookup diagnosis.recommendedAction.name with
    | none => rfl
    | some autoExecutor =>
      dsimp only [Option.map_some]
      rw [Program.bind_assoc]
      rfl
  | block => rfl
  | escalate => rfl

def verdictOf (deps : NodeDeps) (diagnosis : SubmitDiagnosisArgs) : PolicyVerdict :=
  PolicyEngine.evaluate (proposedAction deps diagnosis)

/-- The remediation that the node asks for when it is entered with this answer. -/
def gateCall (app : App) (deps : NodeDeps) (diagnosis : SubmitDiagnosisArgs)
    (answer : Option Json) : Option (RemediationCall × Json) :=
  resolvedCall app deps diagnosis.recommendedAction.name (verdictOf deps diagnosis) answer

theorem gateCall_given (app : App) (deps : NodeDeps) (diagnosis : SubmitDiagnosisArgs)
    (answer : Option Json) :
    resolvedCall app deps diagnosis.recommendedAction.name (verdictOf deps diagnosis)
      (if verdictOf deps diagnosis = .requireApproval then answer else none) =
        gateCall app deps diagnosis answer := by
  unfold gateCall
  by_cases approval : verdictOf deps diagnosis = .requireApproval
  · rw [if_pos approval]
  · rw [if_neg approval]
    unfold resolvedCall
    cases verdict : verdictOf deps diagnosis <;> first | exact absurd verdict approval | rfl

theorem resolved_given (verdict : PolicyVerdict) (answer result : Option Json) :
    resolved verdict (if verdict = .requireApproval then answer else none) result =
      resolved verdict answer result := by
  by_cases approval : verdict = .requireApproval
  · rw [if_pos approval]
  · simp only [resolved, if_neg approval]

theorem evaluatePolicy_eq {app : App} {deps : NodeDeps} {state : GraphState}
    {answer : Option Json} {diagnosis : SubmitDiagnosisArgs}
    (found : state.diagnosis = some diagnosis)
    (answered : ¬ (verdictOf deps diagnosis = .requireApproval ∧ answer.isNone)) :
    evaluatePolicy app deps state answer =
      match gateCall app deps diagnosis answer with
      | none => .ret (.update (resolved (verdictOf deps diagnosis) answer none))
      | some (call, executor) =>
        (executeIdempotently app.py call executor).bind fun executed =>
          .ret (.update (resolved (verdictOf deps diagnosis) answer
            (some (withDeduplicated executed)))) := by
  have unfolded : evaluatePolicy app deps state answer =
      (resolveVerdict app deps diagnosis (verdictOf deps diagnosis)
        (if verdictOf deps diagnosis = .requireApproval then answer else none)).bind
          fun update => .ret (.update update) := by
    unfold evaluatePolicy
    rw [found]
    exact if_neg answered
  rw [unfolded, resolveVerdict_eq, gateCall_given]
  cases gateCall app deps diagnosis answer with
  | none =>
    simp only [resolved_given]
    rfl
  | some remediation =>
    simp only [resolved_given]
    rw [Program.bind_assoc]
    rfl

theorem evaluatePolicy_pauses {app : App} {deps : NodeDeps} {state : GraphState}
    {answer : Option Json} {diagnosis : SubmitDiagnosisArgs}
    (found : state.diagnosis = some diagnosis)
    (pausing : verdictOf deps diagnosis = .requireApproval ∧ answer.isNone) :
    evaluatePolicy app deps state answer = .ret (.interrupt (approvalPayload deps diagnosis)) := by
  unfold evaluatePolicy
  rw [found]
  exact if_pos pausing

theorem evaluatePolicy_carries (app : App) (deps : NodeDeps) (state : GraphState)
    (answer : Option Json) : Carries ofExecution (evaluatePolicy app deps state answer) := by
  cases found : state.diagnosis with
  | none =>
    unfold evaluatePolicy
    rw [found]
    trivial
  | some diagnosis =>
    by_cases pausing : verdictOf deps diagnosis = .requireApproval ∧ answer.isNone
    · rw [evaluatePolicy_pauses found pausing]
      trivial
    · rw [evaluatePolicy_eq found pausing]
      cases gateCall app deps diagnosis answer with
      | none => trivial
      | some remediation => exact (executeIdempotently_carries _ _ _).bind fun _ => trivial

/-- How a visit of `evaluate_policy` may end, and in what state. -/
inductive PolicyEnds (rely : Rely Database) (permit : Permit Label ChatOutcome Database Error)
    (app : App) (deps : NodeDeps) (state : GraphState) (answer : Option Json) (s : Database) :
    Outcome Error (StateGraph.Visit GraphUpdate Json) → Database → List BackendEvent → Prop where
  | undiagnosed (none : state.diagnosis = none) :
      PolicyEnds rely permit app deps state answer s
        (.returned (.update { policyVerdict := some Option.none
                              remediationResult := some Option.none
                              approvalDecision := some Option.none })) s []
  | paused {diagnosis} (found : state.diagnosis = some diagnosis)
      (approval : verdictOf deps diagnosis = .requireApproval) (unanswered : answer = none) :
      PolicyEnds rely permit app deps state answer s
        (.returned (.interrupt (approvalPayload deps diagnosis))) s []
  | idle {diagnosis} (found : state.diagnosis = some diagnosis)
      (answered : verdictOf deps diagnosis = .requireApproval → answer.isSome)
      (nothing : gateCall app deps diagnosis answer = none) :
      PolicyEnds rely permit app deps state answer s
        (.returned (.update (resolved (verdictOf deps diagnosis) answer none))) s []
  | ran {diagnosis call executor executed t g} (found : state.diagnosis = some diagnosis)
      (answered : verdictOf deps diagnosis = .requireApproval → answer.isSome)
      (asked : gateCall app deps diagnosis answer = some (call, executor))
      (ends : ExecutionEnds rely permit (idempotencyKey app.py call) call executor s
        (.returned executed) t g) :
      PolicyEnds rely permit app deps state answer s
        (.returned (.update (resolved (verdictOf deps diagnosis) answer
          (some (withDeduplicated executed))))) t g
  | stopped {diagnosis call executor o o' t g} (found : state.diagnosis = some diagnosis)
      (asked : gateCall app deps diagnosis answer = some (call, executor)) (stop : Stopped o' o)
      (ends : ExecutionEnds rely permit (idempotencyKey app.py call) call executor s o' t g) :
      PolicyEnds rely permit app deps state answer s o t g

theorem evaluatePolicy_ends {rely : Rely Database}
    {permit : Permit Label ChatOutcome Database Error} {app : App} {deps : NodeDeps}
    {state : GraphState} {answer : Option Json} {s t : Database}
    {o : Outcome Error (StateGraph.Visit GraphUpdate Json)} {g : List BackendEvent}
    (run : Runs rely permit (evaluatePolicy app deps state answer) s o t g) :
    PolicyEnds rely permit app deps state answer s o t g := by
  cases found : state.diagnosis with
  | none =>
    rw [evaluatePolicy, found] at run
    obtain ⟨rfl, rfl, rfl⟩ := run.of_ret
    exact .undiagnosed found
  | some diagnosis =>
    by_cases pausing : verdictOf deps diagnosis = .requireApproval ∧ answer.isNone
    · rw [evaluatePolicy_pauses found pausing] at run
      obtain ⟨rfl, rfl, rfl⟩ := run.of_ret
      exact .paused found pausing.1 (Option.isNone_iff_eq_none.mp pausing.2)
    · have answered : verdictOf deps diagnosis = .requireApproval → answer.isSome := by
        intro approval
        by_contra missing
        exact pausing ⟨approval, by simpa using missing⟩
      rw [evaluatePolicy_eq found pausing] at run
      cases asked : gateCall app deps diagnosis answer with
      | none =>
        rw [asked] at run
        obtain ⟨rfl, rfl, rfl⟩ := run.of_ret
        exact .idle found answered asked
      | some remediation =>
        obtain ⟨call, executor⟩ := remediation
        rw [asked] at run
        obtain ⟨executed, u, g₁, g₂, ran, rest, rfl⟩ | ⟨o', stop, stopped⟩ := run.of_bind
        · obtain ⟨rfl, rfl, rfl⟩ := rest.of_ret
          rw [List.append_nil]
          exact .ran found answered asked (executeIdempotently_ends ran)
        · exact .stopped found asked stop (executeIdempotently_ends stopped)

def finalStatus (deps : NodeDeps) (state : GraphState) : InvestigationStatus :=
  if state.providerError.isSome then .incompleteProviderError
  else if state.diagnosis.isSome then .diagnosed
  else if state.estimatedCostUsd > deps.maxCostUsd then .incompleteCostCeiling
  else .incompleteStepCeiling

def decide (deps : NodeDeps) (state : GraphState) : GraphUpdate :=
  { status := some (some (finalStatus deps state)) }

end OpsPilot.GraphNodes
