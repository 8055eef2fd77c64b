import OpsPilot.PauseResolution

/-! What a request can touch, whatever other requests run beside it and whatever fails: rows of the
incidents that it is about, and remediations that need no decision or that it approves itself. -/

namespace OpsPilot.RequestScope
open JsonText AgentSchemas SyntheticEnvironment InvestigationState Models StepEffects
open IdempotentExecution GatherContext GraphNodes Investigation IncidentApi EndpointRules
open PolicyGate IncidentPhases PendingApproval PauseRequests PauseResolution DurableProgram
open RequestPool

def Routine (call : RemediationCall) : Prop :=
  ∃ action, policy action = .execute ∧ call.actionType = action.name ∧
    autoParams action = some call.params

def Approves (py : Platform) (decision : Json) (call : RemediationCall) : Prop :=
  ∃ action, policy action = .requireApproval ∧ call.actionType = action.name ∧
    decidedParams py action decision = some call.params

def Allowed (py : Platform) (threadId : String) (answer : Option Json) (call : RemediationCall) :
    Prop :=
  call.threadId = threadId ∧
    (Routine call ∨ ∃ decision, answer = some decision ∧ Approves py decision call)

variable {app : App} {deps : NodeDeps} {threadId : String} {answer : Option Json} {decision : Json}
  {call : RemediationCall} {executor : Json} {diagnosis : SubmitDiagnosisArgs}

theorem Allowed.answered (allowed : Allowed app.py threadId none call) (answer : Option Json) :
    Allowed app.py threadId answer call := by
  obtain ⟨own, routine | ⟨_, missing, _⟩⟩ := allowed
  · exact ⟨own, .inl routine⟩
  · cases missing

/-- The SLA timeout answers for nobody. -/
theorem Allowed.timedOut (allowed : Allowed app.py threadId (some timeoutDecision) call) :
    Allowed app.py threadId none call := by
  obtain ⟨own, routine | ⟨_, same, _, _, _, approved⟩⟩ := allowed
  · exact ⟨own, .inl routine⟩
  · cases same
    cases approved

theorem params_of_invocation {service : String} {action : RecommendedAction} {params : Option Json}
    (asked : [call] = invocation threadId service action params) :
    call.actionType = action.name ∧ params = some call.params := by
  cases params with
  | none => cases asked
  | some params =>
    cases asked
    exact ⟨rfl, rfl⟩

theorem policy_of_autoParams {action : RecommendedAction} {params : Json}
    (auto : autoParams action = some params) : policy action = .execute := by
  cases action <;> first | rfl | cases auto

theorem gateCall_allowed (asked : gateCall app deps diagnosis answer = some (call, executor)) :
    Allowed app.py deps.threadId answer call := by
  refine ⟨gateCall_thread asked, ?_⟩
  by_cases approval : policy diagnosis.recommendedAction = .requireApproval
  · cases answer with
    | none =>
      have unasked : gateCall app deps diagnosis none = none := by
        rw [gateCall, verdictOf_eq, approval]
        rfl
      cases unasked.symm.trans asked
    | some decision =>
      have decided := gateCall_decided app deps approval decision
      rw [asked] at decided
      obtain ⟨named, params⟩ := params_of_invocation decided
      exact .inr ⟨decision, rfl, _, approval, named, params⟩
  · have unanswered : gateCall app deps diagnosis none = some (call, executor) := by
      rw [← asked, ← gateCall_given app deps diagnosis answer, if_neg]
      · rfl
      · rwa [verdictOf_eq]
    have auto := gateCall_unanswered app deps diagnosis
    rw [unanswered] at auto
    obtain ⟨named, params⟩ := params_of_invocation auto
    exact .inl ⟨_, policy_of_autoParams params, named, params⟩

def licensed (ok : RemediationCall → Prop) : Label → Prop
  | .executor _ call => ok call
  | .commit row => ok row.call
  | _ => True

variable {ok : RemediationCall → Prop}

theorem licensed_of_threads {α : Type} {p : Backend α}
    (does : ∀ threadId, Does (inThread threadId) p) :
    Does (licensed ok) p := by
  refine Guarantees.mono ?_ ((does "").and (does "incident"))
  rintro l s s' ⟨⟨one, effect⟩, other, _⟩
  refine ⟨?_, effect⟩
  cases l with
  | executor key call => exact absurd (one.symm.trans other) (by decide)
  | commit row => exact absurd (one.symm.trans other) (by decide)
  | _ => trivial

theorem gatherContext_licensed (app : App) (deps : NodeDeps) (state : GraphState) :
    Does (licensed ok) (gatherContext app deps state) :=
  licensed_of_threads fun threadId => gatherContext_does threadId app deps state

theorem executeIdempotently_licensed (py : Platform) (executor : Json) (good : ok call) :
    Does (licensed ok) (executeIdempotently py call executor) := by
  refine (does_read (by trivial) (by trivial) _).bind ?_
  rintro (_ | existing)
  · refine (does_read good (by trivial) _).bind fun result => ?_
    refine (does_mark (by trivial) (by trivial)).bind fun _ => ?_
    refine Guarantees.bind ⟨fun s => ⟨good, ?_⟩, ?_, fun _ => trivial⟩ fun _ => trivial
    · cases missing : s.remediation? (idempotencyKey py call) with
      | none =>
        simp only [missing]
        exact .inr ⟨missing, rfl⟩
      | some row =>
        simp only [missing]
        exact .inl rfl
    · intro s
      dsimp only
      split <;> trivial
  · trivial

theorem evaluatePolicy_licensed (state : GraphState)
    (good : ∀ call, Allowed app.py deps.threadId answer call → ok call) :
    Does (licensed ok) (evaluatePolicy app deps state answer) := by
  cases found : state.diagnosis with
  | none =>
    rw [evaluatePolicy, found]
    trivial
  | some diagnosis =>
    by_cases pausing : verdictOf deps diagnosis = .requireApproval ∧ answer.isNone
    · rw [evaluatePolicy_pauses found pausing]
      trivial
    · rw [evaluatePolicy_eq found pausing]
      cases asked : gateCall app deps diagnosis answer with
      | none => trivial
      | some remediation =>
        obtain ⟨call, executor⟩ := remediation
        exact (executeIdempotently_licensed app.py executor (good call (gateCall_allowed asked))).bind
          fun _ => trivial

theorem visit_licensed (node : Node) (values : GraphState)
    (good : ∀ call, Allowed app.py deps.threadId answer call → ok call) :
    Does (licensed ok) (visit app deps node values answer) := by
  refine (does_mark (by trivial) (by trivial)).bind fun _ => ?_
  refine Guarantees.bind ?_ (by rintro (update | payload) <;> trivial)
  cases node with
  | gatherContext => exact (gatherContext_licensed app deps values).bind fun _ => trivial
  | hypothesize => trivial
  | classifyRisk => trivial
  | decide => trivial
  | evaluatePolicy => exact evaluatePolicy_licensed values good

theorem supersteps_licensed (limit : ℕ) (checkpoint : Saved)
    (good : ∀ call, Allowed app.py deps.threadId answer call → ok call) :
    Does (licensed ok) ((buildGraph app deps).supersteps limit checkpoint answer) :=
  StateGraph.Graph.supersteps_guarantees_given
    (fun node values => visit_licensed node values fun call allowed => good call (allowed.answered _))
    (fun checkpoint => does_write (by trivial) (by intro _; exact ⟨checkpoint, rfl⟩))
    (fun _ => does_mark (by trivial) (by trivial)) limit checkpoint answer
    (fun node values => visit_licensed node values good)

theorem runInvestigation_licensed (scenario : Scenario) (ceilings : Ceilings)
    (memoryEnabled : Bool) (good : ∀ call, Allowed app.py threadId none call → ok call) :
    Does (licensed ok) (runInvestigation app scenario threadId ceilings memoryEnabled) := by
  refine buildDeps_bind app scenario ceilings threadId memoryEnabled (fun _ => trivial) ?_
  rintro deps rfl
  refine (does_read (by trivial) (by trivial) _).bind fun saved => ?_
  refine Guarantees.bind ?_ (resultFromState_does _ _)
  exact (does_write (by trivial) (by intro _; exact ⟨_, rfl⟩)).bind fun _ =>
    supersteps_licensed _ _ good

theorem resumeInvestigation_licensed (scenario : Scenario)
    (good : ∀ call, Allowed app.py threadId (some decision) call → ok call) :
    Does (licensed ok) (resumeInvestigation app scenario threadId decision) := by
  refine buildDeps_bind app scenario {} threadId false (fun _ => trivial) ?_
  rintro deps rfl
  refine (does_mark (by trivial) (by trivial)).bind fun _ =>
    (does_read (by trivial) (by trivial) _).bind ?_
  rintro (_ | saved)
  · trivial
  · exact (loadService_does (by trivial) saved).bind fun _ =>
      Guarantees.bind (supersteps_licensed _ _ good) (resultFromState_does _ _)

/-- The request reads or changes the incident. A list may time out any of them. -/
def Concerns (request : Request) (id : ℕ) : Prop :=
  match request.endpoint with
  | .createIncident _ => False
  | .listIncidents => True
  | .getIncident j => j = id
  | .runIncident j => j = id
  | .decideApproval j _ => j = id
  | .getTimeline j => j = id

def Approving (app : App) (request : Request) (id : ℕ) (call : RemediationCall) : Prop :=
  ∃ body, request.endpoint = .decideApproval id body ∧ body.approved = true ∧
    ∃ action, policy action = .requireApproval ∧ call.actionType = action.name ∧
      approvedParams app.py action (decisionOf body) = some call.params

def Licensed (app : App) (request : Request) (call : RemediationCall) : Prop :=
  ∃ id, Concerns request id ∧ call.threadId = threadIdOf id ∧
    (Routine call ∨ Approving app request id call)

section
variable {server : Server} {id : ℕ}

theorem Allowed.licensed {request : Request} (concerned : Concerns request id)
    (allowed : Allowed app.py (threadIdOf id) none call) : Licensed app request call := by
  obtain ⟨own, routine | ⟨_, missing, _⟩⟩ := allowed
  · exact ⟨id, concerned, own, .inl routine⟩
  · cases missing

theorem Allowed.approving {body : ApprovalDecision}
    (allowed : Allowed app.py (threadIdOf id) (some (decisionOf body)) call) :
    Licensed app ⟨.decideApproval id body, server⟩ call := by
  obtain ⟨own, routine | ⟨_, same, action, approval, named, params⟩⟩ := allowed
  · exact ⟨id, rfl, own, .inl routine⟩
  · cases same
    unfold decidedParams at params
    split at params
    case isFalse => cases params
    case isTrue approved =>
      exact ⟨id, rfl, own, .inr ⟨body, rfl, approved, action, approval, named, params⟩⟩

theorem licensed_leaves (good : ∀ call, Allowed app.py (threadIdOf id) none call → ok call) :
    Leaves (doing (licensed ok)) app server nothingKnown id :=
  doing_leaves trivial (fun _ => trivial) (fun scenario => resumeInvestigation_licensed scenario
    fun call allowed => good call allowed.timedOut) fun _ => trivial

theorem runIncident_licensed (good : ∀ call, Allowed app.py (threadIdOf id) none call → ok call) :
    Does (licensed ok) (runIncident app server id) := by
  have leaves : Leaves (doing (licensed ok)) app server nothingKnown id := licensed_leaves good
  refine .of_doing (leaves.parts.runIncident (fun _ _ => trivial) ?_ .empty)
  intro incident scenario _ _ _ _
  refine doing_of_does ((does_write trivial (by intro _; exact ⟨server, rfl⟩)).bind fun _ => ?_)
  exact Does.of_doing (leaves.runStarted (fun _ => doing_of_does
    (runInvestigation_licensed scenario {} true good)) trivial (s := .empty))

theorem decideApproval_licensed (body : ApprovalDecision)
    (good : ∀ call, Licensed app ⟨.decideApproval id body, server⟩ call → ok call) :
    Does (licensed ok) (decideApproval app server id body) := by
  have leaves : Leaves (doing (licensed ok)) app server nothingKnown id :=
    licensed_leaves fun call allowed => good call (allowed.licensed rfl)
  refine .of_doing (leaves.parts.decideApproval (fun _ _ => trivial) ?_ .empty)
  intro incident scenario _ _ _ _ _
  exact doing_of_does ((resumeInvestigation_licensed scenario fun call allowed =>
    good call allowed.approving).bind fun result =>
      applyResult_does app server id incident result trivial)

end

theorem serve_licensed (app : App) (request : Request) :
    Does (licensed (Licensed app request)) (serve app request) := by
  obtain ⟨endpoint, server⟩ := request
  have leaves : ∀ id, Concerns ⟨endpoint, server⟩ id →
      Leaves (doing (licensed (Licensed app ⟨endpoint, server⟩))) app server nothingKnown id :=
    fun _ concerned => licensed_leaves fun call allowed => allowed.licensed concerned
  cases endpoint with
  | createIncident scenarioKey =>
    refine (createIncident_does app server scenarioKey).mono ?_
    rintro _ (rfl | ⟨_, rfl⟩) <;> trivial
  | listIncidents =>
    exact .of_doing (listIncidents_judged (fun id => (leaves id trivial).parts)
      (fun _ => doing_known (does_read trivial (by trivial) _) fun _ _ _ _ => trivial) .empty)
  | getIncident id =>
    exact .of_doing ((leaves id rfl).parts.getIncident (fun _ _ => trivial) .empty)
  | runIncident id =>
    exact runIncident_licensed fun call allowed => allowed.licensed
      (show Concerns ⟨.runIncident id, server⟩ id from rfl)
  | decideApproval id body => exact decideApproval_licensed body fun _ licensed => licensed
  | getTimeline id =>
    exact .of_doing ((leaves id rfl).parts.getTimeline (fun _ _ => trivial)
      (fun _ => doing_of_does (does_read trivial (by trivial) _)) .empty)

theorem serve_elsewhere (app : App) {request : Request} {id : ℕ}
    (unconcerned : ¬ Concerns request id) : Does (elsewhere id) (serve app request) := by
  obtain ⟨endpoint, server⟩ := request
  cases endpoint with
  | createIncident scenarioKey =>
    refine (createIncident_does app server scenarioKey).mono ?_
    rintro _ (rfl | ⟨_, rfl⟩) <;> trivial
  | listIncidents => exact absurd trivial unconcerned
  | getIncident j =>
    exact (getIncident_does app server j).mono fun _ => elsewhere_of_ofIncident unconcerned
  | runIncident j =>
    refine (runIncident_does app server j).mono ?_
    rintro l (rfl | inside)
    · exact unconcerned
    · exact elsewhere_of_ofIncident unconcerned inside
  | decideApproval j body =>
    exact (decideApproval_does app server j body).mono fun _ => elsewhere_of_ofIncident unconcerned
  | getTimeline j =>
    exact (getTimeline_does app server j).mono fun _ => elsewhere_of_ofIncident unconcerned

section
variable {ι : Type} [DecidableEq ι] {may : ι → RemediationCall → Prop} {db s s' : Database}
  {h : List (ι × BackendEvent)} {who : ι}

def RecordedBy (may : ι → RemediationCall → Prop) (h : List (ι × BackendEvent))
    (row : RemediationExecution) : Prop :=
  ∃ i, (i, .performed (.commit row)) ∈ h ∧ may i row.call

/-- Every executor was started, and every new remediation recorded, by one that may run it. -/
structure LicensedOnly (may : ι → RemediationCall → Prop) (db s : Database)
    (h : List (ι × BackendEvent)) : Prop where
  started : ∀ i key call, (i, .performed (.executor key call)) ∈ h → may i call
  recorded : ∀ row ∈ s.remediationExecutions,
    row ∈ db.remediationExecutions ∨ RecordedBy may h row

omit [DecidableEq ι] in
theorem LicensedOnly.mono {may' : ι → RemediationCall → Prop} (only : LicensedOnly may db s h)
    (wider : ∀ i call, may i call → may' i call) : LicensedOnly may' db s h where
  started i key call mem := wider i call (only.started i key call mem)
  recorded row mem := (only.recorded row mem).imp_right fun ⟨i, mem, may⟩ =>
    ⟨i, mem, wider i row.call may⟩

omit [DecidableEq ι] in
theorem RecordedBy.grow {row : RemediationExecution} (recorded : RecordedBy may h row)
    (event : ι × BackendEvent) : RecordedBy may (h ++ [event]) row := by
  obtain ⟨i, mem, licensed⟩ := recorded
  exact ⟨i, List.mem_append_left _ mem, licensed⟩

omit [DecidableEq ι] in
theorem LicensedOnly.unperformed {ev : BackendEvent} (only : LicensedOnly may db s h)
    (other : ∀ l, ev ≠ .performed l) : LicensedOnly may db s (h ++ [(who, ev)]) where
  started i key call mem := by
    rcases List.mem_append.mp mem with old | new
    · exact only.started i key call old
    · cases List.mem_singleton.mp new
      exact absurd rfl (other _)
  recorded row mem := (only.recorded row mem).imp_right (·.grow _)

omit [DecidableEq ι] in
theorem LicensedOnly.performed {l : Label} (only : LicensedOnly may db s h)
    (step : licensed (may who) l ∧ Effect l s s') :
    LicensedOnly may db s' (h ++ [(who, .performed l)]) where
  started i key call mem := by
    rcases List.mem_append.mp mem with old | new
    · exact only.started i key call old
    · cases List.mem_singleton.mp new
      exact step.1
  recorded row mem := by
    by_cases commits : ∃ row, l = .commit row
    · obtain ⟨new, rfl⟩ := commits
      obtain rfl | ⟨_, rfl⟩ := step.2
      · exact (only.recorded row mem).imp_right (·.grow _)
      · rcases List.mem_append.mp mem with old | added
        · exact (only.recorded row old).imp_right (·.grow _)
        · cases List.mem_singleton.mp added
          exact .inr ⟨who, by simp, step.1⟩
    · rw [remediations_of_effect step.2 fun row same => commits ⟨row, same⟩] at mem
      exact (only.recorded row mem).imp_right (·.grow _)

variable {α : Type} {programs : ι → Backend α} {pool : Pool ι Label ChatOutcome Database Error α}

theorem licensedOnly_of_reaches (reach : Reaches anyStep (Pool.start db programs) pool)
    (does : ∀ i, Does (licensed (may i)) (programs i)) :
    LicensedOnly may db pool.state pool.history := by
  refine reach.guaranteed (LicensedOnly may db) ?_ ?_ does
    ⟨by simp [Pool.start], fun row mem => .inl mem⟩
  · exact fun _ _ _ _ only other => only.unperformed other
  · exact fun _ _ _ _ _ only step => only.performed step

theorem isolated_step {l : Label} {id : ℕ} (born : id < s.nextIncidentId)
    (outside : elsewhere id l) (effect : Effect l s s') :
    SameFor id s s' ∧ remediationsOf s' id = remediationsOf s id := by
  cases l with
  | createIncident =>
    obtain ⟨_, _, rfl⟩ := effect
    exact ⟨⟨by simp [born.ne], rfl, rfl⟩, rfl⟩
  | commit row =>
    obtain rfl | ⟨_, rfl⟩ := effect
    · exact ⟨.refl id _, rfl⟩
    · have other : ¬ row.call.threadId = threadIdOf id := outside
      exact ⟨⟨rfl, rfl, rfl⟩, by simp [remediationsOf, other]⟩
  | executor =>
    cases effect
    exact ⟨.refl id _, rfl⟩
  | _ =>
    refine ⟨sameFor_of_effect effect (foreign_of_stranger outside), ?_⟩
    rw [remediationsOf, remediations_of_effect effect fun _ => Label.noConfusion]
    rfl

theorem isolated_of_reaches {id : ℕ} (reach : Reaches anyStep (Pool.start db programs) pool)
    (born : id < db.nextIncidentId) (does : ∀ i, Does (elsewhere id) (programs i)) :
    SameFor id db pool.state ∧ remediationsOf pool.state id = remediationsOf db id := by
  suffices kept : id < pool.state.nextIncidentId ∧ SameFor id db pool.state ∧
      remediationsOf pool.state id = remediationsOf db id from kept.2
  refine reach.guaranteed (fun s _ => id < s.nextIncidentId ∧ SameFor id db s ∧
    remediationsOf s id = remediationsOf db id) (fun _ _ _ _ kept _ => kept) ?_ does
    ⟨born, .refl id db, rfl⟩
  rintro s s' _ _ _ ⟨born, same, rows⟩ ⟨outside, effect⟩
  obtain ⟨same', rows'⟩ := isolated_step born outside effect
  exact ⟨born.trans_le (nextIncidentId_of_effect effect), same.trans same', rows'.trans rows⟩

end

end OpsPilot.RequestScope
