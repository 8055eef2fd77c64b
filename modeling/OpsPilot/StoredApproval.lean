import OpsPilot.AcceptedApproval
import OpsPilot.Columns

/-! An approval in time, on a database that refuses the values its columns do not take. -/

namespace OpsPilot.StoredApproval
open JsonText AgentSchemas SyntheticEnvironment RemediationTools InvestigationState Models
open IdempotentExecution GraphNodes Investigation IncidentApi GraphRun InvestigationOutcomes
open StepEffects IncidentTurns IncidentPhases AutoEscalation ApprovalTimeout Isolation ExpiredPause
open ExpiredApproval PendingApproval AcceptedApproval Columns DurableProgram CallHistory StateGraph

variable {app : App} {s t u : Database} {h : EventLog} {server : Server} {id : ℕ} {row : Incident}
  {body : ApprovalDecision} {scenario : Scenario} {values : GraphState}
  {diagnosis : SubmitDiagnosisArgs}

def executionFits (row : RemediationExecution) : Bool :=
  varchar 128 row.call.target && jsonb row.call.params && jsonb row.result

def entryFits (row : AuditLogEntry) : Bool :=
  varchar 64 row.toolName && jsonb row.arguments && row.result.all jsonb && row.error.all text

def recordFits (record : ToolCallRecord) : Bool :=
  varchar 64 record.toolName && jsonb record.arguments && record.result.all jsonb &&
    record.error.all text

def resultFits (db : Database) (id : ℕ) (result : InvestigationResult) : Bool :=
  (result.evidenceTrail.drop (db.auditOf id).length).all recordFits &&
    (result.diagnosis.map SubmitDiagnosisArgs.modelDump).all jsonb &&
    result.pendingApproval.all jsonb && result.remediationResult.all jsonb &&
    result.approvalDecision.all jsonb

def stores (db : Database) : Label → Bool
  | .commit row => executionFits row
  | .applyResult id result => resultFits db id result
  | _ => true

/-- A write fails exactly if its values do not fit, and nothing else does. -/
def postgres : Permit Label ChatOutcome Database Error
  | .performed l, db => stores db l = true
  | .failed l _, db => stores db l = false
  | .answered _ _, _ => True
  | .died _, _ => False

instance (ev : BackendEvent) (db : Database) : Decidable (postgres ev db) :=
  match ev with
  | .performed l => inferInstanceAs (Decidable (stores db l = true))
  | .failed l _ => inferInstanceAs (Decidable (stores db l = false))
  | .answered _ _ => inferInstanceAs (Decidable True)
  | .died _ => inferInstanceAs (Decidable False)

/-- The services and the audit rows are rows of such a database. -/
structure Held (app : App) (db : Database) : Prop where
  services : ∀ scenario ∈ app.tables.scenarios, varchar 64 scenario.service.name = true
  rows : ∀ row ∈ db.auditLog, entryFits row = true

def Storable (l : Label) : Prop := ∀ db, stores db l = true

theorem faultFree_of_storable {ev : BackendEvent} {db : Database} (ok : postgres ev db)
    (storable : Storable ev.label) : ev.faultFree := by
  cases ev with
  | performed | answered => trivial
  | failed l e => cases (storable db).symm.trans ok
  | died => exact ok.elim

theorem StepFails.refused {α : Type} {l : Label} {o : Outcome Error α} {g : List BackendEvent}
    (fails : StepFails postgres l s o g) : stores s l = false := by
  cases fails with
  | failed e ok => exact ok
  | died ok => exact ok.elim

theorem StepFails.unstorable {α : Type} {l : Label} {o : Outcome Error α} {g : List BackendEvent}
    (storable : Storable l) (fails : StepFails postgres l s o g) : False := by
  cases (storable s).symm.trans (StepFails.refused fails)

theorem faultless_of_carries {α : Type} {p : Backend α} {o : Outcome Error α}
    {g : List BackendEvent} (carries : Carries Storable p) (run : Runs .alone postgres p s o u g) :
    ∀ ev ∈ g, ev.faultFree := by
  intro ev mem
  obtain ⟨db, ok⟩ := permitted run ev mem
  exact faultFree_of_storable ok ((carries.runs run).1 ev mem)

theorem execution_carries {py : Platform} {call : RemediationCall} {executor : Json}
    (fits : executionFits ⟨idempotencyKey py call, call, executor⟩ = true) :
    Carries Storable (executeIdempotently py call executor) := by
  refine ⟨fun _ => rfl, fun db => ?_, fun _ => trivial⟩
  dsimp only [Program.ret_bind]
  cases db.remediation? (idempotencyKey py call) with
  | some existing => trivial
  | none =>
    refine ⟨fun _ => rfl, fun _ => ⟨fun _ => rfl, fun _ => ⟨fun _ => fits, fun db => ?_,
      fun _ => trivial⟩, fun _ => trivial⟩, fun _ => trivial⟩
    dsimp only
    split <;> trivial

theorem policy_carries {deps : NodeDeps} {decision executor : Json} {call : RemediationCall}
    (found : values.diagnosis = some diagnosis)
    (asked : gateCall app deps diagnosis (some decision) = some (call, executor))
    (fits : executionFits ⟨idempotencyKey app.py call, call, executor⟩ = true) :
    Carries Storable (evaluatePolicy app deps values (some decision)) := by
  have answered : ¬ (verdictOf deps diagnosis = .requireApproval ∧ (some decision).isNone) := by
    rintro ⟨_, missing⟩
    cases missing
  rw [evaluatePolicy_eq found answered, asked]
  exact (execution_carries fits).bind fun _ => trivial

theorem gate_carries {deps : NodeDeps} {decision : Json} (limit : ℕ)
    (policy : Carries Storable (evaluatePolicy app deps values (some decision))) :
    Carries Storable ((buildGraph app deps).supersteps limit ⟨values, some .evaluatePolicy⟩
      (some decision)) := by
  have closed : (buildGraph app deps).Closed (· = .decide) := by
    rintro _ _ _ rfl routed
    cases routed
  refine Graph.supersteps_carries_given closed ?_ (fun _ => Carries.perform fun _ => rfl)
    (fun _ => Carries.perform fun _ => rfl) limit ?_ ?_
  · rintro _ _ _ rfl
    exact (Carries.perform fun _ => rfl).bind fun _ => trivial
  · refine (Carries.perform fun _ => rfl).bind fun _ => policy.bind ?_
    rintro (update | payload) <;> trivial
  · rintro _ _ ⟨⟩
    rfl

theorem resume_faultless {decision executor : Json} {call : RemediationCall}
    {o : Outcome Error InvestigationResult} {g : List BackendEvent}
    (pending : Pending s id row values diagnosis)
    (asked : gateCall app (resumeDeps app scenario (threadIdOf id)) diagnosis (some decision) =
      some (call, executor))
    (fits : executionFits ⟨idempotencyKey app.py call, call, executor⟩ = true)
    (run : Runs .alone postgres (resumeInvestigation app scenario (threadIdOf id) decision)
      s o u g) : ∀ ev ∈ g, ev.faultFree := by
  have result : ∀ ended, Carries Storable (resultFromState app.py scenario ended) := by
    intro ended
    obtain ⟨_, returns⟩ | ⟨_, raises⟩ := resultFromState_cases app.py scenario ended
    · exact returns ▸ trivial
    · exact raises ▸ trivial
  have asks : Carries Storable (loadService scenario ⟨values, some .evaluatePolicy⟩) :=
    loadService_carries (fun _ => rfl) _
  have carries := asks.bind fun _ =>
    (gate_carries (recursionLimit (resumeDeps app scenario (threadIdOf id)))
      (policy_carries pending.diagnosed asked fits)).bind result
  change Runs .alone postgres ((mark (.resume (threadIdOf id) decision)).bind _) s o u g at run
  obtain ⟨_, t, g₁, g₂, resumed, rest, rfl⟩ | ⟨_, stop, resumed⟩ := run.of_bind
  swap
  · obtain ⟨rfl, _⟩ | ⟨_, fails⟩ := perform_fails resumed
    · cases stop
    · exact (StepFails.unstorable (fun _ => rfl) fails).elim
  obtain ⟨_, rfl, rfl⟩ | ⟨_, fails⟩ := perform_fails resumed
  swap
  · exact (StepFails.unstorable (fun _ => rfl) fails).elim
  obtain ⟨saved, t, g₁, g₃, loaded, walked, rfl⟩ | ⟨_, stop, loaded⟩ := rest.of_bind
  swap
  · obtain ⟨rfl, _⟩ | ⟨_, fails⟩ := perform_fails loaded
    · cases stop
    · exact (StepFails.unstorable (fun _ => rfl) fails).elim
  obtain ⟨same, rfl, rfl⟩ | ⟨_, fails⟩ := perform_fails loaded
  swap
  · exact (StepFails.unstorable (fun _ => rfl) fails).elim
  rw [pending.stored] at same
  cases same
  simp only [List.cons_append, List.nil_append, List.forall_mem_cons]
  exact ⟨trivial, trivial, faultless_of_carries carries walked⟩

theorem decision_fits : jsonb (decisionOf body) = true ↔
    text body.actor = true ∧ jsonb (orEmpty body.params) = true := by
  have approved : text "approved" = true := by decide
  have actor : text "actor" = true := by decide
  have params : text "params" = true := by decide
  simp [decisionOf, jsonb, jsonbFields, approved, actor, params]

theorem rollback_version {py : Platform} {input : Json} {args : RollbackDeploymentArgs}
    (valid : RollbackDeploymentArgs.modelValidate py input = .ok args) :
    input.field? "target_version" = some (.str args.targetVersion) := by
  unfold RollbackDeploymentArgs.modelValidate ReadOnlyTools.validated at valid
  split at valid
  · rename_i read
    cases valid
    cases found : input.field? "target_version" with
    | none => simp [found] at read
    | some value =>
      cases value with
      | str version =>
        rw [found] at read
        simp only [Option.bind_eq_bind, Option.bind_some] at read
        obtain ⟨_, _, same⟩ := Option.bind_eq_some_iff.mp read
        cases same
        rfl
      | _ => simp [found] at read
  · cases valid

theorem toggle_flag {py : Platform} {input : Json} {args : ToggleFeatureFlagArgs}
    (valid : ToggleFeatureFlagArgs.modelValidate py input = .ok args) :
    input.field? "flag_name" = some (.str args.flagName) := by
  unfold ToggleFeatureFlagArgs.modelValidate ReadOnlyTools.validated at valid
  split at valid
  · rename_i read
    cases valid
    cases found : input.field? "flag_name" with
    | none => simp [found] at read
    | some value =>
      cases value with
      | str name =>
        rw [found] at read
        simp only [Option.bind_eq_bind, Option.bind_some] at read
        obtain ⟨_, _, read⟩ := Option.bind_eq_some_iff.mp read
        split at read
        · cases read
          rfl
        · obtain ⟨_, _, same⟩ := Option.bind_eq_some_iff.mp read
          cases same
          rfl
      | _ => simp [found] at read
  · cases valid

theorem approved_fits {remediation : Remediation} (key : String)
    (pending : Pending s id row values diagnosis)
    (validated : Validates app scenario row body (.ok remediation))
    (service : varchar 64 scenario.service.name = true)
    (params : jsonb (orEmpty body.params) = true) :
    executionFits ⟨key, approvedCall id scenario row remediation, remediation.result⟩ = true := by
  obtain ⟨validate, listed, valid⟩ := validated
  obtain ⟨short, named⟩ := Bool.and_eq_true _ _ |>.mp service
  have target : varchar 128 scenario.service.name = true := by
    rw [varchar, named, Bool.and_true]
    exact decide_eq_true ((of_decide_eq_true short).trans (by decide))
  have approval := pending.approval
  rw [pendingActionType_eq pending] at listed
  cases recommended : diagnosis.recommendedAction with
  | rollbackDeployment =>
    rw [recommended] at listed
    cases listed
    unfold approvable at valid
    split at valid
    · cases valid
    · rename_i args read
      cases valid
      have version : text args.targetVersion = true :=
        jsonb_field? params (rollback_version read)
      simp only [executionFits, approvedCall, RollbackDeploymentArgs.modelDump, rollbackDeployment,
        jsonb, jsonbFields, target, named, version, Bool.and_true, Bool.true_and]
      decide +kernel
  | toggleFeatureFlag =>
    rw [recommended] at listed
    cases listed
    unfold approvable at valid
    split at valid
    · cases valid
    · rename_i args read
      cases valid
      have flag : text args.flagName = true := jsonb_field? params (toggle_flag read)
      simp only [executionFits, approvedCall, ToggleFeatureFlagArgs.modelDump, toggleFeatureFlag,
        jsonb, jsonbFields, target, named, flag, Bool.and_true, Bool.true_and]
      decide +kernel
  | noAction | restartService | scaleService | escalate | deleteData =>
    rw [recommended] at approval
    cases approval

structure HandsOn (values : GraphState) (decision : Json) (result : InvestigationResult) : Prop where
  trail : result.evidenceTrail = values.evidenceTrail
  diagnosis : result.diagnosis = values.diagnosis
  decision : result.approvalDecision = some decision
  shown : result.pendingApproval = none

theorem resume_handsOn {permit : Permit Label ChatOutcome Database Error} {decision : Json}
    {result : InvestigationResult} {g : List BackendEvent}
    (pending : Pending s id row values diagnosis)
    (run : Runs .alone permit (resumeInvestigation app scenario (threadIdOf id) decision) s
      (.returned result) t g) : HandsOn values decision result := by
  obtain ⟨_, stop⟩ | ⟨_, _, advances⟩ := resume_advances run pending.stored trivial
  · exact absurd rfl (stop result)
  cases advances with
  | unmoved stop | executed _ stop | judged _ stop => exact absurd rfl (stop result)
  | finished ends =>
    have carried := (carried_policy ends).trans
      (carried_decide (resumeDeps app scenario (threadIdOf id)) _)
    exact ⟨carried.evidenceTrail, carried.diagnosis,
      (policy_decided pending.diagnosed pending.approval ends).2, rfl⟩

theorem result_fits {decision executor : Json} {result : InvestigationResult}
    (history : TurnHistory app s h) (held : Held app s)
    (found : s.incidents id = some row) (awaiting : row.status = .awaitingApproval)
    (pending : Pending s id row values diagnosis) (handsOn : HandsOn values decision result)
    (remedied : result.remediationResult = some (withDeduplicated (executor, false)))
    (same : t.auditLog = s.auditLog) (decides : jsonb decision = true)
    (returned : jsonb (withDeduplicated (executor, false)) = true) :
    resultFits t id result = true := by
  obtain ⟨saved, now, asker, asking, stored, _, sound, _, rows⟩ :=
    ((turnHistory_phases history).phase id).of_awaiting found awaiting
  cases Option.some.inj (pending.stored.symm.trans stored)
  obtain ⟨record, mem, recorded⟩ := sound.stepped.recorded diagnosis pending.diagnosed
  have stands : evidenceRow id now record ∈ s.auditLog := by
    have listed : evidenceRow id now record ∈ s.auditOf id :=
      rows ▸ List.mem_append_left _ (List.mem_map_of_mem mem)
    exact (List.mem_filter.mp listed).1
  have dumped : jsonb diagnosis.modelDump = true := by
    have fits := held.rows _ stands
    simp only [entryFits, evidenceRow, recorded, Option.all_some, Bool.and_eq_true] at fits
    exact fits.1.2
  have old : result.evidenceTrail.drop (t.auditOf id).length = [] := by
    refine List.drop_eq_nil_of_le ?_
    rw [handsOn.trail, Database.auditOf, same]
    change _ ≤ (s.auditOf id).length
    rw [rows, evidenceRows, List.length_append, List.length_map]
    exact Nat.le_add_right _ _
  simp [resultFits, old, handsOn.diagnosis, pending.diagnosed, handsOn.shown, remedied,
    handsOn.decision, dumped, decides, returned]

theorem jsonb_setField {name : String} {value : Json} {fields : List (String × Json)}
    (named : text name = true) (fits : jsonb value = true) (others : jsonbFields fields = true) :
    jsonbFields (Json.setField name value fields) = true := by
  induction fields with
  | nil => simp [Json.setField, jsonbFields, named, fits]
  | cons field rest ih =>
    obtain ⟨key, old⟩ := field
    simp only [jsonbFields, Bool.and_eq_true] at others
    unfold Json.setField
    split
    · simp [jsonbFields, others, fits]
    · simp [jsonbFields, others, ih others.2]

theorem deduplicated_fits {executor : Json} (fits : jsonb executor = true) (again : Bool) :
    jsonb (withDeduplicated (executor, again)) = true := by
  refine jsonb_setField (by decide) rfl ?_
  cases executor with
  | obj fields => exact fits
  | _ => rfl

theorem decideLoaded_stored {response : Response} {g : List BackendEvent}
    (awaiting : row.status = .awaitingApproval) (pending : Pending s id row values diagnosis)
    (accepted : checkParams app row body.approved (orEmpty body.params) = .ret ())
    (known : scenarioById app row.scenarioId = some scenario)
    (run : Runs .alone postgres (decideLoaded app server id body row) s (.returned response) u g) :
    jsonb (decisionOf body) = true := by
  unfold decideLoaded at run
  rw [if_neg (not_not.mpr awaiting), accepted, known] at run
  change Runs .alone postgres ((resumeInvestigation app scenario (threadIdOf id)
    (decisionOf body)).bind _) s _ u g at run
  obtain ⟨result, t, _, _, resume, rest, rfl⟩ | ⟨_, stop, _⟩ := run.of_bind
  swap
  · cases stop
  obtain ⟨_, _, _, _, applying, _, rfl⟩ | ⟨_, stop, _⟩ := rest.of_bind
  swap
  · cases stop
  obtain ⟨_, _, rfl⟩ | ⟨_, unapplied⟩ := applyResult_outcome applying
  · obtain ⟨db, ok⟩ := permitted applying _ List.mem_cons_self
    have fits : resultFits db id result = true := ok
    rw [resultFits, Bool.and_eq_true, (resume_handsOn pending resume).decision] at fits
    exact fits.2
  · cases unapplied with
    | failed fails => exact absurd rfl (fails.unreturned _)

theorem decideLoaded_faultless {o : Outcome Error Response} {g : List BackendEvent}
    (history : TurnHistory app s h) (held : Held app s) (found : s.incidents id = some row)
    (awaiting : row.status = .awaitingApproval) (clean : Unremediated s id)
    (pending : Pending s id row values diagnosis) (apart : KeysApart app.py (threadIdOf id) s)
    (approved : body.approved = true)
    (accepted : checkParams app row body.approved (orEmpty body.params) = .ret ())
    (known : scenarioById app row.scenarioId = some scenario) {remediation : Remediation}
    (valid : Validates app scenario row body (.ok remediation))
    (storable : jsonb (decisionOf body) = true)
    (run : Runs .alone postgres (decideLoaded app server id body row) s o u g) :
    ∀ ev ∈ g, ev.faultFree := by
  have service := held.services scenario (List.mem_of_find?_eq_some known)
  have asked := gateCall_approved pending approved valid
  have fits := approved_fits (idempotencyKey app.py (approvedCall id scenario row remediation))
    pending valid service (decision_fits.mp storable).2
  unfold decideLoaded at run
  rw [if_neg (not_not.mpr awaiting), accepted, known] at run
  change Runs .alone postgres ((resumeInvestigation app scenario (threadIdOf id)
    (decisionOf body)).bind _) s o u g at run
  obtain ⟨result, t, g₁, g₂, resume, rest, rfl⟩ | ⟨_, _, resume⟩ := run.of_bind
  swap
  · exact resume_faultless pending asked fits resume
  have quiet := resume_faultless pending asked fits resume
  have remedied := resume_remedies pending (fresh_of_unremediated clean apart) asked
    (resume.of_events fun ev mem _ => quiet ev mem)
  have stored : resultFits t id result = true := by
    simp only [executionFits, Bool.and_eq_true] at fits
    exact result_fits history held found awaiting pending (resume_handsOn pending resume)
      remedied.remediation (untouched_of_graph (resumeInvestigation_does _ _ _ _ _) resume).auditLog
      storable (deduplicated_fits fits.2 false)
  intro ev mem
  rcases List.mem_append.mp mem with resuming | later
  · exact quiet ev resuming
  obtain ⟨_, t', g₃, g₄, applying, answering, rfl⟩ | ⟨_, stop, applying⟩ := rest.of_bind
  · obtain ⟨_, _, rfl⟩ | ⟨_, unapplied⟩ := applyResult_outcome applying
    · rcases List.mem_append.mp later with applied | answered
      · exact List.mem_singleton.mp applied ▸ trivial
      · have answers : Carries Storable ((reread id row true).bind fun incident =>
            (toIncidentDetail app id incident).bind fun detail =>
              .ret (Response.incident detail)) := by
          refine Carries.bind ((Carries.perform fun _ => rfl).bind ?_) fun incident =>
            Carries.bind (Carries.bind ?_ fun _ => trivial) fun _ => trivial
          · rintro (_ | incident) <;> trivial
          · cases scenarioById app incident.scenarioId <;> trivial
        exact faultless_of_carries answers answering ev answered
    · cases unapplied with
      | failed fails => exact absurd rfl (fails.unreturned _)
  · obtain ⟨rfl, _⟩ | ⟨_, unapplied⟩ := applyResult_outcome applying
    · cases stop
    · cases unapplied with
      | lost unknown => cases known.symm.trans unknown
      | failed fails => cases (StepFails.refused fails).symm.trans stored

/-- The body is an approval whose parameters are refused, or whose decision can be stored. -/
theorem accepted_approval_executes_iff {o : Outcome Error Response} {g : List BackendEvent}
    (history : TurnHistory app s h) (held : Held app s) (found : s.incidents id = some row)
    (awaiting : row.status = .awaitingApproval) (finished : ¬ Unfinished h id)
    (apart : KeysApart app.py (threadIdOf id) s)
    (within : slaExpired app server.now row = false) (approved : body.approved = true)
    (run : Runs .alone postgres (decideApproval app server id body) s o u g) :
    ApprovalEnds app server id row body s o u g ↔
      RefusedParams app row body ∨ jsonb (decisionOf body) = true := by
  obtain ⟨clean, values, diagnosis, pending⟩ := waiting_tracked history found awaiting finished
  obtain ⟨scenario, known⟩ := Option.isSome_iff_exists.mp (turnHistory_seeded history id row found)
  have reads : ∀ o g, ¬ StepFails (α := Incident) postgres (.loadIncident id) s o g :=
    fun _ _ => StepFails.unstorable fun _ => rfl
  have whole := run
  rw [decideApproval_eq] at run
  obtain ⟨row', t, g₁, g₂, loading, later, rfl⟩ | ⟨_, stop, loading⟩ := run.of_bind
  swap
  · obtain ⟨rfl, _⟩ := loadCurrent_within found within reads loading
    cases stop
  obtain ⟨same, rfl, rfl⟩ := loadCurrent_within found within reads loading
  cases same
  obtain ⟨accepted, remediation, valid⟩ | ⟨text, reason, refused, invalid⟩ :=
    checkParams_validates app body pending scenario
  · rw [← approved] at accepted
    constructor
    · intro ends
      cases ends with
      | refused known' invalid =>
        cases known.symm.trans known'
        obtain ⟨_, listed, valid⟩ := valid
        obtain ⟨_, listed', invalid⟩ := invalid
        cases listed.symm.trans listed'
        cases valid.symm.trans invalid
      | executed => exact .inr (decideLoaded_stored awaiting pending accepted known later)
    · rintro (⟨_, refused⟩ | storable)
      · cases accepted.symm.trans refused
      · have quiet := decideLoaded_faultless history held found awaiting clean pending apart approved
          accepted known valid storable later
        refine faultless_approval_executes history found awaiting finished apart within approved
          (whole.of_events fun ev mem _ => ?_)
        rcases List.mem_append.mp mem with load | rest
        · exact List.mem_singleton.mp load ▸ trivial
        · exact quiet ev rest
  · unfold decideLoaded at later
    rw [if_neg (not_not.mpr awaiting), approved, refused] at later
    obtain ⟨rfl, rfl, rfl⟩ := later.of_raise
    exact ⟨fun _ => .inl ⟨text, approved ▸ refused⟩, fun _ => .refused known invalid⟩

def approvingMoves : List (Move ChatOutcome Error) := approvalSteps

def isHeld (s : Database) (h : EventLog) : Bool :=
  isWaiting s h && s.auditLog.all entryFits &&
    checkoutApp.tables.scenarios.all fun scenario => varchar 64 scenario.service.name

theorem held_of_isHeld (facts : isHeld s h = true) : Held checkoutApp s ∧ ∃ row,
    s.incidents 1 = some row ∧ row.status = .awaitingApproval ∧ ¬ Unfinished h 1 ∧
      KeysApart checkoutApp.py (threadIdOf 1) s ∧
      slaExpired checkoutApp promptServer.now row = false := by
  obtain ⟨facts, services⟩ := Bool.and_eq_true _ _ |>.mp facts
  obtain ⟨waits, rows⟩ := Bool.and_eq_true _ _ |>.mp facts
  exact ⟨⟨List.all_eq_true.mp services, List.all_eq_true.mp rows⟩, waiting_of_isWaiting waits⟩

theorem accepted_approval_executes_rollback : ∃ (s u : Database) (h : EventLog) (row : Incident)
    (o : Outcome Error Response) (g : List BackendEvent), TurnHistory checkoutApp s h ∧
    Held checkoutApp s ∧ s.incidents 1 = some row ∧
    Runs .alone postgres (decideApproval checkoutApp promptServer 1 lateApproval) s o u g ∧
    (ApprovalEnds checkoutApp promptServer 1 row lateApproval s o u g ↔
      RefusedParams checkoutApp row lateApproval ∨ jsonb (decisionOf lateApproval) = true) := by
  have played : ((playCalls anyFaults (serve checkoutApp) pausingCalls Database.empty).any
      fun after => isHeld after.1 after.2 && (play postgres approvingMoves
        (decideApproval checkoutApp promptServer 1 lateApproval) after.1).isSome) = true := by
    decide +kernel
  obtain ⟨⟨s, h⟩, ran, facts⟩ := Option.any_eq_true _ _ |>.mp played
  obtain ⟨facts, decides⟩ := Bool.and_eq_true _ _ |>.mp facts
  obtain ⟨⟨o, u, g⟩, decided⟩ := Option.isSome_iff_exists.mp decides
  obtain ⟨held, row, found, awaiting, finished, apart, within⟩ := held_of_isHeld facts
  have history : TurnHistory checkoutApp s h := .of_history (served_of_playCalls .start ran)
  have run := play_runs decided
  exact ⟨s, u, h, row, o, g, history, held, found, run,
    accepted_approval_executes_iff history held found awaiting finished apart within rfl run⟩

def nulApproval : ApprovalDecision :=
  ⟨true, "al\u0000ice", some (.obj [("target_version", .str "v2.7")])⟩

def refusingMoves : List (Move ChatOutcome Error) :=
  approvalSteps.take 12 ++ [.fail (.other "untranslatable character")]

def isRefusal : Outcome Error Response → Bool
  | .raised (.other _) => true
  | _ => false

theorem accepted_approval_refused : ¬ ∀ s h, TurnHistory checkoutApp s h → Held checkoutApp s →
    ∀ server id row body, s.incidents id = some row → row.status = .awaitingApproval →
    ¬ Unfinished h id → KeysApart checkoutApp.py (threadIdOf id) s →
    slaExpired checkoutApp server.now row = false → body.approved = true → ∀ o u g,
    Runs .alone postgres (decideApproval checkoutApp server id body) s o u g →
      ApprovalEnds checkoutApp server id row body s o u g := by
  intro executes
  have played : ((playCalls anyFaults (serve checkoutApp) pausingCalls Database.empty).any
      fun after => isHeld after.1 after.2 && (play postgres refusingMoves
        (decideApproval checkoutApp promptServer 1 nulApproval) after.1).any
          fun ended => isRefusal ended.1) = true := by decide +kernel
  obtain ⟨⟨s, h⟩, ran, facts⟩ := Option.any_eq_true _ _ |>.mp played
  obtain ⟨facts, refused⟩ := Bool.and_eq_true _ _ |>.mp facts
  obtain ⟨⟨o, u, g⟩, decided, refusal⟩ := Option.any_eq_true _ _ |>.mp refused
  obtain ⟨held, row, found, awaiting, finished, apart, within⟩ := held_of_isHeld facts
  have ends := executes s h (.of_history (served_of_playCalls .start ran)) held promptServer 1 row
    nulApproval found awaiting finished apart within rfl o u g (play_runs decided)
  cases ends <;> cases refusal

end OpsPilot.StoredApproval
