import OpsPilot.PauseRequests

/-! The decision that closes a paused incident, next to what was executed on its thread, over
histories of calls that may be cut short anywhere. A remediation is committed before the checkpoint
of the decision that asked for it, and until then the next answer is taken as the first. -/

namespace OpsPilot.DecisionAgreement
open JsonText PolicyEngine AgentSchemas SyntheticEnvironment InvestigationState Models Memory
open StepEffects IdempotentExecution GraphNodes Investigation IncidentApi GraphRun PolicyGate
open InvestigationOutcomes IncidentTurns IncidentPhases AutoEscalation Isolation ExpiredApproval
open PendingApproval AcceptedApproval PauseRequests MemoryHistory DurableProgram CallHistory

variable {app : App} {permit : Permit Label ChatOutcome Database Error} {request : Request}
  {s t u : Database} {h : EventLog} {g g' : List BackendEvent} {id : ℕ} {row : Incident}
  {scenario : Scenario} {values : GraphState} {diagnosis : SubmitDiagnosisArgs} {decision : Json}

def askedCalls (app : App) (id : ℕ) (scenario : Scenario) (diagnosis : SubmitDiagnosisArgs)
    (decision : Json) : List RemediationCall :=
  invocation (threadIdOf id) scenario.service.name diagnosis.recommendedAction
    (decidedParams app.py diagnosis.recommendedAction decision)

def callsOf (s : Database) (id : ℕ) : List RemediationCall := (remediationsOf s id).map (·.call)

/-- The remediations of the thread are stored under their own keys. -/
def Keyed (app : App) (s : Database) (id : ℕ) : Prop :=
  ∀ row ∈ remediationsOf s id, row.idempotencyKey = idempotencyKey app.py row.call

def Repeats (app : App) (s : Database) (id : ℕ) (decision : Json) : Prop :=
  ∀ row scenario values diagnosis, s.incidents id = some row →
    scenarioById app row.scenarioId = some scenario →
    s.checkpoints (threadIdOf id) = some ⟨values, some .evaluatePolicy⟩ →
    values.diagnosis = some diagnosis → callsOf s id ≠ [] →
    callsOf s id = askedCalls app id scenario diagnosis decision

/-- Anything may fail. Whoever resumes the incident's graph repeats what is stored, and no key
collides. -/
def repeating (app : App) (id : ℕ) : Permit Label ChatOutcome Database Error := fun ev s =>
  ∀ decision, ev = .performed (.resume (threadIdOf id) decision) →
    KeysApart app.py (threadIdOf id) s ∧ Repeats app s id decision

theorem mem_remediationsOf {stored : RemediationExecution} : stored ∈ remediationsOf s id ↔
    stored ∈ s.remediationExecutions ∧ stored.call.threadId = threadIdOf id := by
  rw [remediationsOf, List.mem_filter, beq_iff_eq]

theorem stored_of_lookup {call : RemediationCall} {stored : RemediationExecution}
    (apart : KeysApart app.py (threadIdOf id) s) (own : call.threadId = threadIdOf id)
    (found : s.remediation? (idempotencyKey app.py call) = some stored) :
    stored ∈ remediationsOf s id := by
  have mem := List.mem_of_find?_eq_some found
  have keyed := List.find?_some found
  exact mem_remediationsOf.mpr ⟨mem, apart stored mem call own (beq_iff_eq.mp keyed)⟩

theorem lookup_of_stored {call : RemediationCall} (keyed : Keyed app s id)
    (stored : call ∈ callsOf s id) : s.remediation? (idempotencyKey app.py call) ≠ none := by
  obtain ⟨row, mem, rfl⟩ := List.mem_map.mp stored
  intro missing
  have unlike := List.find?_eq_none.mp missing row (mem_remediationsOf.mp mem).1
  exact unlike (beq_iff_eq.mpr (keyed row mem))

theorem policy_rows {deps : NodeDeps} {answer : Option Json} {update : GraphUpdate}
    (found : values.diagnosis = some diagnosis)
    (ends : PolicyEnds .alone permit app deps values answer s (.returned (.update update)) t g) :
    (gateCall app deps diagnosis answer = none ∧ t = s) ∨
    ∃ call executor, gateCall app deps diagnosis answer = some (call, executor) ∧
      ((t = s ∧ ∃ stored, s.remediation? (idempotencyKey app.py call) = some stored) ∨
        (s.remediation? (idempotencyKey app.py call) = none ∧ t =
          { s with remediationExecutions :=
            s.remediationExecutions ++ [⟨idempotencyKey app.py call, call, executor⟩] })) := by
  cases ends with
  | undiagnosed missing => cases found.symm.trans missing
  | stopped _ _ stop => cases stop
  | idle found' _ nothing =>
    cases found.symm.trans found'
    exact .inl ⟨nothing, rfl⟩
  | ran found' _ asked ends =>
    cases found.symm.trans found'
    refine .inr ⟨_, _, asked, ?_⟩
    cases ends with
    | found same stored =>
      cases same
      exact .inl ⟨rfl, _, stored⟩
    | executed first missing later =>
      cases first
      cases later
      exact .inr ⟨missing, rfl⟩
    | stopped _ fault => exact fault.elim

theorem policy_agrees {update : GraphUpdate} (found : values.diagnosis = some diagnosis)
    (approval : policy diagnosis.recommendedAction = .requireApproval) (keyed : Keyed app s id)
    (apart : KeysApart app.py (threadIdOf id) s)
    (repeats : callsOf s id ≠ [] → callsOf s id = askedCalls app id scenario diagnosis decision)
    (ends : PolicyEnds .alone permit app (resumeDeps app scenario (threadIdOf id)) values
      (some decision) s (.returned (.update update)) t g) :
    callsOf t id = askedCalls app id scenario diagnosis decision ∧ Keyed app t id := by
  have decided := gateCall_decided app (resumeDeps app scenario (threadIdOf id)) approval decision
  change _ = askedCalls app id scenario diagnosis decision at decided
  obtain ⟨nothing, rfl⟩ | ⟨call, executor, asked, ran⟩ := policy_rows found ends
  · refine ⟨?_, keyed⟩
    rw [nothing] at decided
    by_cases empty : callsOf t id = []
    · rw [empty, ← decided]
      rfl
    · exact repeats empty
  · have own : call.threadId = threadIdOf id := gateCall_thread asked
    rw [asked] at decided
    obtain ⟨rfl, stored, lookup⟩ | ⟨missing, rfl⟩ := ran
    · refine ⟨repeats fun empty => ?_, keyed⟩
      have mem := stored_of_lookup apart own lookup
      rw [List.map_eq_nil_iff.mp empty] at mem
      cases mem
    · have new : remediationsOf { s with remediationExecutions := s.remediationExecutions ++
          [⟨idempotencyKey app.py call, call, executor⟩] } id =
          remediationsOf s id ++ [⟨idempotencyKey app.py call, call, executor⟩] := by
        simp [remediationsOf, own]
      have empty : callsOf s id = [] := by
        by_contra stored
        refine lookup_of_stored keyed ?_ missing
        rw [repeats stored, ← decided]
        exact List.mem_singleton_self call
      have none : remediationsOf s id = [] := List.map_eq_nil_iff.mp empty
      constructor
      · rw [callsOf, new, none, ← decided]
        rfl
      · intro row mem
        rw [new, none, List.nil_append, List.mem_singleton] at mem
        rw [mem]

def Valid (app : App) (diagnosis : SubmitDiagnosisArgs) (decision : Json) : Prop :=
  isApproved (some decision) = true →
    (approvedParams app.py diagnosis.recommendedAction decision).isSome = true

theorem valid_of_accepted (pending : Pending s id row values diagnosis)
    (accepted : Accepted app request id row decision) (scenario : Scenario) :
    Valid app diagnosis decision := by
  intro approves
  cases accepted with
  | timedOut => cases approves
  | answered body asked checked =>
    have approved : body.approved = true := approves
    obtain ⟨_, remediation, valid⟩ | ⟨text, _, refused, _⟩ :=
      checkParams_validates app body pending scenario
    · have decided := gateCall_decided app (resumeDeps app scenario (threadIdOf id))
        pending.approval (decisionOf body)
      rw [gateCall_approved pending approved valid, decidedParams, if_pos approves] at decided
      cases params : approvedParams app.py diagnosis.recommendedAction (decisionOf body) with
      | some params => rfl
      | none =>
        rw [params] at decided
        cases decided
    · rw [approved, refused] at checked
      cases checked

structure Settled (app : App) (id : ℕ) (scenario : Scenario) (s : Database)
    (recommended : Option SubmitDiagnosisArgs) (verdict : Option PolicyVerdict)
    (answer : Option Json) (diagnosis : SubmitDiagnosisArgs) (decision : Json) : Prop where
  diagnosed : recommended = some diagnosis
  verdict : verdict = some .requireApproval
  answered : answer = some decision
  valid : Valid app diagnosis decision
  stored : callsOf s id = askedCalls app id scenario diagnosis decision

/-- What the rows of memory that tell of the incident say came of it. -/
def Tells (s : Database) (id : ℕ) (told : String → Prop) : Prop :=
  ∀ memory ∈ s.serviceMemory, memory.sourceIncidentId = id → told memory.outcome

def Untold (s : Database) (id : ℕ) : Prop := Tells s id fun _ => False

def Retold (id : ℕ) (s u : Database) : Prop :=
  ∀ memory ∈ u.serviceMemory, memory.sourceIncidentId = id →
    ∃ old ∈ s.serviceMemory, old.sourceIncidentId = id ∧ old.outcome = memory.outcome

theorem Tells.retold {told : String → Prop} (tells : Tells s id told) (retold : Retold id s u) :
    Tells u id told := by
  intro memory mem own
  obtain ⟨old, stored, source, outcome⟩ := retold memory mem own
  rw [← outcome]
  exact tells old stored source

theorem Retold.of_same (same : u.serviceMemory = s.serviceMemory) : Retold id s u :=
  fun memory mem own => ⟨memory, same ▸ mem, own, rfl⟩

theorem Retold.trans (first : Retold id s t) (later : Retold id t u) : Retold id s u := by
  intro memory mem own
  obtain ⟨old, stored, source, outcome⟩ := later memory mem own
  obtain ⟨older, stored', source', outcome'⟩ := first old stored source
  exact ⟨older, stored', source', outcome'.trans outcome⟩

theorem closeIncident_origin {settings : Settings} {server : Server} {scenario : Scenario} {j : ℕ}
    {incident : Incident} {result : InvestigationResult} {memory : ServiceMemory}
    (mem : memory ∈ (closeIncident settings server scenario j incident result s).serviceMemory) :
    (∃ old ∈ s.serviceMemory, old.sourceIncidentId = memory.sourceIncidentId ∧
      old.outcome = memory.outcome) ∨
    memory.sourceIncidentId = j ∧ memory.outcome = deriveOutcome result := by
  obtain ⟨db, rows, _, closes⟩ :=
    closeIncident_memory settings server scenario j incident result s
  rw [closes] at mem
  obtain ⟨old, source, outcome, stored | written⟩ := addMemory_origin mem
  · exact .inl ⟨old, rows ▸ stored, source, outcome⟩
  · have fields := writeConfirmedMemory_written written
    exact .inr ⟨source.symm.trans fields.sourceIncidentId, outcome.symm.trans fields.outcome⟩

theorem retold_of_effect {l : Label} (effect : Effect l s u) (outside : stranger id l) :
    Retold id s u := by
  cases l with
  | createIncident => exact outside.elim
  | commitRunning | saveCheckpoint =>
    obtain ⟨_, rfl⟩ := effect
    exact .of_same rfl
  | commit => obtain rfl | ⟨_, rfl⟩ := effect <;> exact .of_same rfl
  | applyResult j result =>
    obtain ⟨_, _, rfl⟩ | ⟨_, _, _, _, _, rfl⟩ := effect
    · exact .of_same rfl
    · intro memory mem own
      obtain ⟨old, stored, source, outcome⟩ | ⟨source, _⟩ := closeIncident_origin mem
      · exact ⟨old, stored, source.trans own, outcome⟩
      · exact absurd (source.symm.trans own) outside
  | _ =>
    cases effect
    exact .of_same rfl

theorem memory_of_resume {threadId : String} {o : Outcome Error InvestigationResult}
    (run : Runs .alone permit (resumeInvestigation app scenario threadId decision) s o u g) :
    u.serviceMemory = s.serviceMemory :=
  (untouched_of_graph (resumeInvestigation_does _ _ _ _ _) run).serviceMemory

abbrev SettledThread (app : App) (id : ℕ) (scenario : Scenario) (s : Database)
    (values : GraphState) : SubmitDiagnosisArgs → Json → Prop :=
  Settled app id scenario s values.diagnosis values.policyVerdict values.approvalDecision

abbrev SettledResult (app : App) (id : ℕ) (scenario : Scenario) (s : Database)
    (result : InvestigationResult) : SubmitDiagnosisArgs → Json → Prop :=
  Settled app id scenario s result.diagnosis result.policyVerdict result.approvalDecision

inductive Tracks (app : App) (s : Database) (h : EventLog) (id : ℕ) : Prop where
  | untouched (unresumed : Unresumed h id) (clean : remediationsOf s id = [])
      (untold : Untold s id)
      (unstarted : ∀ row, s.incidents id = some row → row.status = .opened)
  | waiting {row : Incident} {values : GraphState} {diagnosis : SubmitDiagnosisArgs}
      (found : s.incidents id = some row)
      (awaiting : row.status = .awaitingApproval) (pending : Pending s id row values diagnosis)
      (keyed : Keyed app s id) (untold : Untold s id)
  | settled {row : Incident} {scenario : Scenario} {values : GraphState} {next : Option Node}
      {diagnosis : SubmitDiagnosisArgs} {decision : Json} (found : s.incidents id = some row)
      (awaiting : row.status = .awaitingApproval)
      (known : scenarioById app row.scenarioId = some scenario)
      (stored : s.checkpoints (threadIdOf id) = some ⟨values, next⟩)
      (late : next = some .decide ∨ next = none)
      (settled : SettledThread app id scenario s values diagnosis decision) (untold : Untold s id)
  | closed {row : Incident} {server : Server} {scenario : Scenario} {before : List AuditLogEntry}
      {result : InvestigationResult} {diagnosis : SubmitDiagnosisArgs} {decision : Json}
      (found : s.incidents id = some row) (closed : isClosed row.status = true)
      (known : scenarioById app row.scenarioId = some scenario)
      (recorded : s.auditOf id = before ++ [decisionRow server id result])
      (settled : SettledResult app id scenario s result diagnosis decision)
      (told : Tells s id (· = deriveOutcome result))
  | other {row : Incident} (found : s.incidents id = some row) (started : row.status ≠ .opened)
      (unasked : row.status ≠ .awaitingApproval) (unresumed : Unresumed h id)

theorem remediationsOf_of_effect {l : Label} (effect : Effect l s u) (outside : stranger id l) :
    remediationsOf u id = remediationsOf s id := by
  cases l with
  | commit row =>
    obtain rfl | ⟨_, rfl⟩ := effect
    · rfl
    · have other : row.call.threadId ≠ threadIdOf id := outside
      simp [remediationsOf, other]
  | createIncident => exact outside.elim
  | _ => rw [remediationsOf, remediations_of_effect effect fun _ => Label.noConfusion]; rfl

structure Elsewhere (id : ℕ) (s u : Database) (g : List BackendEvent) : Prop where
  same : SameFor id s u
  remediations : remediationsOf u id = remediationsOf s id
  memory : Retold id s u
  unresumed : ∀ decision, .performed (.resume (threadIdOf id) decision) ∉ g

theorem Elsewhere.append (first : Elsewhere id s t g) (later : Elsewhere id t u g') :
    Elsewhere id s u (g ++ g') where
  same := first.same.trans later.same
  remediations := later.remediations.trans first.remediations
  memory := first.memory.trans later.memory
  unresumed decision mem :=
    (List.mem_append.mp mem).elim (first.unresumed decision) (later.unresumed decision)

theorem elsewhere_of_effect {l : Label} (effect : Effect l s u) (outside : stranger id l) :
    Elsewhere id s u [.performed l] := by
  refine ⟨sameFor_of_effect effect (foreign_of_stranger outside),
    remediationsOf_of_effect effect outside, retold_of_effect effect outside,
    fun decision mem => ?_⟩
  cases List.mem_singleton.mp mem
  exact outside rfl

theorem elsewhere_of_does {α : Type} {p : Backend α} {o : Outcome Error α}
    (does : Does (stranger id) p) (run : Runs .alone permit p s o u g) : Elsewhere id s u g := by
  refine ⟨(sameFor_of_does (does.mono fun _ => foreign_of_stranger) run).1, ?_, ?_,
    fun _ mem => labels_of_does does run _ mem rfl⟩
  · refine runs_of_guarantees (R := fun s u => remediationsOf u id = remediationsOf s id)
      (fun _ => rfl) (fun first later => later.trans first) ?_ does run
    exact fun _ _ _ step => remediationsOf_of_effect step.2 step.1
  · exact runs_of_guarantees (R := Retold id) (fun _ => .of_same rfl) .trans
      (fun _ _ _ step => retold_of_effect step.2 step.1) does run

theorem Settled.of_same {recommended : Option SubmitDiagnosisArgs} {verdict : Option PolicyVerdict}
    {answer : Option Json}
    (settled : Settled app id scenario s recommended verdict answer diagnosis decision)
    (same : remediationsOf u id = remediationsOf s id) :
    Settled app id scenario u recommended verdict answer diagnosis decision :=
  ⟨settled.diagnosed, settled.verdict, settled.answered, settled.valid, by
    rw [callsOf, same]
    exact settled.stored⟩

theorem Tracks.elsewhere (tracks : Tracks app s h id) (aside : Elsewhere id s u g) :
    Tracks app u (h ++ g.map (request, ·)) id := by
  obtain ⟨same, rows, memory, quiet⟩ := aside
  cases tracks with
  | untouched unresumed clean untold unstarted =>
    exact .untouched (unresumed.grow quiet) (rows.trans clean) (untold.retold memory)
      (same.row ▸ unstarted)
  | waiting found awaiting pending keyed untold =>
    refine .waiting (same.row.trans found) awaiting (pending.of_same same) (fun row mem => ?_)
      (untold.retold memory)
    rw [rows] at mem
    exact keyed row mem
  | settled found awaiting known stored late settled untold =>
    exact .settled (same.row.trans found) awaiting known (same.checkpoint.trans stored) late
      (settled.of_same rows) (untold.retold memory)
  | closed found closed known recorded settled told =>
    exact .closed (same.row.trans found) closed known (same.rows.trans recorded)
      (settled.of_same rows) (told.retold memory)
  | other found started unasked unresumed =>
    exact .other (same.row.trans found) started unasked (unresumed.grow quiet)

theorem settled_decide (deps : NodeDeps)
    (settled : SettledThread app id scenario s values diagnosis decision) :
    SettledThread app id scenario s (values.merge (decide deps values)) diagnosis decision :=
  ⟨settled.diagnosed, settled.verdict, settled.answered, settled.valid, settled.stored⟩

theorem settled_result {status : InvestigationStatus}
    (settled : SettledThread app id scenario s values diagnosis decision) :
    SettledResult app id scenario s (finishedResult scenario values status) diagnosis decision :=
  ⟨settled.diagnosed, settled.verdict, settled.answered, settled.valid, settled.stored⟩

theorem waiting_resumed {o : Outcome Error InvestigationResult}
    (found : s.incidents id = some row) (awaiting : row.status = .awaitingApproval)
    (pending : Pending s id row values diagnosis) (keyed : Keyed app s id) (untold : Untold s id)
    (known : scenarioById app row.scenarioId = some scenario)
    (accepted : Accepted app request id row decision)
    (run : Runs .alone (repeating app id)
      (resumeInvestigation app scenario (threadIdOf id) decision) s o u g) :
    Tracks app u (h ++ g.map (request, ·)) id ∧ ∀ result, o = .returned result →
      SettledResult app id scenario u result diagnosis decision := by
  have found' : u.incidents id = some row := by rw [incidents_of_resume run, found]
  have untold' : Untold u id := untold.retold (.of_same (memory_of_resume run))
  obtain ⟨rfl, stop⟩ | ⟨_, ok, advances⟩ := resume_advances run pending.stored trivial
  · exact ⟨.waiting found awaiting pending keyed untold,
      fun result same => absurd same (stop result)⟩
  obtain ⟨apart, repeats⟩ := ok decision rfl
  have repeats := repeats row scenario values diagnosis found known pending.stored pending.diagnosed
  have settles : ∀ {update t g'}, PolicyEnds .alone (repeating app id) app
      (resumeDeps app scenario (threadIdOf id)) values (some decision) s
      (.returned (.update update)) t g' →
      SettledThread app id scenario t (values.merge update) diagnosis decision := fun ends =>
    have ⟨verdict, answered⟩ := policy_decided pending.diagnosed pending.approval ends
    ⟨(carried_policy ends).diagnosis.trans pending.diagnosed, verdict, answered,
      valid_of_accepted pending accepted scenario,
      (policy_agrees pending.diagnosed pending.approval keyed apart repeats ends).1⟩
  cases advances with
  | unmoved stop =>
    exact ⟨.waiting found awaiting pending keyed untold,
      fun result same => absurd same (stop result)⟩
  | executed ends stop =>
    have stored := (congrFun (policy_stays ends) (threadIdOf id)).trans pending.stored
    refine ⟨.waiting found' awaiting ⟨stored, pending.diagnosed, pending.approval, pending.shown⟩
      ?_ untold', fun result same => absurd same (stop result)⟩
    exact (policy_agrees pending.diagnosed pending.approval keyed apart repeats ends).2
  | judged ends stop =>
    exact ⟨.settled found' awaiting known (saveCheckpoint_self _ _ _) (.inl rfl)
      ((settles ends).of_same rfl) untold', fun result same => absurd same (stop result)⟩
  | finished ends =>
    have settled := settled_decide (resumeDeps app scenario (threadIdOf id)) (settles ends)
    refine ⟨.settled found' awaiting known (saveCheckpoint_self _ _ _) (.inr rfl)
      (settled.of_same rfl) untold', ?_⟩
    rintro _ ⟨⟩
    exact (settled_result settled).of_same rfl

theorem settled_resumed {next : Option Node} {decision' : Json}
    {o : Outcome Error InvestigationResult} (found : s.incidents id = some row)
    (awaiting : row.status = .awaitingApproval)
    (known : scenarioById app row.scenarioId = some scenario)
    (stored : s.checkpoints (threadIdOf id) = some ⟨values, next⟩)
    (late : next = some .decide ∨ next = none)
    (settled : SettledThread app id scenario s values diagnosis decision) (untold : Untold s id)
    (run : Runs .alone permit (resumeInvestigation app scenario (threadIdOf id) decision') s o
      u g) :
    Tracks app u (h ++ g.map (request, ·)) id ∧ ∀ result, o = .returned result →
      SettledResult app id scenario u result diagnosis decision := by
  have found' : u.incidents id = some row := by rw [incidents_of_resume run, found]
  have untold' : Untold u id := untold.retold (.of_same (memory_of_resume run))
  have past : pastGate next := by obtain rfl | rfl := late <;> trivial
  obtain ⟨rfl, stop⟩ | ⟨_, _, advances⟩ := resume_advances run stored past
  · exact ⟨.settled found awaiting known stored late settled untold,
      fun result same => absurd same (stop result)⟩
  cases advances with
  | unmoved stop =>
    exact ⟨.settled found awaiting known stored late settled untold,
      fun result same => absurd same (stop result)⟩
  | executed | judged | finished => obtain same | same := late <;> cases same
  | decided =>
    have settled' := settled_decide (resumeDeps app scenario (threadIdOf id)) settled
    refine ⟨.settled found' awaiting known (saveCheckpoint_self _ _ _) (.inr rfl)
      (settled'.of_same rfl) untold', ?_⟩
    rintro _ ⟨⟩
    exact (settled_result settled').of_same rfl
  | again =>
    refine ⟨.settled found awaiting known stored late settled untold, ?_⟩
    rintro _ ⟨⟩
    exact settled_result settled

theorem tracks_resumed {o : Outcome Error InvestigationResult} (tracks : Tracks app s h id)
    (found : s.incidents id = some row) (awaiting : row.status = .awaitingApproval)
    (known : scenarioById app row.scenarioId = some scenario)
    (accepted : Accepted app request id row decision)
    (run : Runs .alone (repeating app id)
      (resumeInvestigation app scenario (threadIdOf id) decision) s o u g) :
    Tracks app u (h ++ g.map (request, ·)) id ∧ ∀ result, o = .returned result →
      ∃ diagnosis decision, SettledResult app id scenario u result diagnosis decision := by
  cases tracks with
  | untouched _ _ _ unstarted => cases awaiting.symm.trans (unstarted row found)
  | waiting same _ pending keyed untold =>
    cases found.symm.trans same
    obtain ⟨tracks, returned⟩ : Tracks app u (h ++ g.map (request, ·)) id ∧ _ :=
      waiting_resumed found awaiting pending keyed untold known accepted run
    exact ⟨tracks, fun result same => ⟨_, _, returned result same⟩⟩
  | settled same _ known' stored late settled untold =>
    cases found.symm.trans same
    cases known.symm.trans known'
    obtain ⟨tracks, returned⟩ : Tracks app u (h ++ g.map (request, ·)) id ∧ _ :=
      settled_resumed found awaiting known stored late settled untold run
    exact ⟨tracks, fun result same => ⟨_, _, returned result same⟩⟩
  | closed same closed =>
    cases found.symm.trans same
    rw [awaiting] at closed
    cases closed
  | other same _ unasked =>
    cases found.symm.trans same
    exact absurd awaiting unasked

theorem resume_unmoved {decision' : Json} {threadId : String} {o : Outcome Error InvestigationResult}
    (run : Runs .alone permit (resumeInvestigation app scenario threadId decision') s o u g)
    (unresumed : .performed (.resume threadId decision') ∉ g) :
    u = s ∧ ∀ result, o ≠ .returned result := by
  cases resumeInvestigation_ends run with
  | stopped same fault => exact ⟨same.symm, fault.unreturned⟩
  | missing same => exact ⟨same.symm, fun _ raised => by cases raised⟩
  | walked => exact absurd List.mem_cons_self unresumed

theorem Tracks.of_opened (tracks : Tracks app s h id) (found : s.incidents id = some row)
    (opened : row.status = .opened) :
    Unresumed h id ∧ remediationsOf s id = [] ∧ Untold s id := by
  cases tracks with
  | untouched unresumed clean untold => exact ⟨unresumed, clean, untold⟩
  | waiting same other | settled same other =>
    cases found.symm.trans same
    cases opened.symm.trans other
  | closed same closed =>
    cases found.symm.trans same
    rw [opened] at closed
    cases closed
  | other same started =>
    cases found.symm.trans same
    exact absurd opened started

theorem Tracks.of_awaiting (tracks : Tracks app s h id) (found : s.incidents id = some row)
    (awaiting : row.status = .awaitingApproval) : Untold s id := by
  cases tracks with
  | untouched _ _ untold => exact untold
  | waiting _ _ _ _ untold => exact untold
  | settled _ _ _ _ _ _ untold => exact untold
  | closed same closed =>
    cases found.symm.trans same
    rw [awaiting] at closed
    cases closed
  | other same _ unasked =>
    cases found.symm.trans same
    exact absurd awaiting unasked

theorem tracks_running {startedAt : Option ℤ} (unresumed : Unresumed h id)
    (found : s.incidents id = some { row with status := .running, startedAt := startedAt }) :
    Tracks app s h id :=
  .other found (fun same => by cases same) (fun same => by cases same) unresumed

theorem tracks_ran {result : InvestigationResult} (unresumed : Unresumed h id)
    (clean : remediationsOf s id = []) (untold : Untold s id) (found : s.incidents id = some row)
    (run : Runs .alone permit (runInvestigation app scenario (threadIdOf id))
      (markRunning request.server id s) (.returned result) t g)
    (applied : Applied app request.server id
      { row with status := .running, startedAt := some request.server.now } result t u) :
    Tracks app u (h ++ (.performed (.commitRunning id) :: .performed (.loadIncident id) :: g ++
      [.performed (.applyResult id result)] : List BackendEvent).map (request, ·)) id := by
  have does := runInvestigation_does app scenario (threadIdOf id) {} true
  have untouched := untouched_of_graph (does.mono fun _ => .inl) run
  have running : t.incidents id =
      some { row with status := .running, startedAt := some request.server.now } := by
    rw [untouched.incidents, markRunning_row found]
  have quiet : ∀ decision, .performed (.resume (threadIdOf id) decision) ∉
      (.performed (.commitRunning id) :: .performed (.loadIncident id) :: g ++
        [.performed (.applyResult id result)] : List BackendEvent) := by
    intro decision mem
    have inside : .performed (.resume (threadIdOf id) decision) ∈ g := by simpa using mem
    exact run_unresumed run inside
  cases applied with
  | closed scenario closing =>
    obtain ⟨row', found', closed⟩ := closeIncident_row running closing
    refine .other found' ?_ ?_ (unresumed.grow quiet) <;>
    · intro same
      rw [same] at closed
      cases closed
  | paused pausing =>
    obtain ⟨values, diagnosis, stored, diagnosed, approval, shown, kept⟩ := run_pauses run pausing
    have found' : (pauseIncident request.server id result t).incidents id = some
        { row with
          status := .awaitingApproval
          startedAt := some request.server.now
          pendingApproval := result.pendingApproval
          awaitingSince := some request.server.now
          stepsUsed := some result.stepsUsed
          estimatedCostUsd := some result.estimatedCostUsd } := by
      simp [pauseIncident, addAudit, Database.updateIncident, persistNewEvidence, running]
    refine .waiting found' rfl ⟨stored, diagnosed, approval, shown⟩ (fun row mem => ?_)
      (untold.retold (.of_same untouched.serviceMemory))
    have none : remediationsOf (pauseIncident request.server id result t) id = [] := by
      change t.remediationExecutions.filter _ = []
      rw [kept]
      exact clean
    rw [none] at mem
    cases mem

theorem tracks_resolved {result : InvestigationResult} (found : t.incidents id = some row)
    (awaiting : row.status = .awaitingApproval) (closing : result.status ≠ .awaitingApproval)
    (known : scenarioById app row.scenarioId = some scenario)
    (settled : SettledResult app id scenario t result diagnosis decision) (untold : Untold t id)
    (applied : Applied app request.server id row result t u) : Tracks app u h id := by
  cases applied with
  | paused pausing => exact absurd pausing closing
  | closed scenario' =>
    obtain ⟨row', found', closed⟩ := closeIncident_row found closing
    have recorded := auditOf_closeIncident app.settings request.server scenario' row result t id id
    rw [if_pos rfl, if_pos awaiting, ← List.append_assoc] at recorded
    have same : row'.scenarioId = row.scenarioId := by
      obtain ⟨change, rows, kept⟩ :=
        closeIncident_incidents app.settings request.server scenario' id row result t
      rw [rows] at found'
      simp only [Database.updateIncident, found, Option.map_some, Function.update_self,
        Option.some.injEq] at found'
      rw [← found', (kept row).1]
    refine .closed found' closed (same ▸ known) recorded (settled.of_same ?_) ?_
    · rw [remediationsOf, closeIncident_remediations]
      rfl
    · intro memory mem own
      obtain ⟨old, stored, source, _⟩ | ⟨_, outcome⟩ := closeIncident_origin mem
      · exact (untold old stored (source.trans own)).elim
      · exact outcome

theorem run_elsewhere {j : ℕ} {o : Outcome Error InvestigationResult} (other : j ≠ id)
    (run : Runs .alone (repeating app id) (runInvestigation app scenario (threadIdOf j)) s o t g) :
    Elsewhere id s t g :=
  elsewhere_of_does ((runInvestigation_does app _ _ {} true).mono
    fun _ inside => stranger_of_inResume other (.inl inside)) run

theorem resume_elsewhere {j : ℕ} {o : Outcome Error InvestigationResult} (other : j ≠ id)
    (run : Runs .alone (repeating app id)
      (resumeInvestigation app scenario (threadIdOf j) decision) s o t g) : Elsewhere id s t g :=
  elsewhere_of_does ((resumeInvestigation_does app _ _ _ {}).mono
    fun _ => stranger_of_inResume other) run

theorem markRunning_elsewhere (server : Server) (s : Database) {j : ℕ} (other : j ≠ id) :
    Elsewhere id s (markRunning server j s)
      [.performed (.commitRunning j), .performed (.loadIncident j)] :=
  (elsewhere_of_effect (l := .commitRunning j) ⟨server, rfl⟩ other).append
    (elsewhere_of_effect (l := .loadIncident j) rfl trivial)

theorem tracks_created (phases : Phases s h) (tracks : Tracks app s h id) (server : Server)
    (scenario : Scenario) (quiet : ∀ decision, .performed (.resume (threadIdOf id) decision) ∉ g) :
    Tracks app (created server scenario s) (h ++ g.map (request, ·)) id := by
  by_cases new : id = s.nextIncidentId
  · have free : s.incidents id = none := phases.unused id new.ge
    cases tracks with
    | untouched unresumed clean untold =>
      refine .untouched (unresumed.grow quiet) clean untold fun row found => ?_
      simp only [created, new, Function.update_self, Option.some.injEq] at found
      subst found
      rfl
    | waiting found | settled found | closed found | other found =>
      cases free.symm.trans found
  · refine tracks.elsewhere ⟨⟨?_, rfl, rfl⟩, rfl, .of_same rfl, quiet⟩
    simp [created, new]

/-- A turn that hands no decision to any graph. -/
theorem tracks_aside (phases : Phases s h) (tracks : Tracks app s h id)
    (turn : Turn app (repeating app id) request s u g)
    (unresumed : ∀ threadId decision, .performed (.resume threadId decision) ∉ g) :
    Tracks app u (h ++ g.map (request, ·)) id := by
  have quiet := unresumed (threadIdOf id)
  cases turn with
  | quiet still => exact tracks.elsewhere ⟨.refl id s, rfl, .of_same rfl, quiet⟩
  | created => exact tracks_created phases tracks request.server _ quiet
  | @started j row found opened =>
    by_cases own : j = id
    · subst own
      exact tracks_running ((tracks.of_opened found opened).1.grow quiet) (markRunning_row found)
    · exact tracks.elsewhere (elsewhere_of_effect (l := .commitRunning j) ⟨request.server, rfl⟩ own)
  | @investigated j row scenario o _ g found opened run =>
    by_cases own : j = id
    · subst own
      have same := (untouched_of_graph ((runInvestigation_does app scenario _ {} true).mono
        fun _ => .inl) run).incidents
      exact tracks_running ((tracks.of_opened found opened).1.grow quiet)
        (same ▸ markRunning_row found)
    · exact tracks.elsewhere
        ((markRunning_elsewhere request.server s own).append (run_elsewhere own run))
  | @ran j row scenario result t _ g found opened run applied =>
    by_cases own : j = id
    · subst own
      obtain ⟨unresumed, clean, untold⟩ := tracks.of_opened found opened
      exact tracks_ran unresumed clean untold found run applied
    · have started := markRunning_elsewhere request.server s own
      exact tracks.elsewhere ((started.append (run_elsewhere own run)).append
        (elsewhere_of_effect applied.effect own))
  | resumed _ _ _ run =>
    obtain ⟨rfl, _⟩ := resume_unmoved run (unresumed _ _)
    exact tracks.elsewhere ⟨.refl id u, rfl, .of_same rfl, quiet⟩
  | resolved _ _ _ run =>
    have unmoved := resume_unmoved run fun mem => unresumed _ _ (List.mem_append_left _ mem)
    exact absurd rfl (unmoved.2 _)

theorem tracks_turn (request : Request) (s u : Database) (h : EventLog) (g : List BackendEvent)
    (kept : Phases s h ∧ Tracks app s h id) (turn : KnownTurn app (repeating app id) request s u g) :
    Phases u (h ++ g.map (request, ·)) ∧ Tracks app u (h ++ g.map (request, ·)) id := by
  obtain ⟨phases, tracks⟩ := kept
  refine ⟨phases_turn request s u h g phases turn.turn, ?_⟩
  cases turn with
  | aside turn unresumed => exact tracks_aside phases tracks turn unresumed
  | @resumed j row scenario decision o _ _ found awaiting known accepted run =>
    by_cases own : j = id
    · subst own
      exact (tracks_resumed tracks found awaiting known accepted run).1
    · exact tracks.elsewhere (resume_elsewhere own run)
  | @resolved j row scenario decision result t _ g found awaiting known accepted run applied =>
    by_cases own : j = id
    · subst own
      obtain ⟨_, returned⟩ := tracks_resumed tracks found awaiting known accepted run
      obtain ⟨diagnosis, decision', settled⟩ := returned result rfl
      have closing := (phases.phase j).closing found awaiting accepted.real run
      have untold := (tracks.of_awaiting found awaiting).retold (.of_same (memory_of_resume run))
      exact tracks_resolved (incidents_of_resume run ▸ found) awaiting closing known settled untold
        applied
    · exact tracks.elsewhere ((resume_elsewhere own run).append
        (elsewhere_of_effect applied.effect own))

theorem history_tracks (history : History app (repeating app id) s h) :
    Phases s h ∧ Tracks app s h id := by
  refine History.known_invariant ⟨⟨fun _ _ => rfl, fun _ => ?_⟩, ?_⟩ tracks_turn history
  · exact .unborn rfl ⟨rfl, rfl, fun _ _ => List.not_mem_nil⟩
  · exact .untouched (fun _ _ => List.not_mem_nil) rfl (fun _ mem => absurd mem List.not_mem_nil)
      fun _ found => by cases found

def Remembers (app : App) (id : ℕ) (result : InvestigationResult) (outcome : String) : Prop :=
  ∀ memoryId serviceId now memory,
    writeConfirmedMemory app.settings memoryId serviceId id now result = some memory →
      memory.outcome = outcome

theorem remembers_outcome (app : App) (id : ℕ) (result : InvestigationResult) :
    Remembers app id result (deriveOutcome result) :=
  fun _ _ _ _ written => (writeConfirmedMemory_written written).outcome

/-- The decision of the result, the remediations of the thread and the outcome in memory say the
same. -/
inductive DecisionAgrees (app : App) (s : Database) (id : ℕ) (row : Incident)
    (result : InvestigationResult) : Prop where
  | denied {decision : Json} (answered : result.approvalDecision = some decision)
      (refused : isApproved (some decision) = false) (nothing : remediationsOf s id = [])
      (remembered : Remembers app id result "denied") (told : Tells s id (· = "denied"))
  | approved {decision params : Json} {diagnosis : SubmitDiagnosisArgs} {scenario : Scenario}
      {stored : RemediationExecution} (answered : result.approvalDecision = some decision)
      (approved : isApproved (some decision) = true)
      (diagnosed : result.diagnosis = some diagnosis)
      (known : scenarioById app row.scenarioId = some scenario)
      (valid : approvedParams app.py diagnosis.recommendedAction decision = some params)
      (executed : remediationsOf s id = [stored])
      (call : stored.call =
        ⟨threadIdOf id, diagnosis.recommendedAction.name, scenario.service.name, params⟩)
      (remembered : Remembers app id result "approved_and_executed")
      (told : Tells s id (· = "approved_and_executed"))

theorem decisionAgrees_of_settled {result : InvestigationResult}
    (known : scenarioById app row.scenarioId = some scenario)
    (settled : SettledResult app id scenario s result diagnosis decision)
    (told : Tells s id (· = deriveOutcome result)) : DecisionAgrees app s id row result := by
  have remembered := remembers_outcome app id result
  have stored := settled.stored
  rw [deriveOutcome, settled.verdict, settled.answered] at remembered told
  unfold askedCalls decidedParams at stored
  cases approves : isApproved (some decision) with
  | false =>
    have denied : approvedFlag (some decision) = false := approves
    rw [approves] at stored
    dsimp only at remembered told
    rw [denied] at remembered told
    exact .denied settled.answered approves (List.map_eq_nil_iff.mp stored) remembered told
  | true =>
    have approved : approvedFlag (some decision) = true := approves
    obtain ⟨params, valid⟩ := Option.isSome_iff_exists.mp (settled.valid approves)
    rw [approves, if_pos rfl, valid] at stored
    obtain ⟨row', executed, call⟩ := List.map_eq_singleton_iff.mp stored
    dsimp only at remembered told
    rw [approved] at remembered told
    exact .approved settled.answered approves settled.diagnosed known valid executed call remembered
      told

/-- In every history, with faults and deaths anywhere, in which nobody resumes the incident's open
gate with a decision other than the one that was executed behind it: a closed incident records the
decision that its thread and its memory show. -/
theorem recorded_decision_agrees {asked : Request} {payload : Json}
    (history : History app (repeating app id) s h)
    (found : s.incidents id = some row)
    (closed : isClosed row.status = true)
    (paused : (asked, .performed (.interrupt (threadIdOf id) payload)) ∈ h) :
    ∃ now values asker asking server result, s.auditOf id =
      evidenceRows id now values ++ [requestRow asker id asking, decisionRow server id result] ∧
      DecisionAgrees app s id row result := by
  obtain ⟨phases, tracks⟩ := history_tracks history
  cases phases.phase id with
  | unborn absent => cases absent.symm.trans found
  | opened same other | stranded same other | paused same other =>
    cases found.symm.trans same
    rw [other] at closed
    cases closed
  | ended _ _ _ _ unpaused => exact absurd paused (unpaused _ _)
  | @resolved _ values now asker asking decider resolving same _ _ _ _ answered rows =>
    cases tracks with
    | untouched _ _ _ unstarted =>
      rw [unstarted row found] at closed
      cases closed
    | waiting same other | settled same other =>
      cases found.symm.trans same
      rw [other] at closed
      cases closed
    | other _ _ _ unresumed =>
      obtain ⟨_, _, _, resumed, _⟩ := answered.decision
      exact absurd resumed (unresumed _ _)
    | @closed _ server _ before result _ _ same _ known recorded settled told =>
      cases found.symm.trans same
      have both : evidenceRows id now values ++ [requestRow asker.server id asking] ++
          [decisionRow decider.server id resolving] =
          before ++ [decisionRow server id result] := by
        rw [← recorded, rows]
        simp
      have last := List.append_inj_right' both rfl
      refine ⟨now, values, asker.server, asking, server, result, ?_,
        decisionAgrees_of_settled known settled told⟩
      rw [rows, ← last]

/-- The rollback to `v2.7`. -/
def isRollback : RemediationCall → Bool
  | ⟨threadId, actionType, target, .obj [(name, .str version)]⟩ =>
    threadId == "incident-1" && actionType == "rollback_deployment" && target == "checkout-api" &&
      name == "target_version" && version == "v2.7"
  | _ => false

def isOneRollback : List RemediationCall → Bool
  | [call] => isRollback call
  | _ => false

theorem eq_of_isOneRollback {calls : List RemediationCall} (one : isOneRollback calls = true) :
    calls = [⟨"incident-1", "rollback_deployment", "checkout-api",
      .obj [("target_version", .str "v2.7")]⟩] := by
  unfold isOneRollback at one
  split at one
  · unfold isRollback at one
    split at one
    · simp only [Bool.and_eq_true, beq_iff_eq] at one
      obtain ⟨⟨⟨⟨rfl, rfl⟩, rfl⟩, rfl⟩, rfl⟩ := one
      rfl
    · cases one
  · cases one

def ownRows (s : Database) : Bool :=
  s.remediationExecutions.all (·.call.threadId == threadIdOf 1)

def repeatsRollback (s : Database) (decision : Json) : Bool :=
  (callsOf s 1).isEmpty || isOneRollback (callsOf s 1) &&
    ((s.checkpoints (threadIdOf 1)).bind (·.values.diagnosis)).all fun diagnosis =>
      isOneRollback (askedCalls checkoutApp 1 checkoutDeployOutage diagnosis decision)

/-- Processes may die anywhere; no step raises and no key collides. -/
def deathsOnly (app : App) (id : ℕ) : Permit Label ChatOutcome Database Error := fun ev s =>
  KeysApart app.py (threadIdOf id) s ∧ ∀ l e, ev ≠ .failed l e

def onlyDeaths : Permit Label ChatOutcome Database Error := fun ev s => ownRows s = true ∧
  (match ev with
    | .failed _ _ => false
    | _ => true) = true

def onlyRepeats : Permit Label ChatOutcome Database Error := fun ev s => ownRows s = true ∧
  (match ev with
    | .performed (.resume _ decision) => repeatsRollback s decision
    | _ => true) = true

instance (ev : BackendEvent) (s : Database) : Decidable (onlyDeaths ev s) :=
  inferInstanceAs (Decidable (_ = true ∧ _ = true))

instance (ev : BackendEvent) (s : Database) : Decidable (onlyRepeats ev s) :=
  inferInstanceAs (Decidable (_ = true ∧ _ = true))

theorem keysApart_of_ownRows (own : ownRows s = true) :
    KeysApart checkoutApp.py (threadIdOf 1) s :=
  fun row mem _ _ _ => beq_iff_eq.mp (List.all_eq_true.mp own row mem)

theorem deathsOnly_of_onlyDeaths (ev : BackendEvent) (s : Database) (ok : onlyDeaths ev s) :
    deathsOnly checkoutApp 1 ev s := by
  refine ⟨keysApart_of_ownRows ok.1, ?_⟩
  rintro l e rfl
  cases ok.2

theorem scenarioById_checkout {scenarioId : ℕ}
    (known : scenarioById checkoutApp scenarioId = some scenario) :
    scenario = checkoutDeployOutage :=
  List.mem_singleton.mp (List.mem_of_find?_eq_some known)

theorem repeating_of_onlyRepeats (ev : BackendEvent) (s : Database) (ok : onlyRepeats ev s) :
    repeating checkoutApp 1 ev s := by
  rintro decision rfl
  refine ⟨keysApart_of_ownRows ok.1, ?_⟩
  intro row scenario values diagnosis _ known stored diagnosed some
  obtain rfl := scenarioById_checkout known
  obtain empty | both := Bool.or_eq_true _ _ |>.mp ok.2
  · exact absurd (List.isEmpty_iff.mp empty) some
  · obtain ⟨one, asked⟩ := Bool.and_eq_true _ _ |>.mp both
    rw [stored] at asked
    simp only [Option.bind_some, diagnosed, Option.all_some] at asked
    rw [eq_of_isOneRollback one, eq_of_isOneRollback asked]

/-- An approval up to the row of its remediation. -/
def untilExecuted : List (Move ChatOutcome Error) := approvalSteps.take 9

/-- An approval whose remediation is stored already. -/
def repeatingSteps : List (Move ChatOutcome Error) := steps 11

def cutApproval : Request × List (Move ChatOutcome Error) :=
  (⟨.decideApproval 1 lateApproval, promptServer⟩, untilExecuted ++ [.die])

def secondApproval : Request × List (Move ChatOutcome Error) :=
  (⟨.decideApproval 1 lateApproval, promptServer⟩, repeatingSteps)

def isPause : Request × BackendEvent → Bool
  | (_, .performed (.interrupt threadId _)) => threadId == threadIdOf 1
  | _ => false

def isResolved (s : Database) (h : EventLog) : Bool :=
  (s.incidents 1).any (fun row => isClosed row.status) && h.any isPause

theorem resolved_of_isResolved (resolved : isResolved s h = true) : ∃ row asked payload,
    s.incidents 1 = some row ∧ isClosed row.status = true ∧
    (asked, .performed (.interrupt (threadIdOf 1) payload)) ∈ h := by
  obtain ⟨closed, paused⟩ := Bool.and_eq_true _ _ |>.mp resolved
  obtain ⟨row, found, closed⟩ := Option.any_eq_true _ _ |>.mp closed
  obtain ⟨⟨asked, ev⟩, mem, pause⟩ := List.any_eq_true.mp paused
  unfold isPause at pause
  split at pause
  case h_1 same =>
    cases same
    obtain rfl := beq_iff_eq.mp pause
    exact ⟨row, asked, _, found, closed, mem⟩
  · cases pause

theorem recorded_decision_agrees_again : ∃ (s : Database) (h : EventLog) (row : Incident),
    History checkoutApp (repeating checkoutApp 1) s h ∧ s.incidents 1 = some row ∧
    ∃ now values asker asking server result, s.auditOf 1 =
      evidenceRows 1 now values ++ [requestRow asker 1 asking, decisionRow server 1 result] ∧
      DecisionAgrees checkoutApp s 1 row result := by
  have played : ((playCalls onlyRepeats (serve checkoutApp)
      (pausingCalls ++ [cutApproval, secondApproval]) Database.empty).any
      fun after => isResolved after.1 after.2) = true := by decide +kernel
  obtain ⟨⟨s, h⟩, ran, resolved⟩ := Option.any_eq_true _ _ |>.mp played
  obtain ⟨row, asked, payload, found, closed, paused⟩ := resolved_of_isResolved resolved
  have history : History checkoutApp (repeating checkoutApp 1) s h :=
    (served_of_playCalls .start ran).mono repeating_of_onlyRepeats
  exact ⟨s, h, row, history, found,
    recorded_decision_agrees history found closed paused⟩

/-- A second approver, who asks for another version. -/
def otherApproval : Request × List (Move ChatOutcome Error) :=
  (⟨.decideApproval 1 ⟨true, "bob", some (.obj [("target_version", .str "v2.6")])⟩, promptServer⟩,
    approvalSteps)

theorem recorded_decision_disagrees :
    ¬ ∀ (s : Database) (h : EventLog) (row : Incident) (asked : Request) (payload : Json),
      History checkoutApp (deathsOnly checkoutApp 1) s h → s.incidents 1 = some row →
      isClosed row.status = true → (asked, .performed (.interrupt (threadIdOf 1) payload)) ∈ h →
      ∃ now values asker asking server result, s.auditOf 1 =
        evidenceRows 1 now values ++ [requestRow asker 1 asking, decisionRow server 1 result] ∧
        DecisionAgrees checkoutApp s 1 row result := by
  intro agrees
  have played : ((playCalls onlyDeaths (serve checkoutApp)
      (pausingCalls ++ [cutApproval, otherApproval]) Database.empty).any fun after =>
      isResolved after.1 after.2 && (remediationsOf after.1 1).length == 2) = true := by
    decide +kernel
  obtain ⟨⟨s, h⟩, ran, facts⟩ := Option.any_eq_true _ _ |>.mp played
  obtain ⟨resolved, twice⟩ := Bool.and_eq_true _ _ |>.mp facts
  obtain ⟨row, asked, payload, found, closed, paused⟩ := resolved_of_isResolved resolved
  have history : History checkoutApp (deathsOnly checkoutApp 1) s h :=
    (served_of_playCalls .start ran).mono deathsOnly_of_onlyDeaths
  have both : (remediationsOf s 1).length = 2 := beq_iff_eq.mp twice
  obtain ⟨_, _, _, _, _, _, _, agreed⟩ := agrees s h row asked payload history found closed paused
  cases agreed with
  | denied _ _ nothing =>
    rw [nothing] at both
    cases both
  | approved _ _ _ _ _ executed =>
    rw [executed] at both
    cases both

end OpsPilot.DecisionAgreement
