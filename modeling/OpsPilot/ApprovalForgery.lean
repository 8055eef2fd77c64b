import OpsPilot.AuditTrail

/-! Approval entries of a timeline. The audit rows of the approval share their table with the
evidence, and a row is told from the others by its tool name only. -/

namespace OpsPilot.ApprovalForgery
open JsonText AgentSchemas SyntheticEnvironment InvestigationState Models RunTrace StepEffects
open GraphNodes Investigation IncidentApi PolicyGate InvestigationOutcomes IncidentTurns
open IncidentPhases AuditTrail DurableProgram CallHistory

variable {app : App} {permit : Permit Label ChatOutcome Database Error} {s t u : Database}
  {h : EventLog} {g : List BackendEvent} {id : ℕ} {name : String}

def Told (h : EventLog) (id : ℕ) (name : String) : Prop :=
  ∃ request ev response, (request, .performed (.commitRunning id)) ∈ h ∧ (request, ev) ∈ h ∧
    responseOf ev = some response ∧ name ∈ response.toolUseBlocks.map (·.name)

/-- In the incident's run, the model asked for no tool that is named like an approval row. -/
def Unforged (h : EventLog) (id : ℕ) : Prop :=
  ∀ name, Told h id name → name ≠ "approval_requested" ∧ name ≠ "approval_decision"

theorem Told.grow (told : Told h id name) (g : EventLog) : Told (h ++ g) id name := by
  obtain ⟨request, ev, response, started, mem, received, named⟩ := told
  exact ⟨request, ev, response, List.mem_append_left g started, List.mem_append_left g mem,
    received, named⟩

theorem told_of_received {request : Request} {g' : List BackendEvent}
    (named : name ∈ receivedNames g) (inside : ∀ ev ∈ g, ev ∈ g')
    (started : .performed (.commitRunning id) ∈ g') : Told (h ++ g'.map (request, ·)) id name := by
  obtain ⟨response, received, named⟩ := List.mem_flatMap.mp named
  obtain ⟨ev, event, same⟩ := List.mem_filterMap.mp received
  exact ⟨request, ev, response, List.mem_append_right h (List.mem_map_of_mem started),
    List.mem_append_right h (List.mem_map_of_mem (inside ev event)), same, named⟩

def Named (s : Database) (h : EventLog) (id : ℕ) : Prop :=
  ∀ row saved, s.incidents id = some row → row.status ≠ .running →
    s.checkpoints (threadIdOf id) = some saved →
      ∀ record ∈ saved.values.evidenceTrail, Told h id record.toolName

theorem Named.frame (named : Named s h id) (same : SameFor id s u) (g : EventLog) :
    Named u (h ++ g) id := by
  intro row saved found settled stored record mem
  rw [same.row] at found
  rw [same.checkpoint] at stored
  exact (named row saved found settled stored record mem).grow g

theorem named_running {row : Incident} (found : s.incidents id = some row)
    (running : row.status = .running) : Named s h id := by
  intro row' _ found' settled
  cases found.symm.trans found'
  exact absurd running settled

theorem Applied.checkpoints {server : Server} {row : Incident} {result : InvestigationResult}
    (applied : Applied app server id row result t u) : u.checkpoints = t.checkpoints := by
  cases applied with
  | paused => rfl
  | closed => exact closeIncident_checkpoints ..

theorem named_ran {request : Request} {row : Incident} {scenario : Scenario}
    {result : InvestigationResult}
    (run : Runs .alone permit (runInvestigation app scenario (threadIdOf id)) s
      (.returned result) t g) (blank : s.checkpoints (threadIdOf id) = none)
    (applied : Applied app request.server id row result t u) :
    Named u (h ++ (.performed (.commitRunning id) :: .performed (.loadIncident id) :: g ++
      [.performed (.applyResult id result)] : List BackendEvent).map (request, ·)) id := by
  obtain ⟨values, _, named, _, _, returned⟩ := run_returned run blank
  have saved : ∃ next, u.checkpoints (threadIdOf id) = some ⟨values, next⟩ := by
    rw [Applied.checkpoints applied]
    cases returned with
    | ended _ saved | paused _ saved => exact ⟨_, saved⟩
  obtain ⟨next, saved⟩ := saved
  intro _ saved' _ _ stored record mem
  cases saved.symm.trans stored
  refine told_of_received (named record mem) (fun ev event => ?_) List.mem_cons_self
  exact List.mem_append_left _ (List.mem_cons_of_mem _ (List.mem_cons_of_mem _ event))

/-- The trail of a paused thread is carried along by its resumes. -/
theorem Named.resumed {request : Request} {row : Incident} {scenario : Scenario} {decision : Json}
    {o : Outcome Error InvestigationResult} (named : Named s h id) (phase : Phase s h id)
    (found : s.incidents id = some row) (awaiting : row.status = .awaitingApproval)
    (real : RealDecision request id decision)
    (run : Runs .alone permit (resumeInvestigation app scenario (threadIdOf id) decision) s o u g)
    (saved : Saved) (stored : u.checkpoints (threadIdOf id) = some saved) (g' : EventLog) :
    ∀ record ∈ saved.values.evidenceTrail, Told (h ++ g') id record.toolName := by
  have settled : row.status ≠ .running := by
    rw [awaiting]
    exact IncidentStatus.noConfusion
  have asks : isClosed row.status = false := by
    rw [awaiting]
    rfl
  cases phase with
  | unborn absent => cases absent.symm.trans found
  | opened same opened | stranded same opened =>
    cases same.symm.trans found
    cases awaiting.symm.trans opened
  | ended same closed | resolved same closed =>
    cases same.symm.trans found
    cases asks.symm.trans closed
  | paused _ _ stored₀ gate =>
    obtain ⟨saved', resumed⟩ := gate_resumed gate stored₀ real run
    cases resumed.stored.symm.trans stored
    intro record mem
    rw [resumed.carried.evidenceTrail] at mem
    exact (named row _ found settled stored₀ record mem).grow g'

theorem named_turn (request : Request) (s u : Database) (h : EventLog) (g : List BackendEvent)
    (kept : Phases s h ∧ ∀ id, Named s h id) (turn : Turn app permit request s u g) :
    Phases u (h ++ g.map (request, ·)) ∧ ∀ id, Named u (h ++ g.map (request, ·)) id := by
  obtain ⟨phases, named⟩ := kept
  refine ⟨phases_turn request s u h g phases turn, fun id => ?_⟩
  cases turn with
  | quiet => exact (named id).frame (.refl id s) _
  | @created key scenario =>
    by_cases new : id = s.nextIncidentId
    · have free := phases.unused id new.ge
      cases phases.phase id with
      | unborn _ blank => exact fun _ saved _ _ stored => nomatch blank.checkpoint.symm.trans stored
      | opened found | stranded found | ended found | paused found | resolved found =>
        cases free.symm.trans found
    · have same : SameFor id s (created request.server scenario s) :=
        ⟨by simp [created, new], rfl, rfl⟩
      exact (named id).frame same _
  | @started j row found opened =>
    by_cases own : j = id
    · subst own
      exact named_running (markRunning_row found) rfl
    · exact (named id).frame (markRunning_sameFor own s) _
  | @investigated j row scenario o _ g found opened run =>
    by_cases own : j = id
    · subst own
      have same := (untouched_of_graph ((runInvestigation_does app scenario _ {} true).mono
        fun _ => .inl) run).incidents
      exact named_running (same ▸ markRunning_row found) rfl
    · exact (named id).frame (run_others run id own).1 _
  | @ran j row scenario result t _ g found opened run applied =>
    by_cases own : j = id
    · subst own
      exact named_ran run ((phases.phase j).blank found opened).checkpoint applied
    · exact (named id).frame ((run_others run id own).1.trans
        (sameFor_of_effect applied.effect own)) _
  | @resumed j row scenario decision o _ g found awaiting real run =>
    by_cases own : j = id
    · subst own
      exact fun _ saved _ _ stored =>
        (named j).resumed (phases.phase j) found awaiting real run saved stored _
    · exact (named id).frame (resume_others run id own).1 _
  | @resolved j row scenario decision result t _ g found awaiting real run applied =>
    by_cases own : j = id
    · subst own
      intro _ saved _ _ stored
      rw [Applied.checkpoints applied] at stored
      exact (named j).resumed (phases.phase j) found awaiting real run saved stored _
    · exact (named id).frame ((resume_others run id own).1.trans
        (sameFor_of_effect applied.effect own)) _

theorem history_named (history : History app permit s h) : Phases s h ∧ ∀ id, Named s h id :=
  History.invariant ⟨history_phases (.start : History app permit _ _),
    fun _ _ _ found => nomatch found⟩ named_turn history

@[simp] theorem field?_stamped (server : Server) (fields : Option Json) :
    (stamped server fields).field? "process_instance_id" = some (.str server.processInstanceId) :=
  Json.lookup_setField_self _ _ _

theorem restarted_stamped (pausing resolving : Server) (pause decision : Option Json) :
    restarted (field (stamped pausing pause) "process_instance_id")
        (field (stamped resolving decision) "process_instance_id") =
      decide (pausing.processInstanceId ≠ resolving.processInstanceId) := by
  simp only [field, field?_stamped, restarted, Option.getD_some, Json.equal_str]
  by_cases same : resolving.processInstanceId = pausing.processInstanceId
  · simp [same]
  · simp [same, Ne.symm same]

inductive Worded (request : Request) (id : ℕ) : Json → String → Prop where
  | answered (body) (asked : request.endpoint = .decideApproval id body) :
      Worded request id (decisionOf body)
        ((if body.approved then "Approved" else "Denied") ++ " by " ++ body.actor)
  | timedOut : Worded request id timeoutDecision "Approval auto-escalated after SLA timeout"

theorem worded_of_real {request : Request} {decision : Json} (real : RealDecision request id decision)
    (py : Platform) (server : Server) :
    Worded request id decision (decisionLabel py (stamped server (some decision))) := by
  cases real with
  | answered body asked =>
    have label : decisionLabel py (stamped server (some (decisionOf body))) =
        (if body.approved then "Approved" else "Denied") ++ " by " ++ body.actor := by
      have given : isTruthy (stamped server (some (decisionOf body))) "timed_out" = false := rfl
      have verb : isTruthy (stamped server (some (decisionOf body))) "approved" = body.approved :=
        rfl
      have who : fieldText py (stamped server (some (decisionOf body))) "actor" "unknown" =
          body.actor := py.display_str body.actor
      rw [decisionLabel, given, verb, who]
      rfl
    rw [label]
    exact .answered body asked
  | timedOut => exact .timedOut

structure TellsDecision (h : EventLog) (id : ℕ) (label : String) (pausing deciding resolving : Request)
    (payload decision : Json) (wording : String) (result : InvestigationResult) : Prop where
  paused : (pausing, .performed (.interrupt (threadIdOf id) payload)) ∈ h
  decided : (deciding, .performed (.resume (threadIdOf id) decision)) ∈ h
  worded : Worded deciding id decision wording
  resolved : (resolving, .performed (.applyResult id result)) ∈ h
  recorded : result.approvalDecision = some decision
  label : label = wording ++ (if deduplicated result.remediationResult then dedupSuffix else "") ++
    (if pausing.server.processInstanceId ≠ resolving.server.processInstanceId
      then restartSuffix else "")

/-- An approval entry is about the pause of the incident, or about the decision that resolved it. -/
structure Honest (h : EventLog) (id : ℕ) (entry : TimelineEntry) : Prop where
  requested : entry.kind = .approvalRequested →
    ∃ request payload, (request, .performed (.interrupt (threadIdOf id) payload)) ∈ h
  decided : entry.kind = .approvalDecided →
    ∃ pausing deciding resolving payload decision wording result,
      TellsDecision h id entry.label pausing deciding resolving payload decision wording result

theorem honest_of_evidence {entry : TimelineEntry} (unasked : entry.kind ≠ .approvalRequested)
    (undecided : entry.kind ≠ .approvalDecided) : Honest h id entry :=
  ⟨fun same => absurd same unasked, fun same => absurd same undecided⟩

theorem rowEntry_evidence (py : Platform) (pauseProcessId : Option Json) {row : AuditLogEntry}
    (unasked : row.toolName ≠ "approval_requested") (undecided : row.toolName ≠ "approval_decision") :
    (rowEntry py pauseProcessId row).1 ≠ .approvalRequested ∧
      (rowEntry py pauseProcessId row).1 ≠ .approvalDecided ∧
      (rowEntry py pauseProcessId row).2.2 = pauseProcessId := by
  unfold rowEntry
  rw [if_neg unasked, if_neg undecided]
  split <;> exact ⟨EntryKind.noConfusion, EntryKind.noConfusion, rfl⟩

theorem rowEntries_evidence (py : Platform) (pauseProcessId : Option Json)
    {evidence : List AuditLogEntry} (rows : List AuditLogEntry)
    (plain : ∀ row ∈ evidence,
      row.toolName ≠ "approval_requested" ∧ row.toolName ≠ "approval_decision") :
    ∃ entries, rowEntries py pauseProcessId (evidence ++ rows) =
      entries ++ rowEntries py pauseProcessId rows ∧ ∀ entry ∈ entries, Honest h id entry := by
  induction evidence with
  | nil => exact ⟨[], rfl, fun _ mem => nomatch mem⟩
  | cons row evidence ih =>
    obtain ⟨entries, same, honest⟩ := ih fun row mem => plain row (List.mem_cons_of_mem _ mem)
    obtain ⟨unasked, undecided⟩ := plain row List.mem_cons_self
    obtain ⟨asks, decides, carried⟩ := rowEntry_evidence py pauseProcessId unasked undecided
    rw [List.cons_append, rowEntries, carried, same]
    refine ⟨_ :: entries, rfl, fun entry mem => ?_⟩
    rcases List.mem_cons.mp mem with rfl | later
    · exact honest_of_evidence asks decides
    · exact honest entry later

theorem rowEntry_decision (py : Platform) (pausing resolving : Server) (pause : Option Json)
    (result : InvestigationResult) :
    (rowEntry py (field (stamped pausing pause) "process_instance_id")
      (decisionRow resolving id result)).2.1 =
        decisionLabel py (stamped resolving result.approvalDecision) ++
          (if deduplicated result.remediationResult then dedupSuffix else "") ++
          (if pausing.processInstanceId ≠ resolving.processInstanceId
            then restartSuffix else "") := by
  have named : (decisionRow resolving id result).toolName = "approval_decision" := rfl
  have compared : restarted (field (stamped pausing pause) "process_instance_id")
      (field (decisionRow resolving id result).arguments "process_instance_id") =
        decide (pausing.processInstanceId ≠ resolving.processInstanceId) :=
    restarted_stamped pausing resolving pause result.approvalDecision
  unfold rowEntry
  rw [if_neg (by rw [named]; decide), if_neg (by rw [named]; decide), if_pos named]
  simp only [compared, decide_eq_true_eq]
  rfl

theorem honest_request {values : GraphState} {pausing : Request} {result : InvestigationResult}
    (asked : Asked h id values pausing result) {entry : TimelineEntry}
    (asks : entry.kind = .approvalRequested) : Honest h id entry := by
  obtain ⟨payload, _, paused⟩ := asked.shown
  refine ⟨fun _ => ⟨pausing, payload, paused⟩, fun same => ?_⟩
  cases asks.symm.trans same

theorem honest_decision {values : GraphState} {pausing resolving : Request}
    {result result' : InvestigationResult} (asked : Asked h id values pausing result)
    (answered : Answered h id values resolving result') (py : Platform) {entry : TimelineEntry}
    (label : entry.label = decisionLabel py (stamped resolving.server result'.approvalDecision) ++
      (if deduplicated result'.remediationResult then dedupSuffix else "") ++
      (if pausing.server.processInstanceId ≠ resolving.server.processInstanceId
        then restartSuffix else ""))
    (decides : entry.kind = .approvalDecided) : Honest h id entry := by
  obtain ⟨payload, _, paused⟩ := asked.shown
  obtain ⟨decision, recorded, deciding, decided, real⟩ := answered.decision
  refine ⟨fun same => ?_, fun _ => ⟨pausing, deciding, resolving, payload, decision,
    decisionLabel py (stamped resolving.server (some decision)), result',
    paused, decided, worded_of_real real py resolving.server, answered.applied, recorded, ?_⟩⟩
  · cases decides.symm.trans same
  · rw [label, recorded]

theorem plain_of_named {values : GraphState} (now : ℤ) (unforged : Unforged h id)
    (named : ∀ record ∈ values.evidenceTrail, Told h id record.toolName) :
    ∀ row ∈ evidenceRows id now values,
      row.toolName ≠ "approval_requested" ∧ row.toolName ≠ "approval_decision" := by
  intro row mem
  obtain ⟨record, here, rfl⟩ := List.mem_map.mp mem
  exact unforged record.toolName (named record here)

theorem rowEntries_honest (py : Platform) (phase : Phase s h id) (named : Named s h id)
    (unforged : Unforged h id) : ∀ entry ∈ rowEntries py none (s.auditOf id), Honest h id entry := by
  have settled : ∀ {row : Incident}, isClosed row.status = true → row.status ≠ .running := by
    intro row closed running
    rw [running] at closed
    cases closed
  cases phase with
  | unborn _ blank | opened _ _ blank =>
    rw [blank.rows]
    exact fun _ mem => nomatch mem
  | stranded _ _ rows =>
    rw [rows]
    exact fun _ mem => nomatch mem
  | @ended row values now found closed stored _ _ rows =>
    have plain := plain_of_named now unforged
      (named row _ found (settled closed) stored)
    obtain ⟨entries, same, honest⟩ := rowEntries_evidence py none [] plain
    rw [rows, ← List.append_nil (evidenceRows id now values), same]
    simpa [rowEntries] using honest
  | @paused row saved now pausing result found awaiting stored _ _ asked rows =>
    have plain := plain_of_named now unforged
      (named row _ found (by rw [awaiting]; exact IncidentStatus.noConfusion) stored)
    obtain ⟨entries, same, honest⟩ := rowEntries_evidence py none _ plain
    rw [rows, same]
    intro entry mem
    rcases List.mem_append.mp mem with evidence | approval
    · exact honest entry evidence
    · cases List.mem_singleton.mp approval
      exact honest_request asked rfl
  | @resolved row values now pausing result resolving result' found closed stored _ asked answered
      rows =>
    have plain := plain_of_named now unforged
      (named row _ found (settled closed) stored)
    obtain ⟨entries, same, honest⟩ := rowEntries_evidence py none _ plain
    rw [rows, same]
    intro entry mem
    rcases List.mem_append.mp mem with evidence | approval
    · exact honest entry evidence
    rcases List.mem_cons.mp approval with rfl | decision
    · exact honest_request asked rfl
    · cases List.mem_singleton.mp decision
      exact honest_decision asked answered py (rowEntry_decision py _ _ _ _) rfl

/-- After every history of calls that do not overlap, the approval entries of a timeline are
honest if the model named no tool like an approval row in the incident's run. -/
theorem timeline_unforged (history : History app permit s h) {request : Request}
    {response : Response} (asked : request.endpoint = .getTimeline id)
    (run : Runs .alone permit (serve app request) s (.returned response) u g)
    (unforged : Unforged (h ++ g.map (request, ·)) id) : ∃ entries,
      response = .timeline id entries ∧
        ∀ entry ∈ entries, Honest (h ++ g.map (request, ·)) id entry := by
  obtain ⟨phases, named⟩ := history_named (history.call run)
  have honest := rowEntries_honest app.py (phases.phase id) (named id) unforged
  rw [serve, asked] at run
  obtain ⟨row, scenario, found, _, rfl⟩ := (getTimeline_turns id trivial run).2 response rfl
  refine ⟨_, rfl, fun entry mem => ?_⟩
  rw [timelineOf, sorted_of_phase (phases.phase id)] at mem
  rcases List.mem_append.mp mem with inner | closing
  · rcases List.mem_cons.mp inner with rfl | shown
    · exact honest_of_evidence EntryKind.noConfusion EntryKind.noConfusion
    · exact honest entry shown
  · split at closing
    · cases List.mem_singleton.mp closing
      exact honest_of_evidence EntryKind.noConfusion EntryKind.noConfusion
    · cases closing

def namesPlain (h : EventLog) : Bool := h.all fun e =>
  (responseOf e.2).all fun response => response.toolUseBlocks.all fun block =>
    block.name != "approval_requested" && block.name != "approval_decision"

theorem unforged_of_plain (plain : namesPlain h = true) : Unforged h id := by
  rintro name ⟨request, ev, response, _, mem, received, named⟩
  obtain ⟨block, here, rfl⟩ := List.mem_map.mp named
  have blocks := List.all_eq_true.mp plain _ mem
  rw [received] at blocks
  simpa using List.all_eq_true.mp blocks block here

def timelineRead : Request := ⟨.getTimeline 1, ⟨"process-2", 0⟩⟩

def labelsOf (outcome : Outcome Error Response) : List (EntryKind × String) :=
  match outcome with
  | .returned (.timeline _ entries) => entries.map fun entry => (entry.kind, entry.label)
  | _ => []

theorem shown_of_labels {outcome : Outcome Error Response} {label : EntryKind × String}
    (shown : (labelsOf outcome).contains label = true) : ∃ id entries,
      outcome = .returned (.timeline id entries) ∧
        label ∈ entries.map fun entry => (entry.kind, entry.label) := by
  unfold labelsOf at shown
  split at shown
  · exact ⟨_, _, rfl, by simpa using shown⟩
  · cases shown

def restartedCalls : List (Request × List (Move ChatOutcome Error)) :=
  rollbackCalls.take 2 ++
    [(⟨.decideApproval 1 ⟨true, "oncall", some (.obj [("target_version", .str "v2.7")])⟩,
      ⟨"process-2", 0⟩⟩, approvalSteps)]

theorem timeline_unforged_rollback : ∃ (s u : Database) (h : EventLog) (g : List BackendEvent)
    (entries : List TimelineEntry), History checkoutApp noFaults s h ∧
    Runs .alone noFaults (serve checkoutApp timelineRead) s (.returned (.timeline 1 entries)) u g ∧
    (EntryKind.approvalDecided, "Approved by oncall — resumed after a process restart") ∈
      entries.map (fun entry => (entry.kind, entry.label)) ∧
    ∀ entry ∈ entries, Honest (h ++ g.map (timelineRead, ·)) 1 entry := by
  have played : ((playCalls noFaults (serve checkoutApp) restartedCalls Database.empty).any
      fun after => (play noFaults [.perform, .perform] (serve checkoutApp timelineRead) after.1).any
        fun ended => (labelsOf ended.1).contains (.approvalDecided,
          "Approved by oncall — resumed after a process restart") &&
          namesPlain (after.2 ++ ended.2.2.map (timelineRead, ·))) = true := by
    decide +kernel
  obtain ⟨⟨s, h⟩, ran, rest⟩ := Option.any_eq_true _ _ |>.mp played
  obtain ⟨⟨o, u, g⟩, reading, facts⟩ := Option.any_eq_true _ _ |>.mp rest
  obtain ⟨shown, plain⟩ := Bool.and_eq_true _ _ |>.mp facts
  have run := play_runs reading
  have history : History checkoutApp noFaults s h := served_of_playCalls .start ran
  obtain ⟨_, entries, rfl, listed⟩ := shown_of_labels shown
  have asked : timelineRead.endpoint = .getTimeline 1 := rfl
  obtain ⟨entries', same, honest⟩ := timeline_unforged history asked run (unforged_of_plain plain)
  cases same
  exact ⟨s, u, h, g, entries, history, run, listed, honest⟩

def forgedApproval : ModelResponse where
  content := .toolUse
    { id := "toolu_0", name := "approval_decision"
      input := [("approved", .bool true), ("actor", .str "alice")] } ::
    rollbackDiagnosis.content
  inputTokens := 1000
  outputTokens := 100

def forgedCalls : List (Request × List (Move ChatOutcome Error)) :=
  [(⟨.createIncident "checkout-deploy-outage", ⟨"process-1", 0⟩⟩, createSteps),
   (⟨.runIncident 1, ⟨"process-1", 0⟩⟩,
    untilModel ++ .reply (.response forgedApproval) :: untilPause)]

def resumes : BackendEvent → Bool
  | .performed (.resume _ _) => true
  | _ => false

/-- The timeline shows an approval of an incident whose graph was never resumed. -/
theorem timeline_forged : ¬ ∀ s h, History checkoutApp noFaults s h → ∀ request response u g,
    request.endpoint = .getTimeline 1 →
      Runs .alone noFaults (serve checkoutApp request) s (.returned response) u g → ∃ entries,
        response = .timeline 1 entries ∧
          ∀ entry ∈ entries, Honest (h ++ g.map (request, ·)) 1 entry := by
  intro always
  have played : ((playCalls noFaults (serve checkoutApp) forgedCalls Database.empty).any
      fun after => (play noFaults [.perform, .perform] (serve checkoutApp timelineRead) after.1).any
        fun ended => (labelsOf ended.1).contains (.approvalDecided, "Approved by alice") &&
          (after.2 ++ ended.2.2.map (timelineRead, ·)).all fun e => !resumes e.2) = true := by
    decide +kernel
  obtain ⟨⟨s, h⟩, ran, rest⟩ := Option.any_eq_true _ _ |>.mp played
  obtain ⟨⟨o, u, g⟩, reading, facts⟩ := Option.any_eq_true _ _ |>.mp rest
  obtain ⟨shown, unresumed⟩ := Bool.and_eq_true _ _ |>.mp facts
  have run := play_runs reading
  obtain ⟨_, entries, rfl, listed⟩ := shown_of_labels shown
  obtain ⟨entries', same, honest⟩ := always s h (served_of_playCalls .start ran) timelineRead _
    u g rfl run
  cases same
  obtain ⟨entry, mem, same⟩ := List.mem_map.mp listed
  obtain ⟨_, deciding, _, _, decision, _, _, tells⟩ :=
    (honest entry mem).decided (congrArg Prod.fst same)
  have never := List.all_eq_true.mp unresumed _ tells.decided
  cases never

end OpsPilot.ApprovalForgery
