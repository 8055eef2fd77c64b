import OpsPilot.IncidentPhases

/-! The audit rows of an incident over histories of calls that do not overlap, and the timeline
that is read off them. -/

namespace OpsPilot.AuditTrail
open JsonText AgentSchemas SyntheticEnvironment InvestigationState Models GraphNodes IncidentApi
open PolicyGate InvestigationOutcomes IncidentTurns IncidentPhases DurableProgram CallHistory

variable {app : App} {permit : Permit Label ChatOutcome Database Error}

def finalTrail (db : Database) (id : ℕ) : List ToolCallRecord :=
  ((db.checkpoints (threadIdOf id)).map (·.values.evidenceTrail)).getD []

inductive ApprovalRows (h : EventLog) (id : ℕ) (status : IncidentStatus) :
    List AuditLogEntry → Prop where
  | unpaused (never : ∀ request payload,
      (request, .performed (.interrupt (threadIdOf id) payload)) ∉ h) : ApprovalRows h id status []
  | waiting {request payload result} (awaiting : status = .awaitingApproval)
      (paused : (request, .performed (.interrupt (threadIdOf id) payload)) ∈ h)
      (shown : result.pendingApproval = some payload) :
      ApprovalRows h id status [requestRow request.server id result]
  | resolved {request payload result request' result'} (closed : isClosed status = true)
      (paused : (request, .performed (.interrupt (threadIdOf id) payload)) ∈ h)
      (shown : result.pendingApproval = some payload)
      (applied : (request', .performed (.applyResult id result')) ∈ h)
      (decided : result'.approvalDecision.isSome = true) :
      ApprovalRows h id status
        [requestRow request.server id result, decisionRow request'.server id result']

/-- One row per record of the trail, and the approval rows, wherever no run was cut short. -/
structure Complete (db : Database) (h : EventLog) (id : ℕ) : Prop where
  rows : ∀ row, db.incidents id = some row → row.status ≠ .running → ∃ now approvals,
    ApprovalRows h id row.status approvals ∧
      db.auditOf id = (finalTrail db id).map (evidenceRow id now) ++ approvals
  sorted : timelineRows db id = db.auditOf id

/-- The entry of the timeline that shows this row. -/
structure Shows (entry : TimelineEntry) (row : AuditLogEntry) : Prop where
  step : entry.step = some row.step
  detail : entry.detail = some (rowDetail row)
  timestamp : entry.timestamp = some row.createdAt
  inner : entry.kind ≠ .incidentStarted ∧ entry.kind ≠ .finalStatus

theorem rowEntry_inner (py : Platform) (pauseProcessId : Option Json) (row : AuditLogEntry) :
    (rowEntry py pauseProcessId row).1 ≠ .incidentStarted ∧
      (rowEntry py pauseProcessId row).1 ≠ .finalStatus := by
  unfold rowEntry
  split_ifs <;> exact ⟨EntryKind.noConfusion, EntryKind.noConfusion⟩

theorem rowEntries_show (py : Platform) (pauseProcessId : Option Json)
    (rows : List AuditLogEntry) : List.Forall₂ Shows (rowEntries py pauseProcessId rows) rows := by
  induction rows generalizing pauseProcessId with
  | nil => exact .nil
  | cons row rows ih => exact .cons ⟨rfl, rfl, rfl, rowEntry_inner py pauseProcessId row⟩ (ih _)

theorem orderBy_of_ordered {rows : List AuditLogEntry}
    (ordered : rows.Pairwise fun a b => a.step ≤ b.step) : orderBy (·.step) rows = rows :=
  ordered.insertionSort_eq

theorem evidenceRows_ordered {id : ℕ} {now : ℤ} {values : GraphState} (stepped : Stepped values)
    {rows : List AuditLogEntry} (last : ∀ row ∈ rows, row.step = values.stepsUsed) :
    (evidenceRows id now values ++ rows).Pairwise fun a b => a.step ≤ b.step := by
  refine List.pairwise_append.mpr ⟨?_, ?_, ?_⟩
  · exact List.pairwise_map.mpr stepped.ordered
  · exact List.pairwise_of_forall_mem_list fun a first b later => by rw [last a first, last b later]
  · intro a evidence b later
    obtain ⟨record, mem, rfl⟩ := List.mem_map.mp evidence
    exact (stepped.used record mem).trans (last b later).ge

theorem sorted_of_phase {db : Database} {h : EventLog} {id : ℕ} (phase : Phase db h id) :
    timelineRows db id = db.auditOf id := by
  refine orderBy_of_ordered ?_
  cases phase with
  | unborn _ blank | opened _ _ blank => simp [blank.rows]
  | stranded _ _ rows => simp [rows]
  | @ended _ values _ _ _ _ sound _ rows =>
    rw [rows, ← List.append_nil (evidenceRows id _ values)]
    exact evidenceRows_ordered sound.stepped (by simp)
  | paused _ _ _ _ sound asked rows =>
    rw [rows]
    exact evidenceRows_ordered sound.stepped (by simp [requestRow, asked.steps])
  | resolved _ _ _ sound asked answered rows =>
    rw [rows]
    refine evidenceRows_ordered sound.stepped ?_
    simp [requestRow, decisionRow, asked.steps, answered.steps]

theorem complete_of_phase {db : Database} {h : EventLog} {id : ℕ} (phase : Phase db h id) :
    Complete db h id := by
  refine ⟨fun row found settled => ?_, sorted_of_phase phase⟩
  cases phase with
  | unborn absent => cases absent.symm.trans found
  | opened same status blank =>
    refine ⟨0, [], .unpaused blank.unpaused, ?_⟩
    rw [blank.rows, finalTrail, blank.checkpoint]
    rfl
  | stranded same running =>
    cases same.symm.trans found
    exact absurd running settled
  | @ended _ _ now same closed stored _ unpaused rows =>
    refine ⟨now, [], .unpaused unpaused, ?_⟩
    rw [rows, finalTrail, stored, List.append_nil]
    rfl
  | @paused _ _ now _ _ same awaiting stored _ _ asked rows =>
    cases same.symm.trans found
    obtain ⟨payload, shown, paused⟩ := asked.shown
    refine ⟨now, _, .waiting awaiting paused shown, ?_⟩
    rw [rows, finalTrail, stored]
    rfl
  | @resolved _ _ now _ _ _ _ same closed stored _ asked answered rows =>
    cases same.symm.trans found
    obtain ⟨payload, shown, paused⟩ := asked.shown
    obtain ⟨decision, decided, _⟩ := answered.decision
    refine ⟨now, _, .resolved closed paused shown answered.applied (by simp [decided]), ?_⟩
    rw [rows, finalTrail, stored]
    rfl

/-- After every history of calls that do not overlap, the audit rows are complete and without
duplicates, and a timeline read next shows the rows it finds in their order. -/
theorem audit_trail_complete {db : Database} {h : EventLog} (history : History app permit db h)
    (id : ℕ) : Complete db h id ∧ ∀ request response u g, request.endpoint = .getTimeline id →
      Runs .alone permit (serve app request) db (.returned response) u g →
      Complete u (h ++ g.map (request, ·)) id ∧ ∃ row scenario entries,
        u.incidents id = some row ∧ List.Forall₂ Shows entries (u.auditOf id) ∧
        response = .timeline id (openingEntry scenario row :: entries ++
          if isClosed row.status then [closingEntry row] else []) := by
  refine ⟨complete_of_phase ((history_phases history).phase id), ?_⟩
  intro request response u g asked run
  have later := complete_of_phase ((history_phases (history.call run)).phase id)
  refine ⟨later, ?_⟩
  rw [serve, asked] at run
  obtain ⟨row, scenario, found, _, rfl⟩ := (getTimeline_turns id trivial run).2 response rfl
  refine ⟨row, scenario, rowEntries app.py none (u.auditOf id), found,
    rowEntries_show app.py none _, ?_⟩
  rw [timelineOf, later.sorted]

def rollbackCalls : List (Request × List (Move ChatOutcome Error)) :=
  let server : Server := ⟨"process-1", 0⟩
  [(⟨.createIncident "checkout-deploy-outage", server⟩, createSteps),
   (⟨.runIncident 1, server⟩,
    untilModel ++ .reply (.response rollbackDiagnosis) :: untilPause),
   (⟨.decideApproval 1 ⟨true, "oncall", some (.obj [("target_version", .str "v2.7")])⟩, server⟩,
    approvalSteps)]

theorem audit_trail_complete_rollback : ∃ db h,
    playCalls noFaults (serve checkoutApp) rollbackCalls Database.empty = some (db, h) ∧
      Complete db h 1 ∧ (db.auditOf 1).map (·.toolName) =
        ["submit_diagnosis", "approval_requested", "approval_decision"] := by
  have played : ((playCalls noFaults (serve checkoutApp) rollbackCalls Database.empty).any
      fun after => (after.1.auditOf 1).map (·.toolName) ==
        ["submit_diagnosis", "approval_requested", "approval_decision"]) = true := by
    decide +kernel
  obtain ⟨⟨db, h⟩, ran, names⟩ := Option.any_eq_true _ _ |>.mp played
  exact ⟨db, h, ran, (audit_trail_complete (served_of_playCalls .start ran) 1).1,
    beq_iff_eq.mp names⟩

end OpsPilot.AuditTrail
