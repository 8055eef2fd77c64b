import OpsPilot.ApprovalTimeout
import OpsPilot.AuditTrail
import OpsPilot.Exceptions
import Mathlib.Logic.Relation

/-! The row of an incident as a state machine: what its columns say in every status, which moves
there are between statuses, and that a refused call makes none. -/

namespace OpsPilot.IncidentRows
open JsonText AgentSchemas SyntheticEnvironment InvestigationState Models StepEffects GraphNodes
open GatherContext Investigation IncidentApi GatherLoop GraphRun InvestigationOutcomes
open ThreadVerdicts IncidentTurns IncidentPhases ThreadHistory Exceptions ApprovalTimeout
open AuditTrail DurableProgram CallHistory

variable {permit : Permit Label ChatOutcome Database Error} {app : App} {s t u : Database}
  {h : EventLog}

structure Settled (saved : Saved) : Prop where
  gathering : saved.next = some .gatherContext → saved.values.diagnosis = none
  served : saved.values.diagnosis.isSome = true ∨ saved.next = some .gatherContext →
    saved.values.providerError = none
  ended : saved.next = none → ∀ status, saved.values.status = some status →
    (saved.values.diagnosis.isSome = true ↔ status = .diagnosed)

theorem Settled.between {values next : GraphState} {node node' : Node}
    (settled : Settled ⟨values, some node⟩) (carried : Carried values next)
    (inside : node' ≠ .gatherContext) : Settled ⟨next, some node'⟩ where
  gathering same := absurd (Option.some.inj same) inside
  served found := by
    rcases found with found | same
    · rw [carried.providerError]
      exact settled.served (.inl (carried.diagnosis ▸ found))
    · exact absurd (Option.some.inj same) inside
  ended same := nomatch same

theorem settled_decided (deps : NodeDeps) {values : GraphState} {node : Node}
    (settled : Settled ⟨values, some node⟩) :
    Settled ⟨values.merge (decide deps values), none⟩ where
  gathering same := nomatch same
  served found := by
    rcases found with found | same
    · exact settled.served (.inl found)
    · cases same
  ended _ status ended := by
    obtain rfl : finalStatus deps values = status := Option.some.inj ended
    change values.diagnosis.isSome = true ↔ _
    unfold finalStatus
    constructor
    · intro found
      have served : values.providerError = none := settled.served (.inl found)
      rw [served, if_neg (by simp), if_pos found]
    · intro diagnosed
      split_ifs at diagnosed
      assumption

theorem gathers_settled (app : App) {deps : NodeDeps} {values next : GraphState}
    {answer : Option ModelResponse} (visit : Gathers app deps values answer next)
    (settled : Settled ⟨values, some .gatherContext⟩) :
    Settled ⟨next, route deps .gatherContext next⟩ := by
  have unsolved : values.diagnosis = none := settled.gathering rfl
  have served : values.providerError = none := settled.served (.inr rfl)
  cases visit with
  | gaveUp text =>
    have routed : route deps .gatherContext (values.merge (gaveUp values text)) = some .decide := rfl
    rw [routed]
    refine ⟨fun _ => unsolved, fun found => ?_, fun same => nomatch same⟩
    rcases found with found | same
    · rw [show (values.merge (gaveUp values text)).diagnosis = none from unsolved] at found
      cases found
    · cases same
  | answered response =>
    have kept : (values.merge (afterResponse app deps values response)).providerError = none := by
      unfold afterResponse
      dsimp only
      split <;> exact served
    refine ⟨fun same => ?_, fun _ => kept, fun same => ?_⟩
    · cases found : (values.merge (afterResponse app deps values response)).diagnosis with
      | none => rfl
      | some diagnosis =>
        simp [route, routeAfterGatherContext, found, kept] at same
    · simp only [route] at same
      split at same <;> cases same

theorem settled_invariant (permit : Permit Label ChatOutcome Database Error) (app : App) :
    CheckpointInvariant permit app Settled where
  step ends settled := by
    cases ends with
    | entering _ fault _ => exact fault.elim
    | inside _ stop _ => cases stop
    | leaving _ _ _ fault _ => exact fault.elim
    | moved _ ends _ =>
      cases ends with
      | faulted _ _ fault => exact fault.elim
      | gathered _ ends =>
        obtain ⟨_, ⟨text, rfl, _⟩ | ⟨response, rfl, _⟩⟩ := ends
        · exact gathers_settled app (.gaveUp text) settled
        · exact gathers_settled app (.answered response) settled
      | hypothesized => exact settled.between (carried_hypothesize _ _) Node.noConfusion
      | classified => exact settled.between (carried_classifyRisk _) Node.noConfusion
      | gated ends => exact settled.between (carried_policy ends) Node.noConfusion
      | decided => exact settled_decided _ settled
  entry previous := by
    refine ⟨fun _ => ?_, fun _ => ?_, fun same => nomatch same⟩
    · cases previous <;> rfl
    · cases previous <;> rfl

def Consistent (result : InvestigationResult) : Prop :=
  result.diagnosis.isSome = true ↔ result.status = .diagnosed

theorem consistent_of_ended {o : Outcome Error InvestigationResult} (ended : Ended Settled o)
    {result : InvestigationResult} (returned : o = .returned result)
    (closing : result.status ≠ .awaitingApproval) : Consistent result := by
  obtain ⟨scenario, values, status, settled, reported, rfl⟩ := ended result returned closing
  exact settled.ended rfl status reported

def runningRow (server : Server) (row : Incident) : Incident :=
  { row with status := .running, startedAt := some server.now }

def pausedRow (server : Server) (result : InvestigationResult) (row : Incident) : Incident :=
  { row with
    status := .awaitingApproval
    pendingApproval := result.pendingApproval
    awaitingSince := some server.now
    stepsUsed := some result.stepsUsed
    estimatedCostUsd := some result.estimatedCostUsd }

def closedRow (server : Server) (result : InvestigationResult) (row : Incident) : Incident :=
  { row with
    status := .reported result.status
    diagnosis := result.diagnosis.map SubmitDiagnosisArgs.modelDump
    stepsUsed := some result.stepsUsed
    estimatedCostUsd := some result.estimatedCostUsd
    completedAt := some server.now
    pendingApproval := none
    awaitingSince := none }

inductive RowMove : Incident → Incident → Prop where
  | started {row} (server : Server) (opened : row.status = .opened) :
      RowMove row (runningRow server row)
  | paused {row result} (server : Server) (running : row.status = .running)
      (pending : result.pendingApproval.isSome = true) : RowMove row (pausedRow server result row)
  | closed {row result} (server : Server)
      (unclosed : row.status = .running ∨ row.status = .awaitingApproval)
      (closing : result.status ≠ .awaitingApproval) (consistent : Consistent result) :
      RowMove row (closedRow server result row)

/-- Moves between statuses; from a closed one there is none. -/
inductive StatusMove : IncidentStatus → IncidentStatus → Prop where
  | start : StatusMove .opened .running
  | pause : StatusMove .running .awaitingApproval
  | finish {status} (closing : status ≠ .awaitingApproval) : StatusMove .running (.reported status)
  | resolve {status} (closing : status ≠ .awaitingApproval) :
      StatusMove .awaitingApproval (.reported status)

theorem RowMove.status {row row' : Incident} (move : RowMove row row') :
    StatusMove row.status row'.status := by
  cases move with
  | started server opened =>
    rw [opened]
    exact .start
  | paused server running =>
    rw [running]
    exact .pause
  | closed server unclosed closing =>
    rcases unclosed with running | awaiting
    · rw [running]
      exact .finish closing
    · rw [awaiting]
      exact .resolve closing

theorem StatusMove.unclosed {a b : IncidentStatus} (move : StatusMove a b) :
    isClosed a = false := by
  cases move <;> rfl

abbrev RowMoves : Incident → Incident → Prop := Relation.ReflTransGen RowMove

theorem RowMoves.status {row row' : Incident} (moves : RowMoves row row') :
    Relation.ReflTransGen StatusMove row.status row'.status := by
  induction moves with
  | refl => exact .refl
  | tail _ move ih => exact ih.tail move.status

theorem RowMoves.closed {row row' : Incident} (moves : RowMoves row row')
    (closed : isClosed row.status = true) : row' = row := by
  induction moves using Relation.ReflTransGen.head_induction_on with
  | refl => rfl
  | head move _ _ =>
    rw [move.status.unclosed] at closed
    cases closed

/-- What the columns say in every status. -/
structure WellFormed (row : Incident) : Prop where
  started : row.startedAt = none ↔ row.status = .opened
  completed : row.completedAt.isSome = true ↔ isClosed row.status = true
  pending : row.pendingApproval.isSome = true ↔ row.status = .awaitingApproval
  awaiting : row.awaitingSince.isSome = true ↔ row.status = .awaitingApproval
  diagnosed : row.diagnosis.isSome = true ↔ row.status = .reported .diagnosed

theorem wellFormed_created (scenarioId : ℕ) (now : ℤ) :
    WellFormed { scenarioId, status := .opened, createdAt := now } where
  started := by simp
  completed := by simp [isClosed]
  pending := by simp
  awaiting := by simp
  diagnosed := by simp

theorem RowMove.wellFormed {row row' : Incident} (move : RowMove row row')
    (formed : WellFormed row) : WellFormed row' := by
  cases move with
  | started server opened =>
    have completed := formed.completed
    have pending := formed.pending
    have awaiting := formed.awaiting
    have diagnosed := formed.diagnosed
    rw [opened] at completed pending awaiting diagnosed
    exact ⟨by simp [runningRow], by simpa [runningRow, isClosed] using completed,
      by simpa [runningRow] using pending, by simpa [runningRow] using awaiting,
      by simpa [runningRow] using diagnosed⟩
  | paused server running pending =>
    have started := formed.started
    have completed := formed.completed
    have diagnosed := formed.diagnosed
    rw [running] at started completed diagnosed
    exact ⟨by simpa [pausedRow] using started, by simpa [pausedRow, isClosed] using completed,
      by simpa [pausedRow] using pending, by simp [pausedRow],
      by simpa [pausedRow] using diagnosed⟩
  | @closed result server unclosed closing consistent =>
    have unopened : row.status ≠ .opened := by
      rcases unclosed with same | same <;> rw [same] <;> exact IncidentStatus.noConfusion
    have closed : isClosed (.reported result.status) = true := by
      generalize result.status = status at closing
      cases status <;> first | rfl | exact absurd rfl closing
    refine ⟨?_, by simpa [closedRow] using closed, ?_, ?_, ?_⟩
    · rw [show (closedRow server result row).startedAt = row.startedAt from rfl, formed.started]
      simp [closedRow, unopened]
    · simp [closedRow, closing]
    · simp [closedRow, closing]
    · simpa [closedRow, Consistent] using consistent

theorem RowMoves.wellFormed {row row' : Incident} (moves : RowMoves row row')
    (formed : WellFormed row) : WellFormed row' := by
  induction moves with
  | refl => exact formed
  | tail _ move ih => exact move.wellFormed ih

theorem pauseIncident_pausedRow (server : Server) (id : ℕ) (result : InvestigationResult)
    (db : Database) : (pauseIncident server id result db).incidents =
      (db.updateIncident id (pausedRow server result)).incidents := rfl

theorem closeIncident_closedRow (settings : Settings) (server : Server) (scenario : Scenario)
    (id : ℕ) (incident : Incident) (result : InvestigationResult) (db : Database) :
    (closeIncident settings server scenario id incident result db).incidents =
      (db.updateIncident id (closedRow server result)).incidents := by
  unfold closeIncident
  rw [addMemory_incidents]
  split <;> rfl

theorem updateIncident_self {db : Database} {id : ℕ} {row : Incident}
    (found : db.incidents id = some row) (change : Incident → Incident) :
    (db.updateIncident id change).incidents id = some (change row) := by
  simp [Database.updateIncident, found]

theorem applied_moves {server : Server} {id : ℕ} {incident row : Incident}
    {result : InvestigationResult} (applied : Applied app server id incident result s u)
    (found : s.incidents id = some row)
    (pausing : result.status = .awaitingApproval →
      row.status = .running ∧ result.pendingApproval.isSome = true)
    (closing : result.status ≠ .awaitingApproval →
      (row.status = .running ∨ row.status = .awaitingApproval) ∧ Consistent result) :
    ∃ row', u.incidents id = some row' ∧ RowMove row row' := by
  cases applied with
  | paused pauses =>
    obtain ⟨running, pending⟩ := pausing pauses
    refine ⟨_, ?_, .paused server running pending⟩
    rw [pauseIncident_pausedRow, updateIncident_self found]
  | closed scenario closes =>
    obtain ⟨unclosed, consistent⟩ := closing closes
    refine ⟨_, ?_, .closed server unclosed closes consistent⟩
    rw [closeIncident_closedRow, updateIncident_self found]

theorem run_pending {scenario : Scenario} {threadId : String} {result : InvestigationResult}
    {g : List BackendEvent}
    (run : Runs .alone permit (runInvestigation app scenario threadId) s (.returned result) u g)
    (new : s.checkpoints threadId = none) (pausing : result.status = .awaitingApproval) :
    result.pendingApproval.isSome = true := by
  obtain ⟨values, _, _, _, _, returned⟩ := run_returned run new
  cases returned with
  | ended closed => exact absurd pausing closed
  | paused _ _ _ _ shown => rw [shown, Option.isSome_some]

structure RowsMove (s u : Database) : Prop where
  moves : ∀ id row, s.incidents id = some row →
    ∃ row', u.incidents id = some row' ∧ RowMoves row row'
  created : ∀ id row, s.incidents id = none → u.incidents id = some row → WellFormed row

theorem rowsMove_of_same (same : u.incidents = s.incidents) : RowsMove s u where
  moves id row found := ⟨row, by rw [same, found], .refl⟩
  created id row absent found := by
    rw [same, absent] at found
    cases found

theorem rowsMove_of_one {id : ℕ} {row row' : Incident} (found : s.incidents id = some row)
    (later : u.incidents id = some row') (moves : RowMoves row row')
    (others : ∀ other, other ≠ id → u.incidents other = s.incidents other) : RowsMove s u where
  moves other old present := by
    by_cases same : other = id
    · subst same
      cases found.symm.trans present
      exact ⟨row', later, moves⟩
    · exact ⟨old, by rw [others other same, present], .refl⟩
  created other new absent present := by
    by_cases same : other = id
    · subst same
      cases found.symm.trans absent
    · rw [others other same, absent] at present
      cases present

theorem turn_rows {request : Request} {g : List BackendEvent} (history : TurnHistory app s h)
    (turn : Turn app anyFaults request s u g) : RowsMove s u := by
  have phases := turnHistory_phases history
  cases turn with
  | quiet => exact rowsMove_of_same rfl
  | @created key scenario =>
    have free := phases.unused s.nextIncidentId le_rfl
    have added : (created request.server scenario s).incidents s.nextIncidentId = some
        { scenarioId := scenario.id, status := .opened, createdAt := request.server.now } := by
      simp [created]
    have others : ∀ other, other ≠ s.nextIncidentId →
        (created request.server scenario s).incidents other = s.incidents other := by
      intro other different
      simp [created, different]
    refine ⟨fun id row found => ⟨row, ?_, .refl⟩, fun id row absent found => ?_⟩
    · rw [others id ?_, found]
      rintro rfl
      cases free.symm.trans found
    · by_cases new : id = s.nextIncidentId
      · subst new
        cases added.symm.trans found
        exact wellFormed_created _ _
      · rw [others id new, absent] at found
        cases found
  | @started id row found opened =>
    exact rowsMove_of_one found (updateIncident_self found _) (.single (.started _ opened))
      fun other different => updateIncident_other s different.symm _
  | @investigated id row scenario _ _ _ found opened run =>
    have same := (untouched_of_graph
      ((runInvestigation_does app scenario _ {} true).mono fun _ => .inl) run).incidents
    refine rowsMove_of_one found ?_ (.single (.started request.server opened)) ?_
    · rw [same]
      exact updateIncident_self found _
    · intro other different
      rw [same]
      exact updateIncident_other s different.symm _
  | @ran id row scenario result t _ g found opened run applied =>
    have blank := (phases.phase id).blank found opened
    have same := (untouched_of_graph
      ((runInvestigation_does app scenario _ {} true).mono fun _ => .inl) run).incidents
    have running : t.incidents id = some (runningRow request.server row) := by
      rw [same]
      exact updateIncident_self found _
    have settled := ((settled_invariant anyFaults app).run run fun saved stored => by
      cases blank.checkpoint.symm.trans stored).2
    obtain ⟨row', later, move⟩ := applied_moves applied running
      (fun pauses => ⟨rfl, run_pending run blank.checkpoint pauses⟩)
      fun closes => ⟨.inl rfl, consistent_of_ended settled rfl closes⟩
    refine rowsMove_of_one found later ((Relation.ReflTransGen.single
      (.started request.server opened)).tail move) ?_
    intro other different
    rw [Applied.others applied different, same]
    exact updateIncident_other s different.symm _
  | resumed found awaiting real run =>
    exact rowsMove_of_same (incidents_of_resume run)
  | @resolved id row scenario decision result t _ g found awaiting real run applied =>
    have same := incidents_of_resume run
    have resolved := resolution history found awaiting real run
    have settled := ((settled_invariant anyFaults app).resume run
      (turnHistory_holds (settled_invariant anyFaults app) history id)).2
    obtain ⟨row', later, move⟩ := applied_moves applied (same ▸ found)
      (fun pauses => absurd pauses resolved.closing)
      fun closes => ⟨.inr awaiting, consistent_of_ended settled rfl closes⟩
    exact rowsMove_of_one found later (.single move) fun other different => by
      rw [Applied.others applied different, same]

def TimedOutIn (id : ℕ) (g : List BackendEvent) : Prop :=
  .performed (.resume (threadIdOf id) timeoutDecision) ∈ g ∧
    ∃ result, .performed (.applyResult id result) ∈ g

/-- Rows are as they were, apart from those that the call resolved by the timeout. -/
def KeptRows (s u : Database) (g : List BackendEvent) : Prop :=
  ∀ id, u.incidents id = s.incidents id ∨ TimedOutIn id g

theorem resumed_of_returned {scenario : Scenario} {threadId : String} {decision : Json}
    {ceilings : Ceilings} {result : InvestigationResult} {g : List BackendEvent}
    (run : Runs .alone permit (resumeInvestigation app scenario threadId decision ceilings) s
      (.returned result) u g) : .performed (.resume threadId decision) ∈ g := by
  cases resumeInvestigation_ends run with
  | stopped _ fault => exact fault.elim
  | walked => exact List.mem_cons_self

theorem timeout_keeps {server : Server} {id : ℕ} {incident : Incident} {o : Outcome Error Bool}
    {g : List BackendEvent} (ends : TimeoutEnds app permit server id incident s o u g) :
    KeptRows s u g := by
  intro other
  rcases ends.rows with same | ⟨_, _, result, t, g', resume, applied, rfl⟩
  · exact .inl (by rw [same])
  · by_cases own : other = id
    · subst own
      refine .inr ⟨List.mem_cons_of_mem _ ?_, result, by simp⟩
      exact List.mem_append_left _ (resumed_of_returned resume)
    · exact .inl (by rw [Applied.others applied own, incidents_of_resume resume])

theorem KeptRows.append {g g' : List BackendEvent} (kept : KeptRows s u g) :
    KeptRows s u (g ++ g') := by
  intro id
  refine (kept id).imp_right ?_
  rintro ⟨resumed, result, applied⟩
  exact ⟨List.mem_append_left _ resumed, result, List.mem_append_left _ applied⟩

theorem KeptRows.cons {g : List BackendEvent} (ev : BackendEvent) (kept : KeptRows s u g) :
    KeptRows s u (ev :: g) := by
  intro id
  refine (kept id).imp_right ?_
  rintro ⟨resumed, result, applied⟩
  exact ⟨List.mem_cons_of_mem _ resumed, result, List.mem_cons_of_mem _ applied⟩

theorem keptRows_same {g : List BackendEvent} : KeptRows s s g := fun _ => .inl rfl

theorem load_keeps {server : Server} {id : ℕ} {o : Outcome Error Incident}
    {g : List BackendEvent} (ends : LoadEnds app permit server id s o u g) : KeptRows s u g := by
  cases ends with
  | faulted => exact keptRows_same
  | missing => exact keptRows_same
  | stopped _ _ ends => exact (timeout_keeps ends).cons _
  | loaded _ ends => exact (timeout_keeps ends).append.cons _
  | unread _ ends => exact (timeout_keeps ends).append.cons _

theorem no_http {α : Type} {p : Backend α} {code : ℕ} {text : String} {g : List BackendEvent}
    (raises : RaisesInner p)
    (run : Runs .alone innerFaults p s (.raised (.http code text)) u g) : False :=
  inner_of_run raises run

theorem loadCurrent_then_inner {α : Type} {server : Server} {id : ℕ} {k : Incident → Backend α}
    (rest : ∀ row, RaisesInner (k row)) {code : ℕ} {text : String} {g : List BackendEvent}
    (run : Runs .alone innerFaults ((loadCurrent app server id).bind k) s
      (.raised (.http code text)) u g) : KeptRows s u g := by
  obtain ⟨row, t, g₁, g₂, loading, later, rfl⟩ | ⟨o', stop, loading⟩ := run.of_bind
  · exact (no_http (rest row) later).elim
  · exact load_keeps (loadCurrent_ends loading)

theorem decideApproval_refused {server : Server} {id : ℕ} {body : ApprovalDecision} {code : ℕ}
    {text : String} {g : List BackendEvent}
    (run : Runs .alone innerFaults (decideApproval app server id body) s
      (.raised (.http code text)) u g) : KeptRows s u g := by
  obtain ⟨row, t, g₁, g₂, loading, later, rfl⟩ | ⟨o', stop, loading⟩ := run.of_bind
  swap
  · exact load_keeps (loadCurrent_ends loading)
  have kept := load_keeps (loadCurrent_ends loading)
  split at later
  · obtain ⟨_, rfl, rfl⟩ := later.of_raise
    exact kept.append
  obtain ⟨_, t', g₃, g₄, checking, resuming, rfl⟩ | ⟨o', stop, checking⟩ := later.of_bind
  · refine (no_http ?_ resuming).elim
    exact (one_inner _).bind fun _ => (resumeInvestigation_inner _ _ _ _ _).bind fun _ =>
      (applyResult_inner _ _ _ _ _).bind fun _ => answer_inner app id row
  · obtain ⟨rfl, _⟩ := runs_quiet (checkParams_does app row body.approved _) checking
    exact kept.append

theorem runIncident_refused {server : Server} {id : ℕ} {code : ℕ} {text : String}
    {g : List BackendEvent} (run : Runs .alone innerFaults (runIncident app server id) s
      (.raised (.http code text)) u g) : KeptRows s u g := by
  obtain ⟨row, t, g₁, g₂, loading, later, rfl⟩ | ⟨o', stop, loading⟩ := run.of_bind
  swap
  · cases getIncidentOr404_ends loading with
    | found => cases stop
    | missing => exact keptRows_same
    | faulted => exact keptRows_same
  cases getIncidentOr404_ends loading with
  | faulted fails => exact absurd rfl (fails.unreturned _)
  | found found =>
    split at later
    · obtain ⟨_, rfl, rfl⟩ := later.of_raise
      exact keptRows_same
    · refine (no_http ?_ later).elim
      exact (one_inner _).bind fun _ => RaisesOnly.perform.bind fun _ =>
        runStarted_inner app server id row _

theorem createIncident_refused {server : Server} {scenarioKey : String} {code : ℕ} {text : String}
    {g : List BackendEvent} (run : Runs .alone innerFaults (createIncident app server scenarioKey) s
      (.raised (.http code text)) u g) : KeptRows s u g := by
  unfold createIncident at run
  split at run
  · obtain ⟨_, rfl, rfl⟩ := run.of_raise
    exact keptRows_same
  · refine (no_http ?_ run).elim
    exact RaisesOnly.perform.bind fun id => RaisesOnly.perform.bind fun row =>
      (one_inner row).bind fun incident => (toIncidentDetail_inner app id incident).bind
        fun _ => trivial

theorem refused_keeps {request : Request} {code : ℕ} {text : String} {g : List BackendEvent}
    (run : Runs .alone innerFaults (serve app request) s (.raised (.http code text)) u g) :
    KeptRows s u g := by
  cases asked : request.endpoint with
  | createIncident scenarioKey =>
    rw [serve, asked] at run
    exact createIncident_refused run
  | listIncidents =>
    rw [serve, asked] at run
    exact (no_http (listIncidents_inner app request.server) run).elim
  | getIncident id =>
    rw [serve, asked] at run
    refine loadCurrent_then_inner (fun row => ?_) run
    exact (toIncidentDetail_inner app id row).bind fun _ => trivial
  | runIncident id =>
    rw [serve, asked] at run
    exact runIncident_refused run
  | decideApproval id body =>
    rw [serve, asked] at run
    exact decideApproval_refused run
  | getTimeline id =>
    rw [serve, asked] at run
    refine loadCurrent_then_inner (fun row => ?_) run
    exact (one_inner _).bind fun _ => RaisesOnly.perform.bind fun _ => trivial

theorem wellFormed_turn (request : Request) (s u : Database) (h : EventLog) (g : List BackendEvent)
    (inv : TurnHistory app s h ∧ ∀ id row, s.incidents id = some row → WellFormed row)
    (turn : Turn app anyFaults request s u g) :
    TurnHistory app u (h ++ g.map (request, ·)) ∧
      ∀ id row, u.incidents id = some row → WellFormed row := by
  obtain ⟨history, formed⟩ := inv
  refine ⟨.tail history ⟨request, g, turn, rfl⟩, fun id row' later => ?_⟩
  have rows := turn_rows history turn
  cases found : s.incidents id with
  | none => exact rows.created id row' found later
  | some row =>
    obtain ⟨row'', same, moves⟩ := rows.moves id row found
    cases same.symm.trans later
    exact moves.wellFormed (formed id row found)

theorem rows_wellFormed (history : TurnHistory app s h) :
    ∀ id row, s.incidents id = some row → WellFormed row := by
  have inv : TurnHistory app s h ∧ ∀ id row, s.incidents id = some row → WellFormed row :=
    TurnHistory.invariant ⟨.refl _, fun _ _ found => nomatch found⟩ wellFormed_turn history
  exact inv.2

/-- In every state of every history: each row is well formed, each turn moves it along the status
moves and leaves a closed one alone, and a refused call changes it by a timeout only. -/
theorem incident_rows (history : TurnHistory app s h) :
    (∀ id row, s.incidents id = some row → WellFormed row) ∧
    (∀ request u g, Turn app anyFaults request s u g → ∀ id row, s.incidents id = some row →
      ∃ row', u.incidents id = some row' ∧
        Relation.ReflTransGen StatusMove row.status row'.status ∧
        (isClosed row.status = true → row' = row)) ∧
    ∀ request u g code text,
      Runs .alone innerFaults (serve app request) s (.raised (.http code text)) u g →
        KeptRows s u g := by
  refine ⟨rows_wellFormed history, ?_, fun _ _ _ _ _ run => refused_keeps run⟩
  intro request u g turn id row found
  obtain ⟨row', later, moves⟩ := (turn_rows history turn).moves id row found
  exact ⟨row', later, moves.status, moves.closed⟩

theorem incident_rows_rollback : ∃ (s : Database) (h : EventLog) (row : Incident),
    TurnHistory checkoutApp s h ∧ s.incidents 1 = some row ∧ row.status = .reported .diagnosed ∧
      WellFormed row := by
  have played : ((playCalls anyFaults (serve checkoutApp) rollbackCalls Database.empty).any
      fun after => (after.1.incidents 1).any (·.status == .reported .diagnosed)) = true := by
    decide +kernel
  obtain ⟨⟨s, h⟩, ran, closed⟩ := Option.any_eq_true _ _ |>.mp played
  obtain ⟨row, found, diagnosed⟩ := Option.any_eq_true _ _ |>.mp closed
  have history := TurnHistory.of_history (served_of_playCalls .start ran)
  exact ⟨s, h, row, history, found, beq_iff_eq.mp diagnosed, (incident_rows history).1 1 row found⟩

end OpsPilot.IncidentRows
