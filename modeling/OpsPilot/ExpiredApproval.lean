import OpsPilot.ExpiredPause
import OpsPilot.AutoEscalation

/-! Deciding on an approval that has expired: what the call does when the automatic timeout goes
through, and what it does when the timeout's resume raises. -/

namespace OpsPilot.ExpiredApproval
open JsonText AgentSchemas SyntheticEnvironment InvestigationState Models GraphNodes
open Investigation IncidentApi EndpointRules Stranding InvestigationOutcomes IncidentTurns
open IncidentPhases ThreadHistory AutoEscalation ApprovalTimeout ExpiredPause DurableProgram
open CallHistory

variable {app : App} {permit : Permit Label ChatOutcome Database Error} {s t u : Database}
  {h : EventLog} {server : Server} {id : ℕ} {row : Incident} {body : ApprovalDecision}

def Undecided (s : Database) (id : ℕ) : Prop :=
  ∀ saved, s.checkpoints (threadIdOf id) = some saved →
    saved.next = some .evaluatePolicy ∨ saved.values.approvalDecision = some timeoutDecision

def RefusedParams (app : App) (row : Incident) (body : ApprovalDecision) : Prop :=
  ∃ text, checkParams app row body.approved (orEmpty body.params) = .raise (.http 422 text)

def checking (id : ℕ) (row : Incident) : List BackendEvent :=
  [.performed (.loadIncident id), .performed (.loadScenario row.scenarioId)]

theorem checking_passive {l : Label} (mem : .performed l ∈ checking id row) : passive l := by
  simp only [checking, List.mem_cons, Event.performed.injEq, List.not_mem_nil, or_false] at mem
  obtain rfl | rfl := mem <;> trivial

theorem awaiting_of_expired {now : ℤ} (expired : slaExpired app now row = true) :
    row.status = .awaitingApproval := by
  unfold slaExpired at expired
  split at expired
  · assumption
  · cases expired

theorem resume_decision {scenario : Scenario} {decision : Json} {saved : Saved}
    {result : InvestigationResult} {g : List BackendEvent} (gate : AtGate h id saved)
    (stored : s.checkpoints (threadIdOf id) = some saved)
    (run : Runs .alone permit (resumeInvestigation app scenario (threadIdOf id) decision) s
      (.returned result) u g) :
    result.approvalDecision = if saved.next = some .evaluatePolicy then some decision
      else saved.values.approvalDecision := by
  have past : pastGate saved.next := by cases gate <;> trivial
  obtain ⟨_, stop⟩ | ⟨_, _, advances⟩ := resume_advances run stored past
  · exact absurd rfl (stop result)
  cases advances with
  | unmoved stop | executed _ stop | judged _ stop => exact absurd rfl (stop result)
  | finished ends =>
    cases gate with
    | waiting found approval => exact (policy_decided found approval ends).2
  | decided => rfl
  | again => rfl

theorem trail_of_awaiting (history : TurnHistory app s h) (found : s.incidents id = some row)
    (awaiting : row.status = .awaitingApproval) :
    ∃ saved now asker asking, s.checkpoints (threadIdOf id) = some saved ∧ AtGate h id saved ∧
      s.auditOf id = evidenceRows id now saved.values ++ [requestRow asker id asking] := by
  obtain ⟨_, _, _, _, stored, gate, _, _, rows⟩ :=
    ((turnHistory_phases history).phase id).of_awaiting found awaiting
  exact ⟨_, _, _, _, stored, gate, rows⟩

theorem gate_of_awaiting (history : TurnHistory app s h) (found : s.incidents id = some row)
    (awaiting : row.status = .awaitingApproval) :
    ∃ saved, s.checkpoints (threadIdOf id) = some saved ∧ AtGate h id saved := by
  obtain ⟨saved, _, _, _, stored, gate, _⟩ := trail_of_awaiting history found awaiting
  exact ⟨saved, stored, gate⟩

structure Escalated (id : ℕ) (u : Database) (g : List BackendEvent) : Prop where
  row : ∃ row', u.incidents id = some row' ∧ isClosed row'.status = true
  result : ∃ result, .performed (.applyResult id result) ∈ g ∧
    result.approvalDecision = some timeoutDecision
  nothingRun : ∀ key call, .performed (.executor key call) ∉ g
  noHuman : ∀ result, .performed (.applyResult id result) ∈ g →
    result.approvalDecision = some timeoutDecision

theorem Escalated.loaded (incident : Incident) {g g' : List BackendEvent}
    (escalated : Escalated id u g) (others : ∀ l, .performed l ∈ g' → passive l) :
    Escalated id u (checking id incident ++ (g ++ g')) := by
  obtain ⟨row, ⟨result, applied, timedOut⟩, nothingRun, noHuman⟩ := escalated
  refine ⟨row, ⟨result, by simp [applied], timedOut⟩, fun key call mem => ?_, fun other mem => ?_⟩
  · rcases List.mem_append.mp mem with mem | mem
    · exact checking_passive mem
    · exact (List.mem_append.mp mem).elim (nothingRun key call) (others _)
  · rcases List.mem_append.mp mem with mem | mem
    · exact (checking_passive mem).elim
    · exact (List.mem_append.mp mem).elim (noHuman other) fun mem => (others _ mem).elim

theorem StepFails.passive {α : Type} {l : Label} {o : Outcome Error α} {g : List BackendEvent}
    (fails : StepFails permit l s o g) : ∀ l', .performed l' ∈ g → IncidentTurns.passive l' := by
  cases fails <;> simp

theorem StepFails.any {α : Type} {l : Label} {o : Outcome Error α} {g : List BackendEvent}
    (fails : StepFails permit l s o g) : StepFails anyFaults l s o g := by
  cases fails with
  | failed e => exact .failed e trivial
  | died => exact .died trivial

/-- `decide_approval` once the incident is loaded. -/
def decideLoaded (app : App) (server : Server) (id : ℕ) (body : ApprovalDecision)
    (incident : Incident) : Backend Response :=
  if incident.status ≠ .awaitingApproval then
    .raise (.http 409 ("Incident " ++ toString id ++ " is not awaiting approval (status: " ++
      incident.status.name ++ ")."))
  else
    (checkParams app incident body.approved (orEmpty body.params)).bind fun _ =>
      (one (scenarioById app incident.scenarioId)).bind fun scenario =>
        (resumeInvestigation app scenario (threadIdOf id) (decisionOf body)).bind
          fun result => (applyResult app server id incident result).bind fun _ =>
            (reread id incident true).bind fun incident =>
              (toIncidentDetail app id incident).bind fun detail => .ret (.incident detail)

theorem decideApproval_eq : decideApproval app server id body =
    (loadCurrent app server id).bind (decideLoaded app server id body) := rfl

theorem reread_outcome {row₀ : Incident} {o : Outcome Error Incident} {g : List BackendEvent}
    (found : s.incidents id = some row)
    (run : Runs .alone permit (reread id row₀ true) s o u g) :
    u = s ∧ ((o = .returned row ∧ g = [.performed (.loadIncident id)]) ∨
      StepFails permit (.loadIncident id) s o g) := by
  obtain ⟨row', t, g₁, g₂, loading, rest, rfl⟩ | ⟨o', stop, loading⟩ := run.of_bind
  · obtain ⟨same, rfl, rfl⟩ | ⟨_, fails⟩ := perform_fails loading
    · cases same
      rw [found] at rest
      obtain ⟨rfl, rfl, rfl⟩ := rest.of_ret
      exact ⟨rfl, .inl ⟨rfl, rfl⟩⟩
    · exact absurd rfl (fails.unreturned _)
  · obtain ⟨rfl, _⟩ | ⟨rfl, fails⟩ := perform_fails loading
    · cases stop
    · exact ⟨rfl, .inr (fails.stopped stop)⟩

theorem resume_returns {scenario : Scenario} {decision : Json} {saved : Saved}
    {o : Outcome Error InvestigationResult} {g : List BackendEvent} (gate : AtGate h id saved)
    (stored : s.checkpoints (threadIdOf id) = some saved)
    (run : Runs .alone noFaults (resumeInvestigation app scenario (threadIdOf id) decision) s o u g) :
    ∃ result, o = .returned result :=
  (resume_outcome gate stored run).resolve_right fun fault => fault.of_noFaults fun _ _ ok => ok

theorem StepFails.faultless {α : Type} {l : Label} {o : Outcome Error α} {g : List BackendEvent}
    (fails : StepFails noFaults l s o g) : False := by
  cases fails with
  | failed _ ok => exact ok
  | died ok => exact ok

theorem answer_returns {row₀ : Incident} {o : Outcome Error Response} {g : List BackendEvent}
    (found : s.incidents id = some row) (seeded : Seeded app s)
    (run : Runs .alone noFaults ((reread id row₀ true).bind fun incident =>
      (toIncidentDetail app id incident).bind fun detail => .ret (Response.incident detail))
      s o u g) :
    u = s ∧ (∃ response, o = .returned response) ∧ g = [.performed (.loadIncident id)] := by
  obtain ⟨scenario, known⟩ := Option.isSome_iff_exists.mp (seeded id row found)
  obtain ⟨row', t, g₁, g₂, reading, rest, rfl⟩ | ⟨o', stop, reading⟩ := run.of_bind
  · obtain ⟨rfl, ⟨same, rfl⟩ | fails⟩ := reread_outcome found reading
    · cases same
      unfold toIncidentDetail at rest
      rw [known] at rest
      obtain ⟨rfl, rfl, rfl⟩ := rest.of_ret
      exact ⟨rfl, ⟨_, rfl⟩, rfl⟩
    · exact (StepFails.faultless fails).elim
  · obtain ⟨rfl, ⟨rfl, _⟩ | fails⟩ := reread_outcome found reading
    · cases stop
    · exact (StepFails.faultless fails).elim

structure Resolves (app : App) (server : Server) (id : ℕ) (row : Incident) (body : ApprovalDecision)
    (s : Database) (result : InvestigationResult) (t u : Database) (g : List BackendEvent) :
    Prop where
  resume : ∃ scenario g', scenarioById app row.scenarioId = some scenario ∧
    Runs .alone noFaults (resumeInvestigation app scenario (threadIdOf id) (decisionOf body)) s
      (.returned result) t g' ∧
    g = g' ++ [.performed (.applyResult id result), .performed (.loadIncident id)]
  applied : Applied app server id row result t u
  closing : result.status ≠ .awaitingApproval

theorem decideLoaded_resolves {saved : Saved} {o : Outcome Error Response} {g : List BackendEvent}
    (history : TurnHistory app s h) (found : s.incidents id = some row)
    (awaiting : row.status = .awaitingApproval)
    (stored : s.checkpoints (threadIdOf id) = some saved) (gate : AtGate h id saved)
    (accepted : checkParams app row body.approved (orEmpty body.params) = .ret ())
    (run : Runs .alone noFaults (decideLoaded app server id body row) s o u g) :
    (∃ response, o = .returned response) ∧
      ∃ result t, Resolves app server id row body s result t u g := by
  have seeded := turnHistory_seeded history
  obtain ⟨scenario, known⟩ := Option.isSome_iff_exists.mp (seeded id row found)
  unfold decideLoaded at run
  rw [if_neg (not_not.mpr awaiting), accepted, known] at run
  change Runs .alone noFaults ((resumeInvestigation app scenario (threadIdOf id)
    (decisionOf body)).bind _) s o u g at run
  obtain ⟨result, t, g₁, g₂, resume, rest, rfl⟩ | ⟨o', stop, resume⟩ := run.of_bind
  swap
  · obtain ⟨_, rfl⟩ := resume_returns gate stored resume
    cases stop
  let request : Request := ⟨.decideApproval id body, server⟩
  have resumed : Runs .alone anyFaults _ s _ t g₁ := resume.mono fun _ _ _ => trivial
  have real : RealDecision request id (decisionOf body) := .answered body rfl
  have closing := (resolution history found awaiting real resumed).closing
  obtain ⟨_, t', g₃, g₄, applying, answering, rfl⟩ | ⟨o', stop, applying⟩ := rest.of_bind
  · obtain ⟨_, applied, rfl⟩ | ⟨_, unapplied⟩ := applyResult_outcome applying
    · have later : TurnHistory app t' _ :=
        .tail history ⟨request, _, .resolved found awaiting real resumed applied, rfl⟩
      obtain ⟨row', found'⟩ := Applied.present applied (incidents_of_resume resume ▸ found)
      obtain ⟨rfl, response, rfl⟩ := answer_returns found' (turnHistory_seeded later) answering
      exact ⟨response, result, t, ⟨scenario, g₁, known, resume, rfl⟩, applied, closing⟩
    · cases unapplied with
      | failed fails => exact absurd rfl (fails.unreturned _)
  · obtain ⟨rfl, _⟩ | ⟨_, unapplied⟩ := applyResult_outcome applying
    · cases stop
    · cases unapplied with
      | lost unknown => cases known.symm.trans unknown
      | failed fails => exact (StepFails.faultless fails).elim

theorem Resolves.closes {result : InvestigationResult} {g : List BackendEvent}
    (resolves : Resolves app server id row body s result t u g) (found : s.incidents id = some row) :
    ∃ row', u.incidents id = some row' ∧ isClosed row'.status = true := by
  obtain ⟨⟨_, _, _, resume, _⟩, applied, closing⟩ := resolves
  cases applied with
  | paused pausing => exact absurd pausing closing
  | closed => exact closeIncident_row (incidents_of_resume resume ▸ found) closing

def lateServer : Server := ⟨"process-1", 3600000000⟩

def lateApproval : ApprovalDecision :=
  ⟨true, "alice", some (.obj [("target_version", .str "v2.7")])⟩

end OpsPilot.ExpiredApproval
