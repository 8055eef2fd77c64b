import OpsPilot.ThreadVerdicts
import OpsPilot.IncidentPhases

/-! Checkpoints over whole histories of incident calls, and the results that resolve pauses. -/

namespace OpsPilot.ThreadHistory
open JsonText AgentSchemas SyntheticEnvironment InvestigationState Models Investigation
open IncidentApi PolicyGate ThreadVerdicts IncidentTurns IncidentPhases DurableProgram

variable {app : App} {s t u : Database} {h : EventLog}

section
variable {Inv : Saved → Prop}

theorem holds_frame {id : ℕ} (holds : Holds Inv (threadIdOf id) s) (same : SameFor id s u) :
    Holds Inv (threadIdOf id) u := by
  intro saved stored
  rw [same.checkpoint] at stored
  exact holds saved stored

theorem holds_applied {server : Server} {id other : ℕ} {row : Incident}
    {result : InvestigationResult} (applied : Applied app server id row result t u)
    (holds : Holds Inv (threadIdOf other) t) : Holds Inv (threadIdOf other) u := by
  intro saved stored
  cases applied with
  | paused => exact holds saved stored
  | closed scenario =>
    rw [closeIncident_checkpoints] at stored
    exact holds saved stored

theorem holds_turn (invariant : CheckpointInvariant anyFaults app Inv) (request : Request)
    (s u : Database) (_ : EventLog) (g : List BackendEvent)
    (holds : ∀ id, Holds Inv (threadIdOf id) s) (turn : Turn app anyFaults request s u g)
    (id : ℕ) : Holds Inv (threadIdOf id) u := by
  have run_kept : ∀ {j scenario o t g}, Runs .alone anyFaults
      (runInvestigation app scenario (threadIdOf j)) (markRunning request.server j s) o t g →
      Holds Inv (threadIdOf id) t := by
    intro j scenario o t g run
    by_cases own : j = id
    · subst own
      exact (invariant.run run (holds j)).1
    · exact holds_frame (holds id) (run_others run id own).1
  have resume_kept : ∀ {j scenario decision o t g}, Runs .alone anyFaults
      (resumeInvestigation app scenario (threadIdOf j) decision) s o t g →
      Holds Inv (threadIdOf id) t := by
    intro j scenario decision o t g run
    by_cases own : j = id
    · subst own
      exact (invariant.resume run (holds j)).1
    · exact holds_frame (holds id) (resume_others run id own).1
  cases turn with
  | quiet => exact holds id
  | created => exact holds id
  | started => exact holds id
  | investigated _ _ run => exact run_kept run
  | ran _ _ run applied => exact holds_applied applied (run_kept run)
  | resumed _ _ _ run => exact resume_kept run
  | resolved _ _ _ run applied => exact holds_applied applied (resume_kept run)

theorem turnHistory_holds (invariant : CheckpointInvariant anyFaults app Inv)
    (history : TurnHistory app s h) : ∀ id, Holds Inv (threadIdOf id) s :=
  TurnHistory.invariant (fun _ _ stored => nomatch stored) (holds_turn invariant) history

end

theorem turnHistory_judged (history : TurnHistory app s h) (id : ℕ) :
    JudgedThread (threadIdOf id) s :=
  turnHistory_holds (judged_invariant anyFaults app) history id

structure Resolution (s : Database) (h : EventLog) (id : ℕ) (result : InvestigationResult) :
    Prop where
  closing : result.status ≠ .awaitingApproval
  verdict : result.policyVerdict = some .requireApproval
  decision : ∃ decision, result.approvalDecision = some decision ∧ Decides h id decision
  stored : ∃ saved, s.checkpoints (threadIdOf id) = some saved ∧
    result.diagnosis = saved.values.diagnosis
  approval : ∀ diagnosis, result.diagnosis = some diagnosis →
    policy diagnosis.recommendedAction = .requireApproval

theorem resolution {request : Request} {id : ℕ} {row : Incident} {scenario : Scenario}
    {decision : Json} {result : InvestigationResult} {g : List BackendEvent}
    (history : TurnHistory app s h) (found : s.incidents id = some row)
    (awaiting : row.status = .awaitingApproval) (real : RealDecision request id decision)
    (run : Runs .alone anyFaults (resumeInvestigation app scenario (threadIdOf id) decision) s
      (.returned result) t g) : Resolution s (h ++ g.map (request, ·)) id result := by
  have phase := (turnHistory_phases history).phase id
  have closed := phase.closing found awaiting real run
  obtain ⟨saved, _, _, _, stored, gate, _⟩ := phase.of_awaiting found awaiting
  obtain ⟨saved', resumed⟩ := gate_resumed gate stored real run
  obtain ⟨ends, scenario', status, ended, rfl⟩ := resumed.returned result rfl
  obtain ⟨values, next⟩ := saved'
  cases ends
  cases resumed.gate with
  | decided decided ended' _ =>
    cases ended.symm.trans ended'
    refine ⟨closed, decided.verdict, decided.decision,
      ⟨saved, stored, resumed.carried.diagnosis⟩, fun diagnosis diagnosed => ?_⟩
    have judged := (resume_judged run (turnHistory_judged history id)).2 _ rfl closed diagnosis
      diagnosed
    exact (Option.some.inj (decided.verdict.symm.trans judged)).symm

end OpsPilot.ThreadHistory
