import OpsPilot.ThreadHistory

/-! What the lazy SLA timeout does to one incident, however its resolution ends. -/

namespace OpsPilot.ApprovalTimeout
open AgentSchemas SyntheticEnvironment InvestigationState Models Investigation IncidentApi
open Superstep IncidentTurns IncidentPhases DurableProgram

variable {app : App} {permit : Permit Label ChatOutcome Database Error} {server : Server} {id : ℕ}
  {incident : Incident}

/-- A step that was not performed, and what became of the program. -/
inductive StepFails {α : Type} (permit : Permit Label ChatOutcome Database Error) (l : Label)
    (s : Database) : Outcome Error α → List BackendEvent → Prop where
  | failed (e) (ok : permit (.failed l e) s) : StepFails permit l s (.raised e) [.failed l e]
  | died (ok : permit (.died l) s) : StepFails permit l s .died [.died l]

theorem StepFails.unreturned {α : Type} {l : Label} {s : Database} {o : Outcome Error α}
    {g : List BackendEvent} (fails : StepFails permit l s o g) (a : α) : o ≠ .returned a := by
  rintro rfl
  cases fails

theorem StepFails.stopped {α β : Type} {l : Label} {s : Database} {o' : Outcome Error α}
    {o : Outcome Error β} {g : List BackendEvent} (stop : Stopped o' o)
    (fails : StepFails permit l s o' g) : StepFails permit l s o g := by
  cases fails with
  | failed e ok =>
    cases stop
    exact .failed e ok
  | died ok =>
    cases stop
    exact .died ok

theorem perform_fails {α : Type} {l : Label} {update : Database → Database} {query : Database → α}
    {s u : Database} {o : Outcome Error α} {g : List BackendEvent}
    (run : Runs .alone permit (Program.perform l update query) s o u g) :
    (o = .returned (query s) ∧ u = update s ∧ g = [.performed l]) ∨
      (u = s ∧ StepFails permit l s o g) := by
  obtain ⟨_, rfl, ⟨_, rfl, rfl, rfl⟩ | ⟨e, ok, rfl, rfl, rfl⟩ | ⟨ok, rfl, rfl, rfl⟩⟩ := run.of_perform
  · exact .inl ⟨rfl, rfl, rfl⟩
  · exact .inr ⟨rfl, .failed e ok⟩
  · exact .inr ⟨rfl, .died ok⟩

inductive Unapplied (app : App) (permit : Permit Label ChatOutcome Database Error) (id : ℕ)
    (incident : Incident) (result : InvestigationResult) (s : Database) :
    Outcome Error Unit → List BackendEvent → Prop where
  | lost (unknown : scenarioById app incident.scenarioId = none) :
      Unapplied app permit id incident result s (.raised .noResultFound) []
  | failed {o g} (fails : StepFails permit (.applyResult id result) s o g) :
      Unapplied app permit id incident result s o g

theorem applyResult_outcome {result : InvestigationResult} {s u : Database}
    {o : Outcome Error Unit} {g : List BackendEvent}
    (run : Runs .alone permit (applyResult app server id incident result) s o u g) :
    (o = .returned () ∧ Applied app server id incident result s u ∧
      g = [.performed (.applyResult id result)]) ∨
    (u = s ∧ Unapplied app permit id incident result s o g) := by
  unfold applyResult at run
  split at run
  case isTrue pausing =>
    obtain ⟨rfl, rfl, rfl⟩ | ⟨rfl, fails⟩ := perform_fails run
    · exact .inl ⟨rfl, .paused pausing, rfl⟩
    · exact .inr ⟨rfl, .failed fails⟩
  case isFalse closing =>
    cases known : scenarioById app incident.scenarioId with
    | none =>
      rw [known] at run
      obtain ⟨rfl, rfl, rfl⟩ := run.of_raise
      exact .inr ⟨rfl, .lost known⟩
    | some scenario =>
      rw [known] at run
      obtain ⟨rfl, rfl, rfl⟩ | ⟨rfl, fails⟩ := perform_fails run
      · exact .inl ⟨rfl, .closed scenario closing, rfl⟩
      · exact .inr ⟨rfl, .failed fails⟩

inductive TimeoutEnds (app : App) (permit : Permit Label ChatOutcome Database Error)
    (server : Server) (id : ℕ) (incident : Incident) (s : Database) :
    Outcome Error Bool → Database → List BackendEvent → Prop where
  | fresh (current : slaExpired app server.now incident = false) :
      TimeoutEnds app permit server id incident s (.returned false) s []
  | unloaded {o g} (expired : slaExpired app server.now incident = true)
      (fails : StepFails permit (.loadScenario incident.scenarioId) s o g) :
      TimeoutEnds app permit server id incident s o s g
  | lost (expired : slaExpired app server.now incident = true)
      (unknown : scenarioById app incident.scenarioId = none) :
      TimeoutEnds app permit server id incident s (.raised .noResultFound) s
        [.performed (.loadScenario incident.scenarioId)]
  | swallowed {scenario e t g} (expired : slaExpired app server.now incident = true)
      (known : scenarioById app incident.scenarioId = some scenario)
      (other : e ≠ .abortedTransaction) (resume : Runs .alone permit
        (resumeInvestigation app scenario (threadIdOf id) timeoutDecision) s (.raised e) t g) :
      TimeoutEnds app permit server id incident s (.returned false) t
        (.performed (.loadScenario incident.scenarioId) :: g)
  | aborted {scenario t g} (expired : slaExpired app server.now incident = true)
      (known : scenarioById app incident.scenarioId = some scenario)
      (resume : Runs .alone permit (resumeInvestigation app scenario (threadIdOf id)
        timeoutDecision) s (.raised .abortedTransaction) t g) :
      TimeoutEnds app permit server id incident s (.raised .abortedTransaction) t
        (.performed (.loadScenario incident.scenarioId) :: g)
  | died {scenario t g} (expired : slaExpired app server.now incident = true)
      (known : scenarioById app incident.scenarioId = some scenario)
      (resume : Runs .alone permit
        (resumeInvestigation app scenario (threadIdOf id) timeoutDecision) s .died t g) :
      TimeoutEnds app permit server id incident s .died t
        (.performed (.loadScenario incident.scenarioId) :: g)
  | resolved {scenario result t u g} (expired : slaExpired app server.now incident = true)
      (known : scenarioById app incident.scenarioId = some scenario)
      (resume : Runs .alone permit
        (resumeInvestigation app scenario (threadIdOf id) timeoutDecision) s (.returned result) t g)
      (applied : Applied app server id incident result t u) :
      TimeoutEnds app permit server id incident s (.returned true) u
        (.performed (.loadScenario incident.scenarioId) ::
          (g ++ [.performed (.applyResult id result)]))
  | unapplied {scenario result t g o o' g'} (expired : slaExpired app server.now incident = true)
      (known : scenarioById app incident.scenarioId = some scenario)
      (resume : Runs .alone permit
        (resumeInvestigation app scenario (threadIdOf id) timeoutDecision) s (.returned result) t g)
      (stop : Stopped o' o) (unapplied : Unapplied app permit id incident result t o' g') :
      TimeoutEnds app permit server id incident s o t
        (.performed (.loadScenario incident.scenarioId) :: (g ++ g'))

inductive ScenarioEnds (app : App) (permit : Permit Label ChatOutcome Database Error) (id : ℕ)
    (s : Database) : Outcome Error Scenario → List BackendEvent → Prop where
  | found {scenario} (known : scenarioById app id = some scenario) :
      ScenarioEnds app permit id s (.returned scenario) [.performed (.loadScenario id)]
  | lost (unknown : scenarioById app id = none) :
      ScenarioEnds app permit id s (.raised .noResultFound) [.performed (.loadScenario id)]
  | failed {o g} (fails : StepFails permit (.loadScenario id) s o g) : ScenarioEnds app permit id s o g

theorem loadScenario_ends {s u : Database} {o : Outcome Error Scenario} {g : List BackendEvent}
    (run : Runs .alone permit (loadScenario app id) s o u g) :
    u = s ∧ ScenarioEnds app permit id s o g := by
  obtain ⟨found, t, g₁, g₂, reading, rest, rfl⟩ | ⟨o', stop, reading⟩ := run.of_bind
  · obtain ⟨same, rfl, rfl⟩ | ⟨_, fails⟩ := perform_fails reading
    swap
    · exact absurd rfl (fails.unreturned _)
    cases same
    cases known : scenarioById app id with
    | none =>
      rw [known] at rest
      obtain ⟨rfl, rfl, rfl⟩ := rest.of_raise
      exact ⟨rfl, .lost known⟩
    | some scenario =>
      rw [known] at rest
      obtain ⟨rfl, rfl, rfl⟩ := rest.of_ret
      exact ⟨rfl, .found known⟩
  · obtain ⟨rfl, _⟩ | ⟨rfl, fails⟩ := perform_fails reading
    · cases stop
    · exact ⟨rfl, .failed (fails.stopped stop)⟩

theorem maybeApplyApprovalTimeout_ends {s u : Database} {o : Outcome Error Bool}
    {g : List BackendEvent}
    (run : Runs .alone permit (maybeApplyApprovalTimeout app server id incident) s o u g) :
    TimeoutEnds app permit server id incident s o u g := by
  unfold maybeApplyApprovalTimeout at run
  split at run
  case isFalse current =>
    obtain ⟨rfl, rfl, rfl⟩ := run.of_ret
    exact .fresh (eq_false_of_ne_true current)
  case isTrue expired =>
    obtain ⟨scenario, t₀, g₀, g', loading, resolving, rfl⟩ | ⟨o', stop, loading⟩ := run.of_bind
    swap
    · obtain ⟨rfl, ends⟩ := loadScenario_ends loading
      cases ends with
      | found => cases stop
      | lost unknown =>
        cases stop
        exact .lost expired unknown
      | failed fails => exact .unloaded expired (StepFails.stopped stop fails)
    obtain ⟨rfl, ends⟩ := loadScenario_ends loading
    cases ends with
    | failed fails => exact absurd rfl (fails.unreturned _)
    | found known =>
      rw [List.singleton_append]
      obtain ⟨tried, t, g₁, g₂, trial, rest, rfl⟩ | ⟨o', stop, stopped⟩ := resolving.of_bind
      · cases tryResume_ends trial with
        | swallowed other resume =>
          obtain ⟨rfl, rfl, rfl⟩ := rest.of_ret
          rw [List.append_nil]
          exact .swallowed expired known other resume
        | resumed resume =>
          obtain ⟨_, u', g₅, g₆, applying, after, rfl⟩ | ⟨o', stop, stopped⟩ := rest.of_bind
          · obtain ⟨rfl, rfl, rfl⟩ := after.of_ret
            rw [List.append_nil]
            obtain ⟨_, applied, rfl⟩ | ⟨_, unapplied⟩ := applyResult_outcome applying
            · exact .resolved expired known resume applied
            · cases unapplied with
              | failed fails => exact absurd rfl (fails.unreturned _)
          · obtain ⟨rfl, _⟩ | ⟨rfl, unapplied⟩ := applyResult_outcome stopped
            · cases stop
            · exact .unapplied expired known resume stop unapplied
      · cases tryResume_ends stopped with
        | swallowed | resumed => cases stop
        | aborted resume =>
          cases stop
          exact .aborted expired known resume
        | died resume =>
          cases stop
          exact .died expired known resume

theorem Applied.others {result : InvestigationResult} {s u : Database}
    (applied : Applied app server id incident result s u) {other : ℕ} (different : other ≠ id) :
    u.incidents other = s.incidents other :=
  (sameFor_of_effect applied.effect different.symm).row

theorem Applied.present {result : InvestigationResult} {s u : Database} {row : Incident}
    (applied : Applied app server id incident result s u) (found : s.incidents id = some row) :
    ∃ row', u.incidents id = some row' := by
  cases applied with
  | paused =>
    obtain ⟨row', found', _⟩ := pauseIncident_row found
    exact ⟨row', found'⟩
  | closed scenario closing =>
    obtain ⟨row', found', _⟩ := closeIncident_row found closing
    exact ⟨row', found'⟩

/-- Nothing but a resolution changes a row, and only the row it resolves. -/
theorem TimeoutEnds.rows {s u : Database} {o : Outcome Error Bool} {g : List BackendEvent}
    (ends : TimeoutEnds app permit server id incident s o u g) :
    u.incidents = s.incidents ∨ (o = .returned true ∧ ∃ scenario result t g',
      Runs .alone permit (resumeInvestigation app scenario (threadIdOf id) timeoutDecision) s
        (.returned result) t g' ∧ Applied app server id incident result t u ∧
      g = .performed (.loadScenario incident.scenarioId) ::
        (g' ++ [.performed (.applyResult id result)])) := by
  cases ends with
  | fresh => exact .inl rfl
  | unloaded => exact .inl rfl
  | lost => exact .inl rfl
  | swallowed _ _ _ resume => exact .inl (incidents_of_resume resume)
  | aborted _ _ resume => exact .inl (incidents_of_resume resume)
  | died _ _ resume => exact .inl (incidents_of_resume resume)
  | unapplied _ _ resume => exact .inl (incidents_of_resume resume)
  | resolved _ _ resume applied => exact .inr ⟨rfl, _, _, _, _, resume, applied, rfl⟩

inductive LookupEnds (permit : Permit Label ChatOutcome Database Error) (id : ℕ) (s : Database) :
    Outcome Error Incident → Database → List BackendEvent → Prop where
  | found {row : Incident} (found : s.incidents id = some row) :
      LookupEnds permit id s (.returned row) s [.performed (.loadIncident id)]
  | missing (absent : s.incidents id = none) :
      LookupEnds permit id s (.raised (.http 404 ("No incident with id " ++ toString id ++ "."))) s
        [.performed (.loadIncident id)]
  | faulted {o g} (fails : StepFails permit (.loadIncident id) s o g) :
      LookupEnds permit id s o s g

theorem getIncidentOr404_ends {s u : Database} {o : Outcome Error Incident} {g : List BackendEvent}
    (run : Runs .alone permit (getIncidentOr404 id) s o u g) : LookupEnds permit id s o u g := by
  obtain ⟨row, t, g₁, g₂, reading, rest, rfl⟩ | ⟨o', stop, reading⟩ := run.of_bind
  · obtain ⟨same, rfl, rfl⟩ | ⟨_, fails⟩ := perform_fails reading
    swap
    · exact absurd rfl (fails.unreturned _)
    cases same
    cases present : t.incidents id with
    | none =>
      rw [present] at rest
      obtain ⟨rfl, rfl, rfl⟩ := rest.of_raise
      exact .missing present
    | some incident =>
      rw [present] at rest
      obtain ⟨rfl, rfl, rfl⟩ := rest.of_ret
      exact .found present
  · obtain ⟨rfl, _⟩ | ⟨rfl, fails⟩ := perform_fails reading
    · cases stop
    · exact .faulted (fails.stopped stop)

inductive LoadEnds (app : App) (permit : Permit Label ChatOutcome Database Error)
    (server : Server) (id : ℕ) (s : Database) :
    Outcome Error Incident → Database → List BackendEvent → Prop where
  | faulted {o g} (fails : StepFails permit (.loadIncident id) s o g) :
      LoadEnds app permit server id s o s g
  | missing (absent : s.incidents id = none) :
      LoadEnds app permit server id s
        (.raised (.http 404 ("No incident with id " ++ toString id ++ "."))) s
        [.performed (.loadIncident id)]
  | stopped {row : Incident} {o' o t g} (found : s.incidents id = some row) (stop : Stopped o' o)
      (ends : TimeoutEnds app permit server id row s o' t g) :
      LoadEnds app permit server id s o t (.performed (.loadIncident id) :: g)
  | loaded {row row' : Incident} {committed t g g'} (found : s.incidents id = some row)
      (ends : TimeoutEnds app permit server id row s (.returned committed) t g)
      (current : t.incidents id = some row')
      (reloading : g' = if committed then [.performed (.loadIncident id)] else []) :
      LoadEnds app permit server id s (.returned row') t (.performed (.loadIncident id) :: (g ++ g'))
  | unread {row : Incident} {t g o g'} (found : s.incidents id = some row)
      (ends : TimeoutEnds app permit server id row s (.returned true) t g)
      (fails : StepFails permit (.loadIncident id) t o g') :
      LoadEnds app permit server id s o t (.performed (.loadIncident id) :: (g ++ g'))

theorem loadCurrent_ends {s u : Database} {o : Outcome Error Incident} {g : List BackendEvent}
    (run : Runs .alone permit (loadCurrent app server id) s o u g) :
    LoadEnds app permit server id s o u g := by
  obtain ⟨incident, t, g₁, g₂, loading, rest, rfl⟩ | ⟨o', stop, stopped⟩ := run.of_bind
  swap
  · cases getIncidentOr404_ends stopped with
    | found => cases stop
    | missing absent =>
      cases stop
      exact .missing absent
    | faulted fails => exact .faulted (StepFails.stopped stop fails)
  cases getIncidentOr404_ends loading with
  | faulted fails => exact absurd rfl (fails.unreturned _)
  | found found =>
    rw [List.singleton_append]
    obtain ⟨committed, t, g₁, g₂, checking, rereading, rfl⟩ | ⟨o', stop, stopped⟩ := rest.of_bind
    swap
    · exact .stopped found stop (maybeApplyApprovalTimeout_ends stopped)
    have ends := maybeApplyApprovalTimeout_ends checking
    cases committed with
    | false =>
      obtain ⟨rfl, rfl, rfl⟩ := rereading.of_ret
      refine .loaded found ends ?_ rfl
      rcases ends.rows with same | ⟨resolved, _⟩
      · rw [same, found]
      · cases resolved
    | true =>
      have present : ∃ row, t.incidents id = some row := by
        rcases ends.rows with same | ⟨_, _, _, _, _, resume, applied, _⟩
        · exact ⟨_, same ▸ found⟩
        · exact Applied.present applied (incidents_of_resume resume ▸ found)
      obtain ⟨row, present⟩ := present
      obtain ⟨row', t', g₃, g₄, loading, rest, rfl⟩ | ⟨o', stop, stopped⟩ := rereading.of_bind
      · obtain ⟨same, rfl, rfl⟩ | ⟨_, fails⟩ := perform_fails loading
        swap
        · exact absurd rfl (fails.unreturned _)
        cases same
        rw [present] at rest
        obtain ⟨rfl, rfl, rfl⟩ := rest.of_ret
        exact .loaded found ends present rfl
      · obtain ⟨rfl, _⟩ | ⟨rfl, fails⟩ := perform_fails stopped
        · cases stop
        · exact .unread found ends (fails.stopped stop)

end OpsPilot.ApprovalTimeout
