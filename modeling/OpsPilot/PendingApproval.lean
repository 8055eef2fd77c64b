import OpsPilot.ThreadHistory

/-! An incident that waits for approval, in a history in which no resume of it was left unfinished:
its thread stands at the gate, the row shows the action that the gate waits for, and nothing has
been executed on the thread. -/

namespace OpsPilot.PendingApproval
open JsonText AgentSchemas SyntheticEnvironment InvestigationState Models StepEffects GraphNodes
open Investigation IncidentApi GraphRun PolicyGate InvestigationOutcomes IncidentTurns
open IncidentPhases ThreadHistory DurableProgram CallHistory

variable {app : App} {permit : Permit Label ChatOutcome Database Error} {s t u : Database}
  {h : EventLog} {g g' : List BackendEvent} {id : ℕ} {request : Request}

/-- A resume of the incident's graph has begun, and no commit of a result came after it. -/
def Unfinished (h : EventLog) (id : ℕ) : Prop :=
  ∃ h₁ h₂ request decision, h = h₁ ++ (request, .performed (.resume (threadIdOf id) decision)) :: h₂ ∧
    ∀ request' result, (request', .performed (.applyResult id result)) ∉ h₂

def Unremediated (s : Database) (id : ℕ) : Prop :=
  ∀ row ∈ s.remediationExecutions, row.call.threadId ≠ threadIdOf id

/-- The row asks for what the gate of its thread waits for. -/
structure Pending (s : Database) (id : ℕ) (row : Incident) (values : GraphState)
    (diagnosis : SubmitDiagnosisArgs) : Prop where
  stored : s.checkpoints (threadIdOf id) = some ⟨values, some .evaluatePolicy⟩
  diagnosed : values.diagnosis = some diagnosis
  approval : policy diagnosis.recommendedAction = .requireApproval
  shown : ∃ payload, row.pendingApproval = some payload ∧
    payload.field? "action_type" = some (.str diagnosis.recommendedAction.name)

inductive Tracked (s : Database) (h : EventLog) (id : ℕ) : Prop where
  | untouched (unresumed : Unresumed h id) (clean : Unremediated s id)
      (unstarted : ∀ row, s.incidents id = some row → row.status = .opened)
  | waiting {row values diagnosis} (found : s.incidents id = some row)
      (awaiting : row.status = .awaitingApproval) (unresumed : Unresumed h id)
      (clean : Unremediated s id) (pending : Pending s id row values diagnosis)
  | unfinished {row} (found : s.incidents id = some row) (awaiting : row.status = .awaitingApproval)
      (unfinished : Unfinished h id)
  | other {row} (found : s.incidents id = some row) (started : row.status ≠ .opened)
      (unasked : row.status ≠ .awaitingApproval)

def stranger (id : ℕ) : Label → Prop
  | .createIncident _ => False
  | .commitRunning j => j ≠ id
  | .applyResult j _ => j ≠ id
  | .saveCheckpoint threadId => threadId ≠ threadIdOf id
  | .interrupt threadId _ => threadId ≠ threadIdOf id
  | .resume threadId _ => threadId ≠ threadIdOf id
  | .commit row => row.call.threadId ≠ threadIdOf id
  | _ => True

theorem foreign_of_stranger {l : Label} (inside : stranger id l) : foreign id l := by
  cases l <;> first | exact inside | trivial

theorem stranger_of_passive {l : Label} (inside : passive l) : stranger id l := by
  cases l <;> trivial

theorem stranger_of_inResume {j : ℕ} (other : j ≠ id) {l : Label}
    (inside : inResume (threadIdOf j) l) : stranger id l := by
  have different : threadIdOf j ≠ threadIdOf id := fun same => other (threadIdOf_injective same)
  obtain inside | ⟨_, rfl⟩ := inside
  · cases l with
    | saveCheckpoint | interrupt =>
      cases inside
      exact different
    | commit row => exact fun same => different (inside.symm.trans same)
    | createIncident | commitRunning | applyResult | resume => exact inside.elim
    | _ => trivial
  · exact different

structure Aside (id : ℕ) (s u : Database) (g : List BackendEvent) : Prop where
  same : SameFor id s u
  clean : Unremediated s id → Unremediated u id
  unresumed : ∀ decision, .performed (.resume (threadIdOf id) decision) ∉ g
  unapplied : ∀ result, .performed (.applyResult id result) ∉ g

theorem Aside.append (first : Aside id s t g) (later : Aside id t u g') : Aside id s u (g ++ g') where
  same := first.same.trans later.same
  clean := later.clean ∘ first.clean
  unresumed decision mem :=
    (List.mem_append.mp mem).elim (first.unresumed decision) (later.unresumed decision)
  unapplied result mem :=
    (List.mem_append.mp mem).elim (first.unapplied result) (later.unapplied result)

theorem aside_of_labels (same : SameFor id s u) (clean : Unremediated s id → Unremediated u id)
    (labels : ∀ l, .performed l ∈ g → stranger id l) : Aside id s u g :=
  ⟨same, clean, fun _ mem => labels _ mem rfl, fun _ mem => labels _ mem rfl⟩

theorem closeIncident_remediations (settings : Settings) (server : Server) (scenario : Scenario)
    (id : ℕ) (incident : Incident) (result : InvestigationResult) (db : Database) :
    (closeIncident settings server scenario id incident result db).remediationExecutions =
      db.remediationExecutions := by
  unfold closeIncident addMemory
  dsimp only
  split <;> split <;> rfl

theorem unremediated_of_effect {l : Label} (effect : Effect l s u) (outside : stranger id l)
    (clean : Unremediated s id) : Unremediated u id := by
  cases l with
  | commit row =>
    obtain rfl | ⟨_, rfl⟩ := effect
    · exact clean
    · intro row' mem
      rcases List.mem_append.mp mem with old | new
      · exact clean row' old
      · cases List.mem_singleton.mp new
        exact outside
  | createIncident => exact outside.elim
  | commitRunning =>
    obtain ⟨_, rfl⟩ := effect
    exact clean
  | saveCheckpoint =>
    obtain ⟨_, rfl⟩ := effect
    exact clean
  | applyResult =>
    obtain ⟨_, _, rfl⟩ | ⟨_, _, _, _, _, rfl⟩ := effect
    · exact clean
    · intro row mem
      rw [closeIncident_remediations] at mem
      exact clean row mem
  | _ =>
    cases effect
    exact clean

theorem aside_of_effect {l : Label} (effect : Effect l s u) (outside : stranger id l) :
    Aside id s u [.performed l] := by
  refine aside_of_labels (sameFor_of_effect effect (foreign_of_stranger outside))
    (unremediated_of_effect effect outside) fun l' mem => ?_
  cases List.mem_singleton.mp mem
  exact outside

theorem aside_of_does {α : Type} {p : Backend α} {o : Outcome Error α}
    (does : Does (stranger id) p) (run : Runs .alone permit p s o u g) : Aside id s u g := by
  refine aside_of_labels ?_ ?_ (labels_of_does does run)
  · exact (sameFor_of_does (does.mono fun _ => foreign_of_stranger) run).1
  · refine runs_of_guarantees (R := fun s u => Unremediated s id → Unremediated u id)
      (fun _ clean => clean) (fun first later => later ∘ first) ?_ does run
    exact fun _ _ _ step => unremediated_of_effect step.2 step.1

theorem Unfinished.grow (unfinished : Unfinished h id)
    (quiet : ∀ result, .performed (.applyResult id result) ∉ g) :
    Unfinished (h ++ g.map (request, ·)) id := by
  obtain ⟨h₁, h₂, request', decision, rfl, open'⟩ := unfinished
  refine ⟨h₁, h₂ ++ g.map (request, ·), request', decision, by simp, fun request'' result mem => ?_⟩
  rcases List.mem_append.mp mem with old | new
  · exact open' request'' result old
  · obtain ⟨ev, event, same⟩ := List.mem_map.mp new
    cases same
    exact quiet result event

theorem unfinished_of_mem {decision : Json}
    (resumed : .performed (.resume (threadIdOf id) decision) ∈ g)
    (quiet : ∀ result, .performed (.applyResult id result) ∉ g) :
    Unfinished (h ++ g.map (request, ·)) id := by
  obtain ⟨g₁, g₂, rfl⟩ := List.append_of_mem resumed
  refine ⟨h ++ g₁.map (request, ·), g₂.map (request, ·), request, decision, by simp,
    fun request' result mem => ?_⟩
  obtain ⟨ev, event, same⟩ := List.mem_map.mp mem
  cases same
  exact quiet result (by simp [event])

theorem Pending.of_same {row : Incident} {values : GraphState} {diagnosis : SubmitDiagnosisArgs}
    (pending : Pending s id row values diagnosis) (same : SameFor id s u) :
    Pending u id row values diagnosis :=
  ⟨same.checkpoint.trans pending.stored, pending.diagnosed, pending.approval, pending.shown⟩

theorem Tracked.aside (tracked : Tracked s h id) (aside : Aside id s u g) :
    Tracked u (h ++ g.map (request, ·)) id := by
  cases tracked with
  | untouched unresumed clean unstarted =>
    exact .untouched (unresumed.grow aside.unresumed) (aside.clean clean)
      (aside.same.row ▸ unstarted)
  | waiting found awaiting unresumed clean pending =>
    exact .waiting (aside.same.row.trans found) awaiting (unresumed.grow aside.unresumed)
      (aside.clean clean) (pending.of_same aside.same)
  | unfinished found awaiting unfinished =>
    exact .unfinished (aside.same.row.trans found) awaiting (unfinished.grow aside.unapplied)
  | other found started unasked => exact .other (aside.same.row.trans found) started unasked

theorem run_pauses {scenario : Scenario} {threadId : String} {result : InvestigationResult}
    (run : Runs .alone permit (runInvestigation app scenario threadId) s (.returned result) u g)
    (pausing : result.status = .awaitingApproval) : ∃ values diagnosis,
      u.checkpoints threadId = some ⟨values, some .evaluatePolicy⟩ ∧
      values.diagnosis = some diagnosis ∧ policy diagnosis.recommendedAction = .requireApproval ∧
      (∃ payload, result.pendingApproval = some payload ∧
        payload.field? "action_type" = some (.str diagnosis.recommendedAction.name)) ∧
      u.remediationExecutions = s.remediationExecutions := by
  cases runInvestigation_ends run with
  | stopped cause =>
    rcases cause with fault | refused
    · exact fault.elim
    · cases refused.1
  | returned same _ kept ends returns =>
    cases same
    cases ends with
    | faulted fault => exact fault.elim
    | ceiling =>
      obtain rfl := Program.ret.inj returns
      exact absurd pausing (finalStatus_closed _ _)
    | gate _ _ _ kept' ends =>
      cases ends with
      | before _ cause =>
        rcases cause with fault | refused
        · exact fault.elim
        · cases refused.1
      | unsaved _ _ _ fault => exact fault.elim
      | undecided _ _ _ _ fault => exact fault.elim
      | @paused diagnosis _ found approval _ same =>
        cases same
        obtain rfl := Program.ret.inj returns
        exact ⟨_, diagnosis, saveCheckpoint_self _ _ _, found, verdictOf_eq _ diagnosis ▸ approval,
          ⟨_, rfl, rfl⟩, (remediations_kept kept').trans (remediations_kept kept)⟩
      | finished =>
        obtain rfl := Program.ret.inj returns
        exact absurd pausing (finalStatus_closed _ _)

theorem resume_quiet {scenario : Scenario} {threadId : String} {decision : Json}
    {o : Outcome Error InvestigationResult}
    (run : Runs .alone permit (resumeInvestigation app scenario threadId decision) s o u g)
    (result : InvestigationResult) : .performed (.applyResult id result) ∉ g := by
  intro mem
  have inside := labels_of_does
    (resumeInvestigation_does app scenario threadId decision {}) run _ mem
  obtain inside | ⟨_, same⟩ := inside
  · exact inside
  · cases same

theorem tracked_resumed {row : Incident} {scenario : Scenario} {decision : Json}
    {o : Outcome Error InvestigationResult} (tracked : Tracked s h id)
    (found : s.incidents id = some row) (awaiting : row.status = .awaitingApproval)
    (run : Runs .alone permit (resumeInvestigation app scenario (threadIdOf id) decision) s o u g) :
    Tracked u (h ++ g.map (request, ·)) id := by
  have found' : u.incidents id = some row := by rw [incidents_of_resume run, found]
  have unapplied : ∀ result, .performed (.applyResult id result) ∉ g := resume_quiet run
  by_cases resumed : ∃ decision, .performed (.resume (threadIdOf id) decision) ∈ g
  · obtain ⟨decision, resumed⟩ := resumed
    exact .unfinished found' awaiting (unfinished_of_mem resumed unapplied)
  · have quiet : ∀ decision, .performed (.resume (threadIdOf id) decision) ∉ g :=
      fun decision mem => resumed ⟨decision, mem⟩
    cases tracked with
    | untouched _ _ unstarted => cases awaiting.symm.trans (unstarted row found)
    | unfinished _ _ unfinished => exact .unfinished found' awaiting (unfinished.grow unapplied)
    | other same _ unasked =>
      cases found.symm.trans same
      exact absurd awaiting unasked
    | waiting same _ unresumed clean pending =>
      cases found.symm.trans same
      obtain ⟨rfl, _⟩ | ⟨mem, _⟩ := resume_advances run pending.stored trivial
      · exact .waiting found' awaiting (unresumed.grow quiet) clean pending
      · exact absurd mem (quiet decision)

theorem tracked_closed {row : Incident} (found : s.incidents id = some row)
    (closed : isClosed row.status = true) : Tracked s h id := by
  refine .other found (fun same => ?_) fun same => ?_
  · rw [same] at closed
    cases closed
  · rw [same] at closed
    cases closed

theorem tracked_running {row : Incident} {startedAt : Option ℤ}
    (found : s.incidents id = some { row with status := .running, startedAt := startedAt }) :
    Tracked s h id :=
  .other found (fun same => nomatch same) fun same => nomatch same

theorem tracked_ran {row : Incident} {scenario : Scenario} {result : InvestigationResult}
    (tracked : Tracked s h id) (found : s.incidents id = some row) (opened : row.status = .opened)
    (run : Runs .alone permit (runInvestigation app scenario (threadIdOf id))
      (markRunning request.server id s) (.returned result) t g)
    (applied : Applied app request.server id
      { row with status := .running, startedAt := some request.server.now } result t u) :
    Tracked u (h ++ (.performed (.commitRunning id) :: .performed (.loadIncident id) :: g ++
      [.performed (.applyResult id result)] : List BackendEvent).map (request, ·)) id := by
  have does := runInvestigation_does app scenario (threadIdOf id) {} true
  have running : t.incidents id =
      some { row with status := .running, startedAt := some request.server.now } := by
    rw [(untouched_of_graph (does.mono fun _ => .inl) run).incidents, markRunning_row found]
  have quiet : ∀ decision, .performed (.resume (threadIdOf id) decision) ∉
      (.performed (.commitRunning id) :: .performed (.loadIncident id) :: g ++
        [.performed (.applyResult id result)] : List BackendEvent) := by
    intro decision mem
    have inside : .performed (.resume (threadIdOf id) decision) ∈ g := by simpa using mem
    exact labels_of_does does run _ inside
  cases applied with
  | closed scenario closing =>
    obtain ⟨row', found', closed⟩ := closeIncident_row running closing
    exact tracked_closed found' closed
  | paused pausing =>
    obtain ⟨values, diagnosis, stored, diagnosed, approval, shown, kept⟩ := run_pauses run pausing
    have found' : (pauseIncident request.server id result t).incidents id = some
        { row with
          status := .awaitingApproval
          startedAt := some request.server.now
          pendingApproval := result.pendingApproval
          awaitingSince := some request.server.now
          stepsUsed := some result.stepsUsed
          estimatedCostUsd := some result.estimatedCostUsd } := by
      simp [pauseIncident, addAudit, Database.updateIncident, persistNewEvidence, running]
    cases tracked with
    | untouched unresumed clean _ =>
      refine .waiting found' rfl (unresumed.grow quiet) ?_ ⟨stored, diagnosed, approval, shown⟩
      intro row' mem
      change row' ∈ t.remediationExecutions at mem
      rw [kept] at mem
      exact clean row' mem
    | waiting same other | unfinished same other =>
      cases found.symm.trans same
      cases opened.symm.trans other
    | other same started =>
      cases found.symm.trans same
      exact absurd opened started

theorem tracked_turn (request : Request) (s u : Database) (h : EventLog) (g : List BackendEvent)
    (kept : TurnHistory app s h ∧ ∀ id, Tracked s h id) (turn : Turn app anyFaults request s u g) :
    TurnHistory app u (h ++ g.map (request, ·)) ∧ ∀ id, Tracked u (h ++ g.map (request, ·)) id := by
  obtain ⟨history, tracked⟩ := kept
  refine ⟨.tail history ⟨request, g, turn, rfl⟩, fun id => ?_⟩
  have run_aside : ∀ {j scenario s o t g}, j ≠ id → Runs .alone anyFaults
      (runInvestigation app scenario (threadIdOf j)) s o t g → Aside id s t g :=
    fun other run => aside_of_does ((runInvestigation_does app _ _ {} true).mono
      fun _ inside => stranger_of_inResume other (.inl inside)) run
  have resume_aside : ∀ {j scenario decision o t g}, j ≠ id → Runs .alone anyFaults
      (resumeInvestigation app scenario (threadIdOf j) decision) s o t g → Aside id s t g :=
    fun other run => aside_of_does ((resumeInvestigation_does app _ _ _ {}).mono
      fun _ => stranger_of_inResume other) run
  have mark_aside : ∀ {j}, j ≠ id → Aside id s (markRunning request.server j s)
      [.performed (.commitRunning j), .performed (.loadIncident j)] := fun {j} other =>
    (aside_of_effect (l := .commitRunning j) ⟨request.server, rfl⟩ other).append
      (aside_of_effect (l := .loadIncident j) rfl trivial)
  cases turn with
  | quiet still =>
    exact (tracked id).aside (aside_of_labels (.refl id s) (fun clean => clean)
      fun l mem => stranger_of_passive (still l mem))
  | @created key scenario =>
    have resumes : ∀ decision, .performed (.resume (threadIdOf id) decision) ∉
        ([.performed (.createIncident key)] : List BackendEvent) := by simp
    by_cases new : id = s.nextIncidentId
    · have free : s.incidents id = none := (turnHistory_phases history).unused id new.ge
      cases tracked id with
      | untouched unresumed clean _ =>
        refine .untouched (unresumed.grow resumes) clean fun row found => ?_
        simp only [created, new, Function.update_self, Option.some.injEq] at found
        subst found
        rfl
      | waiting found | unfinished found | other found => cases free.symm.trans found
    · refine (tracked id).aside ⟨⟨?_, rfl, rfl⟩, fun clean => clean, resumes, by simp⟩
      simp [created, new]
  | @started j row found opened =>
    by_cases own : j = id
    · subst own
      exact tracked_running (markRunning_row found)
    · exact (tracked id).aside (aside_of_effect (l := .commitRunning j) ⟨request.server, rfl⟩ own)
  | @investigated j row scenario o _ g found opened run =>
    by_cases own : j = id
    · subst own
      have same := (untouched_of_graph ((runInvestigation_does app scenario _ {} true).mono
        fun _ => .inl) run).incidents
      exact tracked_running (same ▸ markRunning_row found)
    · exact (tracked id).aside ((mark_aside own).append (run_aside own run))
  | @ran j row scenario result t _ g found opened run applied =>
    by_cases own : j = id
    · subst own
      exact tracked_ran (tracked j) found opened run applied
    · exact (tracked id).aside (((mark_aside own).append (run_aside own run)).append
        (aside_of_effect applied.effect own))
  | @resumed j row scenario decision o _ g found awaiting real run =>
    by_cases own : j = id
    · subst own
      exact tracked_resumed (tracked j) found awaiting run
    · exact (tracked id).aside (resume_aside own run)
  | @resolved j row scenario decision result t _ g found awaiting real run applied =>
    by_cases own : j = id
    · subst own
      have closing := (resolution history found awaiting real run).closing
      cases applied with
      | paused pausing => exact absurd pausing closing
      | closed scenario =>
        obtain ⟨row', found', closed⟩ := closeIncident_row (incidents_of_resume run ▸ found) closing
        exact tracked_closed found' closed
    · exact (tracked id).aside ((resume_aside own run).append (aside_of_effect applied.effect own))

theorem turnHistory_tracked (history : TurnHistory app s h) (id : ℕ) : Tracked s h id := by
  have start : TurnHistory app .empty [] ∧ ∀ id, Tracked .empty [] id := by
    refine ⟨.refl _, fun id => ?_⟩
    exact .untouched (fun _ _ mem => nomatch mem) (fun _ mem => nomatch mem)
      fun _ found => nomatch found
  exact (TurnHistory.invariant start tracked_turn history).2 id

theorem waiting_tracked {row : Incident} (history : TurnHistory app s h)
    (found : s.incidents id = some row) (awaiting : row.status = .awaitingApproval)
    (finished : ¬ Unfinished h id) :
    Unremediated s id ∧ ∃ values diagnosis, Pending s id row values diagnosis := by
  cases turnHistory_tracked history id with
  | untouched _ _ unstarted => cases awaiting.symm.trans (unstarted row found)
  | waiting same _ _ clean pending =>
    cases found.symm.trans same
    exact ⟨clean, _, _, pending⟩
  | unfinished _ _ unfinished => exact absurd unfinished finished
  | other same _ unasked =>
    cases found.symm.trans same
    exact absurd awaiting unasked

end OpsPilot.PendingApproval
