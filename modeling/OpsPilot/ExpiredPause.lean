import OpsPilot.ApprovalTimeout
import OpsPilot.Stranding

/-! What the automatic resolution of an expired pause relies on: the row's scenario exists, a
resume of a paused thread returns unless it is made to fail, and with a refusal it runs no
remediation. -/

namespace OpsPilot.ExpiredPause
open JsonText AgentSchemas SyntheticEnvironment InvestigationState Models StepEffects GraphNodes
open Investigation IncidentApi Stranding GraphRun PolicyGate RunCeilings InvestigationOutcomes
open IncidentTurns IncidentPhases DurableProgram CallHistory

variable {app : App} {permit : Permit Label ChatOutcome Database Error} {s t u : Database}
  {h : EventLog}

theorem seeded_of_does {α : Type} {allowed : Label → Prop} {p : Backend α} {o : Outcome Error α}
    {g : List BackendEvent} (does : Does allowed p)
    (old : ∀ l, allowed l → ∀ key, l ≠ .createIncident key) (seeded : Seeded app s)
    (run : Runs .alone permit p s o u g) : Seeded app u := by
  refine runs_of_guarantees (R := fun s u => Seeded app s → Seeded app u) (fun _ => id)
    (fun first later => later ∘ first) (fun _ _ _ => id) (keepsSeeded_of_does does old) run seeded

theorem seeded_created {server : Server} {key : String} {scenario : Scenario}
    (known : scenarioByKey app key = some scenario) (seeded : Seeded app s) :
    Seeded app (created server scenario s) := by
  intro id row present
  by_cases new : id = s.nextIncidentId
  · subst new
    simp only [created, Function.update_self, Option.some.injEq] at present
    subst present
    exact List.find?_isSome.mpr ⟨scenario, List.mem_of_find?_eq_some known, by simp⟩
  · exact seeded id row (by simpa [created, new] using present)

theorem seeded_turn (request : Request) (s u : Database) (_ : EventLog) (g : List BackendEvent)
    (seeded : Seeded app s) (turn : Turn app anyFaults request s u g) : Seeded app u := by
  have applied_kept : ∀ {id row result t u}, Applied app request.server id row result t u →
      Seeded app t → Seeded app u := fun applied seeded =>
    seeded.step applied.effect fun _ => Label.noConfusion
  have started : ∀ id, Seeded app (markRunning request.server id s) := fun id =>
    seeded.step (l := .commitRunning id) ⟨request.server, rfl⟩ fun _ => Label.noConfusion
  have run_kept : ∀ {scenario threadId s o t g}, Runs .alone anyFaults
      (runInvestigation app scenario threadId) s o t g → Seeded app s → Seeded app t := by
    intro scenario threadId s o t g run seeded
    refine seeded_of_does (runInvestigation_does app scenario threadId {} true) ?_ seeded run
    rintro l inside key rfl
    exact inside
  have resume_kept : ∀ {scenario threadId decision o t g}, Runs .alone anyFaults
      (resumeInvestigation app scenario threadId decision) s o t g → Seeded app t := by
    intro scenario threadId decision o t g run
    refine seeded_of_does (resumeInvestigation_does app scenario threadId decision {}) ?_ seeded run
    rintro l (inside | ⟨_, rfl⟩) key same
    · subst same
      exact inside
    · cases same
  cases turn with
  | quiet => exact seeded
  | created known => exact seeded_created known seeded
  | started => exact started _
  | investigated _ _ run => exact run_kept run (started _)
  | ran _ _ run applied => exact applied_kept applied (run_kept run (started _))
  | resumed _ _ _ run => exact resume_kept run
  | resolved _ _ _ run applied => exact applied_kept applied (resume_kept run)

theorem turnHistory_seeded (history : TurnHistory app s h) : Seeded app s :=
  TurnHistory.invariant (fun _ _ found => nomatch found) seeded_turn history

theorem resume_outcome {id : ℕ} {scenario : Scenario} {decision : Json} {saved : Saved}
    {o : Outcome Error InvestigationResult} {g : List BackendEvent} (gate : AtGate h id saved)
    (stored : s.checkpoints (threadIdOf id) = some saved)
    (run : Runs .alone permit (resumeInvestigation app scenario (threadIdOf id) decision) s o u g) :
    (∃ result, o = .returned result) ∨ Faulted permit o := by
  cases resumeInvestigation_ends run with
  | stopped _ fault => exact .inr fault
  | missing same missing =>
    cases same
    cases stored.symm.trans missing
  | walked _ same _ same' found read _ walk finish =>
    cases same
    cases same'
    cases read
    cases Option.some.inj (stored.symm.trans found)
    have finishes : ∀ {o' : Outcome Error (GraphState × Option Json)}, Finishes app scenario o' o →
        (Faulted permit o' ∨ ∃ final status, o' = .returned (final, none) ∧
          final.status = some status) → (∃ result, o = .returned result) ∨ Faulted permit o := by
      rintro o' finish (fault | ⟨final, status, rfl, ended⟩)
      · cases finish with
        | stopped stop => exact .inr (fault.stopped stop)
        | invalid => exact fault.elim
        | returned => exact fault.elim
      · cases finish with
        | stopped stop => cases stop
        | invalid raises =>
          unfold resultFromState at raises
          simp only [ended] at raises
          cases raises
        | returned returns => exact .inl ⟨_, rfl⟩
    refine finishes finish ?_
    cases gate with
    | waiting =>
      cases gate_ends (app.settings.agentMaxSteps + 8) walk with
      | paused _ _ unanswered => cases unanswered
      | before _ cause =>
        rcases cause with fault | refused
        · exact .inl fault
        · exact (not_refused refused).elim
      | unsaved _ _ _ fault => exact .inl fault
      | undecided _ _ _ _ fault => exact .inl fault
      | finished => exact .inr ⟨_, _, rfl, rfl⟩
    | deciding =>
      obtain ⟨fault, _⟩ | ⟨_, _, rfl, _⟩ := decide_ends (app.settings.agentMaxSteps + 9) walk
      · exact .inl fault
      · exact .inr ⟨_, _, rfl, rfl⟩
    | decided _ ended =>
      cases walk
      exact .inr ⟨_, _, rfl, ended⟩

abbrev Stays {α : Type} (permit : Permit Label ChatOutcome Database Error) (allowed : Label → Prop)
    (Pre : Database → Prop) (p : Backend α) (Post : α → Database → Prop) : Prop :=
  Triple permit (fun _ _ g => ∀ ev ∈ g, allowed ev.label) Pre p Post

variable {allowed : Label → Prop}

theorem labels_of_moves {g : List BackendEvent}
    (moves : Moves (fun _ _ g => ∀ ev ∈ g, allowed ev.label) s u g) : ∀ ev ∈ g, allowed ev.label := by
  induction moves with
  | refl => simp
  | tail _ move ih =>
    intro ev mem
    exact (List.mem_append.mp mem).elim (ih ev) (move ev)

theorem stays_perform {α : Type} {l : Label} {update : Database → Database} {query : Database → α}
    {Pre : Database → Prop} (ok : allowed l) : Stays permit allowed Pre
      (Program.perform l update query) fun a t => ∃ s, Pre s ∧ a = query s ∧ t = update s := by
  intro s o u g pre run
  obtain ⟨_, rfl, ⟨_, rfl, rfl, rfl⟩ | ⟨e, _, rfl, rfl, rfl⟩ | ⟨_, rfl, rfl, rfl⟩⟩ := run.of_perform
  · refine ⟨.single (by simpa [Event.label] using ok), ?_⟩
    rintro _ ⟨⟩
    exact ⟨s, pre, rfl, rfl⟩
  · exact ⟨.single (by simpa [Event.label] using ok), fun _ same => by cases same⟩
  · exact ⟨.single (by simpa [Event.label] using ok), fun _ same => by cases same⟩

def ofRefusal : Label → Prop
  | .resume _ _ => True
  | .loadCheckpoint _ => True
  | .loadService _ => True
  | .visit _ _ _ => True
  | .saveCheckpoint _ => True
  | _ => False

def Refusing (saved : Saved) (answer : Option Json) : Prop :=
  pastGate saved.next ∧ (saved.next = some .evaluatePolicy → ∃ diagnosis decision,
    saved.values.diagnosis = some diagnosis ∧
    policy diagnosis.recommendedAction = .requireApproval ∧ answer = some decision ∧
    isApproved (some decision) = false)

theorem gateCall_refused (deps : NodeDeps) {diagnosis : SubmitDiagnosisArgs} {decision : Json}
    (approval : policy diagnosis.recommendedAction = .requireApproval)
    (refused : isApproved (some decision) = false) :
    gateCall app deps diagnosis (some decision) = none := by
  unfold gateCall
  rw [verdictOf_eq, approval]
  simp [resolvedCall, refused]

theorem visit_refusing {deps : NodeDeps} {node : Node} {values : GraphState} {answer : Option Json}
    (refusing : Refusing ⟨values, some node⟩ answer) :
    Stays permit ofRefusal (fun _ => True) (visit app deps node values answer) fun v _ =>
      ∃ next, v = .update next ∧ Refusing ⟨next, route deps node next⟩ none := by
  refine (stays_perform trivial).bind fun _ => ?_
  cases node with
  | gatherContext | hypothesize | classifyRisk => exact refusing.1.elim
  | decide => exact Triple.ret fun _ _ => ⟨_, rfl, trivial, fun same => nomatch same⟩
  | evaluatePolicy =>
    obtain ⟨diagnosis, decision, found, approval, rfl, refused⟩ := refusing.2 rfl
    have answered : ¬ (verdictOf deps diagnosis = .requireApproval ∧
        (some decision : Option Json).isNone = true) := fun pausing => nomatch pausing.2
    rw [runNode, evaluatePolicy_eq found answered, gateCall_refused deps approval refused]
    exact Triple.ret fun _ _ => ⟨_, rfl, trivial, fun same => nomatch same⟩

theorem supersteps_refusing {deps : NodeDeps} {saved : Saved} {answer : Option Json} (limit : ℕ)
    (refusing : Refusing saved answer) : Stays permit ofRefusal (fun _ => True)
      ((buildGraph app deps).supersteps limit saved answer) fun _ _ => True := by
  induction limit generalizing saved answer with
  | zero =>
    obtain ⟨values, _ | node⟩ := saved
    · exact Triple.ret fun _ _ => trivial
    · exact Triple.raise _
  | succ limit ih =>
    obtain ⟨values, _ | node⟩ := saved
    · exact Triple.ret fun _ _ => trivial
    have step : Stays permit ofRefusal (fun _ => True)
        ((buildGraph app deps).superstep node values answer) fun step _ =>
          ∃ next, step = .moved next ∧ Refusing next none := by
      refine (visit_refusing refusing).bind ?_
      rintro (next | ask)
      · refine (stays_perform trivial).bind fun _ => Triple.ret ?_
        rintro _ ⟨_, ⟨_, ⟨⟩, refusing⟩, _⟩
        exact ⟨_, rfl, refusing⟩
      · rintro _ _ _ _ ⟨_, ⟨⟩, _⟩
    refine step.bind ?_
    rintro (next | ask)
    · rintro t o u g ⟨_, ⟨⟩, refusing⟩ run
      exact ih refusing trivial run
    · exact Triple.ret fun _ _ => trivial

theorem reenter_refusing {deps : NodeDeps} {scenario : Scenario} {saved : Saved}
    {answer : Option Json} (limit : ℕ) (refusing : Refusing saved answer) :
    Stays permit ofRefusal (fun _ => True)
      (((buildGraph app deps).supersteps limit saved answer).bind
        (resultFromState app.py scenario)) fun _ _ => True := by
  refine (supersteps_refusing limit refusing).bind fun final => ?_
  obtain ⟨result, returns⟩ | ⟨e, raises⟩ := resultFromState_cases app.py scenario final
  · rw [returns]
    exact Triple.ret fun _ _ => trivial
  · rw [raises]
    exact Triple.raise _

theorem refusal_labels {id : ℕ} {scenario : Scenario} {decision : Json} {saved : Saved}
    {o : Outcome Error InvestigationResult} {g : List BackendEvent} (gate : AtGate h id saved)
    (stored : s.checkpoints (threadIdOf id) = some saved)
    (refused : isApproved (some decision) = false)
    (run : Runs .alone permit (resumeInvestigation app scenario (threadIdOf id) decision) s o u g) :
    ∀ ev ∈ g, ofRefusal ev.label := by
  have refusing : Refusing saved (some decision) := by
    cases gate with
    | waiting found approval => exact ⟨trivial, fun _ => ⟨_, _, found, approval, rfl, refused⟩⟩
    | deciding => exact ⟨trivial, fun same => nomatch same⟩
    | decided => exact ⟨trivial, fun same => nomatch same⟩
  have steps : Stays permit ofRefusal (fun s => s.checkpoints (threadIdOf id) = some saved)
      (resumeInvestigation app scenario (threadIdOf id) decision) fun _ _ => True := by
    refine (stays_perform trivial).bind fun _ => (stays_perform trivial).bind ?_
    rintro (_ | found)
    · exact Triple.raise _
    · rintro t o u g ⟨_, ⟨_, stored, _, rfl⟩, same, rfl⟩ run
      cases same.trans stored
      have asks : Stays permit ofRefusal (fun _ => True) (loadService scenario saved)
          fun _ _ => True := by
        unfold loadService
        split
        · exact (stays_perform trivial).weaken (fun _ _ => trivial) fun _ _ _ => trivial
        · exact Triple.ret fun _ _ => trivial
      exact asks.bind (fun _ => reenter_refusing _ refusing) trivial run
  exact labels_of_moves (steps stored run).1

end OpsPilot.ExpiredPause
