import OpsPilot.PolicyGate

/-! Whatever a thread has gone through, a graph that is past its policy gate carries the verdict
on its diagnosis. -/

namespace OpsPilot.ThreadVerdicts
open JsonText AgentSchemas SyntheticEnvironment InvestigationState Models GatherContext
open GraphNodes Investigation Superstep GatherLoop GraphRun PolicyGate DurableProgram StateGraph

variable {permit : Permit Label ChatOutcome Database Error} {app : App} {deps : NodeDeps}

structure CheckpointInvariant (permit : Permit Label ChatOutcome Database Error) (app : App)
    (Inv : Saved → Prop) : Prop where
  step : ∀ {deps : NodeDeps} {node : Node} {values : GraphState} {given : Option Json}
    {s t : Database} {next : Saved} {g : List BackendEvent},
    SuperstepEnds .alone permit app deps node values given s (.returned (.moved next)) t g →
      Inv ⟨values, some node⟩ → Inv next
  entry : ∀ previous, Inv ⟨initialState.asInput previous, some .gatherContext⟩

theorem node_stays {node : Node} {values : GraphState} {given : Option Json} {s t : Database}
    {o : Outcome Error (Visit GraphUpdate Json)} {g : List BackendEvent}
    (ends : NodeEnds .alone permit app deps values given s node o t g) :
    t.checkpoints = s.checkpoints := by
  cases ends with
  | gathered same => exact congrArg _ same.symm
  | faulted same => exact congrArg _ same.symm
  | hypothesized => rfl
  | classified => rfl
  | gated ends => exact policy_stays ends
  | decided => rfl

theorem superstep_stays {node : Node} {values : GraphState} {given : Option Json}
    {s t : Database} {o : Outcome Error (Graph.Step Node GraphState Json)} {g : List BackendEvent}
    (ends : SuperstepEnds .alone permit app deps node values given s o t g)
    (stays : ∀ next, o ≠ .returned (.moved next)) : t.checkpoints = s.checkpoints := by
  cases ends with
  | moved => exact absurd rfl (stays _)
  | entering same => exact congrArg _ same.symm
  | paused same ends same' =>
    cases same
    cases same'
    exact node_stays ends
  | inside same _ ends =>
    cases same
    exact node_stays ends
  | leaving same ends same' =>
    cases same
    cases same'
    exact node_stays ends

theorem superstep_saves {node : Node} {values : GraphState} {given : Option Json}
    {s t : Database} {next : Saved} {g : List BackendEvent}
    (ends : SuperstepEnds .alone permit app deps node values given s (.returned (.moved next)) t g) :
    t.checkpoints deps.threadId = some next := by
  cases ends with
  | entering _ fault _ => exact fault.elim
  | inside _ stop _ => cases stop
  | leaving _ _ _ fault _ => exact fault.elim
  | moved => simp [Database.saveCheckpoint]

section
variable {Inv : Saved → Prop}

/-- What a walk leaves on its thread, wherever it stops. -/
theorem CheckpointInvariant.walk (invariant : CheckpointInvariant permit app Inv) {limit : ℕ}
    {checkpoint : Saved} {given : Option Json} {s u : Database}
    {o : Outcome Error (GraphState × Option Json)} {g : List BackendEvent}
    (walk : (buildGraph app deps).Walk .alone permit limit checkpoint given s o u g)
    (holds : Inv checkpoint) (stored : s.checkpoints deps.threadId = some checkpoint) :
    ∃ saved, u.checkpoints deps.threadId = some saved ∧ Inv saved ∧
      ∀ final, o = .returned (final, none) → saved = ⟨final, none⟩ := by
  induction walk with
  | finished limit values given s =>
    refine ⟨_, stored, holds, ?_⟩
    rintro final ⟨⟩
    rfl
  | exhausted => exact ⟨_, stored, holds, fun _ same => nomatch same⟩
  | paused last =>
    rw [← superstep_stays (superstep_ends last) fun _ same => nomatch same] at stored
    exact ⟨_, stored, holds, fun _ same => nomatch same⟩
  | @stopped _ _ _ _ _ o' _ _ _ stop last =>
    have stays : ∀ next, o' ≠ .returned (.moved next) := by
      rintro next rfl
      cases stop
    rw [← superstep_stays (superstep_ends last) stays] at stored
    refine ⟨_, stored, holds, ?_⟩
    rintro final rfl
    cases stop
  | moved first rest ih =>
    have ends := superstep_ends first
    exact ih (invariant.step ends holds) (superstep_saves ends)

def Holds (Inv : Saved → Prop) (threadId : String) (db : Database) : Prop :=
  ∀ saved, db.checkpoints threadId = some saved → Inv saved

def Ended (Inv : Saved → Prop) (o : Outcome Error InvestigationResult) : Prop :=
  ∀ result, o = .returned result → result.status ≠ .awaitingApproval →
    ∃ scenario values status, Inv ⟨values, none⟩ ∧ values.status = some status ∧
      result = finishedResult scenario values status

theorem finishes_ended {scenario : Scenario} {o' : Outcome Error (GraphState × Option Json)}
    {o : Outcome Error InvestigationResult} {saved : Saved} (finish : Finishes app scenario o' o)
    (holds : Inv saved) (final : ∀ values, o' = .returned (values, none) →
      saved = ⟨values, none⟩) : Ended Inv o := by
  rintro result rfl closed
  cases finish with
  | stopped stop => cases stop
  | @returned v _ returns =>
    obtain ⟨values, ask⟩ := v
    cases ask with
    | some payload =>
      obtain rfl : pausedResult scenario values payload = result := Program.ret.inj returns
      exact absurd rfl closed
    | none =>
      rw [final values rfl] at holds
      unfold resultFromState at returns
      dsimp only at returns
      cases ended : values.status with
      | none =>
        rw [ended] at returns
        cases returns
      | some status =>
        rw [ended] at returns
        exact ⟨scenario, values, status, holds, ended, (Program.ret.inj returns).symm⟩

theorem CheckpointInvariant.run (invariant : CheckpointInvariant permit app Inv)
    {scenario : Scenario} {threadId : String} {ceilings : Ceilings} {memoryEnabled : Bool}
    {s u : Database} {o : Outcome Error InvestigationResult} {g : List BackendEvent}
    (run : Runs .alone permit (runInvestigation app scenario threadId ceilings memoryEnabled) s o u g)
    (thread : Holds Inv threadId s) : Holds Inv threadId u ∧ Ended Inv o := by
  cases runInvestigation_entered run with
  | stopped fault same _ =>
    cases same
    refine ⟨thread, ?_⟩
    rintro result rfl
    exact fault.elim
  | walked same same' quiet walk finish =>
    cases same
    cases same'
    obtain ⟨saved, stored, holds, final⟩ := invariant.walk walk (invariant.entry _)
      (by simp [Database.saveCheckpoint, depsOf])
    refine ⟨fun saved' stored' => ?_, finishes_ended finish holds final⟩
    cases stored.symm.trans stored'
    exact holds

theorem CheckpointInvariant.resume (invariant : CheckpointInvariant permit app Inv)
    {scenario : Scenario} {threadId : String} {decision : Json} {ceilings : Ceilings}
    {s u : Database} {o : Outcome Error InvestigationResult} {g : List BackendEvent}
    (run : Runs .alone permit (resumeInvestigation app scenario threadId decision ceilings) s o u g)
    (thread : Holds Inv threadId s) : Holds Inv threadId u ∧ Ended Inv o := by
  cases resumeInvestigation_ends run with
  | stopped same fault =>
    cases same
    refine ⟨thread, ?_⟩
    rintro result rfl
    exact fault.elim
  | missing same _ =>
    cases same
    exact ⟨thread, fun result same => nomatch same⟩
  | walked _ same _ same' found read _ walk finish =>
    cases same
    cases same'
    cases read
    obtain ⟨saved, stored, holds, final⟩ := invariant.walk walk (thread _ found) found
    refine ⟨fun saved' stored' => ?_, finishes_ended finish holds final⟩
    cases stored.symm.trans stored'
    exact holds

end

structure Judged (saved : Saved) : Prop where
  gathering : saved.next = some .gatherContext →
    saved.values.diagnosis = none ∧ saved.values.providerError = none
  judged : saved.next = some .decide ∨ saved.next = none → ∀ diagnosis,
    saved.values.diagnosis = some diagnosis →
      saved.values.policyVerdict = some (policy diagnosis.recommendedAction)

theorem Judged.between {values : GraphState} {node : Node} (inside : node ≠ .gatherContext)
    (before : node ≠ .decide) : Judged ⟨values, some node⟩ where
  gathering same := absurd (Option.some.inj same) inside
  judged same := by
    rcases same with same | same
    · exact absurd (Option.some.inj same) before
    · cases same

theorem gathers_judged (app : App) {values next : GraphState} {answer : Option ModelResponse}
    (visit : Gathers app deps values answer next) (unsolved : values.diagnosis = none)
    (served : values.providerError = none) :
    Judged ⟨next, route deps .gatherContext next⟩ := by
  cases visit with
  | gaveUp text =>
    have routed : route deps .gatherContext (values.merge (gaveUp values text)) = some .decide := rfl
    rw [routed]
    refine ⟨fun same => ?_, fun _ diagnosis found => ?_⟩
    · cases same
    · cases unsolved.symm.trans found
  | answered response =>
    have kept : (values.merge (afterResponse app deps values response)).providerError = none := by
      unfold afterResponse
      dsimp only
      split <;> exact served
    cases found : (values.merge (afterResponse app deps values response)).diagnosis with
    | none =>
      refine ⟨fun _ => ⟨found, kept⟩, fun _ diagnosis same => ?_⟩
      cases found.symm.trans same
    | some diagnosis =>
      have routed : route deps .gatherContext
          (values.merge (afterResponse app deps values response)) = some .hypothesize := by
        simp [route, routeAfterGatherContext, found, kept]
      rw [routed]
      exact .between Node.noConfusion Node.noConfusion

theorem policy_judged {values : GraphState} {given : Option Json} {s t : Database}
    {update : GraphUpdate} {g : List BackendEvent}
    (ends : PolicyEnds .alone permit app deps values given s (.returned (.update update)) t g) :
    Judged ⟨values.merge update, some .decide⟩ where
  gathering same := nomatch same
  judged _ diagnosis found := by
    rw [← verdictOf_eq deps]
    cases ends with
    | undiagnosed missing => cases missing.symm.trans found
    | idle found' =>
      cases found'.symm.trans found
      rfl
    | ran found' =>
      cases found'.symm.trans found
      rfl
    | stopped _ _ stop => cases stop

theorem superstep_judged {node : Node} {values : GraphState} {given : Option Json}
    {s t : Database} {next : Saved} {g : List BackendEvent}
    (ends : SuperstepEnds .alone permit app deps node values given s (.returned (.moved next)) t g)
    (judged : Judged ⟨values, some node⟩) : Judged next := by
  cases ends with
  | entering _ fault _ => exact fault.elim
  | inside _ stop _ => cases stop
  | leaving _ _ _ fault _ => exact fault.elim
  | moved _ ends _ =>
    cases ends with
    | faulted _ _ fault => exact fault.elim
    | gathered _ ends =>
      obtain ⟨unsolved, served⟩ := judged.gathering rfl
      obtain ⟨_, ⟨text, rfl, _⟩ | ⟨response, rfl, _⟩⟩ := ends
      · exact gathers_judged app (.gaveUp text) unsolved served
      · exact gathers_judged app (.answered response) unsolved served
    | hypothesized => exact .between Node.noConfusion Node.noConfusion
    | classified => exact .between Node.noConfusion Node.noConfusion
    | gated ends => exact policy_judged ends
    | decided =>
      refine ⟨fun same => ?_, fun _ => judged.judged (.inl rfl)⟩
      cases same

theorem judged_invariant (permit : Permit Label ChatOutcome Database Error) (app : App) :
    CheckpointInvariant permit app Judged where
  step := superstep_judged
  entry previous := by
    refine ⟨fun _ => ?_, fun same => ?_⟩
    · cases previous <;> exact ⟨rfl, rfl⟩
    · rcases same with same | same <;> cases same

inductive Reached (app : App) (scenario : Scenario) (threadId : String) : Database → Prop where
  | new {db} (fresh : db.checkpoints threadId = none) : Reached app scenario threadId db
  | ran {s u o g ceilings memoryEnabled} (before : Reached app scenario threadId s)
      (run : Runs .alone anyFaults
        (runInvestigation app scenario threadId ceilings memoryEnabled) s o u g) :
      Reached app scenario threadId u
  | resumed {s u o g decision ceilings} (before : Reached app scenario threadId s)
      (run : Runs .alone anyFaults
        (resumeInvestigation app scenario threadId decision ceilings) s o u g) :
      Reached app scenario threadId u
  | elsewhere {s u} (before : Reached app scenario threadId s)
      (same : u.checkpoints threadId = s.checkpoints threadId) : Reached app scenario threadId u

/-- A result that closes an incident, of any run or resume on any thread. -/
inductive ClosingResult (app : App) (scenario : Scenario) (result : InvestigationResult) :
    Prop where
  | ran {threadId s u g ceilings memoryEnabled} (before : Reached app scenario threadId s)
      (run : Runs .alone anyFaults (runInvestigation app scenario threadId ceilings memoryEnabled)
        s (.returned result) u g) (closed : result.status ≠ .awaitingApproval) :
      ClosingResult app scenario result
  | resumed {threadId s u g decision ceilings} (before : Reached app scenario threadId s)
      (run : Runs .alone anyFaults (resumeInvestigation app scenario threadId decision ceilings)
        s (.returned result) u g) (closed : result.status ≠ .awaitingApproval) :
      ClosingResult app scenario result

def JudgedThread (threadId : String) (db : Database) : Prop :=
  ∀ saved, db.checkpoints threadId = some saved → Judged saved

def JudgedResult (o : Outcome Error InvestigationResult) : Prop :=
  ∀ result, o = .returned result → result.status ≠ .awaitingApproval →
    ∀ diagnosis, result.diagnosis = some diagnosis →
      result.policyVerdict = some (policy diagnosis.recommendedAction)

theorem Ended.judged {o : Outcome Error InvestigationResult} (ended : Ended Judged o) :
    JudgedResult o := by
  intro result returned closed diagnosis found
  obtain ⟨scenario, values, status, judged, _, rfl⟩ := ended result returned closed
  exact judged.judged (.inr rfl) diagnosis found

theorem run_judged {scenario : Scenario} {threadId : String} {ceilings : Ceilings}
    {memoryEnabled : Bool} {s u : Database} {o : Outcome Error InvestigationResult}
    {g : List BackendEvent}
    (run : Runs .alone permit (runInvestigation app scenario threadId ceilings memoryEnabled) s o u g)
    (thread : JudgedThread threadId s) : JudgedThread threadId u ∧ JudgedResult o :=
  ((judged_invariant permit app).run run thread).imp id Ended.judged

theorem resume_judged {scenario : Scenario} {threadId : String} {decision : Json}
    {ceilings : Ceilings} {s u : Database} {o : Outcome Error InvestigationResult}
    {g : List BackendEvent}
    (run : Runs .alone permit (resumeInvestigation app scenario threadId decision ceilings) s o u g)
    (thread : JudgedThread threadId s) : JudgedThread threadId u ∧ JudgedResult o :=
  ((judged_invariant permit app).resume run thread).imp id Ended.judged

/-- Run lemma: every checkpoint that a thread can reach is judged. -/
theorem Reached.judged {scenario : Scenario} {threadId : String} {db : Database}
    (reached : Reached app scenario threadId db) : JudgedThread threadId db := by
  induction reached with
  | new fresh => exact fun saved stored => nomatch fresh.symm.trans stored
  | ran _ run ih => exact (run_judged run ih).1
  | resumed _ run ih => exact (resume_judged run ih).1
  | elsewhere _ same ih => exact fun saved stored => ih saved (same ▸ stored)

theorem ClosingResult.verdict {scenario : Scenario} {result : InvestigationResult}
    (closing : ClosingResult app scenario result) {diagnosis : SubmitDiagnosisArgs}
    (found : result.diagnosis = some diagnosis) :
    result.policyVerdict = some (policy diagnosis.recommendedAction) := by
  cases closing with
  | ran before run closed => exact (run_judged run before.judged).2 result rfl closed diagnosis found
  | resumed before run closed =>
    exact (resume_judged run before.judged).2 result rfl closed diagnosis found

end OpsPilot.ThreadVerdicts
