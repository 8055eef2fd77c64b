import OpsPilot.InvestigationOutcomes
import OpsPilot.EvalScores

/-! Results tell the verdict in two ways, as a field or by pausing, and are coherent in both: on
every thread, for a run as for a resume, and for the evaluation that reads the verdict back. -/

namespace OpsPilot.ResultCoherence
open JsonText PolicyEngine AgentSchemas SyntheticEnvironment ScenarioSpecs EvalScores
open InvestigationState Models RunTrace GatherContext IdempotentExecution GraphNodes Investigation
open Superstep GatherLoop GraphRun PolicyGate InvestigationOutcomes DurableProgram StateGraph

variable {permit : Permit Label ChatOutcome Database Error} {app : App} {deps : NodeDeps}

def recommendedVerdict (scenario : Scenario) (diagnosis : SubmitDiagnosisArgs) : PolicyVerdict :=
  evaluate ⟨diagnosis.recommendedAction.name, scenario.service.name, .obj []⟩

/-- Nothing that the gate writes has been written. -/
structure Undecided (policyVerdict : Option PolicyVerdict)
    (remediationResult approvalDecision : Option Json) : Prop where
  verdict : policyVerdict = none
  remediation : remediationResult = none
  approval : approvalDecision = none

structure Coherent (scenario : Scenario) (result : InvestigationResult) : Prop where
  awaiting : result.status = .awaitingApproval → ∃ diagnosis payload,
    result.diagnosis = some diagnosis ∧ result.pendingApproval = some payload ∧
    payload.field? "action_type" = some (.str diagnosis.recommendedAction.name) ∧
    recommendedVerdict scenario diagnosis = .requireApproval ∧
    Undecided result.policyVerdict result.remediationResult result.approvalDecision
  diagnosed : result.status = .diagnosed → ∃ diagnosis, result.diagnosis = some diagnosis ∧
    result.policyVerdict = some (recommendedVerdict scenario diagnosis)
  incomplete : result.status ≠ .awaitingApproval → result.status ≠ .diagnosed →
    result.diagnosis = none ∧
    Undecided result.policyVerdict result.remediationResult result.approvalDecision

theorem Coherent.scored {scenario : Scenario} {result : InvestigationResult}
    (coherent : Coherent scenario result) (spec : ScenarioSpec) (latencySeconds : ℚ)
    (reached : (scoreDeterministic spec result latencySeconds).reachedDiagnosis = true) :
    ∃ diagnosis, result.diagnosis = some diagnosis ∧
      (scoreDeterministic spec result latencySeconds).policyVerdictCorrect =
        some (verdictName (recommendedVerdict scenario diagnosis) ==
          spec.groundTruth.expectedPolicyVerdict) := by
  have scored : (scoreDeterministic spec result latencySeconds).policyVerdictCorrect =
      some (effectivePolicyVerdict result == some spec.groundTruth.expectedPolicyVerdict) :=
    if_pos reached
  have ended : result.status = .diagnosed ∨ result.status = .awaitingApproval := by
    simpa [scoreDeterministic, EvalScores.reached] using reached
  rcases ended with diagnosed | awaiting
  · obtain ⟨diagnosis, found, judged⟩ := coherent.diagnosed diagnosed
    refine ⟨diagnosis, found, ?_⟩
    rw [scored]
    simp only [effectivePolicyVerdict, diagnosed, judged]
    rfl
  · obtain ⟨diagnosis, _, found, _, _, approval, _⟩ := coherent.awaiting awaiting
    refine ⟨diagnosis, found, ?_⟩
    rw [scored, approval]
    simp only [effectivePolicyVerdict, awaiting]
    rfl

inductive Settled (scenario : Scenario) (values : GraphState) : Prop where
  | solved {diagnosis} (found : values.diagnosis = some diagnosis)
      (judged : values.policyVerdict = some (recommendedVerdict scenario diagnosis))
      (served : values.providerError = none)
  | unsolved (missing : values.diagnosis = none)
      (undecided : Undecided values.policyVerdict values.remediationResult values.approvalDecision)

theorem Settled.decided {scenario : Scenario} {values : GraphState}
    (settled : Settled scenario values) (deps : NodeDeps) :
    Coherent scenario (finishedResult scenario (values.merge (decide deps values))
      (finalStatus deps values)) := by
  cases settled with
  | @solved diagnosis found judged served =>
    have status : finalStatus deps values = .diagnosed := by
      simp [finalStatus, served, found]
    rw [status]
    exact ⟨InvestigationStatus.noConfusion, fun _ => ⟨diagnosis, found, judged⟩,
      fun _ other => absurd rfl other⟩
  | unsolved missing undecided =>
    have unpaused : finalStatus deps values ≠ .awaitingApproval := by
      unfold finalStatus
      split_ifs <;> exact InvestigationStatus.noConfusion
    have incomplete : finalStatus deps values ≠ .diagnosed := by
      unfold finalStatus
      rw [missing]
      split_ifs with _ found
      · exact InvestigationStatus.noConfusion
      · cases found
      · exact InvestigationStatus.noConfusion
      · exact InvestigationStatus.noConfusion
    exact ⟨fun same => absurd same unpaused, fun same => absurd same incomplete,
      fun _ _ => ⟨missing, undecided⟩⟩

structure Diagnosed (values : GraphState) : Prop where
  found : ∃ diagnosis, values.diagnosis = some diagnosis
  served : values.providerError = none
  undecided : Undecided values.policyVerdict values.remediationResult values.approvalDecision

inductive Sound (scenario : Scenario) : Saved → Prop where
  | gathering {values} (missing : values.diagnosis = none) (served : values.providerError = none)
      (undecided : Undecided values.policyVerdict values.remediationResult
        values.approvalDecision) : Sound scenario ⟨values, some .gatherContext⟩
  | grounding {values} (diagnosed : Diagnosed values) : Sound scenario ⟨values, some .hypothesize⟩
  | classifying {values} (diagnosed : Diagnosed values) :
      Sound scenario ⟨values, some .classifyRisk⟩
  | gated {values} (diagnosed : Diagnosed values) : Sound scenario ⟨values, some .evaluatePolicy⟩
  | deciding {values} (settled : Settled scenario values) : Sound scenario ⟨values, some .decide⟩
  | ended {values} (coherent : ∀ status, values.status = some status →
        Coherent scenario (finishedResult scenario values status)) : Sound scenario ⟨values, none⟩

theorem sound_entry (scenario : Scenario) (previous : Option GraphState) :
    Sound scenario ⟨initialState.asInput previous, some .gatherContext⟩ := by
  cases previous <;> exact .gathering rfl rfl ⟨rfl, rfl, rfl⟩

theorem gathers_sound (app : App) {values next : GraphState} {answer : Option ModelResponse}
    (scenario : Scenario) (visit : Gathers app deps values answer next)
    (sound : Sound scenario ⟨values, some .gatherContext⟩) :
    Sound scenario ⟨next, route deps .gatherContext next⟩ := by
  cases sound with
  | gathering missing served undecided =>
    cases visit with
    | gaveUp text => exact .deciding (.unsolved missing undecided)
    | answered response =>
      have kept : (values.merge (afterResponse app deps values response)).providerError = none ∧
          Undecided (values.merge (afterResponse app deps values response)).policyVerdict
            (values.merge (afterResponse app deps values response)).remediationResult
            (values.merge (afterResponse app deps values response)).approvalDecision := by
        unfold afterResponse
        dsimp only
        split <;> exact ⟨served, undecided⟩
      generalize values.merge (afterResponse app deps values response) = next at kept
      obtain ⟨served, undecided⟩ := kept
      unfold route routeAfterGatherContext
      simp only [served, Option.isSome_none, Bool.false_eq_true, if_false]
      cases found : next.diagnosis with
      | some diagnosis => exact .grounding ⟨⟨diagnosis, found⟩, served, undecided⟩
      | none =>
        by_cases spent : next.estimatedCostUsd > deps.maxCostUsd ∨ next.stepsUsed ≥ deps.maxSteps
        · simp only [Option.isSome_none, Bool.false_eq_true, if_false, if_pos spent]
          exact .deciding (.unsolved found undecided)
        · simp only [Option.isSome_none, Bool.false_eq_true, if_false, if_neg spent]
          exact .gathering found served undecided

theorem policy_sound {rely : Rely Database} {values : GraphState} {given : Option Json}
    {s t : Database} {update : GraphUpdate} {g : List BackendEvent}
    (ends : PolicyEnds rely permit app deps values given s (.returned (.update update)) t g)
    (diagnosed : Diagnosed values) : Settled deps.scenario (values.merge update) := by
  obtain ⟨diagnosis, found⟩ := diagnosed.found
  cases ends with
  | undiagnosed missing => cases missing.symm.trans found
  | idle found' => exact .solved found' rfl diagnosed.served
  | ran found' => exact .solved found' rfl diagnosed.served
  | stopped _ _ stop => cases stop

theorem superstep_sound {rely : Rely Database} {node : Node} {values : GraphState}
    {given : Option Json} {s t : Database} {next : Saved} {g : List BackendEvent}
    (ends : SuperstepEnds rely permit app deps node values given s (.returned (.moved next)) t g)
    (sound : Sound deps.scenario ⟨values, some node⟩) : Sound deps.scenario next := by
  cases ends with
  | entering _ fault _ => exact fault.elim
  | inside _ stop _ => cases stop
  | leaving _ _ _ fault _ => exact fault.elim
  | moved _ ends _ =>
    cases ends with
    | faulted _ _ fault => exact fault.elim
    | gathered _ ends =>
      obtain ⟨_, ⟨text, rfl, _⟩ | ⟨response, rfl, _⟩⟩ := ends
      · exact gathers_sound app deps.scenario (.gaveUp text) sound
      · exact gathers_sound app deps.scenario (.answered response) sound
    | hypothesized =>
      cases sound with
      | grounding diagnosed =>
        refine .classifying ?_
        unfold hypothesize
        split <;> exact ⟨diagnosed.found, diagnosed.served, diagnosed.undecided⟩
    | classified =>
      cases sound with
      | classifying diagnosed =>
        refine .gated ?_
        unfold classifyRisk
        split <;> exact ⟨diagnosed.found, diagnosed.served, diagnosed.undecided⟩
    | gated ends =>
      cases sound with
      | gated diagnosed => exact .deciding (policy_sound ends diagnosed)
    | decided =>
      cases sound with
      | deciding settled =>
        refine .ended fun status ended => ?_
        cases ended
        exact settled.decided deps

structure Findings where
  diagnosis : Option SubmitDiagnosisArgs
  evidenceTrail : List ToolCallRecord
  stepsUsed : ℕ
  estimatedCostUsd : ℚ
  totalInputTokens : ℤ
  totalOutputTokens : ℤ
  evidenceGrounded : Option Bool
  ungroundedEvidence : List String
  riskTier : Option String

def findings (result : InvestigationResult) : Findings where
  diagnosis := result.diagnosis
  evidenceTrail := result.evidenceTrail
  stepsUsed := result.stepsUsed
  estimatedCostUsd := result.estimatedCostUsd
  totalInputTokens := result.totalInputTokens
  totalOutputTokens := result.totalOutputTokens
  evidenceGrounded := result.evidenceGrounded
  ungroundedEvidence := result.ungroundedEvidence
  riskTier := result.riskTier

def foundIn (values : GraphState) : Findings where
  diagnosis := values.diagnosis
  evidenceTrail := values.evidenceTrail
  stepsUsed := values.stepsUsed
  estimatedCostUsd := roundTo 6 values.estimatedCostUsd
  totalInputTokens := values.totalInputTokens
  totalOutputTokens := values.totalOutputTokens
  evidenceGrounded := values.evidenceGrounded
  ungroundedEvidence := values.ungroundedEvidence
  riskTier := values.riskTier

@[simp] theorem findings_pausedResult (scenario : Scenario) (values : GraphState) (payload : Json) :
    findings (pausedResult scenario values payload) = foundIn values := rfl

@[simp] theorem findings_finishedResult (scenario : Scenario) (values : GraphState)
    (status : InvestigationStatus) :
    findings (finishedResult scenario values status) = foundIn values := rfl

theorem foundIn_merge (values : GraphState) (policyVerdict remediationResult approvalDecision
    status) : foundIn (values.merge { policyVerdict, remediationResult, approvalDecision, status }) =
      foundIn values := by
  simp [foundIn, GraphState.merge]

/-- The thread of a paused result: at the gate or past it, with the findings as they were. -/
structure Held (paused : InvestigationResult) (saved : Saved) : Prop where
  past : pastGate saved.next
  kept : foundIn saved.values = findings paused

theorem superstep_held {rely : Rely Database} {paused : InvestigationResult} {node : Node}
    {values : GraphState} {given : Option Json} {s t : Database} {next : Saved}
    {g : List BackendEvent}
    (ends : SuperstepEnds rely permit app deps node values given s (.returned (.moved next)) t g)
    (held : Held paused ⟨values, some node⟩) : Held paused next := by
  cases ends with
  | entering _ fault _ => exact fault.elim
  | inside _ stop _ => cases stop
  | leaving _ _ _ fault _ => exact fault.elim
  | moved _ ends _ =>
    cases ends with
    | faulted _ _ fault => exact fault.elim
    | gathered => exact held.past.elim
    | hypothesized => exact held.past.elim
    | classified => exact held.past.elim
    | decided => exact ⟨trivial, (foundIn_merge _ _ _ _ _).trans held.kept⟩
    | gated ends =>
      refine ⟨trivial, Eq.trans ?_ held.kept⟩
      cases ends with
      | undiagnosed => exact foundIn_merge _ _ _ _ _
      | idle => exact foundIn_merge _ _ _ _ _
      | ran => exact foundIn_merge _ _ _ _ _
      | stopped _ _ stop => cases stop

/-- Other sessions do anything, but save no checkpoint of the thread. -/
def elsewhere (threadId : String) : Rely Database where
  holds s t := t.checkpoints threadId = s.checkpoints threadId
  refl _ := rfl
  trans first later := later.trans first

theorem execution_leaves {threadId key : String} {call : RemediationCall} {executor : Json}
    {s t : Database} {o : Outcome Error (Json × Bool)} {g : List BackendEvent}
    (ends : ExecutionEnds (elsewhere threadId) permit key call executor s o t g) :
    t.checkpoints threadId = s.checkpoints threadId := by
  cases ends with
  | found others => exact others
  | executed others _ later => exact later.trans others
  | refused others _ later => exact later.trans others
  | stopped others => exact others

theorem node_leaves {threadId : String} {node : Node} {values : GraphState} {given : Option Json}
    {s t : Database} {o : Outcome Error (Visit GraphUpdate Json)} {g : List BackendEvent}
    (ends : NodeEnds (elsewhere threadId) permit app deps values given s node o t g) :
    t.checkpoints threadId = s.checkpoints threadId := by
  cases ends with
  | gathered others => exact others
  | faulted others => exact others
  | hypothesized => rfl
  | classified => rfl
  | decided => rfl
  | gated ends =>
    cases ends with
    | undiagnosed => rfl
    | paused => rfl
    | idle => rfl
    | ran _ _ _ ends => exact execution_leaves ends
    | stopped _ _ _ ends => exact execution_leaves ends

theorem superstep_leaves {threadId : String} {node : Node} {values : GraphState}
    {given : Option Json} {s t : Database} {o : Outcome Error (Graph.Step Node GraphState Json)}
    {g : List BackendEvent}
    (ends : SuperstepEnds (elsewhere threadId) permit app deps node values given s o t g)
    (stays : ∀ next, o ≠ .returned (.moved next)) :
    t.checkpoints threadId = s.checkpoints threadId := by
  cases ends with
  | moved => exact absurd rfl (stays _)
  | entering others => exact others
  | paused entering ends leaving => exact leaving.trans ((node_leaves ends).trans entering)
  | inside entering _ ends => exact (node_leaves ends).trans entering
  | leaving entering ends leaving => exact leaving.trans ((node_leaves ends).trans entering)

theorem superstep_pauses {rely : Rely Database} {node : Node} {values : GraphState}
    {given : Option Json} {s t : Database} {payload : Json} {g : List BackendEvent}
    (ends : SuperstepEnds rely permit app deps node values given s (.returned (.paused payload)) t g) :
    node = .evaluatePolicy ∧ ∃ diagnosis, values.diagnosis = some diagnosis ∧
      verdictOf deps diagnosis = .requireApproval ∧ payload = approvalPayload deps diagnosis := by
  cases ends with
  | entering _ fault _ => exact fault.elim
  | inside _ stop _ => cases stop
  | leaving _ _ _ fault _ => exact fault.elim
  | paused _ ends _ =>
    cases ends with
    | faulted _ _ fault => exact fault.elim
    | gated ends =>
      cases ends with
      | paused found approval => exact ⟨rfl, _, found, approval, rfl⟩
      | stopped _ _ stop => cases stop

inductive Left (deps : NodeDeps) : Outcome Error (GraphState × Option Json) → Saved → Prop where
  | ended (values) : Left deps (.returned (values, none)) ⟨values, none⟩
  | paused {values diagnosis} (found : values.diagnosis = some diagnosis)
      (approval : verdictOf deps diagnosis = .requireApproval) :
      Left deps (.returned (values, some (approvalPayload deps diagnosis)))
        ⟨values, some .evaluatePolicy⟩
  | stopped {o saved} (stop : ∀ v, o ≠ .returned v) : Left deps o saved

structure Keeps (permit : Permit Label ChatOutcome Database Error) (app : App)
    (scenario : Scenario) (threadId : String) (Inv : Saved → Prop) : Prop where
  step : ∀ {memory : String} {ceilings : Ceilings} {node : Node} {values : GraphState}
    {given : Option Json} {s t : Database} {next : Saved} {g : List BackendEvent},
    SuperstepEnds (elsewhere threadId) permit app (depsOf app scenario ceilings threadId memory)
      node values given s (.returned (.moved next)) t g → Inv ⟨values, some node⟩ → Inv next

section
variable {scenario : Scenario} {threadId memory : String} {ceilings : Ceilings}
  {Inv : Saved → Prop} {s u : Database} {g : List BackendEvent}

theorem Keeps.walk (keeps : Keeps permit app scenario threadId Inv) {limit : ℕ}
    {checkpoint : Saved} {given : Option Json} {o : Outcome Error (GraphState × Option Json)}
    (walk : (buildGraph app (depsOf app scenario ceilings threadId memory)).Walk
      (elsewhere threadId) permit limit checkpoint given s o u g)
    (holds : Inv checkpoint) (stored : s.checkpoints threadId = some checkpoint) :
    ∃ saved, u.checkpoints threadId = some saved ∧ Inv saved ∧
      Left (depsOf app scenario ceilings threadId memory) o saved := by
  induction walk with
  | finished => exact ⟨_, stored, holds, .ended _⟩
  | exhausted => exact ⟨_, stored, holds, .stopped fun _ same => nomatch same⟩
  | paused last =>
    have ends := superstep_ends last
    obtain ⟨rfl, diagnosis, found, approval, rfl⟩ := superstep_pauses ends
    rw [← superstep_leaves ends fun _ same => nomatch same] at stored
    exact ⟨_, stored, holds, .paused found approval⟩
  | @stopped _ _ _ _ _ o' _ _ _ stop last =>
    have stays : ∀ next, o' ≠ .returned (.moved next) := by
      rintro next rfl
      cases stop
    rw [← superstep_leaves (superstep_ends last) stays] at stored
    refine ⟨_, stored, holds, .stopped ?_⟩
    rintro v rfl
    cases stop
  | moved first rest ih =>
    have ends := superstep_ends first
    refine ih (keeps.step ends holds) ?_
    cases ends with
    | entering _ fault _ => exact fault.elim
    | inside _ stop _ => cases stop
    | leaving _ _ _ fault _ => exact fault.elim
    | moved => simp [Database.saveCheckpoint, depsOf]

inductive CallEnds (app : App) (scenario : Scenario) (threadId : String) (Inv : Saved → Prop)
    (s u : Database) (o : Outcome Error InvestigationResult) : Prop where
  | stopped (stop : ∀ result, o ≠ .returned result)
      (same : u.checkpoints threadId = s.checkpoints threadId)
  | walked {memory ceilings saved o'} (stored : u.checkpoints threadId = some saved)
      (holds : Inv saved) (left : Left (depsOf app scenario ceilings threadId memory) o' saved)
      (finish : Finishes app scenario o' o)

theorem CallEnds.thread {o : Outcome Error InvestigationResult}
    (ends : CallEnds app scenario threadId Inv s u o)
    (thread : ∀ saved, s.checkpoints threadId = some saved → Inv saved) :
    ∀ saved, u.checkpoints threadId = some saved → Inv saved := by
  intro saved stored
  cases ends with
  | stopped _ same => exact thread saved (same ▸ stored)
  | walked stored' holds =>
    cases stored.symm.trans stored'
    exact holds

theorem Keeps.run (keeps : Keeps permit app scenario threadId Inv) {memoryEnabled : Bool}
    {o : Outcome Error InvestigationResult}
    (entry : ∀ previous, Inv ⟨initialState.asInput previous, some .gatherContext⟩)
    (run : Runs (elsewhere threadId) permit
      (runInvestigation app scenario threadId ceilings memoryEnabled) s o u g) :
    CallEnds app scenario threadId Inv s u o := by
  cases runInvestigation_entered run with
  | stopped fault others _ => exact .stopped fault.unreturned others
  | walked _ _ _ walk finish =>
    obtain ⟨saved, stored, holds, left⟩ :=
      keeps.walk walk (entry _) (by simp [Database.saveCheckpoint])
    exact .walked stored holds left finish

theorem Keeps.resume (keeps : Keeps permit app scenario threadId Inv) {decision : Json}
    {o : Outcome Error InvestigationResult}
    (run : Runs (elsewhere threadId) permit
      (resumeInvestigation app scenario threadId decision ceilings) s o u g)
    (thread : ∀ saved, s.checkpoints threadId = some saved → Inv saved) :
    CallEnds app scenario threadId Inv s u o := by
  cases resumeInvestigation_ends run with
  | stopped others fault => exact .stopped fault.unreturned others
  | missing others _ => exact .stopped (fun _ same => nomatch same) others
  | walked _ first _ later found read _ walk finish =>
    have same := later.trans first
    obtain ⟨saved, stored, holds, left⟩ :=
      keeps.walk walk (thread _ (same.symm.trans found)) (Eq.trans read found)
    exact .walked stored holds left finish

theorem CallEnds.coherent {o : Outcome Error InvestigationResult}
    (ends : CallEnds app scenario threadId (Sound scenario) s u o) {result : InvestigationResult}
    (returned : o = .returned result) : Coherent scenario result ∧
      ∃ saved, u.checkpoints threadId = some saved ∧ foundIn saved.values = findings result ∧
        (result.status = .awaitingApproval → saved.next = some .evaluatePolicy) := by
  subst returned
  cases ends with
  | stopped stop => exact absurd rfl (stop _)
  | walked stored sound left finish =>
    cases finish with
    | stopped stop => cases stop
    | returned returns =>
      cases left with
      | stopped stop => exact absurd rfl (stop _)
      | paused found approval =>
        cases Program.ret.inj returns
        refine ⟨⟨fun _ => ?_, fun same => (nomatch same), fun other => absurd rfl other⟩,
          _, stored, rfl, fun _ => rfl⟩
        exact ⟨_, _, found, rfl, rfl, approval, rfl, rfl, rfl⟩
      | ended values =>
        unfold resultFromState at returns
        dsimp only at returns
        cases status : values.status with
        | none =>
          rw [status] at returns
          cases returns
        | some ended =>
          rw [status] at returns
          cases Program.ret.inj returns
          cases sound with
          | ended coherent =>
            refine ⟨coherent _ status, _, stored, rfl, fun awaiting => ?_⟩
            obtain ⟨_, _, _, pending, _⟩ := (coherent _ status).awaiting awaiting
            cases pending

theorem keeps_sound (permit : Permit Label ChatOutcome Database Error) (app : App)
    (scenario : Scenario) (threadId : String) :
    Keeps permit app scenario threadId (Sound scenario) :=
  ⟨fun ends sound => superstep_sound ends sound⟩

/-- A call that works on a thread. -/
inductive ThreadCall (app : App) (scenario : Scenario) (threadId : String) :
    Backend InvestigationResult → Prop where
  | run (ceilings memoryEnabled) : ThreadCall app scenario threadId
      (runInvestigation app scenario threadId ceilings memoryEnabled)
  | resume (decision ceilings) : ThreadCall app scenario threadId
      (resumeInvestigation app scenario threadId decision ceilings)

theorem ThreadCall.sound {call : Backend InvestigationResult} {o : Outcome Error InvestigationResult}
    (called : ThreadCall app scenario threadId call)
    (run : Runs (elsewhere threadId) permit call s o u g)
    (thread : ∀ saved, s.checkpoints threadId = some saved → Sound scenario saved) :
    CallEnds app scenario threadId (Sound scenario) s u o := by
  cases called with
  | run => exact (keeps_sound permit app scenario threadId).run (sound_entry scenario) run
  | resume => exact (keeps_sound permit app scenario threadId).resume run thread

/-- The states of a thread: calls on it, each of which may stop anywhere, one after the other. -/
inductive ThreadState (app : App) (scenario : Scenario) (threadId : String) : Database → Prop where
  | new {db} (fresh : db.checkpoints threadId = none) : ThreadState app scenario threadId db
  | called {s u : Database} {call : Backend InvestigationResult}
      {o : Outcome Error InvestigationResult} {g : List BackendEvent}
      (before : ThreadState app scenario threadId s)
      (called : ThreadCall app scenario threadId call)
      (run : Runs (elsewhere threadId) anyFaults call s o u g) :
      ThreadState app scenario threadId u
  | idle {s u : Database} (before : ThreadState app scenario threadId s)
      (others : (elsewhere threadId).holds s u) : ThreadState app scenario threadId u

theorem ThreadState.sound (state : ThreadState app scenario threadId s) :
    ∀ saved, s.checkpoints threadId = some saved → Sound scenario saved := by
  induction state with
  | new fresh => exact fun saved stored => nomatch fresh.symm.trans stored
  | called _ called run ih => exact (called.sound run ih).thread ih
  | idle _ others ih => exact fun saved stored => ih saved (others ▸ stored)

/-- The states of a thread that a call left with a pause, and that is resumed from there. -/
inductive Waits (app : App) (scenario : Scenario) (threadId : String)
    (paused : InvestigationResult) : Database → Prop where
  | paused {s u : Database} {call : Backend InvestigationResult} {g : List BackendEvent}
      (before : ThreadState app scenario threadId s)
      (called : ThreadCall app scenario threadId call)
      (run : Runs (elsewhere threadId) anyFaults call s (.returned paused) u g)
      (awaiting : paused.status = .awaitingApproval) : Waits app scenario threadId paused u
  | resumed {s u : Database} {decision : Json} {ceilings : Ceilings}
      {o : Outcome Error InvestigationResult} {g : List BackendEvent}
      (before : Waits app scenario threadId paused s)
      (run : Runs (elsewhere threadId) anyFaults
        (resumeInvestigation app scenario threadId decision ceilings) s o u g) :
      Waits app scenario threadId paused u
  | idle {s u : Database} (before : Waits app scenario threadId paused s)
      (others : (elsewhere threadId).holds s u) : Waits app scenario threadId paused u

theorem Waits.held {paused : InvestigationResult} (waits : Waits app scenario threadId paused s) :
    ∃ saved, s.checkpoints threadId = some saved ∧ Held paused saved := by
  induction waits with
  | paused before called run awaiting =>
    obtain ⟨_, saved, stored, kept, gate⟩ := (called.sound run before.sound).coherent rfl
    refine ⟨saved, stored, ?_, kept⟩
    rw [gate awaiting]
    trivial
  | @resumed s u _ _ _ _ _ run ih =>
    obtain ⟨saved, stored, held⟩ := ih
    have keeps : Keeps anyFaults app scenario threadId (Held paused) :=
      ⟨fun ends held => superstep_held ends held⟩
    have ends := keeps.resume run fun saved' stored' => by
      cases stored.symm.trans stored'
      exact held
    cases ends with
    | walked stored held => exact ⟨_, stored, held⟩
    | stopped _ same => exact ⟨saved, same.trans stored, held⟩
  | idle _ others ih =>
    obtain ⟨saved, stored, held⟩ := ih
    exact ⟨saved, others.trans stored, held⟩

def gateNode (node : Node) : Prop := pastGate (some node)

theorem gateNodes_closed (app : App) (deps : NodeDeps) : (buildGraph app deps).Closed gateNode := by
  intro node values next inside routed
  cases node with
  | evaluatePolicy =>
    cases routed
    trivial
  | decide => cases routed
  | gatherContext | hypothesize | classifyRisk => exact inside.elim

def quiet (l : Label) : Prop := isChat l = false

theorem perform_quiet {α : Type} {l : Label} {update : Database → Database} {query : Database → α}
    (unasked : isChat l = false) : Carries quiet (Program.perform l update query : Backend α) :=
  Carries.perform unasked

theorem visit_quiet (app : App) (deps : NodeDeps) (node : Node) (values : GraphState)
    (answer : Option Json) (inside : gateNode node) :
    Carries quiet (visit app deps node values answer) := by
  refine (perform_quiet rfl).bind fun _ => ?_
  refine Carries.bind ?_ (by rintro (update | payload) <;> trivial)
  cases node with
  | evaluatePolicy =>
    refine (evaluatePolicy_carries app deps values answer).weaken fun l execution => ?_
    cases l <;> first | rfl | exact execution.elim
  | decide => trivial
  | gatherContext | hypothesize | classifyRisk => exact inside.elim

theorem reenter_quiet (app : App) (deps : NodeDeps) (scenario : Scenario) (limit : ℕ)
    {saved : Saved} (past : pastGate saved.next) (answer : Option Json) :
    Carries quiet (((buildGraph app deps).supersteps limit saved answer).bind
      (resultFromState app.py scenario)) := by
  refine Carries.bind (Graph.supersteps_carries_within (gateNodes_closed app deps)
    (visit_quiet app deps) (fun _ => perform_quiet rfl) (fun _ => perform_quiet rfl)
    limit saved answer ?_) fun final => ?_
  · intro node next
    rw [next] at past
    exact past
  · obtain ⟨result, returns⟩ | ⟨e, raises⟩ := resultFromState_cases app.py scenario final
    · rw [returns]
      trivial
    · rw [raises]
      trivial

theorem resume_quiet {decision : Json} {o : Outcome Error InvestigationResult}
    (run : Runs (elsewhere threadId) permit
      (resumeInvestigation app scenario threadId decision ceilings) s o u g)
    (waiting : ∃ saved, s.checkpoints threadId = some saved ∧ pastGate saved.next) :
    ∀ ev ∈ g, quiet ev.label := by
  obtain ⟨saved, stored, past⟩ := waiting
  change Runs (elsewhere threadId) permit ((mark (.resume threadId decision)).bind _) s o u g at run
  obtain ⟨_, a, g₁, g₂, resumed, rest, rfl⟩ | ⟨o', stop, stopped⟩ := run.of_bind
  swap
  · exact ((perform_quiet rfl).runs stopped).1
  obtain ⟨loaded, b, g₂, g₃, loading, walking, rfl⟩ | ⟨o', stop, stopped⟩ := rest.of_bind
  swap
  · exact List.forall_mem_append.mpr
      ⟨((perform_quiet rfl).runs resumed).1, ((perform_quiet rfl).runs stopped).1⟩
  refine List.forall_mem_append.mpr ⟨((perform_quiet rfl).runs resumed).1,
    List.forall_mem_append.mpr ⟨((perform_quiet rfl).runs loading).1, ?_⟩⟩
  have found : b.checkpoints threadId = some saved :=
    (read_ends loading).1.trans ((mark_ends resumed).1.trans stored)
  obtain ⟨_, ⟨same, _⟩ | ⟨fault, _⟩⟩ := read_ends loading
  · cases same
    rw [found] at walking
    have asks : Carries quiet (loadService scenario saved) :=
      loadService_carries (show isChat _ = false from rfl) saved
    exact ((asks.bind fun _ => reenter_quiet app _ scenario _ past _).runs walking).1
  · exact fault.elim

/-- Every result of a thread is coherent, and the evaluation scores the verdict of the policy
engine; a resume of a paused thread calls no model and returns the findings of the pause. -/
theorem results_coherent {call : Backend InvestigationResult}
    {o : Outcome Error InvestigationResult} (state : ThreadState app scenario threadId s)
    (called : ThreadCall app scenario threadId call)
    (run : Runs (elsewhere threadId) anyFaults call s o u g) :
    (∀ result, o = .returned result → Coherent scenario result ∧
      ∀ spec latencySeconds,
        (scoreDeterministic spec result latencySeconds).reachedDiagnosis = true →
        ∃ diagnosis, result.diagnosis = some diagnosis ∧
          (scoreDeterministic spec result latencySeconds).policyVerdictCorrect =
            some (verdictName (recommendedVerdict scenario diagnosis) ==
              spec.groundTruth.expectedPolicyVerdict)) ∧
    ∀ paused decision ceilings, Waits app scenario threadId paused s →
      call = resumeInvestigation app scenario threadId decision ceilings →
      chatAttempts g = 0 ∧ ∀ result, o = .returned result → findings result = findings paused := by
  have ends := called.sound run state.sound
  refine ⟨fun result returned => ?_, ?_⟩
  · have coherent := (ends.coherent returned).1
    exact ⟨coherent, fun spec latencySeconds => coherent.scored spec latencySeconds⟩
  · rintro paused decision ceilings waits rfl
    obtain ⟨saved, stored, held⟩ := waits.held
    refine ⟨?_, fun result returned => ?_⟩
    · have quiet := resume_quiet run ⟨saved, stored, held.past⟩
      exact List.countP_eq_zero.mpr fun ev mem => by rw [quiet ev mem]; exact Bool.false_ne_true
    · obtain ⟨_, after, stored', kept, _⟩ := ends.coherent returned
      obtain ⟨saved', stored'', held'⟩ := (waits.resumed run).held
      cases stored'.symm.trans stored''
      exact kept.symm.trans held'.kept

end

/-- A rollback that is proposed, and approved. -/
theorem results_coherent_rollback :
    let chat := fun _ => .response rollbackDiagnosis
    let run := eval (runInvestigation checkoutApp checkoutDeployOutage "incident-1") chat
      Database.empty
    let resumed := eval (resumeInvestigation checkoutApp checkoutDeployOutage "incident-1"
      (.obj [("approved", .bool true), ("params", .obj [("target_version", .str "v2.7")])]))
      chat run.2.1
    chatAttempts run.2.2 = 1 ∧ chatAttempts resumed.2.2 = 0 ∧
      ∃ result, resumed.1 = .returned result ∧
        (scoreDeterministic checkoutDeployOutageSpec result 0).policyVerdictCorrect = some true := by
  intro chat run resumed
  have quietly : ∀ {α : Type} {p : Backend α} {s u : Database} {o : Outcome Error α}
      {g : List BackendEvent}, Runs .alone noFaults p s o u g →
      Runs (elsewhere "incident-1") anyFaults p s o u g := fun ran =>
    (ran.mono fun _ _ _ => trivial).among (by rintro _ _ rfl; rfl)
  have ran := quietly (eval_runs (runInvestigation checkoutApp checkoutDeployOutage "incident-1")
    chat Database.empty)
  have again := quietly (eval_runs (resumeInvestigation checkoutApp checkoutDeployOutage
    "incident-1" (.obj [("approved", .bool true), ("params", .obj [("target_version", .str "v2.7")])]))
    chat run.2.1)
  obtain ⟨paused, pauses, awaiting⟩ :=
    Outcome.of_value (o := run.1) (p := fun paused => paused.status == .awaitingApproval)
      (by decide +kernel)
  obtain ⟨result, returned, scored⟩ :=
    Outcome.of_value (o := resumed.1) (p := fun result => reached result &&
      result.diagnosis.any (·.recommendedAction == .rollbackDeployment)) (by decide +kernel)
  rw [Bool.and_eq_true, Option.any_eq_true] at scored
  obtain ⟨reached, diagnosis, found, action⟩ := scored
  change Runs _ _ _ _ run.1 _ _ at ran
  rw [pauses] at ran
  have before : ThreadState checkoutApp checkoutDeployOutage "incident-1" Database.empty := .new rfl
  have waits := Waits.paused before (.run {} true) ran (beq_iff_eq.mp awaiting)
  obtain ⟨results, resumes⟩ :=
    results_coherent (before.called (.run {} true) ran) (.resume _ {}) again
  refine ⟨by decide +kernel, (resumes paused _ {} waits rfl).1, result, returned, ?_⟩
  obtain ⟨diagnosis', found', correct⟩ :=
    (results result returned).2 checkoutDeployOutageSpec 0 reached
  cases found.symm.trans found'
  rw [correct, recommendedVerdict, beq_iff_eq.mp action]
  rfl

end OpsPilot.ResultCoherence
