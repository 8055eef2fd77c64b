import OpsPilot.PolicyGate

/-! What a run on a new thread leaves behind when it returns, and what a resume from the policy
gate leaves behind, however it ends. Nobody else writes meanwhile. -/

namespace OpsPilot.InvestigationOutcomes
open JsonText AgentSchemas SyntheticEnvironment InvestigationState Models RunTrace GatherContext
open GraphNodes Investigation Superstep GatherLoop GraphRun RunCeilings PolicyGate DurableProgram
open StateGraph

variable {app : App} {deps : NodeDeps} {permit : Permit Label ChatOutcome Database Error}

structure Stepped (values : GraphState) : Prop where
  ordered : values.evidenceTrail.Pairwise fun a b => a.step ≤ b.step
  used : ∀ record ∈ values.evidenceTrail, record.step ≤ values.stepsUsed
  recorded : DiagnosisRecorded values

theorem Stepped.of_carried {before after : GraphState} (stepped : Stepped before)
    (carried : Carried before after) : Stepped after :=
  ⟨carried.evidenceTrail ▸ stepped.ordered,
    carried.evidenceTrail ▸ carried.stepsUsed ▸ stepped.used, by
      unfold DiagnosisRecorded
      rw [carried.evidenceTrail, carried.diagnosis]
      exact stepped.recorded⟩

theorem Stepped.extend {values : GraphState} {records : List ToolCallRecord} {next : GraphState}
    (stepped : Stepped values) (steps : ∀ record ∈ records, record.step = values.stepsUsed + 1)
    (trail : next.evidenceTrail = values.evidenceTrail ++ records)
    (later : next.stepsUsed = values.stepsUsed + 1) (recorded : DiagnosisRecorded next) :
    Stepped next := by
  refine ⟨?_, ?_, recorded⟩
  · rw [trail, List.pairwise_append]
    refine ⟨stepped.ordered, ?_, ?_⟩
    · exact List.pairwise_of_forall_mem_list fun a first b second => by
        rw [steps a first, steps b second]
    · intro a old b new
      have := stepped.used a old
      rw [steps b new]
      omega
  · intro record mem
    rw [trail] at mem
    rw [later]
    rcases List.mem_append.mp mem with old | new
    · exact (stepped.used record old).trans (Nat.le_succ _)
    · exact (steps record new).le

def receivedNames (h : List BackendEvent) : List String :=
  (responses h).flatMap fun response => response.toolUseBlocks.map (·.name)

theorem gathers_evidence {state next : GraphState} {answer : Option ModelResponse}
    (visit : Gathers app deps state answer next) : ∃ records,
      next.evidenceTrail = state.evidenceTrail ++ records ∧
      (∀ record ∈ records, record.step = state.stepsUsed + 1) ∧
      ∀ record ∈ records, ∃ response, answer = some response ∧
        record.toolName ∈ response.toolUseBlocks.map (·.name) := by
  cases visit with
  | gaveUp text => exact ⟨[], rfl, by simp⟩
  | answered response =>
    obtain ⟨steps, names⟩ := roundOf_evidence app deps state response
    by_cases quiet : response.toolUseBlocks = []
    · exact ⟨[], by simp [GraphState.merge, afterResponse, quiet], by simp⟩
    · refine ⟨_, by simp [GraphState.merge, afterResponse, quiet], steps, ?_⟩
      intro record mem
      exact ⟨response, rfl, names ▸ List.mem_map_of_mem mem⟩

theorem gathering_stepped {state final : GraphState} {states : List GraphState}
    {answers : List (Option ModelResponse)}
    (loop : Gathering app deps state states answers final) (stepped : Stepped state) :
    Stepped final := by
  induction loop with
  | last visit _ =>
    obtain ⟨records, trail, steps, _⟩ := gathers_evidence visit
    exact stepped.extend steps trail visit.stepsUsed (visit.recorded stepped.recorded)
  | more visit _ _ ih =>
    obtain ⟨records, trail, steps, _⟩ := gathers_evidence visit
    exact ih (stepped.extend steps trail visit.stepsUsed (visit.recorded stepped.recorded))

theorem gathering_named {state final : GraphState} {states : List GraphState}
    {answers : List (Option ModelResponse)}
    (loop : Gathering app deps state states answers final) :
    ∀ record ∈ final.evidenceTrail, record ∈ state.evidenceTrail ∨
      ∃ response ∈ answers.reduceOption, record.toolName ∈ response.toolUseBlocks.map (·.name) := by
  induction loop with
  | last visit _ =>
    obtain ⟨records, trail, _, named⟩ := gathers_evidence visit
    intro record mem
    rw [trail] at mem
    refine (List.mem_append.mp mem).imp id fun new => ?_
    obtain ⟨response, rfl, name⟩ := named record new
    exact ⟨response, by simp [List.reduceOption], name⟩
  | @more _ answer _ _ answers _ visit _ _ ih =>
    obtain ⟨records, trail, _, named⟩ := gathers_evidence visit
    have split : (answer :: answers).reduceOption = [answer].reduceOption ++ answers.reduceOption :=
      List.reduceOption_append [answer] answers
    intro record mem
    rcases ih record mem with old | ⟨response, received, name⟩
    · rw [trail] at old
      refine (List.mem_append.mp old).imp id fun new => ?_
      obtain ⟨response, rfl, name⟩ := named record new
      exact ⟨response, by rw [split]; exact List.mem_append_left _ (by simp [List.reduceOption]),
        name⟩
    · exact .inr ⟨response, by rw [split]; exact List.mem_append_right _ received, name⟩

theorem pauses_eq_nil {g : List BackendEvent}
    (quiet : ∀ threadId payload, .performed (.interrupt threadId payload) ∉ g) : pauses g = [] := by
  rw [pauses, List.filterMap_eq_nil_iff]
  intro ev mem
  unfold pauseOf
  split
  · exact absurd mem (quiet _ _)
  · rfl

theorem pauses_of_policy {values : GraphState} {answer : Option Json} {s t : Database}
    {o : Outcome Error (Visit GraphUpdate Json)} {g : List BackendEvent} {rely : Rely Database}
    (ends : PolicyEnds rely permit app deps values answer s o t g) : pauses g = [] :=
  pauses_eq_nil fun _ _ mem => policy_labels ends _ mem

theorem pauses_of_prelude {g : List BackendEvent}
    (quiet : ∀ ev ∈ g, ∃ l, ev = Event.performed l ∧ ofPrelude l) : pauses g = [] := by
  refine pauses_eq_nil fun threadId payload mem => ?_
  obtain ⟨l, same, inside⟩ := quiet _ mem
  cases same
  exact inside

inductive RunReturned (threadId : String) (s : Database) (g : List BackendEvent)
    (values : GraphState) (result : InvestigationResult) (u : Database) : Prop where
  | ended (closed : result.status ≠ .awaitingApproval)
      (saved : u.checkpoints threadId = some ⟨values, none⟩) (unpaused : pauses g = [])
  | paused {diagnosis payload} (awaiting : result.status = .awaitingApproval)
      (saved : u.checkpoints threadId = some ⟨values, some .evaluatePolicy⟩)
      (found : values.diagnosis = some diagnosis)
      (approval : policy diagnosis.recommendedAction = .requireApproval)
      (shown : result.pendingApproval = some payload)
      (asked : .performed (.interrupt threadId payload) ∈ g)
      (kept : u.remediationExecutions = s.remediationExecutions)

theorem saveCheckpoint_self (db : Database) (threadId : String) (checkpoint : Saved) :
    (db.saveCheckpoint threadId checkpoint).checkpoints threadId = some checkpoint := by
  simp [Database.saveCheckpoint]

theorem initialState_stepped : Stepped initialState :=
  ⟨List.Pairwise.nil, fun _ mem => (List.not_mem_nil mem).elim, fun _ found => nomatch found⟩

theorem named_received {states : List GraphState} {answers : List (Option ModelResponse)}
    {last : GraphState} {prelude g₁ g₂ : List BackendEvent}
    (loop : Gathering app deps initialState states answers last) (trace : LoopTrace states answers g₁)
    (record : ToolCallRecord) (mem : record ∈ last.evidenceTrail) :
    record.toolName ∈ receivedNames (prelude ++ (g₁ ++ g₂)) := by
  rcases gathering_named loop record mem with old | ⟨response, received, name⟩
  · cases old
  · refine List.mem_flatMap.mpr ⟨response, ?_, name⟩
    rw [responses_append, responses_append, trace.responses]
    exact List.mem_append_right _ (List.mem_append_left _ received)

theorem run_returned {scenario : Scenario} {threadId : String} {s u : Database}
    {result : InvestigationResult} {g : List BackendEvent}
    (run : Runs .alone permit (runInvestigation app scenario threadId) s (.returned result) u g)
    (new : s.checkpoints threadId = none) : ∃ values, Stepped values ∧
      (∀ record ∈ values.evidenceTrail, record.toolName ∈ receivedNames g) ∧
      result.evidenceTrail = values.evidenceTrail ∧ result.stepsUsed = values.stepsUsed ∧
      RunReturned threadId s g values result u := by
  cases runInvestigation_ends run with
  | stopped cause =>
    rcases cause with fault | refused
    · exact fault.elim
    · cases refused.1
  | @returned memory s₁ t final ask _ _ prelude g' same quiet kept ends returns =>
    cases same
    rw [new] at ends
    cases ends with
    | faulted fault => exact fault.elim
    | @ceiling states answers last t' g₁ loop _ trace _ =>
      obtain rfl : finishedResult scenario _ (finalStatus _ _) = result := Program.ret.inj returns
      have carried := carried_decide (depsOf app scenario {} threadId memory) last
      refine ⟨_, (gathering_stepped loop initialState_stepped).of_carried carried, ?_, rfl, rfl, ?_⟩
      · rw [carried.evidenceTrail]
        exact named_received loop trace
      · refine .ended (finalStatus_closed _ _) (saveCheckpoint_self _ _ _) ?_
        rw [pauses_append, pauses_append, pauses_of_prelude quiet, trace.pauses]
        rfl
    | @gate states answers last t' _ _ g₁ g₂ loop _ trace kept' ends =>
      have stepped := (gathering_stepped loop initialState_stepped).of_carried
        (carried_checked app.py last)
      have checkedNamed : ∀ {g₃}, ∀ record ∈ (checked app.py last).evidenceTrail,
          record.toolName ∈ receivedNames (prelude ++
            (g₁ ++ checkTrace app (depsOf app scenario {} threadId memory) last ++ g₃)) := by
        intro g₃
        rw [(carried_checked app.py last).evidenceTrail, List.append_assoc]
        exact named_received loop trace
      cases ends with
      | before _ cause =>
        rcases cause with fault | refused
        · exact fault.elim
        · cases refused.1
      | unsaved _ _ _ fault => exact fault.elim
      | undecided _ _ _ _ fault => exact fault.elim
      | @paused diagnosis _ found approval _ same =>
        cases same
        obtain rfl : pausedResult scenario _ _ = result := Program.ret.inj returns
        refine ⟨_, stepped, checkedNamed, rfl, rfl, .paused rfl (saveCheckpoint_self _ _ _) found
          (verdictOf_eq _ diagnosis ▸ approval) rfl ?_ ?_⟩
        · exact List.mem_append_right _ (List.mem_append_right _ (by simp [depsOf]))
        · exact (remediations_kept kept').trans (remediations_kept kept)
      | @finished _ update _ _ _ g₃ same policyEnds same' same'' =>
        cases same
        cases same'
        cases same''
        obtain rfl : finishedResult scenario _ (finalStatus _ _) = result := Program.ret.inj returns
        have carried := (carried_policy policyEnds).trans (carried_decide
          (depsOf app scenario {} threadId memory) ((checked app.py last).merge update))
        refine ⟨_, stepped.of_carried carried, ?_, rfl, rfl, ?_⟩
        · rw [carried.evidenceTrail]
          exact checkedNamed
        · refine .ended (finalStatus_closed _ _) (saveCheckpoint_self _ _ _) ?_
          have after := pauses_of_policy policyEnds
          rw [pauses_append, pauses_append, pauses_append, pauses_of_prelude quiet, trace.pauses,
            ← List.singleton_append, pauses_append, pauses_append, after]
          rfl

theorem policy_unasked {values : GraphState} {s t : Database} {update : GraphUpdate}
    {g : List BackendEvent}
    (ends : PolicyEnds .alone permit app deps values none s (.returned (.update update)) t g) :
    (values.merge update).policyVerdict ≠ some .requireApproval ∧
      (values.merge update).approvalDecision = none := by
  cases ends with
  | undiagnosed =>
    refine ⟨fun same => ?_, rfl⟩
    cases same
  | idle found answered nothing =>
    refine ⟨fun same => ?_, ite_self _⟩
    cases answered (Option.some.inj same)
  | ran found answered asked _ =>
    refine ⟨fun same => ?_, ite_self _⟩
    cases answered (Option.some.inj same)
  | stopped _ _ stop _ => cases stop

theorem run_unasked {scenario : Scenario} {threadId : String} {s u : Database}
    {result : InvestigationResult} {g : List BackendEvent}
    (run : Runs .alone permit (runInvestigation app scenario threadId) s (.returned result) u g)
    (new : s.checkpoints threadId = none) (closed : result.status ≠ .awaitingApproval) :
    result.policyVerdict ≠ some .requireApproval ∧ result.approvalDecision = none := by
  cases runInvestigation_ends run with
  | stopped cause =>
    rcases cause with fault | refused
    · exact fault.elim
    · cases refused.1
  | returned same _ _ ends returns =>
    cases same
    rw [new] at ends
    cases ends with
    | faulted fault => exact fault.elim
    | ceiling loop =>
      obtain rfl := Program.ret.inj returns
      have unjudged := loop.unjudged
      refine ⟨fun same => ?_, unjudged.approvalDecision⟩
      cases unjudged.policyVerdict.symm.trans same
    | gate _ _ _ _ ends =>
      cases ends with
      | before _ cause =>
        rcases cause with fault | refused
        · exact fault.elim
        · cases refused.1
      | unsaved _ _ _ fault => exact fault.elim
      | undecided _ _ _ _ fault => exact fault.elim
      | paused =>
        obtain rfl := Program.ret.inj returns
        exact absurd rfl closed
      | finished _ policyEnds =>
        obtain rfl := Program.ret.inj returns
        exact policy_unasked policyEnds

def resumeDeps (app : App) (scenario : Scenario) (threadId : String) : NodeDeps :=
  depsOf app scenario {} threadId ""

inductive Advances (permit : Permit Label ChatOutcome Database Error) (app : App)
    (scenario : Scenario) (threadId : String) (decision : Json) (s : Database) :
    Saved → Outcome Error InvestigationResult → Database → Prop where
  | unmoved {saved o} (stop : ∀ result, o ≠ .returned result) :
      Advances permit app scenario threadId decision s saved o s
  | executed {values update t o g} (ends : PolicyEnds .alone permit app
        (resumeDeps app scenario threadId) values (some decision) s (.returned (.update update)) t g)
      (stop : ∀ result, o ≠ .returned result) :
      Advances permit app scenario threadId decision s ⟨values, some .evaluatePolicy⟩ o t
  | judged {values update t o g} (ends : PolicyEnds .alone permit app
        (resumeDeps app scenario threadId) values (some decision) s (.returned (.update update)) t g)
      (stop : ∀ result, o ≠ .returned result) :
      Advances permit app scenario threadId decision s ⟨values, some .evaluatePolicy⟩ o
        (t.saveCheckpoint threadId ⟨values.merge update, some .decide⟩)
  | finished {values update t g} (ends : PolicyEnds .alone permit app
        (resumeDeps app scenario threadId) values (some decision) s (.returned (.update update)) t g) :
      Advances permit app scenario threadId decision s ⟨values, some .evaluatePolicy⟩
        (.returned (finishedResult scenario
          ((values.merge update).merge (decide (resumeDeps app scenario threadId)
            (values.merge update)))
          (finalStatus (resumeDeps app scenario threadId) (values.merge update))))
        ((t.saveCheckpoint threadId ⟨values.merge update, some .decide⟩).saveCheckpoint threadId
          ⟨(values.merge update).merge (decide (resumeDeps app scenario threadId)
            (values.merge update)), none⟩)
  | decided {values} :
      Advances permit app scenario threadId decision s ⟨values, some .decide⟩
        (.returned (finishedResult scenario
          (values.merge (decide (resumeDeps app scenario threadId) values))
          (finalStatus (resumeDeps app scenario threadId) values)))
        (s.saveCheckpoint threadId
          ⟨values.merge (decide (resumeDeps app scenario threadId) values), none⟩)
  | again {values status} (ended : values.status = some status) :
      Advances permit app scenario threadId decision s ⟨values, none⟩
        (.returned (finishedResult scenario values status)) s

def pastGate : Option Node → Prop
  | some .evaluatePolicy => True
  | some .decide => True
  | none => True
  | _ => False

theorem gate_advances {scenario : Scenario} {threadId : String} {decision : Json}
    {values : GraphState} {s u : Database} {o' : Outcome Error (GraphState × Option Json)}
    {o : Outcome Error InvestigationResult} {g : List BackendEvent}
    (ends : GateEnds .alone permit app (resumeDeps app scenario threadId) values (some decision) s
      o' u g) (finish : Finishes app scenario o' o) :
    Advances permit app scenario threadId decision s ⟨values, some .evaluatePolicy⟩ o u := by
  cases ends with
  | paused _ _ unanswered => cases unanswered
  | before same cause =>
    cases same
    refine .unmoved (finish.stops ?_)
    rintro v rfl
    rcases cause with fault | refused
    · exact fault
    · cases refused.1
  | unsaved same ends same' fault =>
    cases same
    cases same'
    exact .executed ends (finish.stops fault.unreturned)
  | undecided same ends same' same'' fault =>
    cases same
    cases same'
    cases same''
    exact .judged ends (finish.stops fault.unreturned)
  | finished same ends same' same'' =>
    cases same
    cases same'
    cases same''
    cases finish with
    | stopped stop => cases stop
    | invalid raises => cases raises
    | returned returns =>
      cases Program.ret.inj returns
      exact .finished ends

theorem decide_advances {scenario : Scenario} {threadId : String} {decision : Json}
    {values : GraphState} {s u : Database} {o' : Outcome Error (GraphState × Option Json)}
    {o : Outcome Error InvestigationResult} {g : List BackendEvent} (limit : ℕ)
    (walk : (buildGraph app (resumeDeps app scenario threadId)).Walk .alone permit (limit + 1)
      ⟨values, some .decide⟩ (some decision) s o' u g) (finish : Finishes app scenario o' o) :
    Advances permit app scenario threadId decision s ⟨values, some .decide⟩ o u := by
  obtain ⟨fault, same⟩ | ⟨_, same, rfl, rfl, _⟩ := decide_ends limit walk
  · cases same
    exact .unmoved (finish.stops fault.unreturned)
  · cases same
    cases finish with
    | stopped stop => cases stop
    | invalid raises => cases raises
    | returned returns =>
      cases Program.ret.inj returns
      exact .decided

theorem ended_advances {scenario : Scenario} {threadId : String} {decision : Json}
    {values : GraphState} {s : Database} {o : Outcome Error InvestigationResult}
    (finish : Finishes app scenario (.returned (values, none)) o) :
    Advances permit app scenario threadId decision s ⟨values, none⟩ o s := by
  cases finish with
  | stopped stop => cases stop
  | invalid raises => exact .unmoved fun result same => nomatch same
  | returned returns =>
    unfold resultFromState at returns
    cases ended : values.status with
    | none =>
      simp only [ended] at returns
      cases returns
    | some status =>
      simp only [ended] at returns
      cases Program.ret.inj returns
      exact .again ended

theorem resume_advances {scenario : Scenario} {threadId : String} {decision : Json}
    {s u : Database} {o : Outcome Error InvestigationResult} {g : List BackendEvent} {saved : Saved}
    (run : Runs .alone permit (resumeInvestigation app scenario threadId decision) s o u g)
    (at_gate : s.checkpoints threadId = some saved) (past : pastGate saved.next) :
    (u = s ∧ ∀ result, o ≠ .returned result) ∨
      (.performed (.resume threadId decision) ∈ g ∧
        permit (.performed (.resume threadId decision)) s ∧
        Advances permit app scenario threadId decision s saved o u) := by
  cases resumeInvestigation_ends run with
  | stopped same fault =>
    cases same
    refine .inl ⟨rfl, ?_⟩
    rintro result rfl
    exact fault
  | missing same missing =>
    cases same
    cases at_gate.symm.trans missing
  | @walked _ _ _ _ o' _ _ _ _ same ok same' found read _ walk finish =>
    cases same
    cases same'
    cases read
    cases Option.some.inj (at_gate.symm.trans found)
    refine .inr ⟨List.mem_cons_self, ok, ?_⟩
    obtain ⟨values, next⟩ := saved
    match next, past with
    | some .evaluatePolicy, _ =>
      exact gate_advances (gate_ends (app.settings.agentMaxSteps + 8) walk) finish
    | some .decide, _ => exact decide_advances (app.settings.agentMaxSteps + 9) walk finish
    | none, _ =>
      cases walk
      exact ended_advances finish

end OpsPilot.InvestigationOutcomes
