import OpsPilot.GatherLoop

/-! How a run of the investigation graph ends: at a ceiling, at the policy gate, or on a fault. -/

namespace OpsPilot.GraphRun
open JsonText AgentSchemas InvestigationState Models GatherContext IdempotentExecution GraphNodes
open Investigation Superstep GatherLoop DurableProgram StateGraph

variable {rely : Rely Database} {permit : Permit Label ChatOutcome Database Error}
  {app : App} {deps : NodeDeps}

theorem plain_walk (update : GraphUpdate) {limit : ℕ} {node : Node} {values : GraphState}
    {answer : Option Json} {s u : Database} {o : Outcome Error (GraphState × Option Json)}
    {g : List BackendEvent}
    (plain : ∀ s o t g, NodeEnds rely permit app deps values answer s node o t g →
      o = .returned (.update update) ∧ t = s ∧ g = [])
    (walk : (buildGraph app deps).Walk rely permit (limit + 1) ⟨values, some node⟩ answer s o u g) :
    (Faulted permit o ∧ rely.holds s u) ∨ ∃ t g', rely.holds s t ∧
      (buildGraph app deps).Walk rely permit limit (after deps node values update) none
        (t.saveCheckpoint deps.threadId (after deps node values update)) o u g' ∧
      g = .performed (.visit deps.threadId node values) ::
        .performed (.saveCheckpoint deps.threadId) :: g' := by
  cases walk with
  | paused last =>
    cases superstep_ends last with
    | paused _ ends _ => cases (plain _ _ _ _ ends).1
    | entering _ fault _ => exact fault.elim
    | inside _ stop _ => cases stop
    | leaving _ _ _ fault _ => exact fault.elim
  | stopped stop last =>
    cases superstep_ends last with
    | moved => cases stop
    | paused => cases stop
    | entering others fault _ => exact .inl ⟨fault.stopped stop, others⟩
    | inside entering stop' ends =>
      cases (plain _ _ _ _ ends).1
      cases stop'
    | leaving entering ends leaving fault _ =>
      obtain ⟨_, rfl, rfl⟩ := plain _ _ _ _ ends
      exact .inl ⟨fault.stopped stop, rely.trans entering leaving⟩
  | moved first rest =>
    cases superstep_ends first with
    | moved entering ends leaving =>
      obtain ⟨same, rfl, rfl⟩ := plain _ _ _ _ ends
      cases same
      exact .inr ⟨_, _, rely.trans entering leaving, rest, rfl⟩
    | entering _ fault _ => exact fault.elim
    | inside _ stop _ => cases stop
    | leaving _ _ _ fault _ => exact fault.elim

def Refused {α : Type} (rely : Rely Database) (permit : Permit Label ChatOutcome Database Error)
    (o : Outcome Error α) : Prop :=
  o = .raised .integrity ∧ ∃ a t row other, rely.holds a t ∧
    a.remediation? row.idempotencyKey = none ∧ t.remediation? row.idempotencyKey = some other ∧
    permit (.performed (.commit row)) t

/-- How the graph ends from `evaluate_policy` on, and in what state. -/
inductive GateEnds (rely : Rely Database) (permit : Permit Label ChatOutcome Database Error)
    (app : App) (deps : NodeDeps) (values : GraphState) (answer : Option Json) (s : Database) :
    Outcome Error (GraphState × Option Json) → Database → List BackendEvent → Prop where
  | paused {diagnosis t} (found : values.diagnosis = some diagnosis)
      (approval : verdictOf deps diagnosis = .requireApproval) (unanswered : answer = none)
      (others : rely.holds s t) :
      GateEnds rely permit app deps values answer s
        (.returned (values, some (approvalPayload deps diagnosis))) t
        [.performed (.visit deps.threadId .evaluatePolicy values),
          .performed (.interrupt deps.threadId (approvalPayload deps diagnosis))]
  | before {o t g} (others : rely.holds s t) (stop : Faulted permit o ∨ Refused rely permit o) :
      GateEnds rely permit app deps values answer s o t g
  | unsaved {s₁ update s₂ o t g g'} (entering : rely.holds s s₁)
      (ends : PolicyEnds rely permit app deps values answer s₁ (.returned (.update update)) s₂ g)
      (later : rely.holds s₂ t) (fault : Faulted permit o) :
      GateEnds rely permit app deps values answer s o t g'
  | undecided {s₁ update s₂ s₃ o t g g'} (entering : rely.holds s s₁)
      (ends : PolicyEnds rely permit app deps values answer s₁ (.returned (.update update)) s₂ g)
      (leaving : rely.holds s₂ s₃)
      (later : rely.holds (s₃.saveCheckpoint deps.threadId
        ⟨values.merge update, some .decide⟩) t) (fault : Faulted permit o) :
      GateEnds rely permit app deps values answer s o t g'
  | finished {s₁ update s₂ s₃ t g} (entering : rely.holds s s₁)
      (ends : PolicyEnds rely permit app deps values answer s₁ (.returned (.update update)) s₂ g)
      (leaving : rely.holds s₂ s₃)
      (later : rely.holds (s₃.saveCheckpoint deps.threadId
        ⟨values.merge update, some .decide⟩) t) :
      GateEnds rely permit app deps values answer s
        (.returned ((values.merge update).merge (decide deps (values.merge update)), none))
        (t.saveCheckpoint deps.threadId
          ⟨(values.merge update).merge (decide deps (values.merge update)), none⟩)
        (.performed (.visit deps.threadId .evaluatePolicy values) ::
          (g ++ [.performed (.saveCheckpoint deps.threadId),
            .performed (.visit deps.threadId .decide (values.merge update)),
            .performed (.saveCheckpoint deps.threadId)]))

theorem decide_plain {values : GraphState} {answer : Option Json} (s : Database)
    (o : Outcome Error (Visit GraphUpdate Json)) (t : Database) (g : List BackendEvent)
    (ends : NodeEnds rely permit app deps values answer s .decide o t g) :
    o = .returned (.update (decide deps values)) ∧ t = s ∧ g = [] := by
  cases ends
  exact ⟨rfl, rfl, rfl⟩

theorem decide_ends (limit : ℕ) {values : GraphState} {answer : Option Json} {s u : Database}
    {o : Outcome Error (GraphState × Option Json)} {g : List BackendEvent}
    (walk : (buildGraph app deps).Walk rely permit (limit + 1) ⟨values, some .decide⟩ answer
      s o u g) :
    (Faulted permit o ∧ rely.holds s u) ∨ ∃ t, rely.holds s t ∧
      o = .returned (values.merge (decide deps values), none) ∧
      u = t.saveCheckpoint deps.threadId ⟨values.merge (decide deps values), none⟩ ∧
      g = [.performed (.visit deps.threadId .decide values),
        .performed (.saveCheckpoint deps.threadId)] := by
  obtain fault | ⟨t, g', others, rest, rfl⟩ := plain_walk (decide deps values) decide_plain walk
  · exact .inl fault
  · cases rest
    exact .inr ⟨t, others, rfl, rfl, rfl⟩

theorem policy_stops {values : GraphState} {answer : Option Json} {s t : Database}
    {o : Outcome Error (Visit GraphUpdate Json)} {g : List BackendEvent}
    (ends : PolicyEnds rely permit app deps values answer s o t g) (stop : ∀ v, o ≠ .returned v) :
    rely.holds s t ∧ (Faulted permit o ∨ Refused rely permit o) := by
  cases ends with
  | undiagnosed => exact absurd rfl (stop _)
  | paused => exact absurd rfl (stop _)
  | idle => exact absurd rfl (stop _)
  | ran => exact absurd rfl (stop _)
  | stopped _ _ stop' ends =>
    cases ends with
    | found => cases stop'
    | executed => cases stop'
    | refused others missing later taken ok =>
      cases stop'
      exact ⟨rely.trans others later, .inr ⟨rfl, _, _, _, _, later, missing, taken, ok⟩⟩
    | stopped others fault _ => exact ⟨others, .inl (fault.stopped stop')⟩

theorem policy_stays {values : GraphState} {given : Option Json} {s t : Database}
    {o : Outcome Error (Visit GraphUpdate Json)} {g : List BackendEvent}
    (ends : PolicyEnds .alone permit app deps values given s o t g) :
    t.checkpoints = s.checkpoints := by
  by_cases stop : ∀ v, o ≠ .returned v
  · exact congrArg _ (policy_stops ends stop).1.symm
  · cases ends with
    | undiagnosed => rfl
    | paused => rfl
    | idle => rfl
    | ran _ _ _ ends =>
      cases ends with
      | found same => exact congrArg _ same.symm
      | executed same _ same' =>
        cases same
        cases same'
        rfl
      | stopped _ fault => exact fault.elim
    | stopped _ _ stopped => exact absurd (by rintro v rfl; cases stopped) stop

theorem Refused.stopped {α β : Type} {part : Outcome Error α} {whole : Outcome Error β}
    (stop : Stopped part whole) (refused : Refused rely permit part) :
    Refused rely permit whole := by
  obtain ⟨rfl, spec⟩ := refused
  cases stop
  exact ⟨rfl, spec⟩

theorem gate_ends (limit : ℕ) {values : GraphState} {answer : Option Json} {s u : Database}
    {o : Outcome Error (GraphState × Option Json)} {g : List BackendEvent}
    (walk : (buildGraph app deps).Walk rely permit (limit + 2) ⟨values, some .evaluatePolicy⟩ answer
      s o u g) :
    GateEnds rely permit app deps values answer s o u g := by
  cases walk with
  | paused last =>
    cases superstep_ends last with
    | entering _ fault _ => exact fault.elim
    | inside _ stop _ => cases stop
    | leaving _ _ _ fault _ => exact fault.elim
    | paused entering ends leaving =>
      cases ends with
      | gated ends =>
        cases ends with
        | paused found approval unanswered =>
          exact .paused found approval unanswered (rely.trans entering leaving)
        | stopped _ _ stop _ => cases stop
  | stopped stop last =>
    cases superstep_ends last with
    | moved => cases stop
    | paused => cases stop
    | entering others fault _ => exact .before others (.inl (fault.stopped stop))
    | inside entering stop' ends =>
      cases ends with
      | gated ends =>
        have unfinished : ∀ {o : Outcome Error (Visit GraphUpdate Json)}
            {o' : Outcome Error (Graph.Step Node GraphState Json)}, Stopped o o' →
            ∀ v, o ≠ .returned v := by
          rintro _ _ ⟨⟩ v same <;> cases same
        obtain ⟨others, cause⟩ := policy_stops ends (unfinished stop')
        refine .before (rely.trans entering others) ?_
        rcases cause with fault | refused
        · exact .inl ((fault.stopped stop').stopped stop)
        · exact .inr ((refused.stopped stop').stopped stop)
    | @leaving _ visit _ _ _ _ _ entering ends leaving fault _ =>
      cases ends with
      | gated ends =>
        cases visit with
        | update update => exact .unsaved entering ends leaving (fault.stopped stop)
        | interrupt payload =>
          cases ends with
          | paused =>
            exact .before (rely.trans entering leaving) (.inl (fault.stopped stop))
          | stopped _ _ stop' _ => cases stop'
  | moved first rest =>
    cases superstep_ends first with
    | entering _ fault _ => exact fault.elim
    | inside _ stop _ => cases stop
    | leaving _ _ _ fault _ => exact fault.elim
    | moved entering ends leaving =>
      cases ends with
      | gated ends =>
        obtain ⟨fault, later⟩ | ⟨t, later, rfl, rfl, rfl⟩ := decide_ends limit rest
        · exact .undecided entering ends leaving later fault
        · have finished := GateEnds.finished entering ends leaving later
          simpa using finished

/-- The fields that only `gather_context` writes. -/
structure Carried (before after : GraphState) : Prop where
  messages : after.messages = before.messages
  evidenceTrail : after.evidenceTrail = before.evidenceTrail
  stepsUsed : after.stepsUsed = before.stepsUsed
  estimatedCostUsd : after.estimatedCostUsd = before.estimatedCostUsd
  totalInputTokens : after.totalInputTokens = before.totalInputTokens
  totalOutputTokens : after.totalOutputTokens = before.totalOutputTokens
  diagnosis : after.diagnosis = before.diagnosis
  providerError : after.providerError = before.providerError

theorem Carried.refl (state : GraphState) : Carried state state :=
  ⟨rfl, rfl, rfl, rfl, rfl, rfl, rfl, rfl⟩

theorem Carried.trans {a b c : GraphState} (first : Carried a b) (later : Carried b c) :
    Carried a c where
  messages := later.messages.trans first.messages
  evidenceTrail := later.evidenceTrail.trans first.evidenceTrail
  stepsUsed := later.stepsUsed.trans first.stepsUsed
  estimatedCostUsd := later.estimatedCostUsd.trans first.estimatedCostUsd
  totalInputTokens := later.totalInputTokens.trans first.totalInputTokens
  totalOutputTokens := later.totalOutputTokens.trans first.totalOutputTokens
  diagnosis := later.diagnosis.trans first.diagnosis
  providerError := later.providerError.trans first.providerError

theorem carried_merge (state : GraphState) (evidenceGrounded ungroundedEvidence riskTier
    policyVerdict remediationResult approvalDecision status) :
    Carried state (state.merge { evidenceGrounded, ungroundedEvidence, riskTier, policyVerdict
                                 remediationResult, approvalDecision, status }) :=
  ⟨List.append_nil _, List.append_nil _, rfl, rfl, rfl, rfl, rfl, rfl⟩

theorem carried_hypothesize (py : Platform) (state : GraphState) :
    Carried state (state.merge (hypothesize py state)) := by
  unfold hypothesize
  split <;> exact carried_merge _ _ _ _ _ _ _ _

theorem carried_classifyRisk (state : GraphState) :
    Carried state (state.merge (classifyRisk state)) := by
  unfold classifyRisk
  split <;> exact carried_merge _ _ _ _ _ _ _ _

theorem carried_decide (deps : NodeDeps) (state : GraphState) :
    Carried state (state.merge (decide deps state)) :=
  carried_merge _ _ _ _ _ _ _ _

theorem carried_policy {values : GraphState} {answer : Option Json} {s t : Database}
    {update : GraphUpdate} {g : List BackendEvent}
    (ends : PolicyEnds rely permit app deps values answer s (.returned (.update update)) t g) :
    Carried values (values.merge update) := by
  cases ends with
  | undiagnosed => exact carried_merge _ _ _ _ _ _ _ _
  | idle => exact carried_merge _ _ _ _ _ _ _ _
  | ran => exact carried_merge _ _ _ _ _ _ _ _
  | stopped _ _ stop _ => cases stop

/-- The state in which `evaluate_policy` is entered after the loop. -/
def checked (py : Platform) (state : GraphState) : GraphState :=
  (state.merge (hypothesize py state)).merge
    (classifyRisk (state.merge (hypothesize py state)))

theorem carried_checked (py : Platform) (state : GraphState) : Carried state (checked py state) :=
  (carried_hypothesize py state).trans (carried_classifyRisk _)

def checkTrace (app : App) (deps : NodeDeps) (state : GraphState) : List BackendEvent :=
  [.performed (.visit deps.threadId .hypothesize state),
    .performed (.saveCheckpoint deps.threadId),
    .performed (.visit deps.threadId .classifyRisk (state.merge (hypothesize app.py state))),
    .performed (.saveCheckpoint deps.threadId)]

/-- How the graph ends when it starts from `gather_context`. -/
inductive RunEnds (rely : Rely Database) (permit : Permit Label ChatOutcome Database Error)
    (app : App) (deps : NodeDeps) (start : GraphState) (s : Database) :
    Outcome Error (GraphState × Option Json) → Database → List BackendEvent → Prop where
  | faulted {o t g} (fault : Faulted permit o) : RunEnds rely permit app deps start s o t g
  | ceiling {states answers last t g} (loop : Gathering app deps start states answers last)
      (route : routeAfterGatherContext deps last = .ceiling) (trace : LoopTrace states answers g)
      (kept : Kept rely deps.threadId s t) :
      RunEnds rely permit app deps start s (.returned (last.merge (decide deps last), none))
        (t.saveCheckpoint deps.threadId ⟨last.merge (decide deps last), none⟩)
        (g ++ [.performed (.visit deps.threadId .decide last),
          .performed (.saveCheckpoint deps.threadId)])
  | gate {states answers last t o u g g'} (loop : Gathering app deps start states answers last)
      (route : routeAfterGatherContext deps last = .diagnosed)
      (trace : LoopTrace states answers g) (kept : Kept rely deps.threadId s t)
      (ends : GateEnds rely permit app deps (checked app.py last) none
        (t.saveCheckpoint deps.threadId ⟨checked app.py last, some .evaluatePolicy⟩) o u g') :
      RunEnds rely permit app deps start s o u (g ++ checkTrace app deps last ++ g')

theorem run_ends {limit : ℕ} {start : GraphState} {s u : Database}
    {o : Outcome Error (GraphState × Option Json)} {g : List BackendEvent}
    (walk : (buildGraph app deps).Walk rely permit limit ⟨start, some .gatherContext⟩ none s o u g)
    (fits : start.stepsUsed ≤ deps.maxSteps)
    (enough : deps.maxSteps + 10 ≤ start.stepsUsed + limit) :
    RunEnds rely permit app deps start s o u g := by
  obtain fault | ⟨states, answers, last, t, rest, g₁, g₂, loop, trace, kept, rfl, tail⟩ :=
    loop_ends walk fits enough
  · exact .faulted fault
  cases routed : routeAfterGatherContext deps last with
  | «continue» => exact absurd routed loop.stops
  | ceiling =>
    have next : route deps .gatherContext last = some .decide := by
      simp only [route, routed]
    rw [next] at tail
    obtain ⟨fault, _⟩ | ⟨t', others, rfl, rfl, rfl⟩ := decide_ends _ tail
    · exact .faulted fault
    · exact .ceiling loop routed trace ((kept.save _).then others)
  | diagnosed =>
    have next : route deps .gatherContext last = some .hypothesize := by
      simp only [route, routed]
    rw [next] at tail
    obtain ⟨fault, _⟩ | ⟨t₁, g₃, others₁, tail₁, rfl⟩ :=
      plain_walk (hypothesize app.py last)
        (by rintro _ _ _ _ ⟨⟩; exact ⟨rfl, rfl, rfl⟩) tail
    · exact .faulted fault
    obtain ⟨fault, _⟩ | ⟨t₂, g₄, others₂, tail₂, rfl⟩ :=
      plain_walk (classifyRisk (last.merge (hypothesize app.py last)))
        (by rintro _ _ _ _ ⟨⟩; exact ⟨rfl, rfl, rfl⟩) tail₁
    · exact .faulted fault
    have gate := RunEnds.gate loop routed trace
      ((((kept.save _).then others₁).save _).then others₂) (gate_ends _ tail₂)
    simpa [checkTrace] using gate

theorem RunEnds.stops {start : GraphState} {s u : Database}
    {o : Outcome Error (GraphState × Option Json)} {g : List BackendEvent}
    (ends : RunEnds rely permit app deps start s o u g) (stop : ∀ v, o ≠ .returned v) :
    Faulted permit o ∨ Refused rely permit o := by
  cases ends with
  | faulted fault => exact .inl fault
  | ceiling => exact absurd rfl (stop _)
  | gate _ _ _ _ ends =>
    cases ends with
    | paused => exact absurd rfl (stop _)
    | before _ cause => exact cause
    | unsaved _ _ _ fault => exact .inl fault
    | undecided _ _ _ _ fault => exact .inl fault
    | finished => exact absurd rfl (stop _)

theorem RunEnds.result {start final : GraphState} {ask : Option Json} {s u : Database}
    {g : List BackendEvent}
    (ends : RunEnds rely permit app deps start s (.returned (final, ask)) u g)
    (scenario : SyntheticEnvironment.Scenario) :
    ∃ result, resultFromState app.py scenario (final, ask) = .ret result := by
  cases ends with
  | faulted fault => exact fault.elim
  | ceiling => exact ⟨_, rfl⟩
  | gate _ _ _ _ ends =>
    cases ends with
    | paused => exact ⟨_, rfl⟩
    | before _ cause =>
      rcases cause with fault | ⟨same, _⟩
      · exact fault.elim
      · cases same
    | unsaved _ _ _ fault => exact fault.elim
    | undecided _ _ _ _ fault => exact fault.elim
    | finished => exact ⟨_, rfl⟩

def ofPrelude : Label → Prop
  | .retrieveMemory _ => True
  | .loadCheckpoint _ => True
  | .saveCheckpoint _ => True
  | _ => False

theorem buildDeps_ends {scenario : SyntheticEnvironment.Scenario} {ceilings : Ceilings}
    {threadId : String} {memoryEnabled : Bool} {s t : Database} {o : Outcome Error NodeDeps}
    {g : List BackendEvent}
    (run : Runs rely permit (buildDeps app scenario ceilings threadId memoryEnabled) s o t g) :
    rely.holds s t ∧ (∀ l, .performed l ∈ g → ofPrelude l) ∧ (Faulted permit o ∨ ∃ memory,
      o = .returned (depsOf app scenario ceilings threadId memory) ∧
        ∀ ev ∈ g, ∃ l, ev = .performed l) := by
  have retrieved : ∀ {ev : BackendEvent}, (∀ l, ev ≠ .performed l) →
      ∀ l, .performed l ∈ [ev] → ofPrelude l := by
    intro ev unperformed l mem
    exact absurd (List.mem_singleton.mp mem).symm (unperformed l)
  obtain ⟨memory, u, g₁, g₂, first, rest, rfl⟩ | ⟨o', stop, stopped⟩ := run.of_bind
  · obtain ⟨rfl, rfl, rfl⟩ := rest.of_ret
    cases memoryEnabled with
    | false =>
      obtain ⟨_, rfl, rfl⟩ := first.of_ret
      exact ⟨rely.refl _, by simp, .inr ⟨memory, rfl, by simp⟩⟩
    | true =>
      obtain ⟨others, ⟨_, rfl⟩ | ⟨fault, _⟩⟩ := read_ends first
      · exact ⟨others, by simp [ofPrelude], .inr ⟨memory, rfl, by simp⟩⟩
      · exact fault.elim
  · cases memoryEnabled with
    | false =>
      obtain ⟨rfl, rfl, rfl⟩ := stopped.of_ret
      cases stop
    | true =>
      obtain ⟨others, ⟨rfl, _⟩ | ⟨fault, ev, unperformed, rfl⟩⟩ := read_ends stopped
      · cases stop
      · exact ⟨others, retrieved unperformed, .inl (fault.stopped stop)⟩

/-- How a graph's outcome becomes the outcome of the whole call. -/
inductive Finishes (app : App) (scenario : SyntheticEnvironment.Scenario) :
    Outcome Error (GraphState × Option Json) → Outcome Error InvestigationResult → Prop where
  | returned {v result} (returns : resultFromState app.py scenario v = .ret result) :
      Finishes app scenario (.returned v) (.returned result)
  | invalid {v e} (raises : resultFromState app.py scenario v = .raise e) :
      Finishes app scenario (.returned v) (.raised e)
  | stopped {o' o} (stop : Stopped o' o) : Finishes app scenario o' o

theorem Finishes.stops {scenario : SyntheticEnvironment.Scenario}
    {o' : Outcome Error (GraphState × Option Json)}
    {o : Outcome Error InvestigationResult} (finish : Finishes app scenario o' o)
    (stop : ∀ v, o' ≠ .returned v) (result : InvestigationResult) : o ≠ .returned result := by
  cases finish with
  | returned => exact absurd rfl (stop _)
  | invalid => exact fun same => nomatch same
  | stopped stop =>
    rintro rfl
    cases stop

theorem resultFromState_cases (py : Platform) (scenario : SyntheticEnvironment.Scenario)
    (v : GraphState × Option Json) : (∃ result, resultFromState py scenario v = .ret result) ∨
      ∃ e, resultFromState py scenario v = .raise e := by
  obtain ⟨final, _ | payload⟩ := v
  · unfold resultFromState
    dsimp only
    split
    · exact .inr ⟨_, rfl⟩
    · exact .inl ⟨_, rfl⟩
  · exact .inl ⟨_, rfl⟩

/-- How `run_investigation` goes on after its prelude: that stops before it has written anything,
or the graph is walked from the checkpoint that it saves. -/
inductive Entered (rely : Rely Database) (permit : Permit Label ChatOutcome Database Error)
    (app : App) (scenario : SyntheticEnvironment.Scenario) (threadId : String)
    (ceilings : Ceilings) (s : Database) :
    Outcome Error InvestigationResult → Database → List BackendEvent → Prop where
  | stopped {o u g} (fault : Faulted permit o) (others : rely.holds s u)
      (quiet : ∀ l, .performed l ∈ g → ofPrelude l) :
      Entered rely permit app scenario threadId ceilings s o u g
  | walked {memory s₁ t o' o u g g'} (others : rely.holds s s₁) (later : rely.holds s₁ t)
      (quiet : ∀ ev ∈ g, ∃ l, ev = Event.performed l ∧ ofPrelude l)
      (walk : (buildGraph app (depsOf app scenario ceilings threadId memory)).Walk rely permit
        (recursionLimit (depsOf app scenario ceilings threadId memory))
        ⟨initialState.asInput ((s₁.checkpoints threadId).map (·.values)), some .gatherContext⟩
        none (t.saveCheckpoint threadId
          ⟨initialState.asInput ((s₁.checkpoints threadId).map (·.values)), some .gatherContext⟩)
        o' u g')
      (finish : Finishes app scenario o' o) :
      Entered rely permit app scenario threadId ceilings s o u (g ++ g')

theorem runInvestigation_entered {scenario : SyntheticEnvironment.Scenario} {threadId : String}
    {ceilings : Ceilings} {memoryEnabled : Bool} {s u : Database}
    {o : Outcome Error InvestigationResult} {g : List BackendEvent}
    (run : Runs rely permit (runInvestigation app scenario threadId ceilings memoryEnabled)
      s o u g) :
    Entered rely permit app scenario threadId ceilings s o u g := by
  obtain ⟨deps, t, g₁, g₂, built, rest, rfl⟩ | ⟨o', stop, stopped⟩ := run.of_bind
  swap
  · obtain ⟨others, quiet, fault | ⟨memory, rfl, _⟩⟩ := buildDeps_ends stopped
    · exact .stopped (fault.stopped stop) others quiet
    · cases stop
  obtain ⟨others, quiet, fault | ⟨memory, same, performed⟩⟩ := buildDeps_ends built
  · exact fault.elim
  cases same
  obtain ⟨saved, s₁, g₂, g₃, loaded, rest, rfl⟩ | ⟨o', stop, stopped⟩ := rest.of_bind
  swap
  · obtain ⟨others', ⟨rfl, _⟩ | ⟨fault, ev, unperformed, rfl⟩⟩ := read_ends stopped
    · cases stop
    · refine .stopped (fault.stopped stop) (rely.trans others others') fun l mem => ?_
      simp only [List.mem_append, List.mem_singleton] at mem
      exact mem.elim (quiet l) fun same => absurd same.symm (unperformed l)
  obtain ⟨others', ⟨same, rfl⟩ | ⟨fault, _⟩⟩ := read_ends loaded
  swap
  · exact fault.elim
  cases same
  rw [Graph.invoke, Program.bind_assoc] at rest
  obtain ⟨_, s₂, g₃, g₄, saving, walking, rfl⟩ | ⟨o', stop, stopped⟩ := rest.of_bind
  swap
  · obtain ⟨_, others'', ⟨rfl, _⟩ | ⟨fault, rfl, ev, unperformed, rfl⟩⟩ := write_ends stopped
    · cases stop
    · refine .stopped (fault.stopped stop)
        (rely.trans (rely.trans others others') others'') fun l mem => ?_
      simp only [List.mem_append, List.mem_singleton] at mem
      rcases mem with mem | same | same
      · exact quiet l mem
      · cases same
        exact trivial
      · exact absurd same.symm (unperformed l)
  obtain ⟨s₃, others'', ⟨_, rfl, rfl, _⟩ | ⟨fault, _⟩⟩ := write_ends saving
  swap
  · exact fault.elim
  have before : ∀ ev ∈ g₁ ++ [.performed (.loadCheckpoint threadId),
      .performed (.saveCheckpoint threadId)], ∃ l, ev = Event.performed l ∧ ofPrelude l := by
    simp only [List.mem_append, List.mem_cons, List.not_mem_nil, or_false]
    rintro ev (mem | rfl | rfl)
    · obtain ⟨l, rfl⟩ := performed ev mem
      exact ⟨l, rfl, quiet l mem⟩
    · exact ⟨_, rfl, trivial⟩
    · exact ⟨_, rfl, trivial⟩
  obtain ⟨v, u', g₄, g₅, walked, ended, rfl⟩ | ⟨o', stop, stopped⟩ := walking.of_bind
  · have walk := Graph.supersteps_walk walked
    obtain ⟨result, returns⟩ | ⟨e, raises⟩ := resultFromState_cases app.py scenario v
    · rw [returns] at ended
      obtain ⟨rfl, rfl, rfl⟩ := ended.of_ret
      simpa [depsOf] using Entered.walked (rely.trans others others') others'' before walk
        (.returned returns)
    · rw [raises] at ended
      obtain ⟨rfl, rfl, rfl⟩ := ended.of_raise
      simpa [depsOf] using Entered.walked (rely.trans others others') others'' before walk
        (.invalid raises)
  · simpa [depsOf] using Entered.walked (rely.trans others others') others'' before
      (Graph.supersteps_walk stopped) (.stopped stop)

/-- How `run_investigation` ends, seen from the graph: the prelude stops, or the graph is walked
from its entry. -/
inductive InvestigationWalk (rely : Rely Database)
    (permit : Permit Label ChatOutcome Database Error) (app : App)
    (scenario : SyntheticEnvironment.Scenario) (threadId : String) (ceilings : Ceilings)
    (s : Database) : Outcome Error InvestigationResult → Database → List BackendEvent → Prop where
  | stopped {o u g} (fault : Faulted permit o) (quiet : ∀ l, .performed l ∈ g → ofPrelude l) :
      InvestigationWalk rely permit app scenario threadId ceilings s o u g
  | walked {memory s₁ t o' o u g g'} (others : rely.holds s s₁)
      (quiet : ∀ ev ∈ g, ∃ l, ev = Event.performed l ∧ ofPrelude l)
      (kept : Kept rely threadId s₁ t)
      (walk : (buildGraph app (depsOf app scenario ceilings threadId memory)).Walk rely permit
        (recursionLimit (depsOf app scenario ceilings threadId memory))
        ⟨initialState.asInput ((s₁.checkpoints threadId).map (·.values)), some .gatherContext⟩
        none t o' u g')
      (finish : Finishes app scenario o' o) :
      InvestigationWalk rely permit app scenario threadId ceilings s o u (g ++ g')

theorem runInvestigation_walk {scenario : SyntheticEnvironment.Scenario} {threadId : String}
    {ceilings : Ceilings} {memoryEnabled : Bool} {s u : Database}
    {o : Outcome Error InvestigationResult} {g : List BackendEvent}
    (run : Runs rely permit (runInvestigation app scenario threadId ceilings memoryEnabled)
      s o u g) :
    InvestigationWalk rely permit app scenario threadId ceilings s o u g := by
  cases runInvestigation_entered run with
  | stopped fault _ quiet => exact .stopped fault quiet
  | walked others later quiet walk finish =>
    exact .walked others quiet ((Kept.of_rely later).save _) walk finish

/-- How `run_investigation` ends: it stops on a fault or on a refused commit, or returns the
result of a run of the graph from its entry. -/
inductive InvestigationEnds (rely : Rely Database)
    (permit : Permit Label ChatOutcome Database Error) (app : App)
    (scenario : SyntheticEnvironment.Scenario) (threadId : String) (ceilings : Ceilings)
    (s : Database) : Outcome Error InvestigationResult → Database → List BackendEvent → Prop where
  | stopped {o u g} (cause : Faulted permit o ∨ Refused rely permit o) :
      InvestigationEnds rely permit app scenario threadId ceilings s o u g
  | returned {memory s₁ t final ask result u g g'} (others : rely.holds s s₁)
      (quiet : ∀ ev ∈ g, ∃ l, ev = Event.performed l ∧ ofPrelude l)
      (kept : Kept rely threadId s₁ t)
      (ends : RunEnds rely permit app (depsOf app scenario ceilings threadId memory)
        (initialState.asInput ((s₁.checkpoints threadId).map (·.values))) t
        (.returned (final, ask)) u g')
      (returns : resultFromState app.py scenario (final, ask) = .ret result) :
      InvestigationEnds rely permit app scenario threadId ceilings s (.returned result) u (g ++ g')

theorem runInvestigation_ends {scenario : SyntheticEnvironment.Scenario} {threadId : String}
    {ceilings : Ceilings} {memoryEnabled : Bool} {s u : Database}
    {o : Outcome Error InvestigationResult} {g : List BackendEvent}
    (run : Runs rely permit (runInvestigation app scenario threadId ceilings memoryEnabled)
      s o u g) :
    InvestigationEnds rely permit app scenario threadId ceilings s o u g := by
  cases runInvestigation_walk run with
  | stopped fault _ => exact .stopped (.inl fault)
  | @walked memory s₁ t o' _ _ _ _ others quiet kept walk finish =>
    have fits : (initialState.asInput ((s₁.checkpoints threadId).map (·.values))).stepsUsed = 0 := by
      cases s₁.checkpoints threadId <;> rfl
    have ends := run_ends walk (by rw [fits]; exact Nat.zero_le _)
      (by rw [fits, recursionLimit]; omega)
    cases finish with
    | @returned v result returns => exact .returned others quiet kept ends returns
    | @invalid v e raises =>
      obtain ⟨result, returns⟩ := ends.result scenario
      cases raises.symm.trans returns
    | stopped stop =>
      have unfinished : ∀ v, o' ≠ .returned v := by
        rintro v rfl
        cases stop
      rcases ends.stops unfinished with fault | refused
      · exact .stopped (.inl (fault.stopped stop))
      · exact .stopped (.inr (refused.stopped stop))

/-- How `resume_investigation` ends: before it reads the thread's checkpoint, without one, or
as the graph ends that is re-entered there. -/
inductive ResumeEnds (rely : Rely Database) (permit : Permit Label ChatOutcome Database Error)
    (app : App) (scenario : SyntheticEnvironment.Scenario) (threadId : String) (decision : Json)
    (ceilings : Ceilings) (s : Database) :
    Outcome Error InvestigationResult → Database → List BackendEvent → Prop where
  | stopped {o u g} (others : rely.holds s u) (fault : Faulted permit o) :
      ResumeEnds rely permit app scenario threadId decision ceilings s o u g
  | missing {u e g} (others : rely.holds s u) (missing : u.checkpoints threadId = none) :
      ResumeEnds rely permit app scenario threadId decision ceilings s (.raised e) u g
  | walked {a b c saved o' o u g} (service : List BackendEvent) (first : rely.holds s a)
      (ok : permit (.performed (.resume threadId decision)) a) (later : rely.holds a b)
      (found : b.checkpoints threadId = some saved) (read : rely.holds b c)
      (quiet : ∀ ev ∈ service, ev = .performed (.loadService scenario.service.id))
      (walk : (buildGraph app (depsOf app scenario ceilings threadId "")).Walk rely permit
        (recursionLimit (depsOf app scenario ceilings threadId "")) saved (some decision) c o' u g)
      (finish : Finishes app scenario o' o) :
      ResumeEnds rely permit app scenario threadId decision ceilings s o u
        (.performed (.resume threadId decision) :: .performed (.loadCheckpoint threadId) ::
          (service ++ g))

theorem loadService_ends {scenario : SyntheticEnvironment.Scenario} {saved : Saved}
    {s u : Database} {o : Outcome Error Unit} {g : List BackendEvent}
    (run : Runs rely permit (loadService scenario saved) s o u g) :
    rely.holds s u ∧ ((o = .returned () ∧
      ∀ ev ∈ g, ev = .performed (.loadService scenario.service.id)) ∨ Faulted permit o) := by
  unfold loadService at run
  split at run
  · obtain ⟨others, ⟨rfl, rfl⟩ | ⟨fault, _⟩⟩ := mark_ends run
    · exact ⟨others, .inl ⟨rfl, fun ev mem => List.mem_singleton.mp mem⟩⟩
    · exact ⟨others, .inr fault⟩
  · obtain ⟨rfl, rfl, rfl⟩ := run.of_ret
    exact ⟨rely.refl _, .inl ⟨rfl, fun _ mem => nomatch mem⟩⟩

theorem loadService_carries {allowed : Label → Prop} {scenario : SyntheticEnvironment.Scenario}
    (ok : allowed (.loadService scenario.service.id)) (saved : Saved) :
    Carries allowed (loadService scenario saved) := by
  unfold loadService
  split
  · exact Carries.perform ok
  · trivial

theorem resumeInvestigation_ends {scenario : SyntheticEnvironment.Scenario} {threadId : String}
    {decision : Json} {ceilings : Ceilings} {s u : Database}
    {o : Outcome Error InvestigationResult} {g : List BackendEvent}
    (run : Runs rely permit (resumeInvestigation app scenario threadId decision ceilings) s o u g) :
    ResumeEnds rely permit app scenario threadId decision ceilings s o u g := by
  change Runs rely permit ((mark (.resume threadId decision)).bind _) s o u g at run
  obtain ⟨_, a, g₁, g₂, resumed, rest, rfl⟩ | ⟨o', stop, stopped⟩ := run.of_bind
  swap
  · obtain ⟨others, ⟨rfl, _⟩ | ⟨fault, _⟩⟩ := mark_ends stopped
    · cases stop
    · exact .stopped others (fault.stopped stop)
  obtain ⟨a', first, ⟨ok, _, same, rfl⟩ | ⟨_, _, same, _⟩ | ⟨_, same, _⟩⟩ := resumed.of_perform
  rotate_left
  · cases same
  · cases same
  obtain rfl : a = a' := same
  obtain ⟨saved, b, g₂, g₃, loaded, walking, rfl⟩ | ⟨o', stop, stopped⟩ := rest.of_bind
  swap
  · obtain ⟨others, ⟨rfl, _⟩ | ⟨fault, _⟩⟩ := read_ends stopped
    · cases stop
    · exact .stopped (rely.trans first others) (fault.stopped stop)
  obtain ⟨later, ⟨same, rfl⟩ | ⟨fault, _⟩⟩ := read_ends loaded
  swap
  · exact fault.elim
  cases same
  cases found : b.checkpoints threadId with
  | none =>
    rw [found] at walking
    obtain ⟨rfl, rfl, rfl⟩ := walking.of_raise
    exact .missing (rely.trans first later) found
  | some saved =>
    rw [found] at walking
    obtain ⟨_, c, service, g₅, asked, entered, rfl⟩ | ⟨o', stop, stopped⟩ := walking.of_bind
    swap
    · obtain ⟨others, ⟨rfl, _⟩ | fault⟩ := loadService_ends stopped
      · cases stop
      · exact .stopped (rely.trans first (rely.trans later others)) (fault.stopped stop)
    obtain ⟨read, ⟨_, quiet⟩ | fault⟩ := loadService_ends asked
    swap
    · exact fault.elim
    obtain ⟨v, b', g₃, g₄, walked, ended, rfl⟩ | ⟨o', stop, stopped⟩ := entered.of_bind
    · have walk := Graph.supersteps_walk walked
      obtain ⟨result, returns⟩ | ⟨e, raises⟩ := resultFromState_cases app.py scenario v
      · rw [returns] at ended
        obtain ⟨rfl, rfl, rfl⟩ := ended.of_ret
        rw [List.append_nil]
        exact .walked service first ok later found read quiet walk (.returned returns)
      · rw [raises] at ended
        obtain ⟨rfl, rfl, rfl⟩ := ended.of_raise
        rw [List.append_nil]
        exact .walked service first ok later found read quiet walk (.invalid raises)
    · exact .walked service first ok later found read quiet (Graph.supersteps_walk stopped)
        (.stopped stop)

end OpsPilot.GraphRun
