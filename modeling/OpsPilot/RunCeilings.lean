import OpsPilot.GraphRun

/-! Every run ends within its ceilings, and its status names the reason that stopped it. -/

namespace OpsPilot.RunCeilings
open JsonText AgentSchemas SyntheticEnvironment InvestigationState Models RunTrace ChatClient
open GatherContext IdempotentExecution GraphNodes Investigation Superstep GatherLoop GraphRun
open DurableProgram StateGraph

variable {rely : Rely Database} {permit : Permit Label ChatOutcome Database Error}
  {app : App} {deps : NodeDeps}

structure WithinCeilings (app : App) (maxSteps : ℕ) (maxCostUsd : ℚ) (h : List BackendEvent)
    (final : GraphState) (result : InvestigationResult) : Prop where
  visits : (gatherVisits h).length ≤ max 1 maxSteps
  attempts : ∀ n ∈ attemptsPerVisit h, n ≤ 3
  reentered : ∀ state ∈ (gatherVisits h).tail,
    state.estimatedCostUsd ≤ maxCostUsd ∧ state.providerError = none
  supersteps : (RunTrace.visits h).length < maxSteps + 10
  stepsUsed : result.stepsUsed = (gatherVisits h).length
  inputTokens : result.totalInputTokens = ((responses h).map (·.inputTokens)).sum
  outputTokens : result.totalOutputTokens = ((responses h).map (·.outputTokens)).sum
  cost : final.estimatedCostUsd = ((responses h).map (costOf app)).sum
  reportedCost : result.estimatedCostUsd = roundTo 6 final.estimatedCostUsd
  providerError : result.status = .incompleteProviderError ↔ responses (lastVisit h) = []
  diagnosed : responses (lastVisit h) ≠ [] →
    ((result.status = .diagnosed ∨ result.status = .awaitingApproval) ↔
      (lastDiagnosis app h).isSome)
  costCeiling : responses (lastVisit h) ≠ [] → lastDiagnosis app h = none →
    (result.status = .incompleteCostCeiling ↔ maxCostUsd < final.estimatedCostUsd)
  stepCeiling : responses (lastVisit h) ≠ [] → lastDiagnosis app h = none →
    final.estimatedCostUsd ≤ maxCostUsd →
    result.status = .incompleteStepCeiling ∧ maxSteps ≤ result.stepsUsed

theorem outsideLoop_of_ofExecution {l : Label} (execution : ofExecution l) : outsideLoop l := by
  cases l <;> trivial

theorem outsideLoop_of_ofPrelude {l : Label} (prelude : ofPrelude l) : outsideLoop l := by
  cases l <;> trivial

theorem visits_of_execution {g : List BackendEvent} (execution : ∀ ev ∈ g, ofExecution ev.label) :
    RunTrace.visits g = [] := by
  rw [RunTrace.visits, List.filterMap_eq_nil_iff]
  intro ev mem
  have := execution ev mem
  unfold visitOf
  split
  · exact absurd this id
  · rfl

theorem policy_labels {values : GraphState} {answer : Option Json} {s t : Database}
    {o : Outcome Error (Visit GraphUpdate Json)} {g : List BackendEvent}
    (ends : PolicyEnds rely permit app deps values answer s o t g) :
    ∀ ev ∈ g, ofExecution ev.label := by
  cases ends with
  | undiagnosed => simp
  | paused => simp
  | idle => simp
  | ran _ _ _ ends => exact ends.labels
  | stopped _ _ _ ends => exact ends.labels

structure Tail (g : List BackendEvent) : Prop where
  outside : ∀ ev ∈ g, outsideLoop ev.label
  visits : (visits g).length ≤ 4

structure Framed (states : List GraphState) (answers : List (Option ModelResponse))
    (h : List BackendEvent) : Prop where
  gatherVisits : gatherVisits h = states
  responses : responses h = answers.reduceOption
  attempts : ∀ n ∈ attemptsPerVisit h, n ≤ maxRetries + 1
  recent : ∀ answer, answers.getLast? = some answer →
    RunTrace.responses (lastVisit h) = answer.toList
  visits : (visits h).length ≤ states.length + 4

theorem gatherVisits_of_loop {states : List GraphState} {answers : List (Option ModelResponse)}
    {g : List BackendEvent} (trace : LoopTrace states answers g) :
    gatherVisits g = states := by
  rw [gatherVisits, trace.visits, List.filter_eq_self.mpr (by simp), List.map_map]
  exact List.map_id _

theorem framed {states : List GraphState} {answers : List (Option ModelResponse)}
    {g prelude tail : List BackendEvent} (trace : LoopTrace states answers g)
    (quiet : ∀ ev ∈ prelude, ∃ l, ev = .performed l ∧ ofPrelude l)
    (after : Tail tail) : Framed states answers (prelude ++ (g ++ tail)) := by
  obtain ⟨outside, few⟩ := after
  have before : ∀ ev ∈ prelude, outsideLoop ev.label := by
    intro ev mem
    obtain ⟨l, rfl, inside⟩ := quiet ev mem
    exact outsideLoop_of_ofPrelude inside
  have unvisited : visits prelude = [] := by
    rw [visits, List.filterMap_eq_nil_iff]
    intro ev mem
    obtain ⟨l, rfl, inside⟩ := quiet ev mem
    cases l <;> first | rfl | exact inside.elim
  refine ⟨?_, ?_, ?_, ?_, ?_⟩
  · rw [gatherVisits_append, gatherVisits_append, gatherVisits_outside before,
      gatherVisits_outside outside, gatherVisits_of_loop trace, List.nil_append, List.append_nil]
  · rw [responses_append, responses_append, responses_outside before, responses_outside outside,
      trace.responses, List.nil_append, List.append_nil]
  · obtain ⟨more, counted, bounded⟩ := trace.attempts []
    rw [attemptsPerVisit, List.foldl_append, List.foldl_append, foldl_countAttempt_outside before,
      counted, foldl_countAttempt_outside outside]
    exact bounded
  · intro answer last
    rw [← List.append_assoc, lastVisit_outside outside, responses_append,
      responses_outside outside, List.append_nil]
    exact trace.recent prelude answer last
  · rw [visits_append, visits_append, unvisited, trace.visits]
    simp only [List.nil_append, List.length_append, List.length_map]
    omega

theorem Framed.lastDiagnosis {start last : GraphState} {states : List GraphState}
    {answers : List (Option ModelResponse)} {h : List BackendEvent}
    (trace : Framed states answers h) (loop : Gathering app deps start states answers last)
    (sound : start.providerError = none) (unsolved : start.diagnosis = none) :
    lastDiagnosis app h = last.diagnosis ∧
      (RunTrace.responses (lastVisit h) = [] ↔ last.providerError.isSome) := by
  obtain ⟨answer, isLast, recent⟩ := loop.recent sound unsolved
  have received := trace.recent answer isLast
  refine ⟨?_, ?_⟩
  · rw [GatherLoop.lastDiagnosis, received, recent.diagnosis]
    cases answer <;> rfl
  · rw [received, recent.providerError]
    cases answer <;> simp

structure Concludes (deps : NodeDeps) (last final : GraphState) (result : InvestigationResult) :
    Prop where
  stepsUsed : result.stepsUsed = last.stepsUsed
  inputTokens : result.totalInputTokens = last.totalInputTokens
  outputTokens : result.totalOutputTokens = last.totalOutputTokens
  cost : final.estimatedCostUsd = last.estimatedCostUsd
  reportedCost : result.estimatedCostUsd = roundTo 6 final.estimatedCostUsd
  status : result.status = finalStatus deps last ∨
    (result.status = .awaitingApproval ∧ last.diagnosis.isSome ∧ last.providerError = none)

inductive StopReason (deps : NodeDeps) (last : GraphState) : InvestigationStatus → Prop where
  | providerError (failed : last.providerError.isSome) :
      StopReason deps last .incompleteProviderError
  | diagnosed (sound : last.providerError = none) (found : last.diagnosis.isSome) :
      StopReason deps last .diagnosed
  | awaitingApproval (sound : last.providerError = none) (found : last.diagnosis.isSome) :
      StopReason deps last .awaitingApproval
  | costCeiling (sound : last.providerError = none) (missing : last.diagnosis = none)
      (above : deps.maxCostUsd < last.estimatedCostUsd) :
      StopReason deps last .incompleteCostCeiling
  | stepCeiling (sound : last.providerError = none) (missing : last.diagnosis = none)
      (within : last.estimatedCostUsd ≤ deps.maxCostUsd) (spent : deps.maxSteps ≤ last.stepsUsed) :
      StopReason deps last .incompleteStepCeiling

namespace StopReason

variable {last : GraphState} {status : InvestigationStatus}

theorem providerError_iff (reason : StopReason deps last status) :
    status = .incompleteProviderError ↔ last.providerError.isSome := by
  cases reason <;> simp_all

theorem diagnosed_iff (reason : StopReason deps last status)
    (answered : ¬ last.providerError.isSome) :
    (status = .diagnosed ∨ status = .awaitingApproval) ↔ last.diagnosis.isSome := by
  cases reason <;> simp_all

theorem costCeiling_iff (reason : StopReason deps last status)
    (answered : ¬ last.providerError.isSome) (missing : last.diagnosis = none) :
    status = .incompleteCostCeiling ↔ deps.maxCostUsd < last.estimatedCostUsd := by
  cases reason <;> simp_all

theorem stepCeiling_of (reason : StopReason deps last status)
    (answered : ¬ last.providerError.isSome) (missing : last.diagnosis = none)
    (within : last.estimatedCostUsd ≤ deps.maxCostUsd) :
    status = .incompleteStepCeiling ∧ deps.maxSteps ≤ last.stepsUsed := by
  cases reason with
  | stepCeiling _ _ _ spent => exact ⟨rfl, spent⟩
  | costCeiling _ _ above => exact absurd within (not_le.mpr above)
  | providerError failed => exact absurd failed answered
  | diagnosed _ found => simp [missing] at found
  | awaitingApproval _ found => simp [missing] at found

end StopReason

theorem Concludes.reason {last final : GraphState} {result : InvestigationResult}
    (ends : Concludes deps last final result)
    (stops : routeAfterGatherContext deps last ≠ .continue) :
    StopReason deps last result.status := by
  rcases ends.status with status | ⟨status, found, sound⟩
  swap
  · rw [status]
    exact .awaitingApproval sound found
  rw [status, finalStatus]
  by_cases failed : last.providerError.isSome
  · rw [if_pos failed]
    exact .providerError failed
  have sound : last.providerError = none := by simpa using failed
  rw [if_neg failed]
  by_cases found : last.diagnosis.isSome
  · rw [if_pos found]
    exact .diagnosed sound found
  have missing : last.diagnosis = none := by simpa using found
  rw [if_neg found]
  by_cases above : last.estimatedCostUsd > deps.maxCostUsd
  · rw [if_pos above]
    exact .costCeiling sound missing above
  rw [if_neg above]
  rw [routeAfterGatherContext, if_neg failed, if_neg found] at stops
  have spent : deps.maxSteps ≤ last.stepsUsed := by
    by_contra room
    exact stops (if_neg (not_or.mpr ⟨above, room⟩))
  exact .stepCeiling sound missing (not_lt.mp above) spent

theorem withinCeilings {start last final : GraphState} {states : List GraphState}
    {answers : List (Option ModelResponse)} {h : List BackendEvent} {result : InvestigationResult}
    (fresh : ∃ messages trail, start =
      { initialState with messages := messages, evidenceTrail := trail })
    (loop : Gathering app deps start states answers last) (trace : Framed states answers h)
    (ends : Concludes deps last final result) :
    WithinCeilings app deps.maxSteps deps.maxCostUsd h final result := by
  obtain ⟨messages, trail, rfl⟩ := fresh
  have steps : last.stepsUsed = states.length := loop.stepsUsed.trans (Nat.zero_add _)
  have length : states.length ≤ max 1 deps.maxSteps := loop.length_le
  have counted := loop.counted
  have cost : final.estimatedCostUsd = last.estimatedCostUsd := ends.cost
  have reason := ends.reason loop.stops
  obtain ⟨diagnosis, answered⟩ := trace.lastDiagnosis loop rfl rfl
  rw [← trace.gatherVisits] at steps length
  refine ⟨length, trace.attempts, ?_, ?_, ends.stepsUsed.trans steps, ?_, ?_, ?_,
    ends.reportedCost, ?_, ?_, ?_, ?_⟩
  · rw [trace.gatherVisits]
    exact loop.reentered
  · have visits := trace.visits
    rw [← trace.gatherVisits] at visits
    omega
  · rw [ends.inputTokens, counted.inputTokens, trace.responses]
    exact zero_add _
  · rw [ends.outputTokens, counted.outputTokens, trace.responses]
    exact zero_add _
  · rw [cost, counted.cost, trace.responses]
    exact zero_add _
  · rw [answered]
    exact reason.providerError_iff
  · rw [ne_eq, answered, diagnosis]
    exact reason.diagnosed_iff
  · rw [ne_eq, answered, diagnosis, cost]
    exact reason.costCeiling_iff
  · rw [ne_eq, answered, diagnosis, cost, ends.stepsUsed]
    exact reason.stepCeiling_of

theorem finalStatus_carried {before after : GraphState} (carried : Carried before after) :
    finalStatus deps after = finalStatus deps before := by
  rw [finalStatus, carried.providerError, carried.diagnosis, carried.estimatedCostUsd]
  rfl

theorem concludes_finished {last values : GraphState} {scenario : Scenario}
    {result : InvestigationResult} (carried : Carried last values)
    (returns : resultFromState app.py scenario (values.merge (decide deps values), none) =
      .ret result) :
    Concludes deps last (values.merge (decide deps values)) result := by
  have final := carried.trans (carried_decide deps values)
  obtain rfl : finishedResult scenario (values.merge (decide deps values))
      (finalStatus deps values) = result := Program.ret.inj returns
  exact ⟨final.stepsUsed, final.totalInputTokens, final.totalOutputTokens,
    final.estimatedCostUsd, rfl, .inl (finalStatus_carried carried)⟩

theorem concludes_paused {last values : GraphState} {scenario : Scenario} {payload : Json}
    {result : InvestigationResult} (carried : Carried last values)
    (found : last.diagnosis.isSome) (sound : last.providerError = none)
    (returns : resultFromState app.py scenario (values, some payload) = .ret result) :
    Concludes deps last values result := by
  obtain rfl : pausedResult scenario values payload = result := Program.ret.inj returns
  exact ⟨carried.stepsUsed, carried.totalInputTokens, carried.totalOutputTokens,
    carried.estimatedCostUsd, rfl, .inr ⟨rfl, found, sound⟩⟩

theorem ceiling_tail (deps : NodeDeps) (last : GraphState) :
    Tail [.performed (.visit deps.threadId .decide last),
      .performed (.saveCheckpoint deps.threadId)] :=
  ⟨by simp [Event.label, outsideLoop], (by decide : 1 ≤ 4)⟩

theorem gate_tail (last : GraphState) {values : GraphState} {answer : Option Json}
    {s u : Database} {v : GraphState × Option Json} {g : List BackendEvent}
    (ends : GateEnds rely permit app deps values answer s (.returned v) u g) :
    Tail (checkTrace app deps last ++ g) := by
  have checks : ∀ ev ∈ checkTrace app deps last, outsideLoop ev.label := by
    simp [checkTrace, Event.label, outsideLoop]
  have two : (visits (checkTrace app deps last)).length = 2 := rfl
  cases ends with
  | before _ cause =>
    rcases cause with fault | ⟨same, _⟩
    · exact fault.elim
    · cases same
  | unsaved _ _ _ fault => exact fault.elim
  | undecided _ _ _ _ fault => exact fault.elim
  | paused found approval _ others =>
    refine ⟨?_, ?_⟩
    · simp only [List.mem_append]
      rintro ev (check | pause)
      · exact checks ev check
      · revert ev
        simp [Event.label, outsideLoop]
    · rw [visits_append, List.length_append, two]
      exact (by decide : 2 + 1 ≤ 4)
  | finished entering ends leaving later =>
    have inside := policy_labels ends
    refine ⟨?_, ?_⟩
    · simp only [List.mem_append, List.mem_cons, List.not_mem_nil, or_false]
      rintro ev (check | rfl | gate | rfl | rfl | rfl)
      · exact checks ev check
      · trivial
      · exact outsideLoop_of_ofExecution (inside ev gate)
      · trivial
      · trivial
      · trivial
    · rw [visits_append, List.length_append, two, ← List.singleton_append, visits_append,
        visits_append, visits_of_execution inside]
      exact (by decide : 2 + 2 ≤ 4)

theorem diagnosis_of_route {last : GraphState}
    (route : routeAfterGatherContext deps last = .diagnosed) :
    last.providerError = none ∧ last.diagnosis.isSome := by
  unfold routeAfterGatherContext at route
  split_ifs at route with failed found
  exact ⟨by simpa using failed, found⟩

theorem runEnds_concludes {start final : GraphState} {ask : Option Json} {s u : Database}
    {g : List BackendEvent} {scenario : Scenario} {result : InvestigationResult}
    (ends : RunEnds rely permit app deps start s (.returned (final, ask)) u g)
    (returns : resultFromState app.py scenario (final, ask) = .ret result) :
    ∃ states answers last loop tail, ∃ (t : Database) (next : Option Node), g = loop ++ tail ∧
      Gathering app deps start states answers last ∧ LoopTrace states answers loop ∧
      Tail tail ∧ Concludes deps last final result ∧
      rely.holds (t.saveCheckpoint deps.threadId ⟨final, next⟩) u := by
  cases ends with
  | faulted fault => exact fault.elim
  | ceiling loop route trace kept =>
    exact ⟨_, _, _, _, _, _, _, rfl, loop, trace, ceiling_tail _ _,
      concludes_finished ⟨rfl, rfl, rfl, rfl, rfl, rfl, rfl, rfl⟩ returns, rely.refl _⟩
  | @gate _ _ last _ _ _ _ _ loop route trace kept ends =>
    have tail := gate_tail last ends
    have found := diagnosis_of_route route
    cases ends with
    | before _ cause =>
      rcases cause with fault | ⟨same, _⟩
      · exact fault.elim
      · cases same
    | unsaved _ _ _ fault => exact fault.elim
    | undecided _ _ _ _ fault => exact fault.elim
    | paused _ _ _ others =>
      exact ⟨_, _, _, _, _, _, _, List.append_assoc _ _ _, loop, trace, tail,
        concludes_paused (carried_checked _ _) found.2 found.1 returns, others⟩
    | finished entering ends leaving later =>
      exact ⟨_, _, _, _, _, _, _, List.append_assoc _ _ _, loop, trace, tail,
        concludes_finished ((carried_checked _ _).trans (carried_policy ends)) returns, rely.refl _⟩

theorem not_refused {α : Type} {o : Outcome Error α} (refused : Refused .alone permit o) : False := by
  obtain ⟨_, a, t, row, other, same, missing, taken, _⟩ := refused
  cases same
  rw [missing] at taken
  cases taken

/-- For every sequence of replies of the chat function and every pair of ceilings, on a new or an
old thread: the run returns a result, within its ceilings. -/
theorem run_within_ceilings (app : App) (scenario : Scenario) (threadId : String) (maxSteps : ℕ)
    (maxCostUsd : ℚ) (memoryEnabled : Bool) (db : Database) (replies : ℕ → ChatOutcome) :
    let run := eval (runInvestigation app scenario threadId ⟨some maxSteps, some maxCostUsd⟩
      memoryEnabled) replies db
    ∃ result saved, run.1 = .returned result ∧ run.2.1.checkpoints threadId = some saved ∧
      WithinCeilings app maxSteps maxCostUsd run.2.2 saved.values result := by
  intro run
  have ends := runInvestigation_ends (eval_runs (runInvestigation app scenario threadId
    ⟨some maxSteps, some maxCostUsd⟩ memoryEnabled) replies db)
  generalize outcome : run.1 = o, reached : run.2.1 = u, history : run.2.2 = h
  change InvestigationEnds .alone noFaults app scenario threadId _ db run.1 run.2.1 run.2.2 at ends
  rw [outcome, reached, history] at ends
  cases ends with
  | stopped cause =>
    rcases cause with fault | refused
    · exact (fault.of_noFaults fun _ _ ok => ok).elim
    · exact (not_refused refused).elim
  | @returned memory s₁ t final ask result _ g g' others quiet kept ends returns =>
    obtain ⟨states, answers, last, inner, tail, t', next, rfl, loop, trace, after, concludes,
      same⟩ := runEnds_concludes ends returns
    cases same
    refine ⟨result, ⟨final, next⟩, rfl, by simp [Database.saveCheckpoint, depsOf], ?_⟩
    have fresh : ∀ saved, ∃ messages trail, initialState.asInput saved =
        { initialState with messages := messages, evidenceTrail := trail } := by
      rintro (_ | values) <;> exact ⟨_, _, rfl⟩
    exact withinCeilings (fresh _) loop (framed trace quiet after) concludes

end OpsPilot.RunCeilings
