import OpsPilot.Superstep
import Mathlib.Data.List.ReduceOption
import Mathlib.Logic.Relation

/-! The loop over `gather_context`: the visits it makes, what each received, and the room it
leaves under the recursion limit. -/

namespace OpsPilot.GatherLoop
open JsonText AgentSchemas InvestigationState Models RunTrace ChatClient GatherContext Investigation
open Superstep DurableProgram StateGraph

variable {rely : Rely Database} {permit : Permit Label ChatOutcome Database Error}
  {app : App} {deps : NodeDeps}

/-- A visit of `gather_context` that went through, with the response it received. -/
inductive Gathers (app : App) (deps : NodeDeps) (state : GraphState) :
    Option ModelResponse → GraphState → Prop where
  | gaveUp (text) : Gathers app deps state none (state.merge (gaveUp state text))
  | answered (response) :
      Gathers app deps state (some response) (state.merge (afterResponse app deps state response))

/-- The visits of the loop, what each received, and the state after the last one. -/
inductive Gathering (app : App) (deps : NodeDeps) :
    GraphState → List GraphState → List (Option ModelResponse) → GraphState → Prop where
  | last {state answer next} (visit : Gathers app deps state answer next)
      (stop : routeAfterGatherContext deps next ≠ .continue) :
      Gathering app deps state [state] [answer] next
  | more {state answer next states answers final} (visit : Gathers app deps state answer next)
      (again : routeAfterGatherContext deps next = .continue)
      (rest : Gathering app deps next states answers final) :
      Gathering app deps state (state :: states) (answer :: answers) final

theorem Gathering.stops {state final : GraphState} {states : List GraphState}
    {answers : List (Option ModelResponse)}
    (loop : Gathering app deps state states answers final) :
    routeAfterGatherContext deps final ≠ .continue := by
  induction loop with
  | last _ stop => exact stop
  | more _ _ _ ih => exact ih

theorem Gathering.visited {state final : GraphState} {states : List GraphState}
    {answers : List (Option ModelResponse)}
    (loop : Gathering app deps state states answers final) : answers ≠ [] := by
  cases loop <;> exact List.cons_ne_nil _ _

structure LoopTrace (states : List GraphState) (answers : List (Option ModelResponse))
    (g : List BackendEvent) : Prop where
  visits : visits g = states.map fun state => (Node.gatherContext, state)
  responses : responses g = answers.reduceOption
  invocations : invocations g = []
  pauses : pauses g = []
  attempts : ∀ counts, ∃ more, g.foldl countAttempt counts = counts ++ more ∧
    ∀ n ∈ more, n ≤ maxRetries + 1
  recent : ∀ before answer, answers.getLast? = some answer →
    RunTrace.responses (lastVisit (before ++ g)) = answer.toList

theorem LoopTrace.append {states states' : List GraphState}
    {answers answers' : List (Option ModelResponse)} {g g' : List BackendEvent}
    (first : LoopTrace states answers g) (later : LoopTrace states' answers' g')
    (visited : answers' ≠ []) : LoopTrace (states ++ states') (answers ++ answers') (g ++ g') := by
  refine ⟨?_, ?_, ?_, ?_, ?_, ?_⟩
  · rw [visits_append, first.visits, later.visits, List.map_append]
  · rw [responses_append, first.responses, later.responses, List.reduceOption_append]
  · rw [invocations_append, first.invocations, later.invocations]
    rfl
  · rw [pauses_append, first.pauses, later.pauses]
    rfl
  · intro counts
    obtain ⟨more, counted, few⟩ := first.attempts counts
    obtain ⟨more', counted', few'⟩ := later.attempts (counts ++ more)
    refine ⟨more ++ more', ?_, ?_⟩
    · rw [List.foldl_append, counted, counted', List.append_assoc]
    · intro n mem
      rcases List.mem_append.mp mem with old | new
      · exact few n old
      · exact few' n new
  · intro before answer last
    rw [List.getLast?_append_of_ne_nil _ visited] at last
    rw [← List.append_assoc]
    exact later.recent _ answer last

theorem LoopTrace.visit (deps : NodeDeps) (state : GraphState) {answer : Option ModelResponse}
    {g : List BackendEvent} (trace : RoundTrace g)
    (received : RunTrace.responses g = answer.toList) :
    LoopTrace [state] [answer] (.performed (.visit deps.threadId .gatherContext state) ::
      (g ++ [.performed (.saveCheckpoint deps.threadId)])) := by
  have framed : Event.performed (.visit deps.threadId .gatherContext state) ::
      (g ++ [.performed (.saveCheckpoint deps.threadId)]) =
        [.performed (.visit deps.threadId .gatherContext state)] ++ g ++
          [.performed (.saveCheckpoint deps.threadId)] := rfl
  have saved : RunTrace.responses [.performed (.saveCheckpoint deps.threadId)] = [] := rfl
  refine ⟨?_, ?_, ?_, ?_, ?_, ?_⟩
  · rw [framed, visits_append, visits_append, visits_of_round trace.labels]
    rfl
  · rw [framed, responses_append, responses_append, saved, received]
    cases answer <;> rfl
  · rw [framed, invocations_append, invocations_append, invocations_of_round trace.labels]
    rfl
  · rw [framed, pauses_append, pauses_append, pauses_of_round trace.labels]
    rfl
  · intro counts
    refine ⟨[chatAttempts g], ?_, by simpa using trace.attempts⟩
    have entered : countAttempt counts (.performed (.visit deps.threadId .gatherContext state)) =
        counts ++ [0] := rfl
    have left : ∀ counts, countAttempt counts (.performed (.saveCheckpoint deps.threadId)) =
        counts := fun _ => rfl
    rw [List.foldl_cons, entered, List.foldl_append, foldl_countAttempt_round trace.labels,
      List.foldl_cons, left, List.foldl_nil, Nat.zero_add]
  · intro before last same
    obtain rfl : answer = last := by simpa using same
    have outside : ∀ ev ∈ g ++ [.performed (.saveCheckpoint deps.threadId)],
        entersGather ev = false := by
      intro ev mem
      rcases List.mem_append.mp mem with inside | final
      · exact entersGather_of_round (trace.labels ev inside)
      · rw [List.mem_singleton.mp final]
        rfl
    rw [← List.singleton_append, ← List.append_assoc, lastVisit_append outside,
      lastVisit_enter rfl, List.nil_append, responses_append, saved, List.append_nil, received]

def Kept (rely : Rely Database) (threadId : String) : Database → Database → Prop :=
  Relation.ReflTransGen fun a b =>
    rely.holds a b ∨ ∃ checkpoint, b = a.saveCheckpoint threadId checkpoint

theorem Kept.of_rely {threadId : String} {s t : Database} (others : rely.holds s t) :
    Kept rely threadId s t := .single (.inl others)

theorem Kept.save {threadId : String} {s t : Database} (kept : Kept rely threadId s t)
    (checkpoint : Saved) : Kept rely threadId s (t.saveCheckpoint threadId checkpoint) :=
  .tail kept (.inr ⟨checkpoint, rfl⟩)

theorem Kept.then {threadId : String} {s t u : Database} (kept : Kept rely threadId s t)
    (others : rely.holds t u) : Kept rely threadId s u :=
  .tail kept (.inl others)

/-- A relation that others and the thread's checkpoints keep. -/
theorem Kept.induction {threadId : String} {motive : Database → Database → Prop}
    (refl : ∀ s, motive s s) (trans : ∀ {a b c}, motive a b → motive b c → motive a c)
    (byOthers : ∀ s t, rely.holds s t → motive s t)
    (bySaving : ∀ s checkpoint, motive s (s.saveCheckpoint threadId checkpoint))
    {s t : Database} (kept : Kept rely threadId s t) : motive s t := by
  induction kept with
  | refl => exact refl s
  | tail _ step ih =>
    obtain others | ⟨checkpoint, rfl⟩ := step
    · exact trans ih (byOthers _ _ others)
    · exact trans ih (bySaving _ checkpoint)

@[simp] theorem Gathers.stepsUsed {state next : GraphState} {answer : Option ModelResponse}
    (visit : Gathers app deps state answer next) : next.stepsUsed = state.stepsUsed + 1 := by
  cases visit with
  | gaveUp text => rfl
  | answered response =>
    unfold afterResponse
    simp only [GraphState.merge]
    split <;> rfl

theorem stepsUsed_of_continue {state : GraphState}
    (again : routeAfterGatherContext deps state = .continue) : state.stepsUsed < deps.maxSteps := by
  unfold routeAfterGatherContext at again
  split_ifs at again with _ _ ceiling
  omega

theorem gather_superstep {state : GraphState} {given : Option Json} {s u : Database}
    {o : Outcome Error (Graph.Step Node GraphState Json)} {g : List BackendEvent}
    (run : Runs rely permit ((buildGraph app deps).superstep .gatherContext state given) s o u g) :
    Faulted permit o ∨ ∃ answer next t, Gathers app deps state answer next ∧
      LoopTrace [state] [answer] g ∧ Kept rely deps.threadId s t ∧
      o = .returned (.moved ⟨next, route deps .gatherContext next⟩) ∧
      u = t.saveCheckpoint deps.threadId ⟨next, route deps .gatherContext next⟩ := by
  cases superstep_ends run with
  | entering _ fault _ => exact .inl fault
  | leaving _ _ _ fault _ => exact .inl fault
  | inside _ stop ends =>
    cases ends with
    | faulted _ _ fault => exact .inl (fault.stopped stop)
    | gathered => cases stop
  | paused _ ends _ =>
    cases ends with
    | faulted _ _ fault => exact fault.elim
  | moved entering ends leaving =>
    cases ends with
    | faulted _ _ fault => exact fault.elim
    | gathered others ends =>
      have kept : Kept rely deps.threadId s _ :=
        .of_rely (rely.trans entering (rely.trans others leaving))
      obtain ⟨trace, ⟨text, rfl, answers⟩ | ⟨response, rfl, answers⟩⟩ := ends
      · exact .inr ⟨none, _, _, .gaveUp text, .visit deps state trace answers, kept, rfl, rfl⟩
      · exact .inr ⟨some response, _, _, .answered response, .visit deps state trace answers,
          kept, rfl, rfl⟩

theorem loop_ends {limit : ℕ} {state : GraphState} {s u : Database}
    {o : Outcome Error (GraphState × Option Json)} {g : List BackendEvent}
    (walk : (buildGraph app deps).Walk rely permit limit ⟨state, some .gatherContext⟩ none s o u g)
    (fits : state.stepsUsed ≤ deps.maxSteps)
    (enough : deps.maxSteps + 10 ≤ state.stepsUsed + limit) :
    Faulted permit o ∨ ∃ states answers final t rest g₁ g₂,
      Gathering app deps state states answers final ∧ LoopTrace states answers g₁ ∧
      Kept rely deps.threadId s t ∧ g = g₁ ++ g₂ ∧
      (buildGraph app deps).Walk rely permit (rest + 4) ⟨final, route deps .gatherContext final⟩
        none (t.saveCheckpoint deps.threadId ⟨final, route deps .gatherContext final⟩) o u g₂ := by
  induction limit generalizing state s g with
  | zero => omega
  | succ limit ih =>
    cases walk with
    | paused last =>
      obtain fault | ⟨_, _, _, _, _, _, same, _⟩ := gather_superstep last
      · exact fault.elim
      · cases same
    | stopped stop last =>
      obtain fault | ⟨_, _, _, _, _, _, rfl, _⟩ := gather_superstep last
      · exact .inl (fault.stopped stop)
      · cases stop
    | moved first rest =>
      obtain fault | ⟨answer, next, t, visit, trace, kept, same, rfl⟩ := gather_superstep first
      · exact fault.elim
      cases same
      have counted := visit.stepsUsed
      by_cases again : routeAfterGatherContext deps next = .continue
      · have room := stepsUsed_of_continue again
        have looping : route deps .gatherContext next = some .gatherContext := by
          simp only [route, again]
        have later := rest
        rw [looping] at later
        obtain fault | ⟨states, answers, final, t', left, g₁, g₂, loop, trace', kept', rfl, walk⟩ :=
          ih later (by omega) (by omega)
        · exact .inl fault
        · exact .inr ⟨state :: states, answer :: answers, final, t', left, _ ++ g₁, g₂,
            .more visit again loop, trace.append trace' loop.visited, (kept.save _).trans kept',
            by simp, walk⟩
      · obtain ⟨left, rfl⟩ : ∃ left, limit = left + 4 := ⟨limit - 4, by omega⟩
        exact .inr ⟨[state], [answer], next, t, left, _, _, .last visit again, trace, kept, rfl, rest⟩

section
variable {state final : GraphState} {states : List GraphState}
  {answers : List (Option ModelResponse)}

def costOf (app : App) (response : ModelResponse) : ℚ :=
  estimateCostUsd app.settings.anthropicModel response.inputTokens response.outputTokens

structure Counted (app : App) (answers : List (Option ModelResponse)) (state final : GraphState) :
    Prop where
  inputTokens : final.totalInputTokens =
    state.totalInputTokens + (answers.reduceOption.map (·.inputTokens)).sum
  outputTokens : final.totalOutputTokens =
    state.totalOutputTokens + (answers.reduceOption.map (·.outputTokens)).sum
  cost : final.estimatedCostUsd =
    state.estimatedCostUsd + (answers.reduceOption.map (costOf app)).sum

theorem Gathers.counted {answer : Option ModelResponse} {next : GraphState}
    (visit : Gathers app deps state answer next) : Counted app [answer] state next := by
  cases visit with
  | gaveUp text =>
    exact ⟨(add_zero _).symm, (add_zero _).symm, (add_zero _).symm⟩
  | answered response =>
    unfold afterResponse
    split <;> constructor <;>
      simp [GraphState.merge, List.reduceOption, costOf]

theorem Gathering.counted (loop : Gathering app deps state states answers final) :
    Counted app answers state final := by
  induction loop with
  | last visit _ => exact visit.counted
  | @more state answer next states answers final visit _ _ ih =>
    have first := visit.counted
    have split : (answer :: answers).reduceOption = [answer].reduceOption ++ answers.reduceOption :=
      List.reduceOption_append [answer] answers
    refine ⟨?_, ?_, ?_⟩
    · rw [ih.inputTokens, first.inputTokens, split, List.map_append, List.sum_append, add_assoc]
    · rw [ih.outputTokens, first.outputTokens, split, List.map_append, List.sum_append, add_assoc]
    · rw [ih.cost, first.cost, split, List.map_append, List.sum_append, add_assoc]

theorem Gathering.stepsUsed (loop : Gathering app deps state states answers final) :
    final.stepsUsed = state.stepsUsed + states.length := by
  induction loop with
  | last visit _ => exact visit.stepsUsed
  | more visit _ _ ih =>
    have := visit.stepsUsed
    rw [ih, List.length_cons]
    omega

theorem Gathering.length_le (loop : Gathering app deps state states answers final) :
    states.length ≤ max 1 (deps.maxSteps - state.stepsUsed) := by
  induction loop with
  | last => exact le_max_left _ _
  | more visit again _ ih =>
    have := visit.stepsUsed
    have := stepsUsed_of_continue again
    rw [List.length_cons]
    omega

theorem Gathering.head (loop : Gathering app deps state states answers final) :
    ∃ later, states = state :: later := by
  cases loop <;> exact ⟨_, rfl⟩

theorem Gathering.reentered (loop : Gathering app deps state states answers final) :
    ∀ later ∈ states.tail, later.estimatedCostUsd ≤ deps.maxCostUsd ∧ later.providerError = none := by
  induction loop with
  | last => simp
  | more _ again rest ih =>
    obtain ⟨later, rfl⟩ := rest.head
    intro entered mem
    rcases List.mem_cons.mp mem with rfl | inside
    · unfold routeAfterGatherContext at again
      split_ifs at again with failed _ ceiling
      refine ⟨not_lt.mp fun above => ceiling (.inl above), ?_⟩
      simpa using failed
    · exact ih entered inside

def lastDiagnosis (app : App) (h : List BackendEvent) : Option SubmitDiagnosisArgs :=
  (responses (lastVisit h)).head?.bind (submitted app.py)

structure Recent (app : App) (answer : Option ModelResponse) (final : GraphState) : Prop where
  providerError : final.providerError.isSome ↔ answer = none
  diagnosis : final.diagnosis = answer.bind (submitted app.py)

theorem Gathers.recent {answer : Option ModelResponse} {next : GraphState}
    (visit : Gathers app deps state answer next) (sound : state.providerError = none)
    (unsolved : state.diagnosis = none) : Recent app answer next := by
  cases visit with
  | gaveUp text => exact ⟨⟨fun _ => rfl, fun _ => rfl⟩, unsolved⟩
  | answered response =>
    by_cases quiet : response.toolUseBlocks = []
    · refine ⟨?_, ?_⟩
      · simp [GraphState.merge, afterResponse, quiet, sound]
      · simp [GraphState.merge, afterResponse, quiet, unsolved, submitted]
    · refine ⟨?_, ?_⟩
      · simp [GraphState.merge, afterResponse, quiet, sound]
      · simp [GraphState.merge, afterResponse, quiet, roundOf_diagnosis]

theorem Gathering.recent (loop : Gathering app deps state states answers final)
    (sound : state.providerError = none) (unsolved : state.diagnosis = none) :
    ∃ answer, answers.getLast? = some answer ∧ Recent app answer final := by
  induction loop with
  | last visit _ => exact ⟨_, rfl, visit.recent sound unsolved⟩
  | more visit again rest ih =>
    have fresh : routeAfterGatherContext deps _ = .continue := again
    unfold routeAfterGatherContext at fresh
    split_ifs at fresh with failed found _
    obtain ⟨answer, last, recent⟩ := ih (by simpa using failed) (by simpa using found)
    refine ⟨answer, ?_, recent⟩
    rw [List.getLast?_cons, last]
    rfl

structure Unjudged (before after : GraphState) : Prop where
  policyVerdict : after.policyVerdict = before.policyVerdict
  remediationResult : after.remediationResult = before.remediationResult
  approvalDecision : after.approvalDecision = before.approvalDecision

theorem Gathers.unjudged {answer : Option ModelResponse} {next : GraphState}
    (visit : Gathers app deps state answer next) : Unjudged state next := by
  cases visit with
  | gaveUp text => exact ⟨rfl, rfl, rfl⟩
  | answered response =>
    unfold afterResponse
    split <;> exact ⟨rfl, rfl, rfl⟩

theorem Gathering.unjudged (loop : Gathering app deps state states answers final) :
    Unjudged state final := by
  induction loop with
  | last visit _ => exact visit.unjudged
  | more visit _ _ ih =>
    exact ⟨ih.policyVerdict.trans visit.unjudged.policyVerdict,
      ih.remediationResult.trans visit.unjudged.remediationResult,
      ih.approvalDecision.trans visit.unjudged.approvalDecision⟩

end

def Recorded (round : Round) : Prop :=
  ∀ diagnosis, round.diagnosis = some diagnosis →
    ∃ record ∈ round.newEvidence, record.result = some diagnosis.modelDump

theorem recorded_after (ctx : ReadOnlyTools.ToolContext) (step : ℕ) {round : Round}
    (block : ToolUseBlock)
    (recorded : Recorded round) : Recorded (round.after ctx step block) := by
  have kept : ∀ {later : Round} {extra : List ToolCallRecord},
      later.newEvidence = round.newEvidence ++ extra → later.diagnosis = round.diagnosis →
        Recorded later := by
    intro later extra evidence same diagnosis found
    obtain ⟨record, mem, result⟩ := recorded diagnosis (same ▸ found)
    exact ⟨record, evidence ▸ List.mem_append_left _ mem, result⟩
  unfold Round.after
  split
  · split
    · exact kept rfl rfl
    · intro diagnosis found
      cases found
      exact ⟨_, List.mem_append_right _ List.mem_cons_self, rfl⟩
  · split
    · exact kept rfl rfl
    · split <;> exact kept rfl rfl

theorem recorded_foldl (ctx : ReadOnlyTools.ToolContext) (step : ℕ) (blocks : List ToolUseBlock)
    {round : Round} (recorded : Recorded round) :
    Recorded (blocks.foldl (Round.after ctx step) round) := by
  induction blocks generalizing round with
  | nil => exact recorded
  | cons block blocks ih => exact ih (recorded_after ctx step block recorded)

def DiagnosisRecorded (values : GraphState) : Prop :=
  ∀ diagnosis, values.diagnosis = some diagnosis →
    ∃ record ∈ values.evidenceTrail, record.result = some diagnosis.modelDump

theorem Gathers.recorded {state next : GraphState} {answer : Option ModelResponse}
    (visit : Gathers app deps state answer next) (recorded : DiagnosisRecorded state) :
    DiagnosisRecorded next := by
  intro diagnosis found
  cases visit with
  | gaveUp text =>
    obtain ⟨record, mem, result⟩ := recorded diagnosis found
    exact ⟨record, List.mem_append_left _ mem, result⟩
  | answered response =>
    by_cases quiet : response.toolUseBlocks = []
    · simp only [GraphState.merge, afterResponse, if_pos quiet, Option.getD_none] at found ⊢
      obtain ⟨record, mem, result⟩ := recorded diagnosis found
      exact ⟨record, List.mem_append_left _ mem, result⟩
    · simp only [GraphState.merge, afterResponse, if_neg quiet, Option.getD_some] at found ⊢
      have empty : Recorded {} := by rintro _ ⟨⟩
      obtain ⟨record, mem, result⟩ := recorded_foldl _ _ _ empty diagnosis found
      exact ⟨record, List.mem_append_right _ mem, result⟩

theorem Gathering.recorded {state final : GraphState} {states : List GraphState}
    {answers : List (Option ModelResponse)}
    (loop : Gathering app deps state states answers final) (recorded : DiagnosisRecorded state) :
    DiagnosisRecorded final := by
  induction loop with
  | last visit _ => exact visit.recorded recorded
  | more visit _ _ ih => exact ih (visit.recorded recorded)

end OpsPilot.GatherLoop
