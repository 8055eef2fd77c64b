import OpsPilot.GroundingGuard
import OpsPilot.PolicyGate
import Mathlib.Data.List.Chain

/-! The transcript and the evidence trail of a run, block by block: at every node that is
entered, they are what the answers received so far make them. -/

namespace OpsPilot.Transcript
open JsonText AgentSchemas ReadOnlyTools SyntheticEnvironment InvestigationState Models RunTrace
open GatherContext GraphNodes Investigation Superstep GatherLoop GraphRun RunCeilings
open GroundingGuard DurableProgram StateGraph

variable {rely : Rely Database} {permit : Permit Label ChatOutcome Database Error}
  {app : App} {deps : NodeDeps}

def receive (answers : List (Option ModelResponse)) :
    BackendEvent → List (Option ModelResponse)
  | .performed (.visit _ .gatherContext _) => answers ++ [none]
  | .answered (.chat _) (.response response) => answers.dropLast ++ [some response]
  | _ => answers

/-- The answer of every visit of `gather_context`, if it received one. -/
def answers (h : List BackendEvent) : List (Option ModelResponse) := h.foldl receive []

def toolUses (content : List ContentBlock) : List ToolUseBlock :=
  content.filterMap fun
    | .text _ => none
    | .toolUse block => some block

/-- The tool-use blocks received, each with the number of its visit. -/
def received (answers : List (Option ModelResponse)) : List (ℕ × ToolUseBlock) :=
  (answers.zipIdx 1).flatMap fun (answer, visit) =>
    answer.toList.flatMap fun response => response.toolUseBlocks.map (visit, ·)

/-- The tool is known and its input validates. -/
def accepted (ctx : ToolContext) (block : ToolUseBlock) : Bool :=
  if block.name = "submit_diagnosis" then
    (SubmitDiagnosisArgs.modelValidate ctx.py (.obj block.input)).toOption.isSome
  else (registered block.name).any fun spec =>
    (spec.validate ctx (.obj block.input)).toOption.isSome

inductive Role where
  | user
  | assistant

def role : Message → Role
  | .user _ => .user
  | .assistant _ => .assistant
  | .toolResults _ => .user

def said : Message → Option (List ContentBlock)
  | .assistant content => some content
  | _ => none

def Answered (ctx : ToolContext) (message next : Message) : Prop :=
  ∀ content, message = .assistant content → toolUses content ≠ [] →
    ∃ results, next = .toolResults results ∧
      results.map (fun result => (result.toolUseId, result.isError)) =
        (toolUses content).map fun block => (block.id, !accepted ctx block)

structure Recorded (ctx : ToolContext) (block : ℕ × ToolUseBlock) (record : ToolCallRecord) :
    Prop where
  step : record.step = block.1
  name : record.toolName = block.2.name
  error : record.error.isSome = !accepted ctx block.2
  result : record.result.isSome = accepted ctx block.2

structure Corresponds (ctx : ToolContext) (answers : List (Option ModelResponse))
    (values : GraphState) : Prop where
  starts : values.messages.head?.map role = some .user
  ends : values.messages.getLast?.map role = some .user
  alternates : values.messages.IsChain fun message next => role message ≠ role next
  answered : values.messages.IsChain (Answered ctx)
  responses : values.messages.filterMap said = answers.reduceOption.map (·.content)
  visits : values.stepsUsed = answers.length
  evidence : List.Forall₂ (Recorded ctx) (received answers) values.evidenceTrail
  diagnosis : values.diagnosis = answers.getLast?.join.bind (submitted ctx.py)

theorem validate_dictOrList {ctx : ToolContext} {name : String} {spec : ToolSpec} {input : Json}
    {call : ToolCall} (listed : registered name = some spec)
    (valid : spec.validate ctx input = .ok call) :
    (Round.dictOrList (truncateToolResult ctx.py call.result)).isSome = true := by
  have truncated : ∀ {payload : Json}, (Round.dictOrList payload).isSome = true →
      (Round.dictOrList (truncateToolResult ctx.py payload)).isSome = true := by
    intro payload kept
    unfold truncateToolResult
    dsimp only
    split
    · exact kept
    · rfl
  refine truncated ?_
  have present := List.mem_of_find?_eq_some listed
  have handled : ∀ {Args : Type} {name : String}
      {modelValidate : Platform → Json → Except String Args} {modelDump : Args → Json}
      {handler : ToolContext → Args → Json},
      (∀ args, (Round.dictOrList (handler ctx args)).isSome = true) →
      spec = toolSpec name modelValidate modelDump handler →
        (Round.dictOrList call.result).isSome = true := by
    rintro Args name modelValidate modelDump handler returns rfl
    unfold toolSpec at valid
    dsimp only at valid
    split at valid
    · cases valid
    · cases valid
      exact returns _
  simp only [toolRegistry, List.mem_cons, List.not_mem_nil, or_false] at present
  rcases present with same | same | same | same | same
  · exact handled (fun _ => rfl) same
  · exact handled (fun _ => rfl) same
  · exact handled (fun _ => rfl) same
  · exact handled (fun _ => rfl) same
  · refine handled (fun args => ?_) same
    unfold getRunbook
    dsimp only
    split <;> rfl

theorem after_block (ctx : ToolContext) (step : ℕ) (round : Round) (block : ToolUseBlock) :
    ∃ result record, (round.after ctx step block).toolResults = round.toolResults ++ [result] ∧
      (round.after ctx step block).newEvidence = round.newEvidence ++ [record] ∧
      (result.toolUseId, result.isError) = (block.id, !accepted ctx block) ∧
      Recorded ctx (step, block) record := by
  unfold Round.after
  split
  case isTrue submitting =>
    cases valid : SubmitDiagnosisArgs.modelValidate ctx.py (.obj block.input) with
    | error text =>
      have refused : accepted ctx block = false := by
        simp [accepted, submitting, valid, Except.toOption]
      exact ⟨_, _, rfl, rfl, by rw [refused]; rfl, rfl, rfl, by rw [refused]; rfl,
        by rw [refused]; rfl⟩
    | ok diagnosis =>
      have taken : accepted ctx block = true := by simp [accepted, submitting, valid, Except.toOption]
      exact ⟨_, _, rfl, rfl, by rw [taken]; rfl, rfl, rfl, by rw [taken]; rfl, by rw [taken]; rfl⟩
  case isFalse calling =>
    cases listed : registered block.name with
    | none =>
      have refused : accepted ctx block = false := by simp [accepted, calling, listed]
      exact ⟨_, _, rfl, rfl, by rw [refused]; rfl, rfl, rfl, by rw [refused]; rfl,
        by rw [refused]; rfl⟩
    | some spec =>
      dsimp only
      cases valid : spec.validate ctx (.obj block.input) with
      | error text =>
        have refused : accepted ctx block = false := by
          simp [accepted, calling, listed, valid, Except.toOption]
        exact ⟨_, _, rfl, rfl, by rw [refused]; rfl, rfl, rfl, by rw [refused]; rfl,
          by rw [refused]; rfl⟩
      | ok call =>
        have taken : accepted ctx block = true := by
          simp [accepted, calling, listed, valid, Except.toOption]
        refine ⟨_, _, rfl, rfl, by rw [taken]; rfl, rfl, rfl, by rw [taken]; rfl, ?_⟩
        rw [taken]
        exact validate_dictOrList listed valid

theorem foldl_after_blocks (ctx : ToolContext) (step : ℕ) (blocks : List ToolUseBlock)
    (round : Round) : ∃ results records,
      (blocks.foldl (Round.after ctx step) round).toolResults = round.toolResults ++ results ∧
      (blocks.foldl (Round.after ctx step) round).newEvidence = round.newEvidence ++ records ∧
      results.map (fun result => (result.toolUseId, result.isError)) =
        blocks.map (fun block => (block.id, !accepted ctx block)) ∧
      List.Forall₂ (Recorded ctx) (blocks.map (step, ·)) records := by
  induction blocks generalizing round with
  | nil => exact ⟨[], [], by simp, by simp, rfl, .nil⟩
  | cons block blocks ih =>
    obtain ⟨result, record, adds, records₁, flagged, recorded⟩ := after_block ctx step round block
    obtain ⟨results, records, later, later', flags, all⟩ := ih (round.after ctx step block)
    refine ⟨result :: results, record :: records, ?_, ?_, ?_, .cons recorded all⟩
    · rw [List.foldl_cons, later, adds, List.append_assoc, List.singleton_append]
    · rw [List.foldl_cons, later', records₁, List.append_assoc, List.singleton_append]
    · rw [List.map_cons, List.map_cons, flagged, flags]

theorem received_append (before : List (Option ModelResponse)) (answer : Option ModelResponse) :
    received (before ++ [answer]) = received before ++
      answer.toList.flatMap fun response => response.toolUseBlocks.map (before.length + 1, ·) := by
  simp [received, List.zipIdx_append, Nat.add_comm]

section
variable {ctx : ToolContext} {before : List (Option ModelResponse)} {values next : GraphState}

theorem Corresponds.of_carried (corresponds : Corresponds ctx before values)
    (carried : Carried values next) : Corresponds ctx before next where
  starts := by rw [carried.messages, corresponds.starts]
  ends := by rw [carried.messages, corresponds.ends]
  alternates := by rw [carried.messages]; exact corresponds.alternates
  answered := by rw [carried.messages]; exact corresponds.answered
  responses := by rw [carried.messages, corresponds.responses]
  visits := carried.stepsUsed.trans corresponds.visits
  evidence := by rw [carried.evidenceTrail]; exact corresponds.evidence
  diagnosis := carried.diagnosis.trans corresponds.diagnosis

/-- A response and the message that answers it, after an unsolved transcript. -/
theorem Corresponds.answer (corresponds : Corresponds ctx before values)
    {response : ModelResponse} (reply : Message) (records : List ToolCallRecord)
    (replies : role reply = .user)
    (paired : Answered ctx (.assistant response.content) reply)
    (messages : next.messages = values.messages ++ [.assistant response.content, reply])
    (steps : next.stepsUsed = values.stepsUsed + 1)
    (trail : next.evidenceTrail = values.evidenceTrail ++ records)
    (recorded : List.Forall₂ (Recorded ctx)
      (response.toolUseBlocks.map (before.length + 1, ·)) records)
    (diagnosis : next.diagnosis = submitted ctx.py response) :
    Corresponds ctx (before ++ [some response]) next where
  starts := by
    have starts := corresponds.starts
    cases same : values.messages with
    | nil =>
      rw [same] at starts
      cases starts
    | cons first rest =>
      rw [same] at starts
      rw [messages, same]
      exact starts
  ends := by simp [messages, replies]
  alternates := by
    rw [messages, List.isChain_append]
    have different : role (.assistant response.content) ≠ role reply := by
      rw [replies]
      exact Role.noConfusion
    refine ⟨corresponds.alternates, by simpa using different, ?_⟩
    intro last ended first begun
    obtain rfl : .assistant response.content = first := by simpa using begun
    have ends := corresponds.ends
    rw [Option.mem_def.mp ended] at ends
    rw [Option.some.inj ends]
    exact Role.noConfusion
  answered := by
    rw [messages, List.isChain_append]
    refine ⟨corresponds.answered, by simpa using paired, ?_⟩
    rintro last ended _ - content rfl
    have ends := corresponds.ends
    rw [Option.mem_def.mp ended] at ends
    cases ends
  responses := by
    have quiet : said reply = none := by
      cases reply <;> first | rfl | cases replies
    have added : [.assistant response.content, reply].filterMap said = [response.content] := by
      have speaks : said (.assistant response.content) = some response.content := rfl
      rw [List.filterMap_cons_some speaks, List.filterMap_cons_none quiet]
      rfl
    rw [messages, List.filterMap_append, corresponds.responses, added, List.reduceOption_append]
    simp [List.reduceOption]
  visits := by rw [steps, corresponds.visits, List.length_append, List.length_singleton]
  evidence := by
    rw [trail, received_append]
    refine List.rel_append corresponds.evidence ?_
    simpa using recorded
  diagnosis := by simpa using diagnosis

theorem gathers_corresponds {answer : Option ModelResponse}
    (corresponds : Corresponds ⟨app.py, app.tables, deps.scenario⟩ before values)
    (unsolved : values.diagnosis = none) (visit : Gathers app deps values answer next) :
    Corresponds ⟨app.py, app.tables, deps.scenario⟩ (before ++ [answer]) next := by
  cases visit with
  | gaveUp text =>
    have messages : (values.merge (gaveUp values text)).messages = values.messages :=
      List.append_nil _
    have trail : (values.merge (gaveUp values text)).evidenceTrail = values.evidenceTrail :=
      List.append_nil _
    refine ⟨?_, ?_, ?_, ?_, ?_, ?_, ?_, ?_⟩
    · rw [messages, corresponds.starts]
    · rw [messages, corresponds.ends]
    · rw [messages]
      exact corresponds.alternates
    · rw [messages]
      exact corresponds.answered
    · rw [messages, corresponds.responses, List.reduceOption_append]
      simp [List.reduceOption]
    · rw [List.length_append, ← corresponds.visits]
      rfl
    · rw [trail, received_append]
      simpa using corresponds.evidence
    · have kept : (values.merge (gaveUp values text)).diagnosis = values.diagnosis := rfl
      simpa [kept] using unsolved
  | answered response =>
    by_cases quiet : response.toolUseBlocks = []
    · have none_used : toolUses response.content = [] := quiet
      have update : values.merge (afterResponse app deps values response) = values.merge _ :=
        congrArg values.merge (if_pos quiet)
      rw [update]
      refine corresponds.answer (.user continueText) [] rfl ?_ rfl rfl rfl ?_ ?_
      · intro content same used
        cases same
        exact absurd none_used used
      · rw [quiet]
        exact .nil
      · rw [submitted, quiet]
        exact unsolved
    · have update : values.merge (afterResponse app deps values response) = values.merge _ :=
        congrArg values.merge (if_neg quiet)
      rw [update]
      obtain ⟨results, records, toolResults, newEvidence, flags, recorded⟩ := foldl_after_blocks
        ⟨app.py, app.tables, deps.scenario⟩ (values.stepsUsed + 1) response.toolUseBlocks {}
      refine corresponds.answer (.toolResults (roundOf app deps values response).toolResults)
        records rfl ?_ rfl rfl (congrArg (values.evidenceTrail ++ ·) newEvidence) ?_ ?_
      · intro content same _
        cases same
        exact ⟨_, rfl, (congrArg (List.map _) toolResults).trans flags⟩
      · rw [← corresponds.visits]
        exact recorded
      · exact roundOf_diagnosis app deps values response

end

theorem foldl_receive_outside {g : List BackendEvent} (outside : ∀ ev ∈ g, outsideLoop ev.label)
    (before : List (Option ModelResponse)) : g.foldl receive before = before := by
  induction g with
  | nil => rfl
  | cons ev g ih =>
    have here := outside ev List.mem_cons_self
    have still : receive before ev = before := by
      unfold receive
      split
      · exact absurd here id
      · exact absurd here id
      · rfl
    rw [List.foldl_cons, still, ih fun ev mem => outside ev (List.mem_cons_of_mem _ mem)]

theorem foldl_receive_round {g : List BackendEvent} (inside : ∀ ev ∈ g, ofRound ev.label)
    (before : List (Option ModelResponse)) (last : Option ModelResponse) :
    g.foldl receive (before ++ [last]) =
      before ++ [(responses g).foldl (fun _ response => some response) last] := by
  induction g generalizing last with
  | nil => rfl
  | cons ev g ih =>
    have here := inside ev List.mem_cons_self
    have later := fun last => ih (fun ev mem => inside ev (List.mem_cons_of_mem _ mem)) last
    rw [List.foldl_cons]
    cases heard : responseOf ev with
    | none =>
      have still : receive (before ++ [last]) ev = before ++ [last] := by
        unfold receive
        split
        · exact absurd here id
        · cases heard
        · rfl
      have skipped : responses (ev :: g) = responses g := List.filterMap_cons_none heard
      rw [still, later, skipped]
    | some response =>
      have moved : receive (before ++ [last]) ev = before ++ [some response] := by
        unfold responseOf at heard
        split at heard
        · cases heard
          simp [receive]
        · cases heard
      have counted : responses (ev :: g) = response :: responses g :=
        List.filterMap_cons_some heard
      rw [moved, later, counted]
      rfl

theorem answers_visit (before : List BackendEvent) (threadId : String) (values : GraphState)
    {g : List BackendEvent} {answer : Option ModelResponse} (trace : RoundTrace g)
    (heard : RunTrace.responses g = answer.toList) :
    answers (before ++ .performed (.visit threadId .gatherContext values) ::
      (g ++ [.performed (.saveCheckpoint threadId)])) = answers before ++ [answer] := by
  have entered : receive (answers before) (.performed (.visit threadId .gatherContext values)) =
      answers before ++ [none] := rfl
  have saved : ∀ before, receive before (.performed (.saveCheckpoint threadId)) = before :=
    fun _ => rfl
  rw [answers, List.foldl_append, ← answers, List.foldl_cons, entered, List.foldl_append,
    foldl_receive_round trace.labels, heard, List.foldl_cons, saved, List.foldl_nil]
  cases answer <;> rfl

theorem answers_outside (before : List BackendEvent) {g : List BackendEvent}
    (outside : ∀ ev ∈ g, outsideLoop ev.label) : answers (before ++ g) = answers before := by
  rw [answers, List.foldl_append, foldl_receive_outside outside]
  rfl

theorem unsolved_of_again (deps : NodeDeps) {values : GraphState}
    (again : route deps .gatherContext values = some .gatherContext) : values.diagnosis = none := by
  by_contra solved
  have found : values.diagnosis.isSome = true := Option.isSome_iff_ne_none.mpr solved
  have routed : routeAfterGatherContext deps values = .ceiling ∨
      routeAfterGatherContext deps values = .diagnosed := by
    unfold routeAfterGatherContext
    by_cases failed : values.providerError.isSome = true
    · exact .inl (if_pos failed)
    · rw [if_neg failed, if_pos found]
      exact .inr rfl
  rcases routed with routed | routed <;> simp [route, routed] at again

theorem answers_elsewhere (before : List BackendEvent) {threadId : String} {node : Node}
    {values : GraphState} {g : List BackendEvent} {last : BackendEvent}
    (other : node ≠ .gatherContext) (inside : ∀ ev ∈ g, outsideLoop ev.label)
    (leaving : outsideLoop last.label) :
    answers (before ++ .performed (.visit threadId node values) :: (g ++ [last])) =
      answers before := by
  refine answers_outside before fun ev mem => ?_
  simp only [List.mem_cons, List.mem_append, List.not_mem_nil, or_false] at mem
  rcases mem with rfl | mem | rfl
  · cases node <;> first | exact absurd rfl other | trivial
  · exact inside ev mem
  · exact leaving

theorem superstep_corresponds {node : Node} {values : GraphState} {given : Option Json}
    {s t : Database} {next : Saved} {g before : List BackendEvent}
    (ends : SuperstepEnds rely permit app deps node values given s (.returned (.moved next)) t g)
    (corresponds : Corresponds ⟨app.py, app.tables, deps.scenario⟩ (answers before) values)
    (unsolved : node = .gatherContext → values.diagnosis = none) :
    Corresponds ⟨app.py, app.tables, deps.scenario⟩ (answers (before ++ g)) next.values ∧
      (next.next = some .gatherContext → next.values.diagnosis = none) := by
  cases ends with
  | entering _ fault _ => exact fault.elim
  | inside _ stop _ => cases stop
  | leaving _ _ _ fault _ => exact fault.elim
  | moved _ ends _ =>
    have kept : ∀ {update : GraphUpdate} {g : List BackendEvent}, node ≠ .gatherContext →
        Carried values (values.merge update) → (∀ ev ∈ g, outsideLoop ev.label) →
        Corresponds ⟨app.py, app.tables, deps.scenario⟩ (answers (before ++
          Event.performed (Label.visit deps.threadId node values) ::
            (g ++ [Event.performed (Label.saveCheckpoint deps.threadId)]))) (values.merge update) := by
      intro update g other carried inside
      rw [answers_elsewhere before other inside (by trivial)]
      exact corresponds.of_carried carried
    cases ends with
    | gathered _ ends =>
      obtain ⟨trace, ⟨text, rfl, silence⟩ | ⟨response, rfl, heard⟩⟩ := ends
      · refine ⟨?_, ?_⟩
        · have heard : answers _ = answers before ++ [none] :=
            answers_visit before deps.threadId values trace silence
          rw [heard]
          exact gathers_corresponds corresponds (unsolved rfl) (.gaveUp text)
        · exact fun again => unsolved_of_again deps again
      · refine ⟨?_, ?_⟩
        · have answered : answers _ = answers before ++ [some response] :=
            answers_visit before deps.threadId values trace heard
          rw [answered]
          exact gathers_corresponds corresponds (unsolved rfl) (.answered response)
        · exact fun again => unsolved_of_again deps again
    | faulted _ _ fault => exact fault.elim
    | hypothesized =>
      exact ⟨kept Node.noConfusion (carried_hypothesize _ _) (by simp), fun same => nomatch same⟩
    | classified =>
      exact ⟨kept Node.noConfusion (carried_classifyRisk _) (by simp), fun same => nomatch same⟩
    | gated ends =>
      exact ⟨kept Node.noConfusion (carried_policy ends) fun ev mem =>
        outsideLoop_of_ofExecution (policy_labels ends ev mem), fun same => nomatch same⟩
    | decided =>
      exact ⟨kept Node.noConfusion (carried_decide _ _) (by simp), fun same => nomatch same⟩

structure WalkCorresponds (app : App) (deps : NodeDeps) (before : List BackendEvent)
    (o : Outcome Error (GraphState × Option Json)) (g : List BackendEvent) : Prop where
  entered : ∀ g₁ threadId node values g₂,
    g = g₁ ++ .performed (.visit threadId node values) :: g₂ →
      Corresponds ⟨app.py, app.tables, deps.scenario⟩ (answers (before ++ g₁)) values
  returned : ∀ final ask, o = .returned (final, ask) →
    Corresponds ⟨app.py, app.tables, deps.scenario⟩ (answers (before ++ g)) final

theorem superstep_entered {node : Node} {values entered : GraphState} {given : Option Json}
    {s t : Database} {o : Outcome Error (Graph.Step Node GraphState Json)}
    {g g₁ g₂ : List BackendEvent} {threadId : String} {other : Node}
    (ends : SuperstepEnds rely permit app deps node values given s o t g)
    (split : g = g₁ ++ .performed (.visit threadId other entered) :: g₂) :
    g₁ = [] ∧ entered = values := by
  obtain ⟨ev, rfl, unperformed⟩ | ⟨g', rfl, unvisited⟩ := superstep_enters ends
  · have mem : .performed (.visit threadId other entered) ∈ [ev] := by simp [split]
    exact absurd (List.mem_singleton.mp mem).symm (unperformed _)
  · cases g₁ with
    | nil =>
      cases split
      exact ⟨rfl, rfl⟩
    | cons first g₁ =>
      have same : g' = g₁ ++ .performed (.visit threadId other entered) :: g₂ :=
        (List.cons.inj split).2
      exact (unvisited (.visit threadId other entered) (by simp [same]) trivial).elim

theorem walk_corresponds {limit : ℕ} {checkpoint : Saved} {given : Option Json} {s u : Database}
    {o : Outcome Error (GraphState × Option Json)} {g : List BackendEvent}
    (before : List BackendEvent)
    (walk : (buildGraph app deps).Walk rely permit limit checkpoint given s o u g)
    (corresponds : Corresponds ⟨app.py, app.tables, deps.scenario⟩ (answers before)
      checkpoint.values)
    (unsolved : checkpoint.next = some .gatherContext → checkpoint.values.diagnosis = none) :
    WalkCorresponds app deps before o g := by
  induction walk generalizing before with
  | finished limit values given s =>
    refine ⟨fun g₁ _ _ _ g₂ split => by simp at split, ?_⟩
    rintro final ask ⟨⟩
    rw [List.append_nil]
    exact corresponds
  | exhausted values node given s =>
    exact ⟨fun g₁ _ _ _ g₂ split => by simp at split, fun _ _ same => nomatch same⟩
  | paused last =>
    have ends := superstep_ends last
    refine ⟨?_, ?_⟩
    · intro g₁ threadId node entered g₂ split
      obtain ⟨rfl, rfl⟩ := superstep_entered ends split
      rw [List.append_nil]
      exact corresponds
    · rintro final ask ⟨⟩
      cases ends with
      | entering _ fault _ => exact fault.elim
      | inside _ stop _ => cases stop
      | leaving _ _ _ fault _ => exact fault.elim
      | paused _ ends _ =>
        cases ends with
        | faulted _ _ fault => exact fault.elim
        | gated ends =>
          rw [answers_elsewhere before (by simp) (fun ev mem =>
            outsideLoop_of_ofExecution (policy_labels ends ev mem)) (by trivial)]
          exact corresponds
  | stopped stop last =>
    have ends := superstep_ends last
    refine ⟨?_, ?_⟩
    · intro g₁ threadId node entered g₂ split
      obtain ⟨rfl, rfl⟩ := superstep_entered ends split
      rw [List.append_nil]
      exact corresponds
    · rintro final ask rfl
      cases stop
  | moved first rest ih =>
    have ends := superstep_ends first
    obtain ⟨later, again⟩ := superstep_corresponds ends corresponds
      fun same => unsolved (congrArg some same)
    have after := ih _ later again
    refine ⟨?_, ?_⟩
    · intro g₁ threadId node entered g₂ split
      obtain ⟨g', rfl, inside⟩ | ⟨g', own, inside⟩ := List.append_eq_append_iff.mp split
      · rw [← List.append_assoc]
        exact after.entered g' threadId node entered g₂ inside
      · cases g' with
        | nil =>
          have entering := after.entered [] threadId node entered g₂ inside.symm
          rwa [own, List.append_nil, List.append_nil] at *
        | cons ev g' =>
          obtain ⟨rfl, rest⟩ := List.cons.inj inside
          obtain ⟨rfl, rfl⟩ := superstep_entered ends own
          rw [List.append_nil]
          exact corresponds
    · intro final ask same
      rw [← List.append_assoc]
      exact after.returned final ask same

theorem initial_corresponds (ctx : ToolContext) : Corresponds ctx [] initialState where
  starts := rfl
  ends := rfl
  alternates := .singleton _
  answered := .singleton _
  responses := rfl
  visits := rfl
  evidence := .nil
  diagnosis := rfl

theorem answers_prelude {g : List BackendEvent}
    (quiet : ∀ ev ∈ g, ∃ l, ev = Event.performed l ∧ ofPrelude l) : answers g = [] := by
  refine answers_outside [] fun ev mem => ?_
  obtain ⟨l, rfl, prelude⟩ := quiet ev mem
  change outsideLoop l
  cases l <;> trivial

/-- Every point of a run, and the result that it returns. -/
structure RunCorresponds (ctx : ToolContext) (o : Outcome Error InvestigationResult)
    (h : List BackendEvent) : Prop where
  entered : ∀ g₁ thread node values g₂,
    h = g₁ ++ .performed (.visit thread node values) :: g₂ → Corresponds ctx (answers g₁) values
  returned : ∀ result, o = .returned result → ∃ values, Corresponds ctx (answers h) values ∧
    result.evidenceTrail = values.evidenceTrail ∧ result.stepsUsed = values.stepsUsed ∧
    result.diagnosis = values.diagnosis

/-- For every run on a new thread, whatever the chat function answers and wherever it stops. -/
theorem transcript_corresponds {scenario : Scenario} {threadId : String} {ceilings : Ceilings}
    {memoryEnabled : Bool} {s u : Database} {o : Outcome Error InvestigationResult}
    {h : List BackendEvent}
    (run : Runs rely permit (runInvestigation app scenario threadId ceilings memoryEnabled) s o u h)
    (new : ∀ t, rely.holds s t → t.checkpoints threadId = none) :
    RunCorresponds ⟨app.py, app.tables, scenario⟩ o h := by
  cases runInvestigation_walk run with
  | stopped fault quiet =>
    refine ⟨?_, ?_⟩
    · rintro g₁ thread node values g₂ rfl
      exact (quiet (.visit thread node values) (by simp)).elim
    · rintro result rfl
      exact fault.elim
  | @walked memory s₁ t o' _ _ g g' others quiet kept walk finish =>
    rw [new s₁ others] at walk
    have after := walk_corresponds g walk (by
      rw [answers_prelude quiet]
      exact initial_corresponds _) fun _ => rfl
    refine ⟨?_, ?_⟩
    · intro g₁ thread node values g₂ split
      obtain ⟨g'', rfl, inside⟩ | ⟨g'', own, inside⟩ := List.append_eq_append_iff.mp split
      · exact after.entered g'' thread node values g₂ inside
      · cases g'' with
        | nil =>
          have entering := after.entered [] thread node values g₂ inside.symm
          rwa [own, List.append_nil, List.append_nil] at *
        | cons ev g'' =>
          obtain ⟨rfl, rest⟩ := List.cons.inj inside
          obtain ⟨l, same, prelude⟩ := quiet (.performed (.visit thread node values))
            (by rw [own]; simp)
          cases same
          exact prelude.elim
    · rintro result rfl
      cases finish with
      | @returned v _ returns =>
        obtain ⟨final, ask⟩ := v
        refine ⟨final, after.returned final ask rfl, ?_⟩
        cases ask with
        | some payload =>
          obtain rfl : pausedResult scenario final payload = _ := Program.ret.inj returns
          exact ⟨rfl, rfl, rfl⟩
        | none =>
          unfold resultFromState at returns
          dsimp only at returns
          cases ended : final.status with
          | none =>
            rw [ended] at returns
            cases returns
          | some status =>
            rw [ended] at returns
            obtain rfl : finishedResult scenario final status = _ := Program.ret.inj returns
            exact ⟨rfl, rfl, rfl⟩
      | stopped stop => cases stop

def misspelt : ModelResponse where
  content := .toolUse { id := "toolu_0", name := "get_metric", input := [] } ::
    PolicyGate.rollbackDiagnosis.content
  inputTokens := 1000
  outputTokens := 100

def trailOf : Outcome Error InvestigationResult → Option (List (String × Bool))
  | .returned result =>
    some (result.evidenceTrail.map fun record => (record.toolName, record.error.isSome))
  | _ => none

theorem transcript_corresponds_misspelt :
    let run := eval (runInvestigation checkoutApp checkoutDeployOutage "incident-1")
      (fun _ => .response misspelt) Database.empty
    trailOf run.1 = some [("get_metric", true), ("submit_diagnosis", false)] ∧
      ∃ result values, run.1 = .returned result ∧ result.evidenceTrail = values.evidenceTrail ∧
        Corresponds ⟨checkoutApp.py, checkoutApp.tables, checkoutDeployOutage⟩
          (answers run.2.2) values := by
  intro run
  have corresponds := transcript_corresponds (eval_runs
    (runInvestigation checkoutApp checkoutDeployOutage "incident-1") (fun _ =>
      .response misspelt) Database.empty) (fun t same => same ▸ rfl)
  have trail : trailOf run.1 = some [("get_metric", true), ("submit_diagnosis", false)] := by
    decide +kernel
  refine ⟨trail, ?_⟩
  cases outcome : run.1 with
  | returned result =>
    obtain ⟨values, holds, evidence, _⟩ := corresponds.returned result outcome
    exact ⟨result, values, rfl, evidence, holds⟩
  | raised e =>
    rw [outcome] at trail
    cases trail
  | died =>
    rw [outcome] at trail
    cases trail

end OpsPilot.Transcript
