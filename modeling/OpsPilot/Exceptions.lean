import OpsPilot.EndpointRules

/-! Which exceptions the parts of a request can raise: all but the endpoints' own refusals are
inner errors, no HTTP answers. -/

namespace OpsPilot.Exceptions
open JsonText AgentSchemas SyntheticEnvironment InvestigationState Models ChatClient GatherContext
open IdempotentExecution GraphNodes Investigation IncidentApi EndpointRules DurableProgram
open ProgramLogic

def inner : Error → Prop
  | .http _ _ => False
  | _ => True

abbrev RaisesInner {α : Type} (p : Backend α) : Prop := RaisesOnly inner p

def innerFaults : Permit Label ChatOutcome Database Error := fun ev _ =>
  match ev with
  | .failed _ e => inner e
  | _ => True

theorem inner_of_run {α : Type} {p : Backend α} {s u : Database} {e : Error}
    {g : List BackendEvent} (raises : RaisesInner p)
    (run : Runs .alone innerFaults p s (.raised e) u g) : inner e :=
  raises.runs (fun _ _ _ ok => ok) run rfl

theorem one_inner {α : Type} (row : Option α) : RaisesInner (one row) := by
  cases row <;> trivial

def ofGraphCode : Error → Prop
  | .http _ _ => False
  | .abortedTransaction => False
  | _ => True

section
variable {E : Error → Prop} (own : ∀ e, ofGraphCode e → E e)
include own

theorem callWithRetries_raises (request : ChatRequest) (retries attempt : ℕ) :
    RaisesOnly E (callWithRetries request retries attempt) := by
  induction retries generalizing attempt with
  | zero =>
    refine ⟨?_, fun _ ok => ok⟩
    rintro (response | text)
    · trivial
    · exact own _ trivial
  | succ retries ih =>
    have retry : RaisesOnly E
        ((mark (.sleep attempt)).bind fun _ => callWithRetries request retries (attempt + 1)) :=
      RaisesOnly.perform.bind fun _ => ih _
    refine ⟨?_, ?_⟩
    · rintro (response | text)
      · trivial
      · exact retry
    · intro e ok
      cases e with
      | transientProvider text => exact retry
      | _ => exact ok

omit own in
theorem toolRound_raises (ctx : ReadOnlyTools.ToolContext) (step : ℕ)
    (blocks : List ToolUseBlock) (round : Round) :
    RaisesOnly E (blocks.foldlM (toolUse ctx step) round) := by
  induction blocks generalizing round with
  | nil => trivial
  | cons block blocks ih =>
    rw [List.foldlM_cons, Program.bind_eq]
    refine RaisesOnly.bind ?_ ih
    obtain quiet | ⟨name, called⟩ := toolUse_eq ctx step round block
    · rw [quiet]
      trivial
    · rw [called]
      exact ⟨fun _ => trivial, fun _ ok => ok⟩

theorem gatherContext_raises (app : App) (deps : NodeDeps) (state : GraphState) :
    RaisesOnly E (gatherContext app deps state) := by
  refine RaisesOnly.bind ?_ ?_
  · refine RaisesOnly.tryCatch ?_ ?_
    · exact (callWithRetries_raises own _ _ _).bind fun _ => trivial
    · intro e ok
      cases e with
      | transientProvider => trivial
      | _ => exact ok
  · rintro (text | response)
    · trivial
    · dsimp only
      split
      · trivial
      · exact (toolRound_raises _ _ _ _).bind fun _ => trivial

theorem executeIdempotently_raises (py : Platform) (call : RemediationCall) (executor : Json) :
    RaisesOnly E (executeIdempotently py call executor) := by
  refine RaisesOnly.perform.bind ?_
  rintro (_ | existing)
  · refine RaisesOnly.perform.bind fun result => RaisesOnly.perform.bind fun _ => ?_
    refine RaisesOnly.bind ⟨fun s => ?_, fun _ ok => ok⟩ fun _ => trivial
    dsimp only
    split
    · exact own _ trivial
    · trivial
  · trivial

theorem resolveVerdict_raises (app : App) (deps : NodeDeps) (diagnosis : SubmitDiagnosisArgs)
    (verdict : PolicyEngine.PolicyVerdict) (decision : Option Json) :
    RaisesOnly E (resolveVerdict app deps diagnosis verdict decision) := by
  unfold resolveVerdict
  split
  · refine RaisesOnly.bind ?_ fun _ => trivial
    split
    · unfold executeApprovedAction
      split
      · trivial
      · split
        · trivial
        · exact (executeIdempotently_raises own _ _ _).bind fun _ => trivial
    · trivial
  · refine RaisesOnly.bind ?_ fun _ => trivial
    split
    · split
      · trivial
      · exact (executeIdempotently_raises own _ _ _).bind fun _ => trivial
    · trivial

theorem visit_raises (app : App) (deps : NodeDeps) (node : Node) (values : GraphState)
    (answer : Option Json) : RaisesOnly E (visit app deps node values answer) := by
  refine RaisesOnly.perform.bind fun _ => ?_
  refine RaisesOnly.bind ?_ (by rintro (update | payload) <;> trivial)
  cases node with
  | gatherContext => exact (gatherContext_raises own app deps values).bind fun _ => trivial
  | hypothesize => trivial
  | classifyRisk => trivial
  | decide => trivial
  | evaluatePolicy =>
    unfold runNode evaluatePolicy
    dsimp only
    split
    · trivial
    · split
      · trivial
      · exact (resolveVerdict_raises own _ _ _ _ _).bind fun _ => trivial

theorem supersteps_raises (app : App) (deps : NodeDeps) (limit : ℕ) (checkpoint : Saved)
    (answer : Option Json) :
    RaisesOnly E ((buildGraph app deps).supersteps limit checkpoint answer) :=
  StateGraph.Graph.supersteps_raisesOnly (own .graphRecursion trivial) (visit_raises own app deps)
    (fun _ => RaisesOnly.perform) (fun _ => RaisesOnly.perform) limit checkpoint answer

theorem resultFromState_raises (py : Platform) (scenario : Scenario)
    (final : GraphState × Option Json) : RaisesOnly E (resultFromState py scenario final) := by
  obtain ⟨values, _ | payload⟩ := final
  · unfold resultFromState
    dsimp only
    split
    · exact own _ trivial
    · trivial
  · trivial

theorem runInvestigation_raises (app : App) (scenario : Scenario) (threadId : String)
    (ceilings : Ceilings) (memoryEnabled : Bool) :
    RaisesOnly E (runInvestigation app scenario threadId ceilings memoryEnabled) := by
  refine RaisesOnly.bind ?_ fun deps => ?_
  · cases memoryEnabled with
    | true => exact RaisesOnly.perform.bind fun _ => trivial
    | false => trivial
  · refine RaisesOnly.perform.bind fun saved => RaisesOnly.bind ?_ (resultFromState_raises own _ _)
    exact RaisesOnly.perform.bind fun _ => supersteps_raises own _ _ _ _ _

theorem resumeInvestigation_raises (app : App) (scenario : Scenario) (threadId : String)
    (decision : Json) (ceilings : Ceilings) :
    RaisesOnly E (resumeInvestigation app scenario threadId decision ceilings) := by
  refine RaisesOnly.perform.bind fun _ => RaisesOnly.perform.bind ?_
  rintro (_ | saved)
  · exact own _ trivial
  · refine RaisesOnly.bind ?_ fun _ =>
      RaisesOnly.bind (supersteps_raises own _ _ _ _ _) (resultFromState_raises own _ _)
    unfold loadService
    split
    · exact RaisesOnly.perform
    · trivial

end

theorem inner_of_ofGraphCode (e : Error) (own : ofGraphCode e) : inner e := by
  cases e <;> trivial

theorem runInvestigation_inner (app : App) (scenario : Scenario) (threadId : String)
    (ceilings : Ceilings) (memoryEnabled : Bool) :
    RaisesInner (runInvestigation app scenario threadId ceilings memoryEnabled) :=
  runInvestigation_raises inner_of_ofGraphCode _ _ _ _ _

theorem resumeInvestigation_inner (app : App) (scenario : Scenario) (threadId : String)
    (decision : Json) (ceilings : Ceilings) :
    RaisesInner (resumeInvestigation app scenario threadId decision ceilings) :=
  resumeInvestigation_raises inner_of_ofGraphCode _ _ _ _ _

theorem applyResult_inner (app : App) (server : Server) (id : ℕ) (incident : Incident)
    (result : InvestigationResult) : RaisesInner (applyResult app server id incident result) := by
  unfold applyResult
  split
  · exact RaisesOnly.perform
  · exact (one_inner _).bind fun _ => RaisesOnly.perform

/-- Raising inner errors only, as a judgement about the parts of a program. -/
def raisingInner : BackendLogic := .of RaisesInner inner fun _ own => own

theorem raisingInner_of_inner {α : Type} {p : Backend α} {s : Database} (raises : RaisesInner p) :
    raisingInner.judges anything p s :=
  Logic.judges_of_bind fun _ rest => RaisesOnly.bind raises rest

theorem inner_of_judges {α : Type} {p : Backend α} {s : Database}
    (judged : raisingInner.judges anything p s) : RaisesInner p :=
  Logic.holds_of_judges judged fun _ => trivial

theorem swallow_inner (e : Error) : RaisesInner (swallow e) := by
  cases e <;> trivial

theorem inner_loads (app : App) (id : ℕ) : Loads raisingInner app nothingKnown id where
  stays _ _ := trivial
  missing := trivial
  load _ := fun _ _ rest => RaisesOnly.perform.bind fun _ => rest _ fun _ _ _ => trivial
  scenario _ _ := fun _ _ rest => ⟨fun _ => rest _ fun _ => rfl, fun _ own => own⟩

theorem inner_leaves (app : App) (server : Server) (id : ℕ) :
    Leaves raisingInner app server nothingKnown id where
  toLoads := inner_loads app id
  caught judged := raisingInner_of_inner
    (RaisesOnly.tryCatch (inner_of_judges judged) fun e _ => swallow_inner e)
  timeout _ _ := raisingInner_of_inner (resumeInvestigation_inner _ _ _ _ _)
  apply _ _ := raisingInner_of_inner (applyResult_inner _ _ _ _ _)

theorem toIncidentDetail_inner (app : App) (id : ℕ) (incident : Incident) :
    RaisesInner (toIncidentDetail app id incident) :=
  (one_inner _).bind fun _ => trivial

theorem answer_inner (app : App) (id : ℕ) (incident : Incident) :
    RaisesInner (answered app id incident) :=
  inner_of_judges ((inner_loads app id).answered trivial (s := .empty))

theorem runStarted_inner (app : App) (server : Server) (id : ℕ) (incident : Incident)
    (scenario : Scenario) : RaisesInner (runStarted app server id incident scenario) :=
  inner_of_judges ((inner_leaves app server id).runStarted
    (fun _ => raisingInner_of_inner (runInvestigation_inner _ _ _ _ _)) trivial (s := .empty))

theorem listIncidents_inner (app : App) (server : Server) :
    RaisesInner (listIncidents app server) :=
  inner_of_judges (listIncidents_judged (fun id => (inner_leaves app server id).parts)
    (fun _ => fun _ _ rest => RaisesOnly.perform.bind fun _ => rest _ fun _ _ _ => trivial) .empty)

end OpsPilot.Exceptions
