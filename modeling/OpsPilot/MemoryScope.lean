import OpsPilot.AssumeGuarantee
import OpsPilot.Workload

/-! Whose memory an investigation is told. Requests and evaluations overlap in any way; each of
them keeps the memory table in order as long as the others do. -/

namespace OpsPilot.MemoryScope
open JsonText AgentSchemas SyntheticEnvironment ScenarioSpecs InvestigationState Models
open ChatClient GatherContext GraphNodes Memory MemoryMerge Investigation IncidentApi EndpointRules
open StepEffects RunTrace IncidentTurns MemoryHistory EvalRunner Workload DurableProgram RequestPool
open AssumeGuarantee ProgramLogic

/-- A row that the write policy lets in, confirmed by an incident of the row's own service. -/
structure Confirmed (app : App) (s : Database) (memory : ServiceMemory) : Prop where
  fix : memory.fixApplied ≠ "escalate"
  confident : app.settings.memoryWriteMinConfidence ≤ memory.confidence
  counted : 1 ≤ memory.occurrenceCount
  source : ∃ row scenario, s.incidents memory.sourceIncidentId = some row ∧
    scenarioById app row.scenarioId = some scenario ∧ scenario.service.id = memory.serviceId

def Born (s : Database) : Prop := ∀ id row, s.incidents id = some row → id < s.nextIncidentId

structure Scoped (app : App) (s : Database) : Prop where
  born : Born s
  confirmed : ∀ memory ∈ s.serviceMemory, Confirmed app s memory

def incidentsStay : Rely Database where
  holds s t := ∀ id row, s.incidents id = some row →
    ∃ row', t.incidents id = some row' ∧ row'.scenarioId = row.scenarioId
  refl _ _ row found := ⟨row, found, rfl⟩
  trans first next id row found := by
    obtain ⟨_, found, same⟩ := first id row found
    obtain ⟨row, found, same'⟩ := next id _ found
    exact ⟨row, found, same'.trans same⟩

def scopedMemory (app : App) (seen : Database → Prop) : Shared Database :=
  ⟨Scoped app, incidentsStay, seen⟩

theorem Confirmed.stays {app : App} {s t : Database} {memory : ServiceMemory}
    (confirmed : Confirmed app s memory) (moved : incidentsStay.holds s t) :
    Confirmed app t memory := by
  obtain ⟨row, scenario, found, loaded, own⟩ := confirmed.source
  obtain ⟨row', found, same⟩ := moved _ row found
  exact ⟨confirmed.fix, confirmed.confident, confirmed.counted, row', scenario, found,
    same ▸ loaded, own⟩

structure Recalled (app : App) (t : Database) (service : ℕ) (rows : List ServiceMemory) : Prop where
  retrieved : rows = retrieveRelevantMemory t.serviceMemory service
  few : rows.length ≤ memoryContextLimit
  own : ∀ row ∈ rows, row ∈ t.serviceMemory ∧ Confirmed app t row ∧ row.serviceId = service

def Recalls (app : App) (seen : Database → Prop) (scenario : Scenario) (memoryContext : String) :
    Prop :=
  memoryContext = "" ∨ ∃ t rows, seen t ∧ Recalled app t scenario.service.id rows ∧
    memoryContext = formatMemoryForPrompt rows

/-- A model call is that of the judge, or an investigation's with memory of its own service. -/
def Informed (app : App) (seen : Database → Prop) (request : ChatRequest) : Prop :=
  request.system = Judge.systemPrompt ∨ ∃ scenario memoryContext,
    request.system = GatherContext.systemPrompt scenario memoryContext ∧
      Recalls app seen scenario memoryContext

def Begins (app : App) (seen : Database → Prop) : Label → Database → Prop
  | .chat request, _ => Informed app seen request
  | _, _ => True

def Acts (app : App) (clock : Option ℤ) : Label → Database → Database → Prop
  | .applyResult id result, s, s' =>
      (result.status = .awaitingApproval ∧ ∃ server, s' = pauseIncident server id result s) ∨
      (result.status ≠ .awaitingApproval ∧ ∃ row scenario server incident,
        clock = some server.now ∧ s.incidents id = some row ∧
        scenarioById app row.scenarioId = some scenario ∧
        s' = closeIncident app.settings server scenario id incident result s)
  | l, s, s' => Effect l s s'

section
variable {app : App} {seen : Database → Prop} {clock : Option ℤ} {s t : Database} {id : ℕ}

theorem le_foldl_max {q first : ℚ} {rest : List ℚ} (mem : q ∈ first :: rest) :
    q ≤ rest.foldl max first := by
  induction rest generalizing q first with
  | nil => exact (List.mem_singleton.mp mem).le
  | cons next rest ih =>
    rw [List.foldl_cons]
    rcases List.mem_cons.mp mem with rfl | mem
    · exact (le_max_left _ _).trans (ih List.mem_cons_self)
    rcases List.mem_cons.mp mem with rfl | mem
    · exact (le_max_right _ _).trans (ih List.mem_cons_self)
    · exact ih (List.mem_cons_of_mem _ mem)

theorem merged_grows {rows : List ServiceMemory} {row kept : ServiceMemory} (own : row ∈ rows)
    (stays : merged rows row = some kept) :
    row.occurrenceCount ≤ kept.occurrenceCount ∧ row.confidence ≤ kept.confidence := by
  have here : row ∈ rows.filter (samePattern row) :=
    List.mem_filter.mpr ⟨own, by simp [samePattern]⟩
  unfold merged at stays
  split at stays
  case h_2 =>
    cases stays
    exact ⟨le_rfl, le_rfl⟩
  case h_1 survivor stale group =>
    rw [group] at here
    split_ifs at stays with stays'
    · cases stays
      exact ⟨le_rfl, le_rfl⟩
    · cases stays
      refine ⟨List.single_le_sum (by simp) _ (List.mem_map_of_mem here), ?_⟩
      exact le_foldl_max (List.mem_map_of_mem (f := (·.confidence)) here)

theorem mem_consolidate {table : List ServiceMemory} {serviceId : ℕ} {kept : ServiceMemory}
    (mem : kept ∈ consolidateServiceMemory table serviceId) : ∃ row ∈ table, Kept row kept ∧
      row.occurrenceCount ≤ kept.occurrenceCount ∧ row.confidence ≤ kept.confidence := by
  rw [consolidateServiceMemory_eq] at mem
  obtain ⟨row, present, stays⟩ := List.mem_filterMap.mp mem
  refine ⟨row, present, ?_⟩
  unfold consolidated at stays
  split_ifs at stays with other
  · cases stays
    exact ⟨⟨rfl, rfl, rfl, rfl, rfl, rfl, rfl, rfl⟩, le_rfl, le_rfl⟩
  · have own : row ∈ listServiceMemory table serviceId := by
      rw [(listServiceMemory_perm table serviceId).mem_iff, List.mem_filter]
      exact ⟨present, by simpa using other⟩
    exact ⟨merged_kept stays, merged_grows own stays⟩

theorem Confirmed.kept {row kept : ServiceMemory} (confirmed : Confirmed app s row)
    (same : Kept row kept) (counts : row.occurrenceCount ≤ kept.occurrenceCount)
    (confident : row.confidence ≤ kept.confidence) : Confirmed app s kept where
  fix := same.fixApplied ▸ confirmed.fix
  confident := confirmed.confident.trans confident
  counted := confirmed.counted.trans counts
  source := by
    rw [same.sourceIncidentId, same.serviceId]
    exact confirmed.source

theorem stays_of_update {change : Incident → Incident} (born : Born s)
    (same : ∀ row, (change row).scenarioId = row.scenarioId)
    (incidents : t.incidents = (s.updateIncident id change).incidents)
    (next : t.nextIncidentId = s.nextIncidentId) : incidentsStay.holds s t ∧ Born t := by
  have kept := fun other => scenarioId_updateIncident s id other same
  rw [← incidents] at kept
  refine ⟨fun other row found => ?_, fun other row found => ?_⟩
  · have here := kept other
    rw [found] at here
    exact Option.map_eq_some_iff.mp here
  · have here := kept other
    rw [found] at here
    obtain ⟨row, found, _⟩ := Option.map_eq_some_iff.mp here.symm
    rw [next]
    exact born other row found

theorem stays_of_create {row : Incident} (born : Born s)
    (incidents : t.incidents = Function.update s.incidents s.nextIncidentId (some row))
    (next : t.nextIncidentId = s.nextIncidentId + 1) : incidentsStay.holds s t ∧ Born t := by
  refine ⟨fun id old found => ⟨old, ?_, rfl⟩, fun id old found => ?_⟩
  · rw [incidents, Function.update_of_ne (Nat.ne_of_lt (born id old found)), found]
  · rw [incidents] at found
    by_cases new : id = s.nextIncidentId
    · omega
    · rw [Function.update_of_ne new] at found
      have := born id old found
      omega

theorem stays_of_same (born : Born s) (incidents : t.incidents = s.incidents)
    (next : t.nextIncidentId = s.nextIncidentId) : incidentsStay.holds s t ∧ Born t := by
  refine ⟨fun id row found => ⟨row, incidents ▸ found, rfl⟩, fun id row found => ?_⟩
  rw [incidents] at found
  rw [next]
  exact born id row found

theorem later_of_stays (stays : incidentsStay.holds s t ∧ Born t)
    (memory : ∀ row ∈ t.serviceMemory, Confirmed app s row) : (scopedMemory app seen).Later s t :=
  ⟨stays.1, stays.2, fun row mem => (memory row mem).stays stays.1⟩

theorem written_confirmed {row : Incident} {scenario : Scenario} {memoryId : ℕ} {now : ℤ}
    {result : InvestigationResult} {memory : ServiceMemory} (found : s.incidents id = some row)
    (loaded : scenarioById app row.scenarioId = some scenario)
    (written : writeConfirmedMemory app.settings memoryId scenario.service.id id now result =
      some memory) : Confirmed app s memory := by
  have spec := writeConfirmedMemory_written written
  obtain ⟨diagnosis, diagnosed, decided, confident⟩ := spec.diagnosis
  unfold writeConfirmedMemory at written
  rw [diagnosed] at written
  dsimp only at written
  rw [if_neg decided, if_neg (not_lt.mpr confident)] at written
  cases written
  refine ⟨?_, confident, le_rfl, row, scenario, found, loaded, rfl⟩
  dsimp only
  generalize diagnosis.recommendedAction = action at decided
  cases action <;> first | exact absurd rfl decided | decide

theorem closed_confirmed {row : Incident} {scenario : Scenario} {server : Server}
    {incident : Incident} {result : InvestigationResult} (inv : Scoped app s)
    (found : s.incidents id = some row) (loaded : scenarioById app row.scenarioId = some scenario) :
    ∀ memory ∈ (closeIncident app.settings server scenario id incident result s).serviceMemory,
      Confirmed app s memory := by
  obtain ⟨db, table, _, adds⟩ :=
    closeIncident_memory app.settings server scenario id incident result s
  intro memory mem
  rw [adds, addMemory] at mem
  split at mem
  case h_1 =>
    rw [table] at mem
    exact inv.confirmed memory mem
  case h_2 new written =>
    obtain ⟨old, mem, kept, counts, confident⟩ := mem_consolidate mem
    refine Confirmed.kept ?_ kept counts confident
    rcases List.mem_append.mp mem with known | last
    · exact inv.confirmed old (table ▸ known)
    · rw [List.mem_singleton.mp last]
      exact written_confirmed found loaded written

theorem stays_of_effect {l : Label} (born : Born s) (effect : Effect l s t) :
    incidentsStay.holds s t ∧ Born t := by
  cases l with
  | createIncident =>
    obtain ⟨row, _, rfl⟩ := effect
    exact stays_of_create born rfl rfl
  | commitRunning id =>
    obtain ⟨server, rfl⟩ := effect
    have incidents : (markRunning server id s).incidents = (s.updateIncident id fun row =>
      { row with status := .running, startedAt := some server.now }).incidents := rfl
    refine stays_of_update born ?_ incidents rfl
    exact fun _ => rfl
  | saveCheckpoint =>
    obtain ⟨_, rfl⟩ := effect
    exact stays_of_same born rfl rfl
  | commit =>
    obtain rfl | ⟨_, rfl⟩ := effect <;> exact stays_of_same born rfl rfl
  | applyResult id result =>
    obtain ⟨_, server, rfl⟩ | ⟨_, settings, server, scenario, incident, rfl⟩ := effect
    · obtain ⟨change, incidents, same⟩ := pauseIncident_incidents server id result s
      exact stays_of_update born (fun row => (same row).1) incidents rfl
    · obtain ⟨change, incidents, same⟩ :=
        closeIncident_incidents settings server scenario id incident result s
      exact stays_of_update born (fun row => (same row).1) incidents
        (closeIncident_nextIncidentId _ _ _ _ _ _ _)
  | _ =>
    cases effect
    exact stays_of_same born rfl rfl

theorem Acts.effect {l : Label} (acts : Acts app clock l s t) : Effect l s t := by
  cases l with
  | applyResult id result =>
    obtain ⟨pausing, server, rfl⟩ | ⟨closing, _, scenario, server, incident, _, _, _, rfl⟩ := acts
    · exact .inl ⟨pausing, server, rfl⟩
    · exact .inr ⟨closing, _, server, scenario, incident, rfl⟩
  | _ => exact acts

theorem Acts.keeps (l : Label) (s t : Database) (inv : Scoped app s)
    (acts : Acts app clock l s t) : (scopedMemory app seen).Later s t := by
  refine later_of_stays (stays_of_effect inv.born acts.effect) ?_
  cases l with
  | createIncident =>
    obtain ⟨_, _, rfl⟩ := acts
    exact inv.confirmed
  | commitRunning | saveCheckpoint =>
    obtain ⟨_, rfl⟩ := acts
    exact inv.confirmed
  | commit =>
    obtain rfl | ⟨_, rfl⟩ := acts <;> exact inv.confirmed
  | applyResult id result =>
    obtain ⟨_, server, rfl⟩ | ⟨_, row, scenario, server, incident, _, found, loaded, rfl⟩ := acts
    · exact inv.confirmed
    · exact closed_confirmed inv found loaded
  | _ =>
    cases acts
    exact inv.confirmed

end

def keepsScope (app : App) (seen : Database → Prop) (clock : Option ℤ) :
    Promise Label (scopedMemory app seen) where
  begins := Begins app seen
  acts := Acts app clock
  keeps := Acts.keeps

def under (system : String) : Label → Prop
  | .chat request => request.system = system
  | _ => True

section
variable {system : String}

theorem callWithRetries_under {request : ChatRequest} (same : request.system = system)
    (retries attempt : ℕ) : Carries (under system) (callWithRetries request retries attempt) := by
  induction retries generalizing attempt with
  | zero =>
    refine ⟨same, ?_, fun _ => trivial⟩
    rintro (response | text) <;> trivial
  | succ retries ih =>
    have retry : Carries (under system)
        ((mark (.sleep attempt)).bind fun _ => callWithRetries request retries (attempt + 1)) :=
      (Carries.perform (by trivial)).bind fun _ => ih _
    refine ⟨same, ?_, ?_⟩
    · rintro (response | text)
      · trivial
      · exact retry
    · intro e
      cases e with
      | transientProvider text => exact retry
      | _ => trivial

theorem toolRound_under (ctx : ReadOnlyTools.ToolContext) (step : ℕ)
    (blocks : List ToolUseBlock) (round : Round) :
    Carries (under system) (blocks.foldlM (toolUse ctx step) round) := by
  induction blocks generalizing round with
  | nil => trivial
  | cons block blocks ih =>
    rw [List.foldlM_cons, Program.bind_eq]
    refine Carries.bind ?_ ih
    obtain quiet | ⟨name, called⟩ := toolUse_eq ctx step round block
    · rw [quiet]
      trivial
    · rw [called]
      exact ⟨by trivial, fun _ => trivial, fun _ => trivial⟩

theorem gatherContext_under (app : App) (deps : NodeDeps) (state : GraphState) :
    Carries (under (GatherContext.systemPrompt deps.scenario deps.memoryContext))
      (gatherContext app deps state) := by
  refine Carries.bind ?_ ?_
  · refine Carries.tryCatch ?_ fun e => by cases e <;> trivial
    exact Carries.bind (callWithRetries_under (by rfl) _ _) fun _ => trivial
  · rintro (text | response)
    · trivial
    · dsimp only
      split
      · trivial
      · exact (toolRound_under _ _ _ _).bind fun _ => trivial

theorem visit_under (app : App) (deps : NodeDeps) (node : Node) (values : GraphState)
    (answer : Option Json) :
    Carries (under (GatherContext.systemPrompt deps.scenario deps.memoryContext))
      (visit app deps node values answer) := by
  refine (Carries.perform (by trivial)).bind fun _ => ?_
  refine Carries.bind ?_ (by rintro (update | payload) <;> trivial)
  cases node with
  | gatherContext => exact (gatherContext_under app deps values).bind fun _ => trivial
  | hypothesize | classifyRisk | decide => trivial
  | evaluatePolicy =>
    refine (evaluatePolicy_carries app deps values answer).weaken fun l inside => ?_
    cases l <;> trivial

theorem supersteps_under (app : App) (deps : NodeDeps) (limit : ℕ) (checkpoint : Saved)
    (answer : Option Json) :
    Carries (under (GatherContext.systemPrompt deps.scenario deps.memoryContext))
      ((buildGraph app deps).supersteps limit checkpoint answer) :=
  StateGraph.Graph.supersteps_carries (visit_under app deps)
    (fun _ => Carries.perform (by trivial)) (fun _ => Carries.perform (by trivial)) _ _ _

theorem resultFromState_under (py : Platform) (scenario : Scenario)
    (final : GraphState × Option Json) :
    Carries (under system) (resultFromState py scenario final) := by
  obtain ⟨result, returns⟩ | ⟨e, raises⟩ := GraphRun.resultFromState_cases py scenario final
  · rw [returns]
    trivial
  · rw [raises]
    trivial

end

section
variable {app : App} {seen : Database → Prop} {clock : Option ℤ} {s : Database} {α β : Type}
  {post : α → Database → Prop}

theorem assures_of_does (allowed : Label → Prop) {system : String} {p : Backend α}
    (does : Does allowed p) (calls : Carries (under system) p)
    (unapplied : ∀ id result, ¬ allowed (.applyResult id result))
    (informed : ∀ request : ChatRequest, request.system = system → Informed app seen request) :
    Assures (keepsScope app seen clock) (fun _ _ => True) p s := by
  refine Assures.of_steps does calls ?_ ?_
  · intro l t _ told
    cases l with
    | chat request => exact informed request told
    | _ => trivial
  · rintro l t t' _ _ ⟨ok, effect⟩
    cases l with
    | applyResult id result => exact absurd ok (unapplied id result)
    | _ => exact effect

theorem recalled_of_scoped (inv : Scoped app s) (service : ℕ) :
    Recalled app s service (retrieveRelevantMemory s.serviceMemory service) := by
  refine ⟨rfl, List.length_take_le _ _, fun row mem => ?_⟩
  have ranked := List.mem_of_mem_take mem
  rw [(List.perm_insertionSort _ _).mem_iff, List.mem_filter] at ranked
  exact ⟨ranked.1, inv.confirmed row ranked.1, by simpa using ranked.2⟩

theorem buildDeps_assures (scenario : Scenario) (ceilings : Ceilings) (threadId : String)
    (memoryEnabled : Bool) : Assures (keepsScope app seen clock)
      (fun deps _ => deps.threadId = threadId ∧ deps.scenario = scenario ∧
        Recalls app seen scenario deps.memoryContext)
      (buildDeps app scenario ceilings threadId memoryEnabled) s := by
  cases memoryEnabled with
  | false => exact fun t _ => ⟨rfl, rfl, .inl rfl⟩
  | true =>
    intro t next here
    refine ⟨trivial, rfl, fun u later => ⟨rfl, rfl, ?_⟩, fun _ => trivial⟩
    exact .inr ⟨t, _, here, recalled_of_scoped next.2 _, rfl⟩

theorem informed_of_deps {deps : NodeDeps}
    (recalls : Recalls app seen deps.scenario deps.memoryContext) (request : ChatRequest)
    (same : request.system = GatherContext.systemPrompt deps.scenario deps.memoryContext) :
    Informed app seen request :=
  .inr ⟨_, _, same, recalls⟩

theorem runInvestigation_assures (scenario : Scenario) (threadId : String) (ceilings : Ceilings)
    (memoryEnabled : Bool) : Assures (keepsScope app seen clock) (fun _ _ => True)
      (runInvestigation app scenario threadId ceilings memoryEnabled) s := by
  refine (buildDeps_assures scenario ceilings threadId memoryEnabled).bind ?_
  rintro deps t _ ⟨rfl, rfl, recalls⟩
  refine assures_of_does (inThread deps.threadId) ?_ ?_ (fun _ _ inside => inside)
    (informed_of_deps recalls)
  · refine (does_read (by trivial) (by trivial) _).bind fun saved => ?_
    refine Guarantees.bind ?_ (resultFromState_does _ _)
    exact (does_write (by rfl) (by intro _; exact ⟨_, rfl⟩)).bind fun _ =>
      supersteps_does _ _ _ _ _
  · refine (Carries.perform (by trivial)).bind fun saved => ?_
    refine Carries.bind ?_ (resultFromState_under _ _)
    exact (Carries.perform (by trivial)).bind fun _ => supersteps_under _ _ _ _ _

theorem resumeInvestigation_assures (scenario : Scenario) (threadId : String) (decision : Json) :
    Assures (keepsScope app seen clock) (fun _ _ => True)
      (resumeInvestigation app scenario threadId decision) s := by
  refine (buildDeps_assures scenario {} threadId false).bind ?_
  rintro deps t _ ⟨rfl, rfl, recalls⟩
  refine assures_of_does (inResume deps.threadId) ?_ ?_ ?_ (informed_of_deps recalls)
  · exact (does_mark (.inr ⟨decision, rfl⟩) (by trivial)).bind fun _ =>
      (resumed_does app deps.scenario deps decision _).mono fun _ => .inl
  · refine (Carries.perform (by trivial)).bind fun _ => (Carries.perform (by trivial)).bind ?_
    rintro (_ | saved)
    · trivial
    · exact (GraphRun.loadService_carries (by trivial) saved).bind fun _ =>
        Carries.bind (supersteps_under _ _ _ _ _) (resultFromState_under _ _)
  · rintro id result (inside | ⟨_, same⟩)
    · exact inside
    · cases same

end

def Current (id : ℕ) (incident : Incident) (s : Database) : Prop :=
  ∃ row, s.incidents id = some row ∧ row.scenarioId = incident.scenarioId

section
variable {app : App} {seen : Database → Prop} {clock : Option ℤ} {s : Database} {server : Server}
  {id : ℕ} {incident : Incident}

theorem Current.stays {t : Database} (current : Current id incident s)
    (moved : incidentsStay.holds s t) : Current id incident t := by
  obtain ⟨row, found, same⟩ := current
  obtain ⟨row', found, same'⟩ := moved id row found
  exact ⟨row', found, same'.trans same⟩

theorem assures_read {α : Type} {post : α → Database → Prop} {l : Label} {query : Database → α}
    (quiet : silent l) (unasked : isChat l = false)
    (known : ∀ t u, (scopedMemory app seen).Later s t → (scopedMemory app seen).Later t u →
      post (query t) u) : Assures (keepsScope app seen clock) post (Models.read l query) s := by
  intro t next _
  refine ⟨?_, ?_, fun u later => known t u next later, fun _ => trivial⟩
  · cases l <;> trivial
  · cases l <;> first | rfl | exact quiet.elim

theorem assures_one {α : Type} (row : Option α) :
    Assures (keepsScope app seen clock) (fun a _ => row = some a) (one row) s := by
  cases row with
  | none => trivial
  | some a => exact fun _ _ => rfl

theorem loadIncident_assures : Assures (keepsScope app seen clock)
    (fun found t => ∀ incident, found = some incident → Current id incident t)
    (loadIncident id) s := by
  refine assures_read (by trivial) rfl fun t u _ later incident found => ?_
  exact Current.stays ⟨incident, found, rfl⟩ later.1

theorem applyResult_assures (current : Current id incident s) (result : InvestigationResult) :
    Assures (keepsScope app seen (some server.now)) (fun _ _ => True)
      (applyResult app server id incident result) s := by
  unfold applyResult
  split
  case isTrue pausing =>
    intro t _ _
    exact ⟨trivial, .inl ⟨pausing, server, rfl⟩, fun _ _ => trivial, fun _ => trivial⟩
  case isFalse closing =>
    refine (assures_one _).bind fun scenario t next loaded => ?_
    intro u later _
    obtain ⟨row, found, same⟩ := current.stays (next.trans later).1
    exact ⟨trivial, .inr ⟨closing, row, scenario, server, incident, rfl, found, same ▸ loaded, rfl⟩,
      fun _ _ => trivial, fun _ => trivial⟩

theorem swallow_assures (e : Error) :
    Assures (keepsScope app seen clock) (fun _ _ => True) (swallow e) s := by
  cases e with
  | abortedTransaction => trivial
  | _ => exact fun _ _ => trivial

theorem scope_leaves : Leaves (.promised (keepsScope app seen (some server.now))) app server Current
    id where
  stays current later := current.stays later.1
  missing := trivial
  load _ := loadIncident_assures
  scenario _ _ := assures_read (by trivial) rfl fun _ _ _ _ => rfl
  caught judged := Assures.tryCatch judged fun e _ _ => swallow_assures e
  timeout scenario _ := resumeInvestigation_assures scenario _ _
  apply result current := applyResult_assures current result

theorem createIncident_assures (scenarioKey : String) : Assures (keepsScope app seen clock)
    (fun _ _ => True) (createIncident app server scenarioKey) s := by
  unfold createIncident
  split
  · trivial
  · refine Assures.then ?_ fun id t _ => ?_
    · intro t _ _
      exact ⟨trivial, ⟨_, rfl, rfl⟩, fun _ _ => trivial, fun _ => trivial⟩
    refine loadIncident_assures.bind fun row _ _ _ => (assures_one row).bind fun _ _ _ _ => ?_
    exact Assures.then (detail_judged (.promised (keepsScope app seen clock)) trivial)
      fun _ _ _ _ _ => trivial

theorem runIncident_assures : Assures (keepsScope app seen (some server.now)) (fun _ _ => True)
    (runIncident app server id) s := by
  have leaves : Leaves (.promised (keepsScope app seen (some server.now))) app server Current id :=
    scope_leaves
  refine leaves.parts.runIncident (fun _ _ => trivial) ?_ s
  intro incident scenario t current _ _
  refine Assures.then ?_ fun _ u later => ?_
  · intro v _ _
    exact ⟨trivial, ⟨server, rfl⟩, fun _ _ => trivial, fun _ => trivial⟩
  exact leaves.runStarted (fun _ => runInvestigation_assures scenario _ _ _)
    (current.stays later.1)

theorem decideApproval_assures (body : ApprovalDecision) :
    Assures (keepsScope app seen (some server.now)) (fun _ _ => True)
      (decideApproval app server id body) s := by
  refine scope_leaves.parts.decideApproval (fun _ _ => trivial) ?_ s
  intro incident scenario t current _ _ _
  exact (resumeInvestigation_assures scenario _ _).bind fun result u later _ =>
    applyResult_assures (current.stays later.1) result

theorem listIncidents_assures : Assures (keepsScope app seen (some server.now)) (fun _ _ => True)
    (listIncidents app server) s :=
  listIncidents_judged (fun _ => scope_leaves.parts) (fun _ => assures_read (by trivial) rfl
    fun t u _ later row mem => Current.stays ⟨row.2, mem_allIncidents mem, rfl⟩ later.1) s

theorem serve_assures (request : Request) : Assures
    (keepsScope app seen (some request.server.now)) (fun _ _ => True) (serve app request) s := by
  obtain ⟨endpoint, server⟩ := request
  cases endpoint with
  | createIncident scenarioKey => exact createIncident_assures scenarioKey
  | listIncidents => exact listIncidents_assures
  | getIncident id => exact scope_leaves.parts.getIncident (fun _ _ => trivial) s
  | runIncident id => exact runIncident_assures
  | decideApproval id body => exact decideApproval_assures body
  | getTimeline id =>
    exact scope_leaves.parts.getTimeline (fun _ _ => trivial)
      (fun _ => assures_read (by trivial) rfl fun _ _ _ _ => trivial) s

theorem judged_assures (options : EvalOptions) (spec : ScenarioSpec) (report : ScenarioReport)
    (diagnosis : Option SubmitDiagnosisArgs) : Assures (keepsScope app seen clock) (fun _ _ => True)
      (judged app options spec report diagnosis) s := by
  unfold judged
  split
  · exact fun _ _ => trivial
  · split
    · refine Assures.then ?_ ?_
      · refine Assures.then ?_ fun _ _ _ _ _ => trivial
        exact assures_of_does (inThread "") (callWithRetries_does "" _ _ _)
          (callWithRetries_under rfl _ _) (fun _ _ inside => inside) fun _ same => .inl same
      · rintro (text | judgment) t _ <;> exact fun _ _ => trivial
    · exact fun _ _ => trivial

theorem runEval_assures (dataset : List ScenarioSpec) (options : EvalOptions) :
    Assures (keepsScope app seen clock) (fun _ _ => True) (runEval app options dataset) s := by
  unfold runEval
  split
  · trivial
  refine Assures.then ?_ fun _ _ _ _ _ => trivial
  generalize selected options dataset = specs, 0 = n
  induction specs generalizing n s with
  | nil => exact fun _ _ => trivial
  | cons spec specs ih =>
    refine (assures_one _).bind fun scenario _ _ _ => ?_
    refine Assures.then ?_ fun report t _ => ?_
    · exact (runInvestigation_assures scenario _ _ _).then fun result _ _ =>
        judged_assures options spec _ _
    · exact (ih (n + 1)).then fun _ _ _ _ _ => trivial

end

def clockOf : Task → Option ℤ
  | .http request => some request.server.now
  | .evaluation _ _ => none

theorem program_assures (app : App) (seen : Database → Prop) (task : Task) (s : Database) :
    Assures (keepsScope app seen (clockOf task)) (fun _ _ => True) (task.program app) s := by
  cases task with
  | http request => exact (serve_assures request).then fun _ _ _ _ _ => trivial
  | evaluation dataset options =>
    exact (runEval_assures dataset options).then fun _ _ _ _ _ => trivial

variable {ι : Type} [DecidableEq ι]

/-- The row tells of a result that was applied to its incident, in the words of its diagnosis. -/
def Remembered (h : List (ι × BackendEvent)) (memory : ServiceMemory) : Prop :=
  ∃ i result diagnosis, (i, .performed (.applyResult memory.sourceIncidentId result)) ∈ h ∧
    result.status ≠ .awaitingApproval ∧ result.diagnosis = some diagnosis ∧
    memory.symptomPattern = "; ".intercalate diagnosis.evidence ∧
    memory.rootCause = diagnosis.diagnosis ∧
    memory.fixApplied = diagnosis.recommendedAction.name ∧ memory.outcome = deriveOutcome result

omit [DecidableEq ι] in
theorem Remembered.grow {h : List (ι × BackendEvent)} {memory : ServiceMemory}
    (remembered : Remembered h memory) (event : ι × BackendEvent) :
    Remembered (h ++ [event]) memory := by
  obtain ⟨i, result, diagnosis, applied, told⟩ := remembered
  exact ⟨i, result, diagnosis, List.mem_append_left _ applied, told⟩

omit [DecidableEq ι] in
theorem Remembered.kept {h : List (ι × BackendEvent)} {memory kept : ServiceMemory}
    (remembered : Remembered h memory) (same : Kept memory kept) : Remembered h kept := by
  unfold Remembered
  rw [same.sourceIncidentId, same.symptomPattern, same.rootCause, same.fixApplied, same.outcome]
  exact remembered

theorem memory_of_effect {s s' : Database} {l : Label} {kept : ServiceMemory}
    (effect : Effect l s s') (mem : kept ∈ s'.serviceMemory) :
    (∃ memory ∈ s.serviceMemory, Kept memory kept) ∨ ∃ id result settings memoryId serviceId now,
      ∃ memory, l = .applyResult id result ∧ result.status ≠ .awaitingApproval ∧
        writeConfirmedMemory settings memoryId serviceId id now result = some memory ∧
        Kept memory kept := by
  have same : s'.serviceMemory = s.serviceMemory → ∃ memory ∈ s.serviceMemory, Kept memory kept :=
    fun same => ⟨kept, same ▸ mem, ⟨rfl, rfl, rfl, rfl, rfl, rfl, rfl, rfl⟩⟩
  cases l with
  | applyResult id result =>
    obtain ⟨_, server, rfl⟩ | ⟨closing, settings, server, scenario, incident, rfl⟩ := effect
    · exact .inl (same rfl)
    · obtain ⟨db, table, _, adds⟩ :=
        closeIncident_memory settings server scenario id incident result s
      rw [adds, addMemory] at mem
      split at mem
      case h_1 => exact .inl ⟨kept, table ▸ mem, ⟨rfl, rfl, rfl, rfl, rfl, rfl, rfl, rfl⟩⟩
      case h_2 new written =>
        obtain ⟨old, mem, kept, _⟩ := mem_consolidate mem
        rcases List.mem_append.mp mem with known | last
        · exact .inl ⟨old, table ▸ known, kept⟩
        · rw [List.mem_singleton.mp last] at kept
          exact .inr ⟨id, result, _, _, _, _, new, rfl, closing, written, kept⟩
  | createIncident =>
    obtain ⟨_, _, rfl⟩ := effect
    exact .inl (same rfl)
  | commitRunning | saveCheckpoint =>
    obtain ⟨_, rfl⟩ := effect
    exact .inl (same rfl)
  | commit =>
    obtain rfl | ⟨_, rfl⟩ := effect <;> exact .inl (same rfl)
  | _ =>
    cases effect
    exact .inl (same rfl)

omit [DecidableEq ι] in
theorem remembered_of_written {h : List (ι × BackendEvent)} {i : ι} {id : ℕ}
    {result : InvestigationResult} {settings : Settings} {memoryId serviceId : ℕ} {now : ℤ}
    {memory : ServiceMemory} (applied : (i, .performed (.applyResult id result)) ∈ h)
    (closing : result.status ≠ .awaitingApproval)
    (written : writeConfirmedMemory settings memoryId serviceId id now result = some memory) :
    Remembered h memory := by
  obtain ⟨diagnosis, diagnosed, decided, confident⟩ :=
    (writeConfirmedMemory_written written).diagnosis
  unfold writeConfirmedMemory at written
  rw [diagnosed] at written
  dsimp only at written
  rw [if_neg decided, if_neg (not_lt.mpr confident)] at written
  cases written
  exact ⟨i, result, diagnosis, applied, closing, diagnosed, rfl, rfl, rfl, rfl⟩

/-- Whatever overlaps and wherever it fails, a row of a memory table that started empty tells of a
result that some task applied to the row's incident, in the words of that result's diagnosis and
with the outcome that its verdict and its decision had. -/
theorem memory_remembered (app : App) (db : Database) (tasks : ι → Task)
    (empty : db.serviceMemory = []) {pool : Tasks ι}
    (reach : Reaches anyStep (startAll app db tasks) pool) :
    ∀ memory ∈ pool.state.serviceMemory, Remembered pool.history memory := by
  refine reach.guaranteed (fun s h => ∀ memory ∈ s.serviceMemory, Remembered h memory) ?_ ?_
    (fun i => (tasks i).program_licensed app) ?_
  · exact fun s h who ev known _ memory mem => (known memory mem).grow _
  · rintro s s' h who l known ⟨_, effect⟩ kept mem
    obtain ⟨memory, mem, stays⟩ | ⟨id, result, _, _, _, _, memory, rfl, closing, written, stays⟩ :=
      memory_of_effect effect mem
    · exact ((known memory mem).kept stays).grow _
    · have applied : (who, Event.performed (.applyResult id result)) ∈
          h ++ [(who, (Event.performed (.applyResult id result) : BackendEvent))] := by simp
      exact (remembered_of_written applied closing written).kept stays
  · intro memory mem
    rw [startAll, Pool.start, empty] at mem
    cases mem

def runThenEvaluate : Bool → Task
  | true => .http ⟨.runIncident 1, ⟨"process-1", 0⟩⟩
  | false => .evaluation [checkoutDeployOutageSpec] oneScenario

/-- The incident is run to its end, and then the evaluation makes its first model call. -/
def remembering : List (Bool × Move ChatOutcome Error) :=
  untilModel.map (true, ·) ++ (true, .reply (.response restartDiagnosis)) ::
    untilRestart.map (true, ·) ++ evalUntilModel.map (false, ·) ++
    [(false, .reply (.response restartDiagnosis))]

theorem born_openIncident : Born RunStart.openIncident := by
  intro id row found
  by_cases first : id = 1
  · subst first
    decide
  · simp [RunStart.openIncident, Function.update_of_ne first] at found

theorem scoped_openIncident : Scoped checkoutApp RunStart.openIncident :=
  ⟨born_openIncident, fun _ none => by cases none⟩

theorem memory_remembered_recalled : ∃ pool memory,
    (startAll checkoutApp RunStart.openIncident runThenEvaluate).run remembering = some pool ∧
      memory ∈ pool.state.serviceMemory ∧ Remembered pool.history memory := by
  have remembers : ((startAll checkoutApp RunStart.openIncident runThenEvaluate).run
      remembering).any (fun pool => !pool.state.serviceMemory.isEmpty) = true := by decide +kernel
  obtain ⟨pool, ran, remembers⟩ := Option.any_eq_true _ _ |>.mp remembers
  cases found : pool.state.serviceMemory with
  | nil =>
    rw [found] at remembers
    cases remembers
  | cons memory rest =>
    have mem : memory ∈ pool.state.serviceMemory := found ▸ List.mem_cons_self
    exact ⟨pool, memory, ran, mem, memory_remembered checkoutApp RunStart.openIncident
      runThenEvaluate rfl (reaches_of_run (permitted_anyStep remembering _) ran) memory mem⟩

end OpsPilot.MemoryScope
