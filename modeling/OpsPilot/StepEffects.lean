import OpsPilot.EndpointRules

/-! What each atomic step of a request can do to the tables, said once for every label, and
which labels each part of a request uses. -/

namespace OpsPilot.StepEffects
open JsonText AgentSchemas SyntheticEnvironment InvestigationState Models ChatClient GatherContext
open IdempotentExecution GraphNodes Investigation IncidentApi EndpointRules DurableProgram
open ProgramLogic

def Effect : Label → Database → Database → Prop
  | .createIncident _, s, s' => ∃ row : Incident, row.status = .opened ∧ s' =
      { s with
        incidents := Function.update s.incidents s.nextIncidentId (some row)
        nextIncidentId := s.nextIncidentId + 1 }
  | .commitRunning id, s, s' => ∃ server, s' = markRunning server id s
  | .saveCheckpoint threadId, s, s' => ∃ checkpoint, s' = s.saveCheckpoint threadId checkpoint
  | .commit row, s, s' => s' = s ∨ s.remediation? row.idempotencyKey = none ∧
      s' = { s with remediationExecutions := s.remediationExecutions ++ [row] }
  | .applyResult id result, s, s' =>
      (result.status = .awaitingApproval ∧ ∃ server, s' = pauseIncident server id result s) ∨
      (result.status ≠ .awaitingApproval ∧ ∃ settings server scenario incident,
        s' = closeIncident settings server scenario id incident result s)
  | _, s, s' => s' = s

/-- Every step has an allowed label and the effect of that label. -/
abbrev Does {α : Type} (allowed : Label → Prop) (p : Backend α) : Prop :=
  Guarantees (fun l s s' => allowed l ∧ Effect l s s') p

/-- Labels of steps that change no table. -/
def silent : Label → Prop
  | .createIncident _ => False
  | .commitRunning _ => False
  | .saveCheckpoint _ => False
  | .commit _ => False
  | .applyResult _ _ => False
  | _ => True

theorem Effect.of_silent {l : Label} (quiet : silent l) (s : Database) : Effect l s s := by
  cases l <;> first | rfl | exact quiet.elim

theorem Effect.eq_of_silent {l : Label} {s s' : Database} (quiet : silent l)
    (effect : Effect l s s') : s' = s := by
  cases l <;> first | exact effect | exact quiet.elim

/-- Labels of the graph's steps on one thread. -/
def inThread (threadId : String) : Label → Prop
  | .saveCheckpoint t => t = threadId
  | .visit t _ _ => t = threadId
  | .interrupt t _ => t = threadId
  | .commit row => row.call.threadId = threadId
  | .executor _ call => call.threadId = threadId
  | .createIncident _ => False
  | .commitRunning _ => False
  | .applyResult _ _ => False
  | .resume _ _ => False
  | _ => True

variable {allowed : Label → Prop}

theorem Does.mono {α : Type} {allowed' : Label → Prop} (more : ∀ l, allowed l → allowed' l)
    {p : Backend α} (does : Does allowed p) : Does allowed' p :=
  Guarantees.mono (fun _ _ _ step => ⟨more _ step.1, step.2⟩) does

theorem does_read {α : Type} {l : Label} (ok : allowed l) (quiet : silent l)
    (query : Database → α) : Does allowed (Models.read l query) :=
  ⟨fun s => ⟨ok, .of_silent quiet s⟩, fun _ => trivial, fun _ => trivial⟩

theorem does_mark {l : Label} (ok : allowed l) (quiet : silent l) : Does allowed (mark l) :=
  does_read ok quiet _

theorem does_write {l : Label} {update : Database → Database} (ok : allowed l)
    (effect : ∀ s, Effect l s (update s)) : Does allowed (write l update) :=
  ⟨fun s => ⟨ok, effect s⟩, fun _ => trivial, fun _ => trivial⟩

/-- Does, as a judgement about the parts of a program. -/
def doing (allowed : Label → Prop) : BackendLogic :=
  .of (Does allowed) (fun _ => True) fun _ _ => trivial

theorem doing_known {α : Type} {p : Backend α} {post : α → Database → Prop} {s : Database}
    (does : Does allowed p) (known : ∀ a t, post a t) : (doing allowed).judges post p s :=
  fun _ _ rest => Guarantees.bind does fun a => rest a (known a)

theorem doing_of_does {α : Type} {p : Backend α} {s : Database} (does : Does allowed p) :
    (doing allowed).judges anything p s :=
  doing_known does fun _ _ => trivial

theorem Does.of_doing {α : Type} {p : Backend α} {s : Database}
    (judged : (doing allowed).judges anything p s) : Does allowed p :=
  Logic.holds_of_judges judged fun _ => trivial

theorem does_one {α : Type} (row : Option α) : Does allowed (one row) := by
  cases row <;> trivial

section
variable (threadId : String)

theorem callWithRetries_does (request : ChatRequest) (retries attempt : ℕ) :
    Does (inThread threadId) (callWithRetries request retries attempt) := by
  induction retries generalizing attempt with
  | zero =>
    refine ⟨?_, fun _ => trivial⟩
    rintro (response | text) <;> trivial
  | succ retries ih =>
    have retry : Does (inThread threadId)
        ((mark (.sleep attempt)).bind fun _ => callWithRetries request retries (attempt + 1)) :=
      (does_mark (l := .sleep attempt) trivial trivial).bind fun _ => ih _
    refine ⟨?_, ?_⟩
    · rintro (response | text)
      · trivial
      · exact retry
    · intro e
      cases e with
      | transientProvider text => exact retry
      | _ => trivial

theorem toolRound_does (ctx : ReadOnlyTools.ToolContext) (step : ℕ)
    (blocks : List ToolUseBlock) (round : Round) :
    Does (inThread threadId) (blocks.foldlM (toolUse ctx step) round) := by
  induction blocks generalizing round with
  | nil => trivial
  | cons block blocks ih =>
    rw [List.foldlM_cons, Program.bind_eq]
    refine Guarantees.bind ?_ ih
    obtain quiet | ⟨name, called⟩ := toolUse_eq ctx step round block
    · rw [quiet]
      trivial
    · rw [called]
      exact ⟨fun _ => ⟨trivial, rfl⟩, fun _ => trivial, fun _ => trivial⟩

theorem gatherContext_does (app : App) (deps : NodeDeps) (state : GraphState) :
    Does (inThread threadId) (gatherContext app deps state) := by
  refine Guarantees.bind ?_ ?_
  · refine Guarantees.tryCatch ?_ ?_
    · exact (callWithRetries_does threadId _ _ _).bind fun _ => trivial
    · intro e
      cases e <;> trivial
  · rintro (text | response)
    · trivial
    · dsimp only
      split
      · trivial
      · exact (toolRound_does threadId _ _ _ _).bind fun _ => trivial

end

theorem executeIdempotently_does (py : Platform) (call : RemediationCall) (executor : Json) :
    Does (inThread call.threadId) (executeIdempotently py call executor) := by
  refine (does_read (by trivial) (by trivial) _).bind ?_
  rintro (_ | existing)
  · refine (does_read (by rfl) (by trivial) _).bind fun result => ?_
    refine (does_mark (by trivial) (by trivial)).bind fun _ => ?_
    refine Guarantees.bind ⟨?_, ?_, fun _ => trivial⟩ fun _ => trivial
    · intro s
      refine ⟨rfl, ?_⟩
      cases missing : s.remediation? (idempotencyKey py call) with
      | none =>
        simp only [missing]
        exact .inr ⟨missing, rfl⟩
      | some row =>
        simp only [missing]
        exact .inl rfl
    · intro s
      dsimp only
      split <;> trivial
  · trivial

theorem resolveVerdict_does (app : App) (deps : NodeDeps) (diagnosis : SubmitDiagnosisArgs)
    (verdict : PolicyEngine.PolicyVerdict) (decision : Option Json) :
    Does (inThread deps.threadId) (resolveVerdict app deps diagnosis verdict decision) := by
  unfold resolveVerdict
  split
  · refine Guarantees.bind ?_ fun _ => trivial
    split
    · unfold executeApprovedAction
      split
      · trivial
      · split
        · trivial
        · exact (executeIdempotently_does _ _ _).bind fun _ => trivial
    · trivial
  · refine Guarantees.bind ?_ fun _ => trivial
    split
    · split
      · trivial
      · exact (executeIdempotently_does _ _ _).bind fun _ => trivial
    · trivial

theorem visit_does (app : App) (deps : NodeDeps) (node : Node) (values : GraphState)
    (answer : Option Json) : Does (inThread deps.threadId) (visit app deps node values answer) := by
  refine (does_mark (by rfl) (by trivial)).bind fun _ => ?_
  refine Guarantees.bind ?_ (by rintro (update | payload) <;> trivial)
  cases node with
  | gatherContext => exact (gatherContext_does _ app deps values).bind fun _ => trivial
  | hypothesize => trivial
  | classifyRisk => trivial
  | decide => trivial
  | evaluatePolicy =>
    unfold runNode evaluatePolicy
    dsimp only
    split
    · trivial
    · split
      · trivial
      · exact (resolveVerdict_does _ _ _ _ _).bind fun _ => trivial

theorem supersteps_does (app : App) (deps : NodeDeps) (limit : ℕ) (checkpoint : Saved)
    (answer : Option Json) :
    Does (inThread deps.threadId) ((buildGraph app deps).supersteps limit checkpoint answer) :=
  StateGraph.Graph.supersteps_guarantees (visit_does app deps)
    (fun checkpoint => does_write (by rfl) (by intro _; exact ⟨checkpoint, rfl⟩))
    (fun _ => does_mark (by rfl) (by trivial)) limit checkpoint answer

theorem resultFromState_does (py : Platform) (scenario : Scenario)
    (final : GraphState × Option Json) : Does allowed (resultFromState py scenario final) := by
  obtain ⟨values, _ | payload⟩ := final
  · unfold resultFromState
    dsimp only
    split <;> trivial
  · trivial

theorem buildDeps_bind {α : Type} (app : App) (scenario : Scenario) (ceilings : Ceilings)
    (threadId : String) (memoryEnabled : Bool) (memory : memoryEnabled = true →
      allowed (.retrieveMemory scenario.service.id)) {k : NodeDeps → Backend α}
    (rest : ∀ deps, deps.threadId = threadId → Does allowed (k deps)) :
    Does allowed ((buildDeps app scenario ceilings threadId memoryEnabled).bind k) := by
  cases memoryEnabled with
  | true => exact ⟨fun _ => ⟨memory rfl, rfl⟩, fun _ => rest _ rfl, fun _ => trivial⟩
  | false => exact rest _ rfl

theorem runInvestigation_does (app : App) (scenario : Scenario) (threadId : String)
    (ceilings : Ceilings) (memoryEnabled : Bool) :
    Does (inThread threadId) (runInvestigation app scenario threadId ceilings memoryEnabled) := by
  refine buildDeps_bind app scenario ceilings threadId memoryEnabled (fun _ => trivial) ?_
  rintro deps rfl
  refine (does_read (by trivial) (by trivial) _).bind fun saved => ?_
  refine Guarantees.bind ?_ (resultFromState_does _ _)
  exact (does_write (by rfl) (by intro _; exact ⟨_, rfl⟩)).bind fun _ => supersteps_does _ _ _ _ _

/-- Labels of a resume. -/
def inResume (threadId : String) (l : Label) : Prop :=
  inThread threadId l ∨ ∃ decision, l = .resume threadId decision

theorem loadService_does {scenario : Scenario} (ok : allowed (.loadService scenario.service.id))
    (saved : Saved) : Does allowed (loadService scenario saved) := by
  unfold loadService
  split
  · exact does_mark ok trivial
  · trivial

theorem resumed_does (app : App) (scenario : Scenario) (deps : NodeDeps) (decision : Json)
    (limit : ℕ) : Does (inThread deps.threadId) ((loadCheckpoint deps.threadId).bind fun
      | none => .raise (.other "no checkpoint to resume from")
      | some saved => (loadService scenario saved).bind fun _ =>
          ((buildGraph app deps).resume limit saved decision).bind
            (resultFromState app.py scenario)) := by
  refine (does_read (by trivial) (by trivial) _).bind ?_
  rintro (_ | saved)
  · trivial
  · exact (loadService_does (by trivial) saved).bind fun _ =>
      Guarantees.bind (supersteps_does _ _ _ _ _) (resultFromState_does _ _)

theorem resumeInvestigation_does (app : App) (scenario : Scenario) (threadId : String)
    (decision : Json) (ceilings : Ceilings) :
    Does (inResume threadId) (resumeInvestigation app scenario threadId decision ceilings) := by
  refine buildDeps_bind app scenario ceilings threadId false (fun enabled => nomatch enabled) ?_
  rintro deps rfl
  exact (does_mark (.inr ⟨decision, rfl⟩) (by trivial)).bind fun _ =>
    (resumed_does app scenario deps decision _).mono fun _ => .inl

section
variable (app : App) (server : Server) (id : ℕ) (incident : Incident)

theorem applyResult_does (result : InvestigationResult) (ok : allowed (.applyResult id result)) :
    Does allowed (applyResult app server id incident result) := by
  unfold applyResult
  split
  case isTrue pausing => exact does_write ok fun _ => .inl ⟨pausing, server, rfl⟩
  case isFalse closing =>
    exact (does_one _).bind fun scenario =>
      does_write ok fun _ => .inr ⟨closing, _, server, scenario, incident, rfl⟩

theorem swallow_does (e : Error) : Does allowed (swallow e) := by
  cases e <;> trivial

theorem reread_does (expired : Bool) (ok : allowed (.loadIncident id)) :
    Does allowed (reread id incident expired) := by
  unfold reread
  split
  · exact (does_read ok (by trivial) _).bind does_one
  · trivial

theorem toIncidentDetail_does : Does allowed (toIncidentDetail app id incident) :=
  (does_one _).bind fun _ => trivial

theorem getIncidentOr404_does (ok : allowed (.loadIncident id)) :
    Does allowed (getIncidentOr404 id) := by
  refine (does_read ok (by trivial) _).bind ?_
  rintro (_ | incident) <;> trivial

theorem checkParams_does (approved : Bool) (params : Json) :
    Does allowed (checkParams app incident approved params) := by
  unfold checkParams
  split
  · split
    · trivial
    · split <;> trivial
  · trivial

def ofIncident (l : Label) : Prop :=
  l = .loadIncident id ∨ inResume (threadIdOf id) l ∨ ∃ result, l = .applyResult id result

variable {app server id} in
theorem doing_leaves (loading : allowed (.loadIncident id)) (asking : ∀ k, allowed (.loadScenario k))
    (timeout : ∀ scenario,
      Does allowed (resumeInvestigation app scenario (threadIdOf id) timeoutDecision))
    (applying : ∀ result, allowed (.applyResult id result)) :
    Leaves (doing allowed) app server nothingKnown id where
  stays _ _ := trivial
  missing := trivial
  load _ := doing_known (does_read loading (by trivial) _) fun _ _ _ _ => trivial
  scenario k _ := fun _ _ rest => ⟨fun s => ⟨asking k, .of_silent (by trivial) s⟩,
    fun _ => rest _ fun _ => rfl, fun _ => trivial⟩
  caught judged := doing_of_does (Guarantees.tryCatch (Does.of_doing judged) swallow_does)
  timeout scenario _ := doing_of_does (timeout scenario)
  apply result _ := doing_of_does (applyResult_does app server id _ result (applying result))

theorem own_leaves (inside : ∀ l, ofIncident id l → allowed l) :
    Leaves (doing allowed) app server nothingKnown id :=
  doing_leaves (inside _ (.inl rfl)) (fun _ => inside _ (.inr (.inl (.inl trivial))))
    (fun _ => (resumeInvestigation_does _ _ _ _ _).mono fun l within => inside l (.inr (.inl within)))
    fun result => inside _ (.inr (.inr ⟨result, rfl⟩))

theorem own_parts : Parts (doing (ofIncident id)) app server nothingKnown id :=
  (own_leaves app server id fun _ within => within).parts

theorem getIncident_does : Does (ofIncident id) (getIncident app server id) :=
  .of_doing ((own_parts app server id).getIncident (fun _ _ => trivial) .empty)

theorem getTimeline_does : Does (ofIncident id) (getTimeline app server id) :=
  .of_doing ((own_parts app server id).getTimeline (fun _ _ => trivial)
    (fun _ => doing_of_does (does_read (.inr (.inl (.inl trivial))) (by trivial) _)) .empty)

theorem decideApproval_does (body : ApprovalDecision) :
    Does (ofIncident id) (decideApproval app server id body) := by
  refine .of_doing ((own_parts app server id).decideApproval (fun _ _ => trivial) ?_ .empty)
  intro incident scenario _ _ _ _ _
  exact doing_of_does (Guarantees.bind ((resumeInvestigation_does _ _ _ _ _).mono
    fun _ inside => .inr (.inl inside)) fun result =>
      applyResult_does app server id incident result (.inr (.inr ⟨result, rfl⟩)))

theorem resolveTimeout_does (scenario : Scenario) :
    Does (ofIncident id) (resolveTimeout app server id incident scenario) :=
  .of_doing ((own_leaves app server id fun _ within => within).resolveTimeout scenario trivial
    (s := .empty))

theorem runStarted_does (scenario : Scenario) :
    Does (ofIncident id) (runStarted app server id incident scenario) := by
  refine .of_doing ((own_leaves app server id fun _ within => within).runStarted (fun _ => ?_) trivial
    (s := .empty))
  exact doing_of_does ((runInvestigation_does _ _ _ _ _).mono
    fun _ inside => .inr (.inl (.inl inside)))

theorem runIncident_does :
    Does (fun l => l = .commitRunning id ∨ ofIncident id l) (runIncident app server id) := by
  refine .of_doing ((own_leaves app server id fun _ => .inr).parts.runIncident (fun _ _ => trivial) ?_
    .empty)
  intro incident scenario _ _ _ _
  exact doing_of_does ((does_write (.inl rfl) (by intro _; exact ⟨server, rfl⟩)).bind fun _ =>
    (runStarted_does app server id incident scenario).mono fun _ => .inr)

end

theorem listIncidents_does (app : App) (server : Server) :
    Does (fun l => l = .listIncidents ∨ ∃ id, ofIncident id l) (listIncidents app server) :=
  .of_doing (listIncidents_judged
    (fun id => (own_leaves app server id fun _ inside => .inr ⟨id, inside⟩).parts)
    (fun _ => doing_known (does_read (.inl rfl) (by trivial) _) fun _ _ _ _ => trivial) .empty)

theorem createIncident_does (app : App) (server : Server) (scenarioKey : String) :
    Does (fun l => l = .createIncident scenarioKey ∨ ∃ id, l = .loadIncident id)
      (createIncident app server scenarioKey) := by
  unfold createIncident
  split
  · trivial
  · refine Guarantees.bind
      ⟨fun s => ⟨.inl rfl, _, rfl, rfl⟩, fun _ => trivial, fun _ => trivial⟩ fun id => ?_
    refine (does_read (.inr ⟨id, rfl⟩) (by trivial) _).bind fun row =>
      (does_one _).bind fun incident => ?_
    exact (toIncidentDetail_does app id incident).bind fun _ => trivial

theorem status?_updateIncident (db : Database) (id other : ℕ) (change : Incident → Incident) :
    (db.updateIncident id change).status? other =
      if other = id then (db.incidents id).map fun row => (change row).status
      else db.status? other := by
  by_cases same : other = id
  · subst same
    simp [Database.status?, Database.updateIncident, Function.comp_def]
  · simp [Database.status?, Database.updateIncident, same]

theorem scenarioId_updateIncident (db : Database) (id other : ℕ) {change : Incident → Incident}
    (kept : ∀ row, (change row).scenarioId = row.scenarioId) :
    ((db.updateIncident id change).incidents other).map (·.scenarioId) =
      (db.incidents other).map (·.scenarioId) := by
  by_cases same : other = id
  · subst same
    simp [Database.updateIncident, Function.comp_def, kept]
  · simp [Database.updateIncident, same]

@[simp] theorem addMemory_incidents (settings : Settings) (server : Server) (serviceId id : ℕ)
    (result : InvestigationResult) (db : Database) :
    (addMemory settings server serviceId id result db).incidents = db.incidents := by
  unfold addMemory
  split <;> rfl

theorem pauseIncident_incidents (server : Server) (id : ℕ)
    (result : InvestigationResult) (db : Database) :
    ∃ change : Incident → Incident,
      (pauseIncident server id result db).incidents = (db.updateIncident id change).incidents ∧
      ∀ row, (change row).scenarioId = row.scenarioId ∧ (change row).status = .awaitingApproval :=
  ⟨_, rfl, fun _ => ⟨rfl, rfl⟩⟩

theorem closeIncident_incidents (settings : Settings) (server : Server) (scenario : Scenario)
    (id : ℕ) (incident : Incident) (result : InvestigationResult) (db : Database) :
    ∃ change : Incident → Incident,
      (closeIncident settings server scenario id incident result db).incidents =
        (db.updateIncident id change).incidents ∧
      ∀ row, (change row).scenarioId = row.scenarioId ∧
        (change row).status = .reported result.status := by
  unfold closeIncident
  simp only [addMemory_incidents]
  split <;> exact ⟨_, rfl, fun _ => ⟨rfl, rfl⟩⟩

theorem Effect.status_applyResult {j : ℕ} {result : InvestigationResult} {s s' : Database}
    (effect : Effect (.applyResult j result) s s') (id : ℕ) :
    s'.status? id = if id = j then (s.status? id).map fun _ => .reported result.status
      else s.status? id := by
  have changed : ∃ change : Incident → Incident,
      s'.incidents = (s.updateIncident j change).incidents ∧
      ∀ row, (change row).status = .reported result.status := by
    obtain ⟨pausing, server, rfl⟩ | ⟨_, settings, server, scenario, incident, rfl⟩ := effect
    · obtain ⟨change, rows, spec⟩ := pauseIncident_incidents server j result s
      exact ⟨change, rows, fun row => (spec row).2.trans (by rw [pausing])⟩
    · obtain ⟨change, rows, spec⟩ :=
        closeIncident_incidents settings server scenario j incident result s
      exact ⟨change, rows, fun row => (spec row).2⟩
  obtain ⟨change, rows, spec⟩ := changed
  rw [Database.status?, rows]
  change (s.updateIncident j change).status? id = _
  rw [status?_updateIncident]
  by_cases same : id = j
  · subst same
    simp [spec, Database.status?, Function.comp_def]
  · simp only [if_neg same]

/-- The row's status after a step: as before, or as the label says. -/
theorem Effect.status {l : Label} {s s' : Database} (effect : Effect l s s') (id : ℕ) :
    s'.status? id = s.status? id ∨
    (∃ key, l = .createIncident key ∧ s'.status? id = some .opened) ∨
    (l = .commitRunning id ∧ s'.status? id = (s.status? id).map fun _ => .running) ∨
    ∃ result, l = .applyResult id result ∧
      s'.status? id = (s.status? id).map fun _ => .reported result.status := by
  cases l with
  | createIncident key =>
    obtain ⟨row, opened, rfl⟩ := effect
    by_cases same : id = s.nextIncidentId
    · exact .inr (.inl ⟨key, rfl, by simp [Database.status?, same, opened]⟩)
    · exact .inl (by simp [Database.status?, same])
  | commitRunning j =>
    obtain ⟨server, rfl⟩ := effect
    by_cases same : id = j
    · subst same
      refine .inr (.inr (.inl ⟨rfl, ?_⟩))
      rw [markRunning, status?_updateIncident, if_pos rfl, Database.status?, Option.map_map]
      rfl
    · exact .inl (by rw [markRunning, status?_updateIncident, if_neg same])
  | applyResult j result =>
    have status := effect.status_applyResult id
    by_cases same : id = j
    · subst same
      exact .inr (.inr (.inr ⟨result, rfl, by rw [status, if_pos rfl]⟩))
    · exact .inl (by rw [status, if_neg same])
  | saveCheckpoint threadId =>
    obtain ⟨checkpoint, rfl⟩ := effect
    exact .inl rfl
  | commit row =>
    obtain rfl | ⟨_, rfl⟩ := effect <;> exact .inl rfl
  | _ =>
    cases effect
    exact .inl rfl

def Has (id : ℕ) (db : Database) : Prop := (db.status? id).isSome = true

theorem Has.step {l : Label} {s s' : Database} {id : ℕ} (present : Has id s)
    (effect : Effect l s s') : Has id s' := by
  obtain same | ⟨_, _, same⟩ | ⟨_, same⟩ | ⟨_, _, same⟩ := effect.status id <;> rw [Has, same]
  · exact present
  · rfl
  · rwa [Option.isSome_map]
  · rwa [Option.isSome_map]

/-- A row never changes its scenario, and is never deleted. -/
theorem Effect.scenarioId {l : Label} {s s' : Database} (effect : Effect l s s') (id : ℕ)
    (old : ∀ key, l ≠ .createIncident key) :
    (s'.incidents id).map (·.scenarioId) = (s.incidents id).map (·.scenarioId) := by
  cases l with
  | createIncident key => exact absurd rfl (old key)
  | commitRunning j =>
    obtain ⟨server, rfl⟩ := effect
    exact scenarioId_updateIncident s j id fun _ => rfl
  | applyResult j result =>
    obtain ⟨_, server, rfl⟩ | ⟨_, settings, server, scenario, incident, rfl⟩ := effect
    · obtain ⟨change, rows, spec⟩ := pauseIncident_incidents server j result s
      rw [rows]
      exact scenarioId_updateIncident s j id fun row => (spec row).1
    · obtain ⟨change, rows, spec⟩ :=
        closeIncident_incidents settings server scenario j incident result s
      rw [rows]
      exact scenarioId_updateIncident s j id fun row => (spec row).1
  | saveCheckpoint threadId =>
    obtain ⟨checkpoint, rfl⟩ := effect
    rfl
  | commit row =>
    obtain rfl | ⟨_, rfl⟩ := effect <;> rfl
  | _ =>
    cases effect
    rfl

end OpsPilot.StepEffects
