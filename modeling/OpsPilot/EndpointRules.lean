import OpsPilot.IncidentApi
import OpsPilot.ProgramLogic

/-! What holds of an endpoint by any judgement that can be proved part by part: one walk over the
endpoints for all of them. -/

namespace OpsPilot.EndpointRules
open JsonText AgentSchemas SyntheticEnvironment InvestigationState Models ChatClient GraphNodes
open Investigation IncidentApi DurableProgram ProgramLogic

def resolveApproval (app : App) (server : Server) (id : ℕ) (row : Incident)
    (body : ApprovalDecision) (scenario : Scenario) : Backend Unit :=
  (resumeInvestigation app scenario (threadIdOf id) (decisionOf body)).bind
    (applyResult app server id row)

def resolveTimeout (app : App) (server : Server) (id : ℕ) (row : Incident) (scenario : Scenario) :
    Backend Bool :=
  (Program.tryCatch
    ((resumeInvestigation app scenario (threadIdOf id) timeoutDecision).bind
      fun result => .ret (some result))
    swallow).bind fun
      | none => .ret false
      | some result => (applyResult app server id row result).bind fun _ => .ret true

/-- The answer of an endpoint that changed the incident. -/
def answered (app : App) (id : ℕ) (incident : Incident) : Backend Response :=
  (reread id incident true).bind fun incident =>
    (toIncidentDetail app id incident).bind fun detail => .ret (.incident detail)

abbrev BackendLogic := Logic Label ChatOutcome Database Error

abbrev nothingKnown : ℕ → Incident → Database → Prop := fun _ _ _ => True

/-- What is known of a row of the incident once it is loaded, by the judgement. -/
structure Loads (logic : BackendLogic) (app : App) (known : ℕ → Incident → Database → Prop)
    (id : ℕ) : Prop where
  stays : ∀ {incident s t}, known id incident s → logic.later s t → known id incident t
  missing : logic.raises .noResultFound
  load : ∀ s, logic.judges (fun found t => ∀ incident, found = some incident → known id incident t)
    (loadIncident id) s
  scenario : ∀ scenarioId s, logic.judges (fun found _ => found = scenarioById app scenarioId)
    (Models.read (.loadScenario scenarioId) fun _ => scenarioById app scenarioId) s

structure Parts (logic : BackendLogic) (app : App) (server : Server)
    (known : ℕ → Incident → Database → Prop) (id : ℕ) : Prop extends Loads logic app known id where
  timeout : ∀ {incident scenario s}, known id incident s →
    slaExpired app server.now incident = true →
    scenarioById app incident.scenarioId = some scenario →
    logic.judges anything (resolveTimeout app server id incident scenario) s

/-- The parts of a timeout's resolution, for a judgement that can look into them. -/
structure Leaves (logic : BackendLogic) (app : App) (server : Server)
    (known : ℕ → Incident → Database → Prop) (id : ℕ) : Prop extends Loads logic app known id where
  caught : ∀ {p : Backend (Option InvestigationResult)} {s},
    logic.judges anything p s → logic.judges anything (p.tryCatch swallow) s
  timeout : ∀ scenario s, logic.judges anything
    (resumeInvestigation app scenario (threadIdOf id) timeoutDecision) s
  apply : ∀ {incident s} result, known id incident s →
    logic.judges anything (applyResult app server id incident result) s

variable {logic : BackendLogic} {app : App} {server : Server}
  {known : ℕ → Incident → Database → Prop} {id : ℕ} {incident : Incident} {s : Database}
  {scenario : Scenario}

theorem detail_judged (logic : BackendLogic) (missing : logic.raises .noResultFound) :
    logic.judges anything (toIncidentDetail app id incident) s := by
  unfold toIncidentDetail
  cases scenarioById app incident.scenarioId with
  | none => exact logic.raise missing
  | some scenario => exact logic.done

theorem checkParams_pure (app : App) (incident : Incident) (approved : Bool) (params : Json) :
    checkParams app incident approved params = .ret () ∨
      ∃ text, checkParams app incident approved params = .raise (.http 422 text) := by
  unfold checkParams
  split
  · split
    · exact .inl rfl
    · split
      · exact .inl rfl
      · exact .inr ⟨_, rfl⟩
  · exact .inl rfl

section
variable (loads : Loads logic app known id)
include loads

theorem Loads.reread (current : known id incident s) (expired : Bool) :
    logic.judges (known id) (reread id incident expired) s := by
  unfold IncidentApi.reread
  split
  · refine logic.bind (loads.load s) fun found t _ loaded => ?_
    cases found with
    | none => exact logic.raise loads.missing
    | some incident => exact logic.ret fun u later => loads.stays (loaded incident rfl) later
  · exact logic.ret fun t later => loads.stays current later

theorem Loads.answered (current : known id incident s) :
    logic.judges anything (answered app id incident) s :=
  logic.bind (loads.reread current true) fun _ _ _ _ =>
    logic.bind (detail_judged logic loads.missing) fun _ _ _ _ => logic.done

theorem Loads.loaded (refuses : ∀ status text, logic.raises (.http status text)) (s : Database) :
    logic.judges (known id) (getIncidentOr404 id) s := by
  refine logic.bind (loads.load s) fun found t _ loaded => ?_
  cases found with
  | none => exact logic.raise (refuses _ _)
  | some incident => exact logic.ret fun u later => loads.stays (loaded incident rfl) later

end

theorem Leaves.resolveTimeout (leaves : Leaves logic app server known id) (scenario : Scenario)
    (current : known id incident s) :
    logic.judges anything (resolveTimeout app server id incident scenario) s := by
  refine logic.bind (leaves.caught (logic.bind (leaves.timeout scenario s) ?_)) ?_
  · exact fun _ _ _ _ => logic.done
  · rintro (_ | result) t later _
    · exact logic.done
    · exact logic.bind (leaves.apply result (leaves.stays current later))
        fun _ _ _ _ => logic.done

theorem Leaves.parts (leaves : Leaves logic app server known id) :
    Parts logic app server known id where
  toLoads := leaves.toLoads
  timeout current _ _ := leaves.resolveTimeout _ current

section
variable (parts : Parts logic app server known id)
include parts

theorem Parts.checked (current : known id incident s) :
    logic.judges anything (maybeApplyApprovalTimeout app server id incident) s := by
  unfold maybeApplyApprovalTimeout
  split
  case isFalse => exact logic.done
  case isTrue expired =>
    unfold loadScenario
    rw [Program.bind_assoc]
    refine logic.bind (parts.scenario incident.scenarioId s) fun found t later same => ?_
    cases found with
    | none => exact logic.raise parts.missing
    | some scenario => exact parts.timeout (parts.stays current later) expired same.symm

theorem Parts.loadCurrent (refuses : ∀ status text, logic.raises (.http status text))
    (s : Database) : logic.judges (known id) (loadCurrent app server id) s :=
  logic.bind (parts.loaded refuses s) fun _ _ _ current =>
    logic.bind (parts.checked current) fun committed _ later _ =>
      parts.reread (parts.stays current later) committed

theorem Parts.getIncident (refuses : ∀ status text, logic.raises (.http status text))
    (s : Database) : logic.judges anything (getIncident app server id) s :=
  logic.bind (parts.loadCurrent refuses s) fun _ _ _ _ =>
    logic.bind (detail_judged logic parts.missing) fun _ _ _ _ => logic.done

theorem Parts.getTimeline (refuses : ∀ status text, logic.raises (.http status text))
    (audit : ∀ s, logic.judges anything (Models.read (.loadAudit id) (timelineRows · id)) s)
    (s : Database) : logic.judges anything (getTimeline app server id) s := by
  refine logic.bind (parts.loadCurrent refuses s) fun incident t _ _ => ?_
  cases scenarioById app incident.scenarioId with
  | none => exact logic.raise parts.missing
  | some scenario =>
    change logic.judges anything ((Models.read (.loadAudit id) (timelineRows · id)).bind _) t
    exact logic.bind (audit t) fun _ _ _ _ => logic.done

theorem Parts.decideApproval (refuses : ∀ status text, logic.raises (.http status text))
    {body : ApprovalDecision}
    (approval : ∀ {incident scenario s}, known id incident s → incident.status = .awaitingApproval →
      checkParams app incident body.approved (orEmpty body.params) = .ret () →
      scenarioById app incident.scenarioId = some scenario →
      logic.judges anything (resolveApproval app server id incident body scenario) s)
    (s : Database) : logic.judges anything (decideApproval app server id body) s := by
  refine logic.bind (parts.loadCurrent refuses s) fun incident t _ current => ?_
  split
  · exact logic.raise (refuses _ _)
  case isFalse awaiting =>
    obtain accepted | ⟨text, refused⟩ :=
      checkParams_pure app incident body.approved (orEmpty body.params)
    · rw [accepted]
      cases found : scenarioById app incident.scenarioId with
      | none => exact logic.raise parts.missing
      | some scenario =>
        have resolved := logic.bind (approval current (not_not.mp awaiting) accepted found)
          fun _ _ later _ => parts.answered (parts.stays current later)
        rwa [resolveApproval, Program.bind_assoc] at resolved
    · rw [refused]
      exact logic.raise (refuses _ _)

theorem Parts.runIncident (refuses : ∀ status text, logic.raises (.http status text))
    (start : ∀ {incident scenario s}, known id incident s → incident.status = .opened →
      scenarioById app incident.scenarioId = some scenario →
      logic.judges anything ((Models.write (.commitRunning id) (markRunning server id)).bind fun _ =>
        runStarted app server id incident scenario) s)
    (s : Database) : logic.judges anything (runIncident app server id) s := by
  refine logic.bind (parts.loaded refuses s) fun incident t _ current => ?_
  split
  · exact logic.raise (refuses _ _)
  case isFalse opened =>
    cases found : scenarioById app incident.scenarioId with
    | none => exact logic.raise parts.missing
    | some scenario => exact start current (not_not.mp opened) found

end

theorem Leaves.runStarted (leaves : Leaves logic app server known id)
    (run : ∀ s, logic.judges anything (runInvestigation app scenario (threadIdOf id)) s)
    (current : known id incident s) :
    logic.judges anything (runStarted app server id incident scenario) s :=
  logic.bind (leaves.parts.reread current true) fun _ _ _ current =>
    logic.bind (run _) fun result _ later _ =>
      have current := leaves.stays current later
      logic.bind (leaves.apply result current) fun _ _ later _ =>
        leaves.parts.answered (leaves.stays current later)

theorem timeoutEach_judged {rows : List (ℕ × Incident)} (expired : Bool)
    (parts : ∀ id, Parts logic app server known id) (current : ∀ row ∈ rows, known row.1 row.2 s) :
    logic.judges anything (timeoutEach app server rows expired) s := by
  induction rows generalizing expired s with
  | nil => exact logic.done
  | cons row rows ih =>
    obtain ⟨id, incident⟩ := row
    obtain ⟨first, rest⟩ := List.forall_mem_cons.mp current
    refine logic.bind ((parts id).reread first expired) fun incident t next current => ?_
    refine logic.bind ((parts id).checked current) fun committed u later _ => ?_
    exact ih _ fun row mem => (parts row.1).stays (rest row mem) (logic.trans next later)

theorem detailEach_judged {rows : List (ℕ × Incident)} (expired : Bool)
    (parts : ∀ id, Parts logic app server known id) (current : ∀ row ∈ rows, known row.1 row.2 s) :
    logic.judges anything (detailEach app rows expired) s := by
  induction rows generalizing s with
  | nil => exact logic.done
  | cons row rows ih =>
    obtain ⟨id, incident⟩ := row
    obtain ⟨first, rest⟩ := List.forall_mem_cons.mp current
    refine logic.bind ((parts id).reread first expired) fun incident t next _ => ?_
    refine logic.bind (detail_judged logic (parts id).missing) fun detail u later _ => ?_
    refine logic.bind (ih fun row mem => ?_) fun _ _ _ _ => logic.done
    exact (parts row.1).stays (rest row mem) (logic.trans next later)

theorem listIncidents_judged (parts : ∀ id, Parts logic app server known id)
    (rows : ∀ s, logic.judges (fun rows t => ∀ row ∈ rows, known row.1 row.2 t)
      (Models.read .listIncidents allIncidents) s) (s : Database) :
    logic.judges anything (listIncidents app server) s := by
  refine logic.bind (rows s) fun rows t _ current => ?_
  refine logic.bind (timeoutEach_judged false parts current) fun expired u later _ => ?_
  refine logic.bind (detailEach_judged expired parts fun row mem => ?_)
    fun _ _ _ _ => logic.done
  exact (parts row.1).stays (current row mem) later

end OpsPilot.EndpointRules
