import OpsPilot.EvalRunner
import OpsPilot.RunStart

/-! Everything that works on one database at the same time: requests to the API and evaluations,
in any number, overlapping in any way and failing anywhere. -/

namespace OpsPilot.Workload
open ScenarioSpecs InvestigationState Models StepEffects IncidentApi MemoryHistory IncidentPhases
open PauseRequests RequestScope EvalRunner DurableProgram RequestPool

inductive Task where
  | http (request : Request)
  | evaluation (dataset : List ScenarioSpec) (options : EvalOptions)

namespace Task

def program (app : App) : Task → Backend Unit
  | .http request => (serve app request).bind fun _ => .ret ()
  | .evaluation dataset options => (runEval app options dataset).bind fun _ => .ret ()

def Concerns (task : Task) (id : ℕ) : Prop :=
  match task with
  | .http request => RequestScope.Concerns request id
  | .evaluation _ _ => False

def May (app : App) (task : Task) (call : RemediationCall) : Prop :=
  match task with
  | .http request => Licensed app request call
  | .evaluation _ _ => EvalCall app call

theorem program_licensed (app : App) (task : Task) :
    Does (licensed (task.May app)) (task.program app) := by
  cases task with
  | http request => exact (serve_licensed app request).bind fun _ => trivial
  | evaluation dataset options =>
    exact (runEval_licensed app options dataset).bind fun _ => trivial

theorem program_elsewhere (app : App) {task : Task} {id : ℕ} (unconcerned : ¬ task.Concerns id) :
    Does (elsewhere id) (task.program app) := by
  cases task with
  | http request => exact (serve_elsewhere app unconcerned).bind fun _ => trivial
  | evaluation dataset options =>
    exact (runEval_elsewhere app options dataset id).bind fun _ => trivial

theorem actionType_of_routine {call : RemediationCall} (routine : Routine call) :
    call.actionType = "restart_service" ∨ call.actionType = "scale_service" := by
  obtain ⟨action, _, named, params⟩ := routine
  cases action with
  | restartService => exact .inl named
  | scaleService => exact .inr named
  | _ => cases params

/-- Nothing else is ever run: an action outside these four has no task that may run it. -/
theorem May.actionType {app : App} {task : Task} {call : RemediationCall}
    (may : task.May app call) : call.actionType = "restart_service" ∨
      call.actionType = "scale_service" ∨ call.actionType = "rollback_deployment" ∨
      call.actionType = "toggle_feature_flag" := by
  cases task with
  | evaluation =>
    rcases actionType_of_routine may.1 with named | named
    · exact .inl named
    · exact .inr (.inl named)
  | http =>
    obtain ⟨_, _, _, routine | ⟨_, _, _, action, approval, named, _⟩⟩ := may
    · rcases actionType_of_routine routine with named | named
      · exact .inl named
      · exact .inr (.inl named)
    · cases action with
      | rollbackDeployment => exact .inr (.inr (.inl named))
      | toggleFeatureFlag => exact .inr (.inr (.inr named))
      | _ => cases approval

end Task

variable {ι : Type} [DecidableEq ι]

abbrev Tasks (ι : Type) := Pool ι Label ChatOutcome Database Error Unit

def startAll (app : App) (db : Database) (tasks : ι → Task) : Tasks ι :=
  .start db fun i => (tasks i).program app

/-- What a request may run beside the others: a call on the thread of an incident that it is about,
which needs no decision or which one of the approvals of that incident approves. An approval that
raised behind the interrupt is replayed to whoever resumes the thread next. -/
def Permitted (app : App) (tasks : ι → Task) (task : Task) (call : RemediationCall) : Prop :=
  match task with
  | .http request => ∃ id, RequestScope.Concerns request id ∧ call.threadId = threadIdOf id ∧
      (Routine call ∨ ∃ j approval, tasks j = .http approval ∧ Approving app approval id call)
  | .evaluation _ _ => EvalCall app call

omit [DecidableEq ι] in
theorem permitted_of_may {app : App} {tasks : ι → Task} {i : ι} {call : RemediationCall}
    (may : (tasks i).May app call) : Permitted app tasks (tasks i) call := by
  cases task : tasks i with
  | evaluation =>
    rw [task] at may
    exact may
  | http request =>
    rw [task] at may
    obtain ⟨id, concerned, own, routine | approving⟩ := may
    · exact ⟨id, concerned, own, .inl routine⟩
    · exact ⟨id, concerned, own, .inr ⟨i, request, task, approving⟩⟩

/-- Whatever overlaps and wherever it fails, an executor is only ever started, and a remediation
only recorded, by a task that is permitted it: a rollback or a flag change only after an approval,
on the approved incident's thread and with the approved parameters. -/
theorem remediations_licensed (app : App) (db : Database) (tasks : ι → Task) {pool : Tasks ι}
    (reach : Reaches anyStep (startAll app db tasks) pool) :
    LicensedOnly (fun i => Permitted app tasks (tasks i)) db pool.state pool.history :=
  (licensedOnly_of_reaches reach fun i => (tasks i).program_licensed app).mono
    fun _ _ => permitted_of_may

/-- Tasks that are not about an incident leave its row, its audit rows, its checkpoint and its
remediations as they were, whatever overlaps and wherever it fails. -/
theorem incident_isolated (app : App) (db : Database) (tasks : ι → Task) (id : ℕ)
    (born : id < db.nextIncidentId) (unconcerned : ∀ i, ¬ (tasks i).Concerns id)
    {pool : Tasks ι} (reach : Reaches anyStep (startAll app db tasks) pool) :
    SameFor id db pool.state ∧ remediationsOf pool.state id = remediationsOf db id :=
  isolated_of_reaches reach born fun i => Task.program_elsewhere app (unconcerned i)

/-- A new incident, which is number 2, its run, and an evaluation of the same scenario. -/
def secondIncident : Option Bool → Task
  | some true => .http ⟨.createIncident "checkout-deploy-outage", ⟨"process-1", 0⟩⟩
  | some false => .http ⟨.runIncident 2, ⟨"process-1", 0⟩⟩
  | none => .evaluation [checkoutDeployOutageSpec] oneScenario

/-- An evaluation up to its model call: the memory, the thread, its input and the first node. -/
def evalUntilModel : List (Move ChatOutcome Error) := steps 4

/-- The run and the evaluation restart the service, one after the other but for their first steps;
neither is followed to its end. -/
def restarting : List (Option Bool × Move ChatOutcome Error) :=
  (createSteps.take 1).map (some true, ·) ++ (evalUntilModel.take 1).map (none, ·) ++
    untilModel.map (some false, ·) ++
    (some false, .reply (.response restartDiagnosis)) ::
    (untilRestart.take 11).map (some false, ·) ++ (evalUntilModel.drop 1).map (none, ·) ++
    (none, .reply (.response restartDiagnosis)) :: (untilRestart.take 11).map (none, ·)

theorem remediations_licensed_restart : ∃ pool,
    (startAll checkoutApp RunStart.openIncident secondIncident).run restarting = some pool ∧
      pool.state.remediationExecutions.length = 2 ∧
      LicensedOnly (fun i => Permitted checkoutApp secondIncident (secondIncident i))
        RunStart.openIncident pool.state pool.history := by
  have restarts : ((startAll checkoutApp RunStart.openIncident secondIncident).run restarting).any
      (·.state.remediationExecutions.length == 2) = true := by decide +kernel
  obtain ⟨pool, ran, recorded⟩ := Option.any_eq_true _ _ |>.mp restarts
  exact ⟨pool, ran, beq_iff_eq.mp recorded,
    remediations_licensed checkoutApp RunStart.openIncident secondIncident
      (reaches_of_run (permitted_anyStep restarting _) ran)⟩

theorem incident_isolated_restart : ∃ pool,
    (startAll checkoutApp RunStart.openIncident secondIncident).run restarting = some pool ∧
      SameFor 1 RunStart.openIncident pool.state ∧
      remediationsOf pool.state 1 = remediationsOf RunStart.openIncident 1 := by
  have restarts : ((startAll checkoutApp RunStart.openIncident secondIncident).run
      restarting).isSome = true := by decide +kernel
  obtain ⟨pool, ran⟩ := Option.isSome_iff_exists.mp restarts
  refine ⟨pool, ran, incident_isolated checkoutApp RunStart.openIncident secondIncident 1
    (by decide) ?_ (reaches_of_run (permitted_anyStep restarting _) ran)⟩
  rintro (_ | _ | _)
  · exact fun same => same
  · exact fun same => absurd (show (2 : ℕ) = 1 from same) (by decide)
  · exact fun same => same

end OpsPilot.Workload
