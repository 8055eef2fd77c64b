import OpsPilot.Isolation
import OpsPilot.Undisturbed
import OpsPilot.Workload

/-! An evaluation without memory, beside any requests to the API: it asks the model the same and
reports the same as it would alone, on any database whose evaluation threads are the same. -/

namespace OpsPilot.EvalIsolation
open SyntheticEnvironment ScenarioSpecs InvestigationState Models StepEffects IdempotentExecution
open Investigation IncidentApi Isolation PauseRequests IncidentPhases PolicyGate EvalRunner
open Workload DurableProgram RequestPool Noninterference Undisturbed

/-- The databases hold the same for the threads of evaluations. -/
structure SameEvals (py : Platform) (s t : Database) : Prop where
  checkpoint : ∀ key started,
    s.checkpoints (evalThread py key started) = t.checkpoints (evalThread py key started)
  remediations : ∀ (call : RemediationCall) key started, call.threadId = evalThread py key started →
    s.remediation? (idempotencyKey py call) = t.remediation? (idempotencyKey py call)

variable {app : App} {options : EvalOptions}

theorem sameEvals_threadwise (py : Platform) (key : String) (started : ℚ) :
    Threadwise py (evalThread py key started) (SameEvals py) where
  checkpoint agree := agree.checkpoint key started
  remediations agree call own := agree.remediations call key started own
  saves agree checkpoint := by
    refine ⟨fun other began => ?_, agree.remediations⟩
    rw [Database.saveCheckpoint, Database.saveCheckpoint]
    dsimp only
    rw [Function.update_apply, Function.update_apply, agree.checkpoint]
  inserts agree row _ := by
    refine ⟨agree.checkpoint, fun call other began own => ?_⟩
    rw [remediation?_append, remediation?_append, agree.remediations call other began own]

theorem runScenario_blind (memoryless : options.memoryEnabled = false) (scenario : Scenario)
    (spec : ScenarioSpec) (timing : Timing) :
    Blind (SameEvals app.py) (runScenario app options scenario spec timing) := by
  have thread : ∀ context, Threadwise app.py
      (depsOf app scenario options.ceilings (evalThread app.py spec.key timing.started)
        context).threadId (SameEvals app.py) :=
    fun _ => sameEvals_threadwise app.py spec.key timing.started
  refine Blind.bind ?_ fun result => ?_
  · unfold runInvestigation buildDeps
    rw [memoryless]
    refine (blind_read fun _ _ agree => agree.checkpoint spec.key timing.started).bind fun _ => ?_
    exact (invoke_blind (thread "") _ _).bind (resultFromState_blind _ _)
  · unfold judged
    split
    · trivial
    · split
      · refine Blind.bind ((callWithRetries_blind _ _ _).bind fun _ => trivial) ?_
        rintro (text | judgment) <;> trivial
      · trivial

theorem runEval_blind (memoryless : options.memoryEnabled = false) (dataset : List ScenarioSpec) :
    Blind (SameEvals app.py) (runEval app options dataset) := by
  unfold runEval
  split
  · trivial
  · refine Blind.bind ?_ fun _ => trivial
    generalize selected options dataset = specs, 0 = n
    induction specs generalizing n with
    | nil => trivial
    | cons spec specs ih =>
      refine Blind.bind (by cases scenarioByKey app spec.key <;> trivial) fun scenario => ?_
      exact (runScenario_blind memoryless scenario spec _).bind fun report =>
        (ih (n + 1)).bind fun _ => trivial

def onIncidents : Label → Prop
  | .saveCheckpoint threadId => ∃ id, threadId = threadIdOf id
  | .commit row => ∃ id, row.call.threadId = threadIdOf id
  | _ => True

theorem onIncidents_of_ofIncident {id : ℕ} {l : Label} (inside : ofIncident id l) :
    onIncidents l := by
  obtain rfl | (inside | ⟨_, rfl⟩) | ⟨_, rfl⟩ := inside
  · trivial
  · cases l with
    | saveCheckpoint => exact ⟨id, inside⟩
    | commit row => exact ⟨id, inside⟩
    | _ => trivial
  · trivial
  · trivial

theorem serve_onIncidents (app : App) (request : Request) :
    Does onIncidents (serve app request) := by
  obtain ⟨endpoint, server⟩ := request
  cases endpoint with
  | createIncident scenarioKey =>
    refine (createIncident_does app server scenarioKey).mono ?_
    rintro _ (rfl | ⟨_, rfl⟩) <;> trivial
  | listIncidents =>
    refine (listIncidents_does app server).mono ?_
    rintro _ (rfl | ⟨_, inside⟩)
    · trivial
    · exact onIncidents_of_ofIncident inside
  | getIncident id => exact (getIncident_does app server id).mono fun _ => onIncidents_of_ofIncident
  | runIncident id =>
    refine (runIncident_does app server id).mono ?_
    rintro _ (rfl | inside)
    · trivial
    · exact onIncidents_of_ofIncident inside
  | decideApproval id body =>
    exact (decideApproval_does app server id body).mono fun _ => onIncidents_of_ofIncident
  | getTimeline id => exact (getTimeline_does app server id).mono fun _ => onIncidents_of_ofIncident

def KeysSeparate (py : Platform) (db : Database) : Prop :=
  ∀ row ∈ db.remediationExecutions, ∀ (call : RemediationCall) key started,
    call.threadId = evalThread py key started → row.idempotencyKey = idempotencyKey py call →
      ∀ id, row.call.threadId ≠ threadIdOf id

theorem checkpoints_of_effect {l : Label} {s s' : Database} (effect : Effect l s s')
    (other : ∀ threadId, l ≠ .saveCheckpoint threadId) : s'.checkpoints = s.checkpoints := by
  cases l with
  | saveCheckpoint threadId => exact absurd rfl (other threadId)
  | createIncident =>
    obtain ⟨_, _, rfl⟩ := effect
    rfl
  | commitRunning =>
    obtain ⟨_, rfl⟩ := effect
    rfl
  | commit =>
    obtain rfl | ⟨_, rfl⟩ := effect <;> rfl
  | applyResult =>
    obtain ⟨_, _, rfl⟩ | ⟨_, _, _, _, _, rfl⟩ := effect
    · rfl
    · exact closeIncident_checkpoints ..
  | _ =>
    cases effect
    rfl

theorem unseen_step {py : Platform} {l : Label} {s s' : Database} (inside : onIncidents l)
    (effect : Effect l s s') (separate : KeysSeparate py s') {t : Database}
    (agree : SameEvals py s t) : SameEvals py s' t := by
  cases l with
  | saveCheckpoint threadId =>
    obtain ⟨id, rfl⟩ := inside
    obtain ⟨checkpoint, rfl⟩ := effect
    refine ⟨fun key started => ?_, agree.remediations⟩
    rw [← agree.checkpoint]
    exact Function.update_of_ne (evalThread_ne py key started id) (some checkpoint) s.checkpoints
  | commit row =>
    obtain ⟨id, own⟩ := inside
    obtain rfl | ⟨_, rfl⟩ := effect
    · exact agree
    · refine ⟨agree.checkpoint, fun call key started thread => ?_⟩
      have other : (row.idempotencyKey == idempotencyKey py call) = false :=
        beq_eq_false_iff_ne.mpr fun same =>
          separate row (List.mem_append_right _ (List.mem_singleton.mpr rfl)) call key started
            thread same id own
      rw [remediation?_append, other, ← agree.remediations call key started thread]
      exact Option.or_none
  | _ =>
    have checkpoints := checkpoints_of_effect effect fun _ => Label.noConfusion
    have remediations := remediations_of_effect effect fun _ => Label.noConfusion
    refine ⟨fun key started => ?_, fun call key started thread => ?_⟩
    · rw [checkpoints]
      exact agree.checkpoint key started
    · rw [← agree.remediations call key started thread]
      simp only [Database.remediation?, remediations]

def reporting (app : App) : Task → Backend (Option EvalReport)
  | .http request => (serve app request).bind fun _ => .ret none
  | .evaluation dataset options =>
    (runEval app options dataset).bind fun report => .ret (some report)

variable {ι : Type} [DecidableEq ι]

abbrev Reports (ι : Type) := Pool ι Label ChatOutcome Database Error (Option EvalReport)

def separately (py : Platform) : PoolPermit ι Label ChatOutcome Database Error (Option EvalReport) :=
  fun _ _ _ next => KeysSeparate py next.state

/-- Whatever the API serves in the meantime and wherever that fails: the report of an evaluation
without memory is one that it makes alone, after the same answers of the model, on the database it
began on or on any other that holds the same for evaluations. -/
theorem eval_undisturbed (app : App) (db : Database) (tasks : ι → Task) (i : ι)
    {dataset : List ScenarioSpec} {options : EvalOptions}
    (mine : tasks i = .evaluation dataset options) (memoryless : options.memoryEnabled = false)
    (others : ∀ j, j ≠ i → ∃ request, tasks j = .http request) {pool : Reports ι}
    (reach : Reaches (separately app.py) (Pool.start db fun j => reporting app (tasks j)) pool)
    {report : EvalReport} (done : pool.requests i = .ret (some report)) {other : Database}
    (agree : SameEvals app.py db other) :
    ∃ u, Runs .alone anyFaults (runEval app options dataset) other (.returned report) u
      (eventsOf i pool.history) := by
  have program : (Pool.start db fun j => reporting app (tasks j)).requests i =
      (runEval app options dataset).bind fun report => .ret (some report) := by
    change reporting app (tasks i) = _
    rw [mine]
    rfl
  have blind : Blind (SameEvals app.py)
      ((Pool.start db fun j => reporting app (tasks j)).requests i) := by
    rw [program]
    exact (runEval_blind memoryless dataset).bind fun _ => trivial
  have quiet : ∀ j, j ≠ i → Guarantees (fun l s s' => onIncidents l ∧ Effect l s s')
      ((Pool.start db fun j => reporting app (tasks j)).requests j) := by
    intro j different
    obtain ⟨request, api⟩ := others j different
    change Does onIncidents (reporting app (tasks j))
    rw [api]
    exact (serve_onIncidents app request).bind fun _ => trivial
  have alone := alone_of_reaches reach quiet
    (fun _ _ _ _ separate step _ same => unseen_step step.1 step.2 separate same) rfl blind agree
  obtain ⟨u, _, run⟩ := alone.returned done
  rw [program] at run
  obtain ⟨report', u', g, g', ran, rest, events⟩ | ⟨_, stop, ran⟩ := run.of_bind
  · obtain ⟨same, _, rfl⟩ := rest.of_ret
    cases same
    rw [List.append_nil] at events
    exact ⟨u', events ▸ ran⟩
  · cases stop

def withoutMemory : EvalOptions where
  judging := false
  memoryEnabled := false
  timing _ := ⟨0, 2⟩
  now := 0

def besideCreation : Bool → Task
  | true => .http ⟨.createIncident "checkout-deploy-outage", ⟨"process-1", 0⟩⟩
  | false => .evaluation [checkoutDeployOutageSpec] withoutMemory

/-- The incident is created and read back while the model diagnoses. -/
def interleaved : List (Bool × Move ChatOutcome Error) :=
  (steps 3).map (false, ·) ++ (true, .perform) ::
    (false, .reply (.response rollbackDiagnosis)) :: (true, .perform) :: (steps 7).map (false, ·)

def reportIn (pool : Reports ι) (i : ι) : Option EvalReport :=
  match pool.requests i with
  | .ret report => report
  | _ => none

omit [DecidableEq ι] in
theorem done_of_reportIn {pool : Reports ι} {i : ι} {report : EvalReport}
    (reported : reportIn pool i = some report) : pool.requests i = .ret (some report) := by
  unfold reportIn at reported
  split at reported
  case h_1 done => rw [done, reported]
  case h_2 => cases reported

def withMemory : Database := { Database.empty with serviceMemory := crowded.serviceMemory }

def noRemediations : PoolPermit Bool Label ChatOutcome Database Error (Option EvalReport) :=
  fun _ _ _ next => next.state.remediationExecutions.isEmpty = true

instance (pool : Reports Bool) (who : Bool) (event : BackendEvent) (next : Reports Bool) :
    Decidable (noRemediations pool who event next) :=
  inferInstanceAs (Decidable (next.state.remediationExecutions.isEmpty = true))

theorem separately_of_none (py : Platform) (pool : Reports Bool) (who : Bool) (event : BackendEvent)
    (next : Reports Bool) (none : noRemediations pool who event next) :
    separately py pool who event next := by
  intro row mem
  rw [List.isEmpty_iff.mp none] at mem
  exact absurd mem List.not_mem_nil

/-- The report of the interleaved evaluation is one that is made alone, on a database with memory. -/
theorem eval_undisturbed_creation : ∃ (pool : Reports Bool) (report : EvalReport) (u : Database),
    (Pool.start Database.empty fun j => reporting checkoutApp (besideCreation j)).run interleaved =
      some pool ∧
    report.aggregate.policyVerdictAccuracy = 1 ∧
    Runs .alone anyFaults (runEval checkoutApp withoutMemory [checkoutDeployOutageSpec]) withMemory
      (.returned report) u (eventsOf false pool.history) := by
  have reports : ((Pool.start Database.empty fun j =>
      reporting checkoutApp (besideCreation j)).run interleaved).any (fun pool =>
        (reportIn pool false).any fun report => report.aggregate.policyVerdictAccuracy == 1) =
          true := by decide +kernel
  obtain ⟨pool, ran, reported⟩ := Option.any_eq_true _ _ |>.mp reports
  obtain ⟨report, done, accurate⟩ := Option.any_eq_true _ _ |>.mp reported
  have permitted : (Pool.start Database.empty fun j =>
      reporting checkoutApp (besideCreation j)).Permitted noRemediations interleaved := by
    decide +kernel
  have reach : Reaches (separately checkoutApp.py) _ pool :=
    (reaches_of_run permitted ran).mono (separately_of_none checkoutApp.py)
  have others : ∀ j, j ≠ false → ∃ request, besideCreation j = .http request := by
    intro j different
    rw [Bool.eq_true_of_not_eq_false different]
    exact ⟨_, rfl⟩
  have agree : SameEvals checkoutApp.py Database.empty withMemory :=
    ⟨fun _ _ => rfl, fun _ _ _ _ => rfl⟩
  obtain ⟨u, run⟩ := eval_undisturbed checkoutApp Database.empty besideCreation false rfl rfl others
    reach (done_of_reportIn done) agree
  exact ⟨pool, report, u, ran, beq_iff_eq.mp accurate, run⟩

end OpsPilot.EvalIsolation
