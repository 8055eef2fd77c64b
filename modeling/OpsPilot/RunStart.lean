import OpsPilot.StepEffects
import OpsPilot.RequestPool
import Mathlib.Data.Fintype.Basic

/-! Any number of concurrent run requests. The status check and the commit of `running` are two
steps, and only the second is on the row that other requests see. -/

namespace OpsPilot.RunStart
open SyntheticEnvironment InvestigationState Models StepEffects IncidentApi DurableProgram
open RequestPool

variable (app : App)

/-- A step after `running` was committed. -/
def later (l : Label) : Prop := (∀ id, l ≠ .commitRunning id) ∧ ∀ key, l ≠ .createIncident key

theorem later_of_inThread {threadId : String} {l : Label} (inside : inThread threadId l) :
    later l := by
  refine ⟨?_, ?_⟩
  · rintro id rfl
    exact inside
  · rintro key rfl
    exact inside

theorem runStarted_later (server : Server) (id : ℕ) (incident : Incident) (scenario : Scenario) :
    Does later (runStarted app server id incident scenario) := by
  have reading : ∀ id, later (.loadIncident id) :=
    fun id => ⟨fun _ => Label.noConfusion, fun _ => Label.noConfusion⟩
  refine (reread_does _ _ _ (reading id)).bind fun incident => ?_
  refine Guarantees.bind ((runInvestigation_does _ _ _ _ _).mono fun _ => later_of_inThread) ?_
  intro result
  refine (applyResult_does _ _ _ _ _ ⟨fun _ => Label.noConfusion, fun _ => Label.noConfusion⟩).bind
    fun _ => ?_
  exact (reread_does _ _ _ (reading id)).bind fun incident =>
    (toIncidentDetail_does _ _ _).bind fun _ => trivial

/-- A step of a request that does not start the incident. -/
def elsewhere (id : ℕ) (l : Label) : Prop := l ≠ .commitRunning id ∧ ∀ key, l ≠ .createIncident key

theorem runIncident_elsewhere (server : Server) {id other : ℕ} (different : other ≠ id) :
    Does (elsewhere id) (runIncident app server other) := by
  refine (getIncidentOr404_does _ ⟨Label.noConfusion, fun _ => Label.noConfusion⟩).bind
    fun incident => ?_
  split
  · trivial
  · refine (does_one _).bind fun scenario => Guarantees.bind ?_ fun _ => ?_
    · refine does_write ⟨?_, fun _ => Label.noConfusion⟩ (by intro _; exact ⟨server, rfl⟩)
      intro same
      cases same
      exact different rfl
    · exact (runStarted_later app server other incident scenario).mono fun l ok => ⟨ok.1 id, ok.2⟩

structure RunRequest where
  id : ℕ
  server : Server

inductive Shape (app : App) (request : RunRequest) :
    Backend Response → List BackendEvent → Prop where
  | waiting : Shape app request (runIncident app request.server request.id) []
  | checked (incident scenario) : Shape app request
      ((write (.commitRunning request.id) (markRunning request.server request.id)).bind
        fun _ => runStarted app request.server request.id incident scenario)
      [.performed (.loadIncident request.id)]
  | rejected (text) : Shape app request (.raise (.http 409 text))
      [.performed (.loadIncident request.id)]
  | started (incident scenario h) (begun : .performed (.commitRunning request.id) ∈ h) :
      Shape app request (runStarted app request.server request.id incident scenario) h
  | calling (serviceId query next fails h) (begun : .performed (.commitRunning request.id) ∈ h)
      (rest : Does later (.act (.retrieveMemory serviceId) query next fails)) :
      Shape app request (.act (.retrieveMemory serviceId) query next fails) h
  | called (serviceId p h) (begun : .performed (.commitRunning request.id) ∈ h)
      (called : .performed (.retrieveMemory serviceId) ∈ h) (rest : Does later p) :
      Shape app request p h

def RowKept (app : App) (id : ℕ) (db : Database) : Prop :=
  ∃ row scenario, db.incidents id = some row ∧ scenarioById app row.scenarioId = some scenario

theorem Shape.step {app : App} {request : RunRequest} {p p' : Backend Response}
    {h : List BackendEvent} {m : Move ChatOutcome Error} {s s' : Database} {ev : BackendEvent}
    (shape : Shape app request p h) (kept : RowKept app request.id s)
    (step : advance m p s = some (ev, p', s')) (ok : ev.faultFree) :
    Shape app request p' (h ++ [ev]) := by
  obtain ⟨row, scenario, found, known⟩ := kept
  cases shape with
  | waiting =>
    obtain ⟨rfl, rfl, -⟩ | ⟨e, rfl, -⟩ | ⟨rfl, -⟩ := advance_act step
    · simp only [Program.ret_bind, found, List.nil_append]
      split
      · exact .rejected _
      · rw [known]
        exact .checked row scenario
    · exact ok.elim
    · exact ok.elim
  | checked incident scenario =>
    obtain ⟨rfl, rfl, -⟩ | ⟨e, rfl, -⟩ | ⟨rfl, -⟩ := advance_act step
    · exact .started incident scenario _ (by simp)
    · exact ok.elim
    · exact ok.elim
  | rejected text => cases m <;> simp [advance] at step
  | started incident scenario h begun =>
    have rest := (Guarantees.advance (runStarted_later app request.server request.id incident
      scenario) step).1
    obtain ⟨rfl, rfl, -⟩ | ⟨e, rfl, -⟩ | ⟨rfl, -⟩ := advance_act step
    · simp only [Program.ret_bind, found] at rest ⊢
      exact .calling _ _ _ _ _ (List.mem_append_left _ begun) rest
    · exact ok.elim
    · exact ok.elim
  | calling serviceId query next fails h begun rest =>
    have rest := (Guarantees.advance rest step).1
    obtain ⟨rfl, rfl, -⟩ | ⟨e, rfl, -⟩ | ⟨rfl, -⟩ := advance_act step
    · exact .called serviceId _ _ (List.mem_append_left _ begun) (by simp) rest
    · exact ok.elim
    · exact ok.elim
  | called serviceId p h begun called rest =>
    exact .called serviceId _ _ (List.mem_append_left _ begun) (List.mem_append_left _ called)
      (Guarantees.advance rest step).1

theorem Shape.notCreating {app : App} {request : RunRequest} {p : Backend Response}
    {h : List BackendEvent} (shape : Shape app request p h) :
    Does (fun l => ∀ key, l ≠ .createIncident key) p := by
  have weaker : ∀ l, later l → ∀ key, l ≠ .createIncident key := fun _ ok => ok.2
  cases shape with
  | waiting =>
    exact (runIncident_elsewhere app request.server (Nat.succ_ne_self request.id).symm).mono
      fun _ ok => ok.2
  | checked incident scenario =>
    exact (does_write (fun _ => Label.noConfusion) (by intro _; exact ⟨request.server, rfl⟩)).bind
      fun _ => (runStarted_later _ _ _ _ _).mono weaker
  | rejected text => trivial
  | started incident scenario h begun => exact (runStarted_later _ _ _ _ _).mono weaker
  | calling serviceId query next fails h begun rest => exact rest.mono weaker
  | called serviceId p h begun called rest => exact rest.mono weaker

variable {ι : Type} [DecidableEq ι]

abbrev Requests (ι : Type) := Pool ι Label ChatOutcome Database Error Response

def runRequests (db : Database) (requests : ι → RunRequest) : Requests ι :=
  .start db fun i => runIncident app (requests i).server (requests i).id

/-- The request has called `run_investigation`, whose first step reads the service's memory. -/
def investigates (i : ι) (history : List (ι × BackendEvent)) : Prop :=
  ∃ serviceId, (i, Event.performed (Label.retrieveMemory serviceId)) ∈ history

def isCommitRunning (id : ℕ) : Label → Bool
  | .commitRunning j => j == id
  | _ => false

/-- No faults, and `running` is committed only onto a row that still says open. -/
def startsWhileOpen (id : ℕ) : PoolPermit ι Label ChatOutcome Database Error Response :=
  fun pool _ ev _ => ev.faultFree ∧
    (isCommitRunning id ev.label = true → pool.state.status? id = some .opened)

instance (id : ℕ) (pool : Requests ι) (who : ι) (ev : BackendEvent) (next : Requests ι) :
    Decidable (startsWhileOpen id pool who ev next) :=
  inferInstanceAs (Decidable (_ ∧ (_ → _)))

structure Inv (requests : ι → RunRequest) (id : ℕ) (pool : Requests ι) : Prop where
  kept : RowKept app id pool.state
  shapes : ∀ i, (requests i).id = id →
    Shape app (requests i) (pool.requests i) (eventsOf i pool.history)
  others : ∀ i, (requests i).id ≠ id → Does (elsewhere id) (pool.requests i)
  closed : (∃ i, (i, Event.performed (Label.commitRunning id)) ∈ pool.history) →
    pool.state.status? id ≠ some .opened
  single : ∀ i j, (i, Event.performed (Label.commitRunning id)) ∈ pool.history →
    (j, Event.performed (Label.commitRunning id)) ∈ pool.history → i = j

section
variable {app} {requests : ι → RunRequest} {id : ℕ} {pool : Requests ι}

theorem Inv.notCreating (inv : Inv app requests id pool) (who : ι) :
    Does (fun l => ∀ key, l ≠ .createIncident key) (pool.requests who) := by
  by_cases mine : (requests who).id = id
  · exact (inv.shapes who mine).notCreating
  · exact (inv.others who mine).mono fun _ ok => ok.2

theorem RowKept.step {s s' : Database} {l : Label} (kept : RowKept app id s)
    (effect : Effect l s s') (old : ∀ key, l ≠ .createIncident key) : RowKept app id s' := by
  obtain ⟨row, scenario, found, known⟩ := kept
  have same := effect.scenarioId id old
  rw [found, Option.map_some] at same
  obtain ⟨row', found', scenarioId⟩ := Option.map_eq_some_iff.mp same
  exact ⟨row', scenario, found', scenarioId ▸ known⟩

theorem notOpened_step {s s' : Database} {l : Label} (effect : Effect l s s')
    (old : ∀ key, l ≠ .createIncident key) (left : s.status? id ≠ some .opened) :
    s'.status? id ≠ some .opened := by
  obtain same | ⟨key, created, _⟩ | ⟨_, running⟩ | ⟨result, _, reported⟩ := effect.status id
  · rwa [same]
  · exact absurd created (old key)
  · rw [running]
    cases s.status? id <;> simp
  · rw [reported]
    cases s.status? id <;> simp

theorem inv_step (pool : Requests ι) (who : ι) (move : Move ChatOutcome Error)
    (event : BackendEvent) (rest : Backend Response) (state : Database)
    (inv : Inv app requests id pool)
    (advanced : advance move (pool.requests who) pool.state = some (event, rest, state))
    (ok : startsWhileOpen id pool who event (pool.moved who event rest state)) :
    Inv app requests id (pool.moved who event rest state) := by
  have changed : state = pool.state ∨
      ∃ l, event = .performed l ∧ Effect l pool.state state ∧ ∀ key, l ≠ .createIncident key := by
    by_cases performed : ∃ l, event = .performed l
    · obtain ⟨l, rfl⟩ := performed
      have step := (inv.notCreating who).performed advanced
      exact .inr ⟨l, rfl, step.2, step.1⟩
    · exact .inl (advance_unchanged (fun l same => performed ⟨l, same⟩) advanced)
  have fresh : event = .performed (.commitRunning id) →
      ∀ i, (i, Event.performed (Label.commitRunning id)) ∉ pool.history := by
    rintro rfl i earlier
    exact inv.closed ⟨i, earlier⟩ (ok.2 (by simp [Event.label, isCommitRunning]))
  refine ⟨?_, ?_, ?_, ?_, ?_⟩
  · obtain rfl | ⟨l, -, effect, old⟩ := changed
    · exact inv.kept
    · exact inv.kept.step effect old
  · intro i mine
    by_cases same : i = who
    · subst same
      rw [Pool.moved_self, Pool.moved_history, eventsOf_self]
      exact (inv.shapes i mine).step (mine ▸ inv.kept) advanced ok.1
    · rw [Pool.moved_other pool _ _ _ same, Pool.moved_history, eventsOf_other same]
      exact inv.shapes i mine
  · intro i other
    by_cases same : i = who
    · subst same
      rw [Pool.moved_self]
      exact (Guarantees.advance (inv.others i other) advanced).1
    · rw [Pool.moved_other pool _ _ _ same]
      exact inv.others i other
  · rintro ⟨i, mem⟩
    rw [Pool.moved_state]
    rw [Pool.moved_history, List.mem_append, List.mem_singleton] at mem
    rcases mem with earlier | now
    · have left := inv.closed ⟨i, earlier⟩
      obtain rfl | ⟨l, -, effect, old⟩ := changed
      · exact left
      · exact notOpened_step effect old left
    · cases now
      have mine : state.status? id = (pool.state.status? id).map fun _ => .running := by
        have effect := (inv.notCreating who).performed advanced
        obtain ⟨server, rfl⟩ := effect.2
        rw [markRunning, status?_updateIncident, if_pos rfl, Database.status?, Option.map_map]
        rfl
      rw [mine]
      cases pool.state.status? id <;> simp
  · intro i j one two
    rw [Pool.moved_history, List.mem_append, List.mem_singleton] at one two
    rcases one with one | one <;> rcases two with two | two
    · exact inv.single i j one two
    · cases two
      exact absurd one (fresh rfl i)
    · cases one
      exact absurd two (fresh rfl j)
    · cases one
      cases two
      rfl

end

/-- Over every interleaving in which `running` is committed only onto an open row: at most one
request for the incident calls `run_investigation`, and every other one that has finished has
answered 409 after nothing but reading the row. -/
theorem investigated_at_most_once (db : Database) (requests : ι → RunRequest) (id : ℕ)
    (row : Incident) (scenario : Scenario) (found : db.incidents id = some row)
    (known : scenarioById app row.scenarioId = some scenario) {pool : Requests ι}
    (reach : Reaches (startsWhileOpen id) (runRequests app db requests) pool) :
    (∀ i j, (requests i).id = id → (requests j).id = id →
      investigates i pool.history → investigates j pool.history → i = j) ∧
    ∀ i o, (requests i).id = id → ¬ investigates i pool.history →
      (pool.requests i).finished = some o →
      (∃ text, o = .raised (.http 409 text)) ∧
        eventsOf i pool.history = [.performed (.loadIncident id)] := by
  have inv : Inv app requests id pool := by
    refine reach.invariant inv_step ⟨⟨row, scenario, found, known⟩, ?_, ?_, ?_, ?_⟩
    · exact fun i _ => .waiting
    · exact fun i other => runIncident_elsewhere app _ other
    · rintro ⟨i, mem⟩
      cases mem
    · intro i j mem
      cases mem
  have begun : ∀ i, (requests i).id = id → investigates i pool.history →
      (i, Event.performed (Label.commitRunning id)) ∈ pool.history := by
    rintro i mine ⟨serviceId, called⟩
    have shape := inv.shapes i mine
    rw [← mem_eventsOf] at called ⊢
    generalize eventsOf i pool.history = h at shape called
    generalize pool.requests i = p at shape
    rw [← mine]
    cases shape with
    | waiting => cases called
    | checked | rejected => cases List.mem_singleton.mp called
    | started _ _ _ begun => exact begun
    | calling _ _ _ _ _ begun => exact begun
    | called _ _ _ begun => exact begun
  refine ⟨?_, ?_⟩
  · intro i j mine yours one two
    exact inv.single i j (begun i mine one) (begun j yours two)
  · intro i o mine idle ended
    have shape := inv.shapes i mine
    have silent : ∀ serviceId, .performed (.retrieveMemory serviceId) ∉ eventsOf i pool.history :=
      fun serviceId mem => idle ⟨serviceId, mem_eventsOf.mp mem⟩
    generalize eventsOf i pool.history = h at shape silent
    generalize pool.requests i = p at shape ended
    cases shape with
    | waiting | checked | started | calling => cases ended
    | called serviceId _ _ _ called => exact absurd called (silent serviceId)
    | rejected text =>
      cases ended
      exact ⟨⟨text, rfl⟩, by rw [mine]⟩

def openIncident : Database :=
  { Database.empty with
    incidents := Function.update (fun _ => none) 1
      (some { scenarioId := 1, status := .opened, createdAt := 0 })
    nextIncidentId := 2 }

def twoRuns : Bool → RunRequest := fun _ => ⟨1, ⟨"process-1", 0⟩⟩

/-- The first request calls `run_investigation`; then the second one is served. -/
def secondRunLate : List (Bool × Move ChatOutcome Error) :=
  [(false, .perform), (false, .perform), (false, .perform), (false, .perform), (true, .perform)]

theorem investigated_at_most_once_second_late :
    ∃ pool, (runRequests checkoutApp openIncident twoRuns).run secondRunLate = some pool ∧
      (∀ i j, (twoRuns i).id = 1 → (twoRuns j).id = 1 →
        investigates i pool.history → investigates j pool.history → i = j) ∧
      ∀ i o, (twoRuns i).id = 1 → ¬ investigates i pool.history →
        (pool.requests i).finished = some o →
        (∃ text, o = .raised (.http 409 text)) ∧
          eventsOf i pool.history = [.performed (.loadIncident 1)] := by
  have permitted : (runRequests checkoutApp openIncident twoRuns).Permitted
      (startsWhileOpen 1) secondRunLate := by
    decide +kernel
  refine ⟨_, rfl, ?_⟩
  exact investigated_at_most_once checkoutApp openIncident twoRuns 1 _ checkoutDeployOutage rfl rfl
    (reaches_of_run permitted rfl)

/-- Both requests check the status before either commits `running`. -/
def bothCheckFirst : List (Bool × Move ChatOutcome Error) :=
  [(false, .perform), (true, .perform), (false, .perform), (true, .perform),
   (false, .perform), (true, .perform), (false, .perform), (true, .perform)]

def withoutFaults : PoolPermit Bool Label ChatOutcome Database Error Response :=
  fun _ _ ev _ => ev.faultFree

instance (pool : Requests Bool) (who : Bool) (ev : BackendEvent) (next : Requests Bool) :
    Decidable (withoutFaults pool who ev next) :=
  inferInstanceAs (Decidable ev.faultFree)

theorem overlapping_checks_investigate_twice :
    ¬ ∀ pool, Reaches withoutFaults (runRequests checkoutApp openIncident twoRuns) pool →
      ∀ i j, investigates i pool.history → investigates j pool.history → i = j := by
  intro single
  have permitted : (runRequests checkoutApp openIncident twoRuns).Permitted
      withoutFaults bothCheckFirst := by
    decide +kernel
  have same := single _ (reaches_of_run permitted rfl) false true
    ⟨1, by simp [runRequests, Pool.start, Pool.moved, checkoutDeployOutage]⟩
    ⟨1, by simp [runRequests, Pool.start, Pool.moved, checkoutDeployOutage]⟩
  cases same

end OpsPilot.RunStart
