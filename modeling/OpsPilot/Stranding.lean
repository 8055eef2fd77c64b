import OpsPilot.GraphRun
import OpsPilot.StepEffects
import OpsPilot.RequestPool

/-! Any requests in any interleaving, with faults. An incident that is `running` depends on the
request that made it so: no endpoint takes it on from there. -/

namespace OpsPilot.Stranding
open AgentSchemas SyntheticEnvironment InvestigationState Models StepEffects Investigation
open IncidentApi GraphRun DurableProgram RequestPool

variable {app : App}

def freshCommit : BackendEvent → Database → Bool
  | .performed (.commit row), db => (db.remediation? row.idempotencyKey).isNone
  | _, _ => true

/-- Nothing is raised: no fault, and no commit that the unique index refuses. -/
def calm : Permit Label ChatOutcome Database Error :=
  fun ev db => ev.faultFree ∧ freshCommit ev db = true

theorem runInvestigation_returns (app : App) (scenario : Scenario) (threadId : String)
    (ceilings : Ceilings) (memoryEnabled : Bool) :
    Returns calm (runInvestigation app scenario threadId ceilings memoryEnabled) := by
  intro s o u g run
  cases runInvestigation_ends run with
  | returned => exact ⟨_, rfl⟩
  | stopped cause =>
    rcases cause with fault | ⟨_, _, t, row, other, _, _, taken, _, fresh⟩
    · exact (fault.of_noFaults fun _ _ ok => ok.1).elim
    · rw [freshCommit, taken] at fresh
      cases fresh

/-- What `run_incident` does once the result is applied. -/
def answered (app : App) (id : ℕ) (incident : Incident) : Backend Response :=
  (reread id incident true).bind fun incident =>
    (toIncidentDetail app id incident).bind fun detail => .ret (.incident detail)

theorem answered_does (id : ℕ) (incident : Incident) :
    Does (ofIncident id) (answered app id incident) :=
  (reread_does id incident true (.inl rfl)).bind fun incident =>
    (toIncidentDetail_does app id incident).bind fun _ => trivial

/-- A request between its commit of `running` and its commit of a result. -/
inductive Window (app : App) (id : ℕ) : Backend Response → Prop where
  | rereading (server incident scenario) :
      Window app id (runStarted app server id incident scenario)
  | investigating (server) (incident : Incident) {p : Backend InvestigationResult}
      (does : Does (inThread (threadIdOf id)) p) (returns : Returns calm p)
      (known : (scenarioById app incident.scenarioId).isSome = true) :
      Window app id (p.bind fun result => (applyResult app server id incident result).bind
        fun _ => answered app id incident)

def Seeded (app : App) (db : Database) : Prop :=
  ∀ id row, db.incidents id = some row → (scenarioById app row.scenarioId).isSome = true

def isApplied : BackendEvent → Bool
  | .performed (.applyResult _ _) => true
  | _ => false

theorem applyResult_step {server : Server} {id : ℕ} {incident : Incident}
    {result : InvestigationResult} {k : Unit → Backend Response} {m : Move ChatOutcome Error}
    {p' : Backend Response} {s s' : Database} {ev : BackendEvent}
    (known : (scenarioById app incident.scenarioId).isSome = true)
    (step : advance m ((applyResult app server id incident result).bind k) s = some (ev, p', s'))
    (quiet : ev.faultFree) : ev = .performed (.applyResult id result) ∧ p' = k () := by
  obtain ⟨scenario, found⟩ := Option.isSome_iff_exists.mp known
  unfold applyResult at step
  rw [found] at step
  split at step
  · obtain ⟨rfl, rfl, -⟩ | ⟨e, rfl, -⟩ | ⟨rfl, -⟩ := advance_act step
    · exact ⟨rfl, rfl⟩
    · exact quiet.elim
    · exact quiet.elim
  · obtain ⟨rfl, rfl, -⟩ | ⟨e, rfl, -⟩ | ⟨rfl, -⟩ := advance_act step
    · exact ⟨rfl, rfl⟩
    · exact quiet.elim
    · exact quiet.elim

/-- Inside its window a request goes on until it has applied its result. -/
theorem Window.step {id : ℕ} {p p' : Backend Response} {m : Move ChatOutcome Error}
    {s s' : Database} {ev : BackendEvent} (window : Window app id p) (present : Has id s)
    (seeded : Seeded app s) (step : advance m p s = some (ev, p', s')) (ok : calm ev s) :
    (Window app id p' ∧ ∀ other, ev ≠ .performed (.commitRunning other)) ∧ isApplied ev = false ∨
      (∃ result, ev = .performed (.applyResult id result)) ∧ Does (ofIncident id) p' := by
  cases window with
  | rereading server incident scenario =>
    obtain ⟨rfl, rfl, -⟩ | ⟨e, rfl, -⟩ | ⟨rfl, -⟩ := advance_act step
    · obtain ⟨_, found⟩ := Option.isSome_iff_exists.mp present
      obtain ⟨row, found, -⟩ := Option.map_eq_some_iff.mp found
      refine .inl ⟨⟨?_, fun _ same => nomatch same⟩, rfl⟩
      simp only [Program.ret_bind, found]
      exact .investigating server row (runInvestigation_does _ _ _ _ _)
        (runInvestigation_returns _ _ _ _ _) (seeded id row found)
    · exact ok.1.elim
    · exact ok.1.elim
  | @investigating server incident p does returns known =>
    cases done : p.finished with
    | none =>
      obtain ⟨p', moved, rfl⟩ := advance_bind done step
      have inside : ∀ l, ev = .performed l → inThread (threadIdOf id) l := by
        rintro l rfl
        exact (Guarantees.performed does moved).1
      refine .inl ⟨⟨.investigating server incident (Guarantees.advance does moved).1
        (returns.advance moved ok) known, ?_⟩, ?_⟩
      · exact fun other same => inside _ same
      · unfold isApplied
        split
        · exact (inside _ rfl).elim
        · rfl
    | some o =>
      have : Nonempty Database := ⟨.empty⟩
      obtain ⟨result, rfl⟩ := returns.finished done
      obtain ⟨rfl, rfl⟩ := applyResult_step known step ok.1
      exact .inr ⟨⟨result, rfl⟩, answered_does id incident⟩

/-- A step that does not set an incident to `running`. -/
def notStarting (l : Label) : Prop := ∀ id, l ≠ .commitRunning id

theorem notStarting_of_ofIncident {id : ℕ} {l : Label} (inside : ofIncident id l) :
    notStarting l := by
  rintro other rfl
  obtain same | (inside | ⟨_, same⟩) | ⟨_, same⟩ := inside
  · cases same
  · exact inside
  · cases same
  · cases same

def isBegun : BackendEvent → Bool
  | .performed (.commitRunning _) => true
  | _ => false

/-- The request has set its incident to `running` and has not applied a result yet. -/
def underway (h : List BackendEvent) : Bool := h.any isBegun && !h.any isApplied

inductive Shape (app : App) (db : Database) : Backend Response → List BackendEvent → Prop where
  | other {p h} (does : Does notStarting p) : Shape app db p h
  | waiting (server id) : Shape app db (runIncident app server id) []
  | checked (server id incident scenario) (present : Has id db) : Shape app db
      ((write (.commitRunning id) (markRunning server id)).bind
        fun _ => runStarted app server id incident scenario) [.performed (.loadIncident id)]
  | window {id p h} (window : Window app id p) (present : Has id db)
      (now : underway h = true) : Shape app db p h

theorem serve_shape (app : App) (db : Database) (request : Request) :
    Shape app db (serve app request) [] := by
  obtain ⟨endpoint, server⟩ := request
  have reading : ∀ id {l}, (l = .listIncidents ∨ ∃ id, ofIncident id l) ∨
      (∃ key, l = .createIncident key) ∨ l = .loadIncident id → notStarting l := by
    rintro id l ((rfl | ⟨id, inside⟩) | ⟨key, rfl⟩ | rfl)
    · exact fun _ => Label.noConfusion
    · exact notStarting_of_ofIncident inside
    · exact fun _ => Label.noConfusion
    · exact fun _ => Label.noConfusion
  cases endpoint with
  | createIncident scenarioKey =>
    refine .other ((createIncident_does app server scenarioKey).mono ?_)
    rintro l (same | ⟨id, same⟩)
    · exact reading 0 (.inr (.inl ⟨scenarioKey, same⟩))
    · exact reading id (.inr (.inr same))
  | listIncidents =>
    exact .other ((listIncidents_does app server).mono fun _ inside => reading 0 (.inl inside))
  | getIncident id =>
    exact .other ((getIncident_does app server id).mono fun _ => notStarting_of_ofIncident)
  | runIncident id => exact .waiting server id
  | decideApproval id body =>
    exact .other ((decideApproval_does app server id body).mono fun _ => notStarting_of_ofIncident)
  | getTimeline id =>
    exact .other ((getTimeline_does app server id).mono fun _ => notStarting_of_ofIncident)

theorem Window.does {id : ℕ} {p : Backend Response} (window : Window app id p) :
    Does (ofIncident id) p := by
  cases window with
  | rereading server incident scenario => exact runStarted_does app server id incident scenario
  | investigating server incident does _ _ =>
    refine Guarantees.bind (does.mono fun _ inside => .inr (.inl (.inl inside))) fun result => ?_
    exact (applyResult_does app server id incident result (.inr (.inr ⟨result, rfl⟩))).bind
      fun _ => answered_does id incident

theorem commitRunning_does (server : Server) (id : ℕ) (incident : Incident) (scenario : Scenario) :
    Does (fun _ => True) ((write (.commitRunning id) (markRunning server id)).bind
      fun _ => runStarted app server id incident scenario) :=
  (does_write trivial (by intro _; exact ⟨server, rfl⟩)).bind fun _ =>
    (runStarted_does app server id incident scenario).mono fun _ _ => trivial

theorem Shape.does {db : Database} {p : Backend Response} {h : List BackendEvent}
    (shape : Shape app db p h) : Does (fun _ => True) p := by
  cases shape with
  | other does => exact does.mono fun _ _ => trivial
  | window window => exact window.does.mono fun _ _ => trivial
  | checked server id incident scenario => exact commitRunning_does server id incident scenario
  | waiting server id =>
    refine (getIncidentOr404_does id trivial).bind fun incident => ?_
    split
    · trivial
    · exact (does_one _).bind fun scenario => commitRunning_does server id incident scenario

theorem Shape.later {s s' : Database} {p : Backend Response} {h : List BackendEvent}
    (shape : Shape app s p h) (kept : ∀ id, Has id s → Has id s') : Shape app s' p h := by
  cases shape with
  | other does => exact .other does
  | waiting server id => exact .waiting server id
  | checked server id incident scenario present => exact .checked _ _ _ _ (kept id present)
  | window window present now => exact .window window (kept _ present) now

theorem underway_append {h : List BackendEvent} {ev : BackendEvent} (now : underway h = true)
    (unapplied : isApplied ev = false) : underway (h ++ [ev]) = true := by
  simp only [underway, Bool.and_eq_true, Bool.not_eq_true', List.any_append, Bool.or_eq_true,
    Bool.or_eq_false_iff] at now ⊢
  exact ⟨.inl now.1, now.2, by simp [unapplied]⟩

theorem Window.stays {id : ℕ} {p p' : Backend Response} {h : List BackendEvent}
    {m : Move ChatOutcome Error} {s s' : Database} {ev : BackendEvent} (window : Window app id p)
    (now : underway h = true) (present : Has id s) (seeded : Seeded app s)
    (step : advance m p s = some (ev, p', s')) (ok : underway h = true → calm ev s) :
    (Window app id p' ∧ underway (h ++ [ev]) = true) ∨
      ∃ result, ev = .performed (.applyResult id result) := by
  obtain ⟨⟨window, _⟩, unapplied⟩ | ⟨applied, _⟩ := window.step present seeded step (ok now)
  · exact .inl ⟨window, underway_append now unapplied⟩
  · exact .inr applied

theorem Shape.step {p p' : Backend Response} {h : List BackendEvent} {m : Move ChatOutcome Error}
    {s s' : Database} {ev : BackendEvent} (shape : Shape app s p h) (seeded : Seeded app s)
    (step : advance m p s = some (ev, p', s')) (ok : underway h = true → calm ev s) :
    Shape app s p' (h ++ [ev]) ∧ ∀ id, ev = .performed (.commitRunning id) →
      Window app id p' ∧ underway (h ++ [ev]) = true := by
  cases shape with
  | other does =>
    refine ⟨.other (Guarantees.advance does step).1, ?_⟩
    rintro id rfl
    exact absurd rfl ((Guarantees.performed does step).1 id)
  | waiting server id =>
    obtain ⟨rfl, rfl, -⟩ | ⟨e, rfl, rfl, -⟩ | ⟨rfl, rfl, -⟩ := advance_act step
    · refine ⟨?_, fun _ same => by cases same⟩
      cases found : s.incidents id with
      | none =>
        simp only [Program.ret_bind, found]
        exact .other trivial
      | some row =>
        have present : Has id s := by simp [Has, Database.status?, found]
        simp only [Program.ret_bind, found, List.nil_append]
        split
        · exact .other trivial
        · cases scenarioById app row.scenarioId with
          | none => exact .other trivial
          | some scenario => exact .checked server id row scenario present
    · exact ⟨.other trivial, fun _ same => by cases same⟩
    · exact ⟨.other trivial, fun _ same => by cases same⟩
  | checked server id incident scenario present =>
    obtain ⟨rfl, rfl, -⟩ | ⟨e, rfl, rfl, -⟩ | ⟨rfl, rfl, -⟩ := advance_act step
    · have window : Window app id (runStarted app server id incident scenario) := .rereading _ _ _
      refine ⟨.window window present rfl, ?_⟩
      rintro other same
      cases same
      exact ⟨window, rfl⟩
    · exact ⟨.other trivial, fun _ same => by cases same⟩
    · exact ⟨.other trivial, fun _ same => by cases same⟩
  | window window present now =>
    obtain ⟨⟨still, unstarted⟩, unapplied⟩ | ⟨⟨result, rfl⟩, done⟩ :=
      window.step present seeded step (ok now)
    · exact ⟨.window still present (underway_append now unapplied),
        fun other same => absurd same (unstarted other)⟩
    · exact ⟨.other (done.mono fun _ => notStarting_of_ofIncident), fun _ same => by cases same⟩

theorem Seeded.step {l : Label} {s s' : Database} (seeded : Seeded app s) (effect : Effect l s s')
    (old : ∀ key, l ≠ .createIncident key) : Seeded app s' := by
  intro id row' found'
  have same := effect.scenarioId id old
  rw [found', Option.map_some] at same
  obtain ⟨row, found, scenarioId⟩ := Option.map_eq_some_iff.mp same.symm
  exact scenarioId ▸ seeded id row found

abbrev KeepsSeeded {α : Type} (app : App) (p : Backend α) : Prop :=
  Guarantees (fun _ s s' => Seeded app s → Seeded app s') p

theorem keepsSeeded_of_does {α : Type} {p : Backend α} {allowed : Label → Prop}
    (does : Does allowed p) (old : ∀ l, allowed l → ∀ key, l ≠ .createIncident key) :
    KeepsSeeded app p :=
  Guarantees.mono (fun l _ _ step seeded => seeded.step step.2 (old l step.1)) does

theorem createIncident_keepsSeeded (app : App) (server : Server) (scenarioKey : String) :
    KeepsSeeded app (createIncident app server scenarioKey) := by
  unfold createIncident
  split
  · trivial
  case h_2 scenario found =>
    refine ⟨?_, fun db => ?_, fun _ => trivial⟩
    · intro s seeded id row present
      by_cases new : id = s.nextIncidentId
      · subst new
        simp only [Function.update_self, Option.some.injEq] at present
        subst present
        have mem := List.mem_of_find?_eq_some found
        exact List.find?_isSome.mpr ⟨scenario, mem, by simp⟩
      · exact seeded id row (by simpa [new] using present)
    · have answers : Does (· = .loadIncident db.nextIncidentId)
          ((loadIncident db.nextIncidentId).bind fun row => (one row).bind fun incident =>
            (toIncidentDetail app db.nextIncidentId incident).bind fun detail =>
              .ret (Response.incident detail)) := by
        refine (does_read (by rfl) (by trivial) _).bind fun row => (does_one _).bind ?_
        exact fun incident => (toIncidentDetail_does app _ incident).bind fun _ => trivial
      refine keepsSeeded_of_does answers ?_
      rintro l rfl key
      exact Label.noConfusion

theorem not_createIncident_of_ofIncident {id : ℕ} {l : Label} (inside : ofIncident id l)
    (key : String) : l ≠ .createIncident key := by
  rintro rfl
  obtain same | (inside | ⟨_, same⟩) | ⟨_, same⟩ := inside
  · cases same
  · exact inside
  · cases same
  · cases same

theorem serve_keepsSeeded (app : App) (request : Request) : KeepsSeeded app (serve app request) := by
  obtain ⟨endpoint, server⟩ := request
  cases endpoint with
  | createIncident scenarioKey => exact createIncident_keepsSeeded app server scenarioKey
  | listIncidents =>
    refine keepsSeeded_of_does (listIncidents_does app server) ?_
    rintro l (rfl | ⟨id, inside⟩)
    · exact fun _ => Label.noConfusion
    · exact not_createIncident_of_ofIncident inside
  | getIncident id =>
    exact keepsSeeded_of_does (getIncident_does app server id) fun _ =>
      not_createIncident_of_ofIncident
  | runIncident id =>
    refine keepsSeeded_of_does (runIncident_does app server id) ?_
    · rintro l (rfl | inside)
      · exact fun _ => Label.noConfusion
      · exact not_createIncident_of_ofIncident inside
  | decideApproval id body =>
    exact keepsSeeded_of_does (decideApproval_does app server id body) fun _ =>
      not_createIncident_of_ofIncident
  | getTimeline id =>
    exact keepsSeeded_of_does (getTimeline_does app server id) fun _ =>
      not_createIncident_of_ofIncident

variable {ι : Type} [DecidableEq ι]

abbrev Requests (ι : Type) := Pool ι Label ChatOutcome Database Error Response

def serveAll (app : App) (requests : ι → Request) : Requests ι :=
  .start .empty fun i => serve app (requests i)

def unbroken : PoolPermit ι Label ChatOutcome Database Error Response :=
  fun pool who ev _ => underway (eventsOf who pool.history) = true → calm ev pool.state

structure Inv (app : App) (pool : Requests ι) : Prop where
  seeded : Seeded app pool.state
  keeps : ∀ i, KeepsSeeded app (pool.requests i)
  shapes : ∀ i, Shape app pool.state (pool.requests i) (eventsOf i pool.history)
  owned : ∀ id, pool.state.status? id = some .running → ∃ i,
    Window app id (pool.requests i) ∧ underway (eventsOf i pool.history) = true

theorem inv_step (pool : Requests ι) (who : ι) (move : Move ChatOutcome Error)
    (event : BackendEvent) (rest : Backend Response) (state : Database) (inv : Inv app pool)
    (advanced : advance move (pool.requests who) pool.state = some (event, rest, state))
    (ok : unbroken pool who event (pool.moved who event rest state)) :
    Inv app (pool.moved who event rest state) := by
  have changed : ((∀ l, event ≠ .performed l) ∧ state = pool.state) ∨
      ∃ l, event = .performed l ∧ Effect l pool.state state := by
    by_cases performed : ∃ l, event = .performed l
    · obtain ⟨l, rfl⟩ := performed
      exact .inr ⟨l, rfl, ((inv.shapes who).does.performed advanced).2⟩
    · have other : ∀ l, event ≠ .performed l := fun l same => performed ⟨l, same⟩
      exact .inl ⟨other, advance_unchanged other advanced⟩
  have kept : ∀ id, Has id pool.state → Has id state := by
    intro id present
    obtain ⟨-, rfl⟩ | ⟨l, -, effect⟩ := changed
    · exact present
    · exact present.step effect
  have owner : ∀ id, pool.state.status? id = some .running →
      (∀ result, event ≠ .performed (.applyResult id result)) →
      ∃ i, Window app id ((pool.moved who event rest state).requests i) ∧
        underway (eventsOf i (pool.moved who event rest state).history) = true := by
    intro id running unapplied
    obtain ⟨i, window, now⟩ := inv.owned id running
    refine ⟨i, ?_⟩
    rw [Pool.moved_history]
    by_cases same : i = who
    · subst same
      rw [Pool.moved_self, eventsOf_self]
      have present : Has id pool.state := by rw [Has, running, Option.isSome_some]
      obtain stays | ⟨result, applied⟩ := window.stays now present inv.seeded advanced ok
      · exact stays
      · exact absurd applied (unapplied result)
    · rw [Pool.moved_other pool _ _ _ same, eventsOf_other same]
      exact ⟨window, now⟩
  obtain ⟨shape, entered⟩ := (inv.shapes who).step inv.seeded advanced ok
  refine ⟨?_, ?_, ?_, ?_⟩
  · obtain same | keeps := (Guarantees.advance (inv.keeps who) advanced).2
    · rw [Pool.moved_state, same]
      exact inv.seeded
    · exact keeps inv.seeded
  · intro i
    by_cases same : i = who
    · subst same
      rw [Pool.moved_self]
      exact (Guarantees.advance (inv.keeps i) advanced).1
    · rw [Pool.moved_other pool _ _ _ same]
      exact inv.keeps i
  · intro i
    by_cases same : i = who
    · subst same
      rw [Pool.moved_self, Pool.moved_history, eventsOf_self]
      exact shape.later kept
    · rw [Pool.moved_other pool _ _ _ same, Pool.moved_history, eventsOf_other same]
      exact (inv.shapes i).later kept
  · intro id running
    rw [Pool.moved_state] at running
    obtain ⟨other, rfl⟩ | ⟨l, rfl, effect⟩ := changed
    · exact owner id running fun result => other _
    obtain same | ⟨_, rfl, opened⟩ | ⟨rfl, _⟩ | ⟨result, rfl, reported⟩ := effect.status id
    · refine owner id (same ▸ running) ?_
      rintro result same
      cases same
      rw [effect.status_applyResult, if_pos rfl] at running
      cases found : pool.state.status? id <;> simp [found] at running
    · cases opened.symm.trans running
    · refine ⟨who, ?_⟩
      rw [Pool.moved_self, Pool.moved_history, eventsOf_self]
      exact entered id rfl
    · rw [reported] at running
      cases found : pool.state.status? id <;> simp [found] at running

theorem Window.unfinished {id : ℕ} {p : Backend Response} (window : Window app id p) :
    p.finished = none := by
  cases window with
  | rereading => rfl
  | @investigating server incident p _ returns known =>
    cases done : p.finished with
    | none =>
      cases p with
      | act | ask => rfl
      | ret | raise | dead => cases done
    | some o =>
      have : Nonempty Database := ⟨.empty⟩
      obtain ⟨result, rfl⟩ := returns.finished done
      obtain ⟨scenario, found⟩ := Option.isSome_iff_exists.mp known
      simp only [Program.ret_bind, applyResult, found]
      split <;> rfl

/-- Over every interleaving in which nothing is raised between a request's commit of `running`
and its commit of a result: whenever no request is being served, no incident is `running`. -/
theorem never_stranded (app : App) (requests : ι → Request) {pool : Requests ι}
    (reach : Reaches unbroken (serveAll app requests) pool)
    (idle : ∀ i, eventsOf i pool.history = [] ∨ (pool.requests i).finished ≠ none) (id : ℕ) :
    pool.state.status? id ≠ some .running := by
  have inv : Inv app pool := by
    refine reach.invariant inv_step ⟨?_, ?_, ?_, ?_⟩
    · intro id row found
      cases found
    · exact fun i => serve_keepsSeeded app (requests i)
    · exact fun i => serve_shape app .empty (requests i)
    · intro id running
      cases running
  intro running
  obtain ⟨i, window, now⟩ := inv.owned id running
  rcases idle i with unserved | done
  · rw [unserved] at now
    cases now
  · exact done window.unfinished

instance (pool : Requests ι) (who : ι) (ev : BackendEvent) (next : Requests ι) :
    Decidable (unbroken pool who ev next) :=
  inferInstanceAs (Decidable (_ = true → _ ∧ _ = true))

def createThenRun : Bool → Request
  | true => ⟨.createIncident "checkout-deploy-outage", ⟨"process-1", 0⟩⟩
  | false => ⟨.runIncident 1, ⟨"process-1", 0⟩⟩

def untilChat : List (Bool × Move ChatOutcome Error) :=
  createSteps.map (true, ·) ++ untilModel.map (false, ·)

def overloaded : Bool × Move ChatOutcome Error := (false, .reply (.transient "overloaded"))

def givenUp : List (Bool × Move ChatOutcome Error) :=
  untilChat ++ [overloaded, (false, .perform), overloaded, (false, .perform), overloaded] ++
    List.replicate 5 (false, .perform)

def bothServed (schedule : List (Bool × Move ChatOutcome Error)) (holds : Database → Bool) : Bool :=
  ((serveAll checkoutApp createThenRun).run schedule).any fun pool =>
    (pool.requests true).finished.isSome && (pool.requests false).finished.isSome &&
      holds pool.state

theorem exists_of_bothServed {schedule : List (Bool × Move ChatOutcome Error)}
    {holds : Database → Bool} (served : bothServed schedule holds = true) :
    ∃ pool, (serveAll checkoutApp createThenRun).run schedule = some pool ∧
      (∀ i, (pool.requests i).finished ≠ none) ∧ holds pool.state = true := by
  obtain ⟨pool, ran, done⟩ := Option.any_eq_true _ _ |>.mp served
  simp only [Bool.and_eq_true] at done
  refine ⟨pool, ran, ?_, done.2⟩
  rintro (_ | _)
  · exact Option.isSome_iff_ne_none.mp done.1.2
  · exact Option.isSome_iff_ne_none.mp done.1.1

theorem never_stranded_given_up :
    ∃ pool, (serveAll checkoutApp createThenRun).run givenUp = some pool ∧
      ∀ id, pool.state.status? id ≠ some .running := by
  have permitted : (serveAll checkoutApp createThenRun).Permitted unbroken givenUp := by
    decide +kernel
  have served : bothServed givenUp (fun _ => true) = true := by decide +kernel
  obtain ⟨pool, ran, done, _⟩ := exists_of_bothServed served
  exact ⟨pool, ran, never_stranded checkoutApp createThenRun (reaches_of_run permitted ran)
    fun i => .inr (done i)⟩

def unauthorized : List (Bool × Move ChatOutcome Error) :=
  untilChat ++ [(false, .fail (.other "authentication_error"))]

theorem failed_call_strands :
    ¬ ∀ pool, Reaches anyStep (serveAll checkoutApp createThenRun) pool →
      (∀ i, eventsOf i pool.history = [] ∨ (pool.requests i).finished ≠ none) →
      ∀ id, pool.state.status? id ≠ some .running := by
  intro never
  have served : bothServed unauthorized (fun db => db.status? 1 == some .running) = true := by
    decide +kernel
  obtain ⟨pool, ran, done, running⟩ := exists_of_bothServed served
  exact never pool (reaches_of_run (permitted_anyStep _ _) ran) (fun i => .inr (done i)) 1
    (beq_iff_eq.mp running)

end OpsPilot.Stranding
