import OpsPilot.StepEffects
import OpsPilot.Superstep
import OpsPilot.CallHistory

/-! What a call of the incident API does when no other call overlaps it: turns of single
incidents, each finished or cut short by a fault. -/

namespace OpsPilot.IncidentTurns
open JsonText AgentSchemas SyntheticEnvironment InvestigationState Models StepEffects GraphNodes
open Investigation IncidentApi EndpointRules Superstep DurableProgram CallHistory

variable {app : App} {permit : Permit Label ChatOutcome Database Error} {request : Request}

def passive : Label → Prop
  | .loadIncident _ => True
  | .loadScenario _ => True
  | .listIncidents => True
  | .loadAudit _ => True
  | _ => False

/-- A decision that the request carries, or that the timeout makes while it is served. -/
inductive RealDecision (request : Request) (id : ℕ) : Json → Prop where
  | answered (body) (asked : request.endpoint = .decideApproval id body) :
      RealDecision request id (decisionOf body)
  | timedOut : RealDecision request id timeoutDecision

/-- The commit at the end of a run or of a resume. -/
inductive Applied (app : App) (server : Server) (id : ℕ) (incident : Incident)
    (result : InvestigationResult) (db : Database) : Database → Prop where
  | paused (pausing : result.status = .awaitingApproval) :
      Applied app server id incident result db (pauseIncident server id result db)
  | closed (scenario) (closing : result.status ≠ .awaitingApproval) :
      Applied app server id incident result db
        (closeIncident app.settings server scenario id incident result db)

theorem Applied.effect {server : Server} {id : ℕ} {incident : Incident}
    {result : InvestigationResult} {s u : Database}
    (applied : Applied app server id incident result s u) :
    Effect (.applyResult id result) s u := by
  cases applied with
  | paused pausing => exact .inl ⟨pausing, server, rfl⟩
  | closed scenario closing => exact .inr ⟨closing, _, server, scenario, incident, rfl⟩

theorem closeIncident_nextIncidentId (settings : Settings) (server : Server) (scenario : Scenario)
    (id : ℕ) (incident : Incident) (result : InvestigationResult) (db : Database) :
    (closeIncident settings server scenario id incident result db).nextIncidentId =
      db.nextIncidentId := by
  unfold closeIncident addMemory
  dsimp only
  split <;> split <;> rfl

theorem Applied.nextIncidentId {server : Server} {id : ℕ} {incident : Incident}
    {result : InvestigationResult} {s u : Database}
    (applied : Applied app server id incident result s u) : u.nextIncidentId = s.nextIncidentId := by
  cases applied with
  | paused => rfl
  | closed => exact closeIncident_nextIncidentId _ _ _ _ _ _ _

def created (server : Server) (scenario : Scenario) (db : Database) : Database :=
  { db with
    incidents := Function.update db.incidents db.nextIncidentId (some
      { scenarioId := scenario.id, status := .opened, createdAt := server.now })
    nextIncidentId := db.nextIncidentId + 1 }

/-- A turn of one incident: what a part of a call did, and the events it showed. -/
inductive Turn (app : App) (permit : Permit Label ChatOutcome Database Error) (request : Request)
    (s : Database) : Database → List BackendEvent → Prop where
  | quiet {g} (still : ∀ l, .performed l ∈ g → passive l) : Turn app permit request s s g
  | created {key scenario} (known : scenarioByKey app key = some scenario) :
      Turn app permit request s (created request.server scenario s)
        [.performed (.createIncident key)]
  | started {id row} (found : s.incidents id = some row) (opened : row.status = .opened) :
      Turn app permit request s (markRunning request.server id s) [.performed (.commitRunning id)]
  | investigated {id row scenario o u g} (found : s.incidents id = some row)
      (opened : row.status = .opened)
      (run : Runs .alone permit (runInvestigation app scenario (threadIdOf id))
        (markRunning request.server id s) o u g) :
      Turn app permit request s u
        (.performed (.commitRunning id) :: .performed (.loadIncident id) :: g)
  | ran {id row scenario result t u g} (found : s.incidents id = some row)
      (opened : row.status = .opened)
      (run : Runs .alone permit (runInvestigation app scenario (threadIdOf id))
        (markRunning request.server id s) (.returned result) t g)
      (applied : Applied app request.server id
        { row with status := .running, startedAt := some request.server.now } result t u) :
      Turn app permit request s u
        (.performed (.commitRunning id) :: .performed (.loadIncident id) :: g ++
          [.performed (.applyResult id result)])
  | resumed {id row scenario decision o u g} (found : s.incidents id = some row)
      (awaiting : row.status = .awaitingApproval) (real : RealDecision request id decision)
      (run : Runs .alone permit (resumeInvestigation app scenario (threadIdOf id) decision) s o u g) :
      Turn app permit request s u g
  | resolved {id row scenario decision result t u g} (found : s.incidents id = some row)
      (awaiting : row.status = .awaitingApproval) (real : RealDecision request id decision)
      (run : Runs .alone permit (resumeInvestigation app scenario (threadIdOf id) decision) s
        (.returned result) t g) (applied : Applied app request.server id row result t u) :
      Turn app permit request s u (g ++ [.performed (.applyResult id result)])

inductive Accepted (app : App) (request : Request) (id : ℕ) (row : Incident) : Json → Prop where
  | answered (body) (asked : request.endpoint = .decideApproval id body)
      (checked : checkParams app row body.approved (orEmpty body.params) = .ret ()) :
      Accepted app request id row (decisionOf body)
  | timedOut : Accepted app request id row timeoutDecision

theorem Accepted.real {id : ℕ} {row : Incident} {decision : Json}
    (accepted : Accepted app request id row decision) : RealDecision request id decision := by
  cases accepted with
  | answered body asked => exact .answered body asked
  | timedOut => exact .timedOut

inductive KnownTurn (app : App) (permit : Permit Label ChatOutcome Database Error)
    (request : Request) (s : Database) : Database → List BackendEvent → Prop where
  | aside {u g} (turn : Turn app permit request s u g)
      (unresumed : ∀ threadId decision, .performed (.resume threadId decision) ∉ g) :
      KnownTurn app permit request s u g
  | resumed {id row scenario decision o u g} (found : s.incidents id = some row)
      (awaiting : row.status = .awaitingApproval)
      (known : scenarioById app row.scenarioId = some scenario)
      (accepted : Accepted app request id row decision)
      (run : Runs .alone permit (resumeInvestigation app scenario (threadIdOf id) decision) s o u g) :
      KnownTurn app permit request s u g
  | resolved {id row scenario decision result t u g} (found : s.incidents id = some row)
      (awaiting : row.status = .awaitingApproval)
      (known : scenarioById app row.scenarioId = some scenario)
      (accepted : Accepted app request id row decision)
      (run : Runs .alone permit (resumeInvestigation app scenario (threadIdOf id) decision) s
        (.returned result) t g) (applied : Applied app request.server id row result t u) :
      KnownTurn app permit request s u (g ++ [.performed (.applyResult id result)])

theorem KnownTurn.turn {s u : Database} {g : List BackendEvent}
    (turn : KnownTurn app permit request s u g) : Turn app permit request s u g := by
  cases turn with
  | aside turn => exact turn
  | resumed found awaiting _ accepted run => exact .resumed found awaiting accepted.real run
  | resolved found awaiting _ accepted run applied =>
    exact .resolved found awaiting accepted.real run applied

theorem KnownTurn.quiet {s : Database} {g : List BackendEvent}
    (still : ∀ l, .performed l ∈ g → passive l) : KnownTurn app permit request s s g :=
  .aside (.quiet still) fun _ _ mem => still _ mem

theorem KnownTurn.created {key : String} {scenario : Scenario} {s : Database}
    (known : scenarioByKey app key = some scenario) :
    KnownTurn app permit request s (IncidentTurns.created request.server scenario s)
      [.performed (.createIncident key)] :=
  .aside (.created known) (by simp)

theorem KnownTurn.started {id : ℕ} {row : Incident} {s : Database}
    (found : s.incidents id = some row) (opened : row.status = .opened) :
    KnownTurn app permit request s (markRunning request.server id s)
      [.performed (.commitRunning id)] :=
  .aside (.started found opened) (by simp)

theorem run_unresumed {scenario : Scenario} {threadId threadId' : String} {decision : Json}
    {s u : Database} {o : Outcome Error InvestigationResult} {g : List BackendEvent}
    (run : Runs .alone permit (runInvestigation app scenario threadId) s o u g) :
    .performed (.resume threadId' decision) ∉ g := by
  intro mem
  exact labels_of_guarantees (fun _ _ _ step => step.1)
    (runInvestigation_does app scenario threadId {} true) run _ mem

theorem KnownTurn.investigated {id : ℕ} {row : Incident} {scenario : Scenario} {s u : Database}
    {o : Outcome Error InvestigationResult} {g : List BackendEvent}
    (found : s.incidents id = some row) (opened : row.status = .opened)
    (run : Runs .alone permit (runInvestigation app scenario (threadIdOf id))
      (markRunning request.server id s) o u g) : KnownTurn app permit request s u
        (.performed (.commitRunning id) :: .performed (.loadIncident id) :: g) := by
  refine .aside (.investigated found opened run) fun threadId decision mem => ?_
  have inside : .performed (.resume threadId decision) ∈ g := by simpa using mem
  exact run_unresumed run inside

theorem KnownTurn.ran {id : ℕ} {row : Incident} {scenario : Scenario} {s t u : Database}
    {result : InvestigationResult} {g : List BackendEvent} (found : s.incidents id = some row)
    (opened : row.status = .opened)
    (run : Runs .alone permit (runInvestigation app scenario (threadIdOf id))
      (markRunning request.server id s) (.returned result) t g)
    (applied : Applied app request.server id
      { row with status := .running, startedAt := some request.server.now } result t u) :
    KnownTurn app permit request s u (.performed (.commitRunning id) ::
      .performed (.loadIncident id) :: g ++ [.performed (.applyResult id result)]) := by
  refine .aside (.ran found opened run applied) fun threadId decision mem => ?_
  have inside : .performed (.resume threadId decision) ∈ g := by simpa using mem
  exact run_unresumed run inside

abbrev Turns {α : Type} (app : App) (permit : Permit Label ChatOutcome Database Error)
    (request : Request) (Pre : Database → Prop) (p : Backend α) (Post : α → Database → Prop) : Prop :=
  Triple permit (Turn app permit request) Pre p Post

abbrev KnownTurns {α : Type} (app : App) (permit : Permit Label ChatOutcome Database Error)
    (request : Request) (Pre : Database → Prop) (p : Backend α) (Post : α → Database → Prop) : Prop :=
  Triple permit (KnownTurn app permit request) Pre p Post

theorem labels_of_does {α : Type} {allowed : Label → Prop} {rely : Rely Database} {p : Backend α}
    {s u : Database} {o : Outcome Error α} {g : List BackendEvent} (does : Does allowed p)
    (run : Runs rely permit p s o u g) : ∀ l, .performed l ∈ g → allowed l :=
  labels_of_guarantees (fun _ _ _ step => step.1) does run

theorem runs_quiet {α : Type} {p : Backend α} {s u : Database} {o : Outcome Error α}
    {g : List BackendEvent} (reads : Does passive p) (run : Runs .alone permit p s o u g) :
    u = s ∧ ∀ l, .performed l ∈ g → passive l := by
  refine ⟨?_, labels_of_does reads run⟩
  refine runs_of_guarantees (R := fun s u => u = s) (fun _ => rfl)
    (fun first later => later.trans first) ?_ reads run
  intro l a b step
  refine step.2.eq_of_silent ?_
  cases l <;> first | trivial | exact step.1.elim

theorem turns_quiet {α : Type} {p : Backend α} {Pre : Database → Prop} (reads : Does passive p) :
    KnownTurns app permit request Pre p fun _ u => Pre u := by
  intro s o u g pre run
  obtain ⟨rfl, still⟩ := runs_quiet reads run
  exact ⟨.single (.quiet still), fun _ _ => pre⟩

theorem turns_one {α : Type} {Pre : Database → Prop} (row : Option α) :
    KnownTurns app permit request Pre (one row) fun a u => Pre u ∧ row = some a := by
  cases row with
  | none => exact Triple.raise _
  | some a => exact Triple.ret fun _ pre => ⟨pre, rfl⟩

theorem turns_read {α : Type} {l : Label} {query : Database → α} {Pre : Database → Prop}
    (reading : passive l) :
    KnownTurns app permit request Pre (read l query) fun a u => Pre u ∧ query u = a := by
  have quiet : silent l := by cases l <;> trivial
  intro s o u g pre run
  obtain ⟨rfl, still⟩ := runs_quiet (does_read reading quiet _) run
  refine ⟨.single (.quiet still), ?_⟩
  rintro a rfl
  obtain ⟨t, others, ⟨_, same, rfl, _⟩ | ⟨_, _, same, _⟩ | ⟨_, same, _⟩⟩ := run.of_perform <;>
    cases same
  exact ⟨pre, rfl⟩

theorem turns_getIncidentOr404 (id : ℕ) {Pre : Database → Prop} :
    KnownTurns app permit request Pre (getIncidentOr404 id) fun row u =>
      Pre u ∧ u.incidents id = some row := by
  refine Triple.bind (turns_read trivial) ?_
  rintro (_ | row)
  · exact Triple.raise _
  · exact Triple.ret fun _ pre => pre

theorem turns_reread (id : ℕ) (incident : Incident) (expired : Bool) {Pre : Database → Prop}
    (current : expired = false → ∀ s, Pre s → s.incidents id = some incident) :
    KnownTurns app permit request Pre (reread id incident expired)
      fun row u => Pre u ∧ u.incidents id = some row := by
  cases expired with
  | false => exact Triple.ret fun s pre => ⟨pre, current rfl s pre⟩
  | true =>
    refine Triple.bind (turns_read trivial) fun found => ?_
    refine (turns_one found).weaken (fun _ pre => pre) ?_
    rintro row s ⟨⟨pre, same⟩, rfl⟩
    exact ⟨pre, same⟩

theorem loadScenario_turns (id : ℕ) {Pre : Database → Prop} :
    KnownTurns app permit request Pre (loadScenario app id) fun scenario u =>
      Pre u ∧ scenarioById app id = some scenario := by
  refine Triple.bind (turns_read trivial) fun found => (turns_one found).weaken (fun _ pre => pre) ?_
  rintro scenario s ⟨⟨pre, same⟩, rfl⟩
  exact ⟨pre, same⟩

theorem toIncidentDetail_turns (id : ℕ) (incident : Incident) {Pre : Database → Prop} :
    KnownTurns app permit request Pre (toIncidentDetail app id incident) fun _ u => Pre u :=
  turns_quiet (toIncidentDetail_does app id incident)

theorem applyResult_ends {server : Server} {id : ℕ} {incident : Incident}
    {result : InvestigationResult} {s u : Database} {o : Outcome Error Unit} {g : List BackendEvent}
    (run : Runs .alone permit (applyResult app server id incident result) s o u g) :
    (Applied app server id incident result s u ∧ g = [.performed (.applyResult id result)]) ∨
      (u = s ∧ ∀ l, .performed l ∉ g) := by
  unfold applyResult at run
  split at run
  case isTrue pausing =>
    obtain ⟨_, rfl, ⟨_, rfl, rfl, _⟩ | ⟨_, rfl, ev, unperformed, rfl⟩⟩ := write_ends run
    · exact .inl ⟨.paused pausing, rfl⟩
    · exact .inr ⟨rfl, fun l mem => unperformed l (List.mem_singleton.mp mem).symm⟩
  case isFalse closing =>
    cases known : scenarioById app incident.scenarioId with
    | none =>
      rw [known] at run
      obtain ⟨_, rfl, rfl⟩ := run.of_raise
      exact .inr ⟨rfl, fun _ => List.not_mem_nil⟩
    | some scenario =>
      rw [known] at run
      obtain ⟨_, rfl, ⟨_, rfl, rfl, _⟩ | ⟨_, rfl, ev, unperformed, rfl⟩⟩ := write_ends run
      · exact .inl ⟨.closed scenario closing, rfl⟩
      · exact .inr ⟨rfl, fun l mem => unperformed l (List.mem_singleton.mp mem).symm⟩

theorem resolve_moves {α : Type} {id : ℕ} {incident : Incident}
    {scenario : Scenario} {decision : Json} {s t u : Database} {result : InvestigationResult}
    {k : Unit → Backend α} {o : Outcome Error α} {g g' : List BackendEvent}
    (found : s.incidents id = some incident) (awaiting : incident.status = .awaitingApproval)
    (known : scenarioById app incident.scenarioId = some scenario)
    (accepted : Accepted app request id incident decision)
    (resume : Runs .alone permit (resumeInvestigation app scenario (threadIdOf id) decision) s
      (.returned result) t g)
    (rest : Runs .alone permit ((applyResult app request.server id incident result).bind k) t o u
      g') :
    (∃ u' g₁ g₂, Moves (KnownTurn app permit request) s u' (g ++ g₁) ∧
      Runs .alone permit (k ()) u' o u g₂ ∧
      g' = g₁ ++ g₂) ∨
    (Moves (KnownTurn app permit request) s u (g ++ g') ∧ ∀ a, o ≠ .returned a) := by
  have cut : ∀ g₁, (∀ l, .performed l ∉ g₁) → Moves (KnownTurn app permit request) s t (g ++ g₁) := by
    intro g₁ faulty
    exact (Moves.single (.resumed found awaiting known accepted resume)).append
      (.single (.quiet fun l mem => absurd mem (faulty l)))
  obtain ⟨_, u', g₁, g₂, applying, after, rfl⟩ | ⟨o', stop, stopped⟩ := rest.of_bind
  · refine .inl ⟨u', g₁, g₂, ?_, after, rfl⟩
    obtain ⟨applied, rfl⟩ | ⟨rfl, faulty⟩ := applyResult_ends applying
    · exact .single (.resolved found awaiting known accepted resume applied)
    · exact cut g₁ faulty
  · refine .inr ⟨?_, ?_⟩
    · obtain ⟨applied, rfl⟩ | ⟨rfl, faulty⟩ := applyResult_ends stopped
      · exact .single (.resolved found awaiting known accepted resume applied)
      · exact cut g' faulty
    · rintro a rfl
      cases stop

structure Untouched (s u : Database) : Prop where
  incidents : u.incidents = s.incidents
  nextIncidentId : u.nextIncidentId = s.nextIncidentId
  auditLog : u.auditLog = s.auditLog
  serviceMemory : u.serviceMemory = s.serviceMemory

theorem Untouched.refl (s : Database) : Untouched s s := ⟨rfl, rfl, rfl, rfl⟩

theorem Untouched.trans {a b c : Database} (first : Untouched a b) (later : Untouched b c) :
    Untouched a c :=
  ⟨later.incidents.trans first.incidents, later.nextIncidentId.trans first.nextIncidentId,
    later.auditLog.trans first.auditLog, later.serviceMemory.trans first.serviceMemory⟩

theorem untouched_of_effect {threadId : String} {l : Label} {s u : Database}
    (inside : inResume threadId l) (effect : Effect l s u) : Untouched s u := by
  obtain inside | ⟨_, rfl⟩ := inside
  swap
  · cases effect
    exact .refl _
  cases l with
  | saveCheckpoint =>
    obtain ⟨_, rfl⟩ := effect
    exact ⟨rfl, rfl, rfl, rfl⟩
  | commit => obtain rfl | ⟨_, rfl⟩ := effect <;> exact ⟨rfl, rfl, rfl, rfl⟩
  | createIncident | commitRunning | applyResult => exact inside.elim
  | _ =>
    cases effect
    exact .refl _

theorem untouched_of_graph {α : Type} {threadId : String} {p : Backend α} {s u : Database}
    {o : Outcome Error α} {g : List BackendEvent} (does : Does (inResume threadId) p)
    (run : Runs .alone permit p s o u g) : Untouched s u :=
  runs_of_guarantees Untouched.refl Untouched.trans
    (fun _ _ _ step => untouched_of_effect step.1 step.2) does run

theorem incidents_of_resume {scenario : Scenario} {threadId : String} {decision : Json}
    {s u : Database} {o : Outcome Error InvestigationResult} {g : List BackendEvent}
    (run : Runs .alone permit (resumeInvestigation app scenario threadId decision) s o u g) :
    u.incidents = s.incidents :=
  (untouched_of_graph (resumeInvestigation_does _ _ _ _ _) run).incidents

/-- How the `try` block around the timeout's resume ends. -/
inductive TryEnds {α : Type} (permit : Permit Label ChatOutcome Database Error) (p : Backend α)
    (s t : Database) (g : List BackendEvent) : Outcome Error (Option α) → Prop where
  | resumed {result} (run : Runs .alone permit p s (.returned result) t g) :
      TryEnds permit p s t g (.returned (some result))
  | swallowed {e} (other : e ≠ .abortedTransaction) (run : Runs .alone permit p s (.raised e) t g) :
      TryEnds permit p s t g (.returned none)
  | aborted (run : Runs .alone permit p s (.raised .abortedTransaction) t g) :
      TryEnds permit p s t g (.raised .abortedTransaction)
  | died (run : Runs .alone permit p s .died t g) : TryEnds permit p s t g .died

theorem tryResume_ends {p : Backend InvestigationResult} {s t : Database}
    {o : Outcome Error (Option InvestigationResult)} {g : List BackendEvent}
    (run : Runs .alone permit (Program.tryCatch (p.bind fun result => .ret (some result)) swallow)
      s o t g) : TryEnds permit p s t g o := by
  obtain ⟨e, t', g₁, g₂, raised, handled, rfl⟩ | ⟨a, rfl, inside⟩ | ⟨rfl, inside⟩ :=
    run.of_tryCatch
  · obtain ⟨_, _, _, _, _, done, _⟩ | ⟨_, stop, resume⟩ := raised.of_bind
    · cases done.of_ret.1
    cases stop
    by_cases aborted : e = .abortedTransaction
    · subst aborted
      obtain ⟨rfl, rfl, rfl⟩ := handled.of_raise
      rw [List.append_nil]
      exact .aborted resume
    · rw [swallow_eq aborted] at handled
      obtain ⟨rfl, rfl, rfl⟩ := handled.of_ret
      rw [List.append_nil]
      exact .swallowed aborted resume
  · obtain ⟨result, _, _, _, resume, done, rfl⟩ | ⟨_, stop, _⟩ := inside.of_bind
    · obtain ⟨gave, rfl, rfl⟩ := done.of_ret
      cases gave
      rw [List.append_nil]
      exact .resumed resume
    · cases stop
  · obtain ⟨_, _, _, _, _, done, _⟩ | ⟨_, stop, resume⟩ := inside.of_bind
    · cases done.of_ret.1
    · cases stop
      exact .died resume

theorem maybeApplyApprovalTimeout_turns (id : ℕ) (incident : Incident)
    (rows : ℕ → Option Incident) (current : rows id = some incident) :
    KnownTurns app permit request (·.incidents = rows)
      (maybeApplyApprovalTimeout app request.server id incident)
      fun committed u => committed = false → u.incidents = rows := by
  unfold maybeApplyApprovalTimeout
  split
  case isFalse => exact Triple.ret fun _ same _ => same
  case isTrue expired =>
    have awaiting : incident.status = .awaitingApproval := by
      unfold slaExpired at expired
      split at expired
      · assumption
      · cases expired
    refine (loadScenario_turns incident.scenarioId).bind fun scenario => ?_
    rintro s o u g ⟨same, known⟩ run
    have found : s.incidents id = some incident := by rw [same, current]
    have cut : ∀ {o' : Outcome Error InvestigationResult} {t g₁},
        Runs .alone permit (resumeInvestigation app scenario (threadIdOf id) timeoutDecision) s o' t
          g₁ → Moves (KnownTurn app permit request) s t g₁ := fun resume =>
      .single (.resumed found awaiting known .timedOut resume)
    obtain ⟨tried, t, g₁, g₂, trial, rest, rfl⟩ | ⟨o', stop, stopped⟩ := run.of_bind
    · cases tryResume_ends trial with
      | swallowed _ resume =>
        obtain ⟨rfl, rfl, rfl⟩ := rest.of_ret
        rw [List.append_nil]
        exact ⟨cut resume, fun _ _ _ => (incidents_of_resume resume).trans same⟩
      | resumed resume =>
        obtain ⟨u', g₅, g₆, moves, after, rfl⟩ | ⟨moves, unfinished⟩ :=
          resolve_moves found awaiting known .timedOut resume rest
        · obtain ⟨rfl, rfl, rfl⟩ := after.of_ret
          rw [List.append_nil]
          refine ⟨moves, ?_⟩
          rintro _ ⟨⟩ uncommitted
          cases uncommitted
        · exact ⟨moves, fun a same => absurd same (unfinished a)⟩
    · refine ⟨?_, ?_⟩
      · cases tryResume_ends stopped with
        | swallowed | resumed => cases stop
        | aborted resume | died resume => exact cut resume
      · rintro a rfl
        cases stop

theorem loadCurrent_turns (id : ℕ) :
    KnownTurns app permit request (fun _ => True) (loadCurrent app request.server id)
      fun row u => u.incidents id = some row := by
  refine Triple.bind (turns_getIncidentOr404 id) fun incident => ?_
  rintro s o u g ⟨_, found⟩ run
  have current : KnownTurns app permit request (·.incidents = s.incidents)
      (maybeApplyApprovalTimeout app request.server id incident) _ :=
    maybeApplyApprovalTimeout_turns id incident s.incidents found
  have reread : KnownTurns app permit request (·.incidents = s.incidents) _
      fun row u => u.incidents id = some row :=
    current.bind fun committed => (turns_reread id incident committed fun uncommitted t pre => by
      rw [pre uncommitted, found]).weaken (fun _ pre => pre) fun _ _ post => post.2
  exact reread rfl run

theorem answer_turns (id : ℕ) (incident : Incident) :
    KnownTurns app permit request (fun _ => True) ((reread id incident true).bind fun incident =>
      (toIncidentDetail app id incident).bind fun detail => .ret (Response.incident detail))
      fun _ _ => True := by
  refine (turns_reread id incident true (fun fresh => nomatch fresh)).bind fun incident => ?_
  exact (toIncidentDetail_turns id incident).bind fun _ => Triple.ret fun _ _ => trivial

theorem getIncident_turns (id : ℕ) :
    KnownTurns app permit request (fun _ => True) (getIncident app request.server id)
      fun _ _ => True :=
  (loadCurrent_turns id).bind fun incident =>
    (toIncidentDetail_turns id incident).bind fun _ => Triple.ret fun _ _ => trivial

theorem getTimeline_turns (id : ℕ) :
    KnownTurns app permit request (fun _ => True) (getTimeline app request.server id) fun response u =>
      ∃ row scenario, u.incidents id = some row ∧ scenarioById app row.scenarioId = some scenario ∧
        response = .timeline id (timelineOf app.py scenario row (timelineRows u id)) := by
  refine (loadCurrent_turns id).bind fun row => (turns_one _).bind fun scenario =>
    (turns_read (by trivial)).bind fun rows => Triple.ret ?_
  rintro s ⟨⟨found, known⟩, rfl⟩
  exact ⟨row, scenario, found, known, rfl⟩

theorem createIncident_turns (scenarioKey : String) :
    KnownTurns app permit request (fun _ => True) (createIncident app request.server scenarioKey)
      fun _ _ => True := by
  unfold createIncident
  split
  · exact Triple.raise _
  case h_2 scenario known =>
    have inserted : KnownTurns app permit request (fun _ => True) (Program.perform
        (.createIncident scenarioKey) (created request.server scenario) (·.nextIncidentId))
        fun _ _ => True := by
      intro s o u g _ run
      refine ⟨?_, fun _ _ => trivial⟩
      obtain ⟨t, rfl, ⟨_, _, rfl, rfl⟩ | ⟨e, _, _, rfl, rfl⟩ | ⟨_, _, rfl, rfl⟩⟩ := run.of_perform
      · exact .single (.created known)
      · exact .single (.quiet (by simp))
      · exact .single (.quiet (by simp))
    exact inserted.bind fun id => (turns_read (by trivial)).bind fun row =>
      (turns_one row).bind fun incident => (toIncidentDetail_turns id incident).bind fun _ =>
        Triple.ret fun _ _ => trivial

theorem checkParams_turns (incident : Incident) (body : ApprovalDecision) {Pre : Database → Prop} :
    KnownTurns app permit request Pre (checkParams app incident body.approved (orEmpty body.params))
      fun _ u => Pre u ∧ checkParams app incident body.approved (orEmpty body.params) = .ret () := by
  obtain checked | ⟨text, refused⟩ :=
    checkParams_pure app incident body.approved (orEmpty body.params)
  · rw [checked]
    exact Triple.ret fun _ pre => ⟨pre, rfl⟩
  · rw [refused]
    exact Triple.raise _

theorem decideApproval_turns (id : ℕ) (body : ApprovalDecision)
    (asked : request.endpoint = .decideApproval id body) :
    KnownTurns app permit request (fun _ => True) (decideApproval app request.server id body)
      fun _ _ => True := by
  refine (loadCurrent_turns id).bind fun incident => ?_
  split
  · exact Triple.raise _
  case isFalse waiting =>
    have awaiting : incident.status = .awaitingApproval := not_not.mp waiting
    refine (checkParams_turns incident body).bind fun _ => (turns_one _).bind fun scenario => ?_
    rintro s o u g ⟨⟨found, checked⟩, known⟩ run
    refine ⟨?_, fun _ _ => trivial⟩
    obtain ⟨result, t, g₁, g₂, resume, rest, rfl⟩ | ⟨o', stop, resume⟩ := run.of_bind
    · obtain ⟨u', g₃, g₄, moves, after, rfl⟩ | ⟨moves, _⟩ :=
        resolve_moves found awaiting known (.answered body asked checked) resume rest
      · rw [← List.append_assoc]
        exact moves.append (answer_turns id incident trivial after).1
      · exact moves
    · exact .single (.resumed found awaiting known (.answered body asked checked) resume)

theorem timeoutEach_turns (rows : List (ℕ × Incident)) (expired : Bool) :
    KnownTurns app permit request (fun s => expired = false →
      ∀ row ∈ rows, s.incidents row.1 = some row.2)
      (timeoutEach app request.server rows expired) fun _ _ => True := by
  induction rows generalizing expired with
  | nil => exact Triple.ret fun _ _ => trivial
  | cons row rows ih =>
    obtain ⟨id, incident⟩ := row
    refine (turns_reread id incident expired ?_).bind fun incident => ?_
    · exact fun fresh s current => current fresh (id, incident) List.mem_cons_self
    rintro s o u g ⟨current, found⟩ run
    have timeout : KnownTurns app permit request (·.incidents = s.incidents)
        (maybeApplyApprovalTimeout app request.server id incident) _ :=
      maybeApplyApprovalTimeout_turns id incident s.incidents found
    have rest : KnownTurns app permit request (·.incidents = s.incidents) _ fun _ _ => True :=
      timeout.bind fun committed => (ih (expired || committed)).weaken (by
        intro t same fresh row mem
        rw [Bool.or_eq_false_iff] at fresh
        rw [same fresh.2]
        exact current fresh.1 row (List.mem_cons_of_mem _ mem)) fun _ _ _ => trivial
    exact rest rfl run

theorem detailEach_turns (rows : List (ℕ × Incident)) (expired : Bool) :
    KnownTurns app permit request (fun _ => True) (detailEach app rows expired) fun _ _ => True := by
  induction rows with
  | nil => exact Triple.ret fun _ _ => trivial
  | cons row rows ih =>
    obtain ⟨id, incident⟩ := row
    have reading : Does passive (reread id incident expired) := reread_does id incident expired trivial
    exact (turns_quiet reading).bind fun incident => (toIncidentDetail_turns id incident).bind
      fun _ => ih.bind fun _ => Triple.ret fun _ _ => trivial

theorem mem_allIncidents {db : Database} {row : ℕ × Incident} (mem : row ∈ allIncidents db) :
    db.incidents row.1 = some row.2 := by
  rw [allIncidents, List.mem_insertionSort] at mem
  obtain ⟨id, _, kept⟩ := List.mem_filterMap.mp mem
  obtain ⟨incident, found, rfl⟩ := Option.map_eq_some_iff.mp kept
  exact found

theorem listIncidents_turns :
    KnownTurns app permit request (fun _ => True) (listIncidents app request.server)
      fun _ _ => True := by
  refine (turns_read (by trivial)).bind fun rows => ?_
  refine ((timeoutEach_turns rows false).weaken ?_ fun _ _ _ => trivial).bind
    fun expired => (detailEach_turns rows expired).bind fun _ => Triple.ret fun _ _ => trivial
  rintro s ⟨_, rfl⟩ _ row mem
  exact mem_allIncidents mem

theorem reread_ends {id : ℕ} {incident : Incident} {s u : Database} {o : Outcome Error Incident}
    {g : List BackendEvent} (run : Runs .alone permit (reread id incident true) s o u g) :
    u = s ∧ ((∃ row, o = .returned row ∧ s.incidents id = some row ∧
      g = [.performed (.loadIncident id)]) ∨ ∀ row, o ≠ .returned row) := by
  obtain ⟨found, t, g₁, g₂, loaded, rest, rfl⟩ | ⟨o', stop, stopped⟩ := run.of_bind
  · obtain ⟨rfl, ⟨same, rfl⟩ | ⟨fault, _⟩⟩ := read_ends loaded
    · cases same
      cases present : s.incidents id with
      | none =>
        rw [present] at rest
        obtain ⟨rfl, rfl, rfl⟩ := rest.of_raise
        exact ⟨rfl, .inr fun row same => nomatch same⟩
      | some row =>
        rw [present] at rest
        obtain ⟨rfl, rfl, rfl⟩ := rest.of_ret
        exact ⟨rfl, .inl ⟨row, rfl, rfl, rfl⟩⟩
    · exact fault.elim
  · obtain ⟨rfl, _⟩ := read_ends stopped
    refine ⟨rfl, .inr ?_⟩
    rintro row rfl
    cases stop

theorem runIncident_turns (id : ℕ) :
    KnownTurns app permit request (fun _ => True) (runIncident app request.server id)
      fun _ _ => True := by
  refine (turns_getIncidentOr404 id).bind fun incident => ?_
  split
  · exact Triple.raise _
  case isFalse unopened =>
    have opened : incident.status = .opened := not_not.mp unopened
    refine (turns_one _).bind fun scenario => ?_
    rintro s o u g ⟨⟨_, found⟩, _⟩ run
    refine ⟨?_, fun _ _ => trivial⟩
    obtain ⟨_, t, g₁, g₂, starting, rest, rfl⟩ | ⟨o', stop, stopped⟩ := run.of_bind
    swap
    · obtain ⟨_, rfl, ⟨rfl, _⟩ | ⟨_, rfl, ev, unperformed, rfl⟩⟩ := write_ends stopped
      · cases stop
      · exact .single (.quiet fun l mem => absurd (List.mem_singleton.mp mem).symm (unperformed l))
    obtain ⟨_, rfl, ⟨_, rfl, rfl, _⟩ | ⟨fault, _⟩⟩ := write_ends starting
    swap
    · exact fault.elim
    have running : (markRunning request.server id s).incidents id =
        some { incident with status := .running, startedAt := some request.server.now } := by
      simp [markRunning, Database.updateIncident, found]
    have first : Moves (KnownTurn app permit request) s _ _ := .single (.started found opened)
    obtain ⟨row, t, g₁, g₂, reading, started, rfl⟩ | ⟨o', stop, stopped⟩ := rest.of_bind
    swap
    · obtain ⟨rfl, still⟩ := runs_quiet (reread_does id incident true trivial) stopped
      exact first.append (.single (.quiet still))
    obtain ⟨rfl, ⟨_, same, loaded, rfl⟩ | unread⟩ := reread_ends reading
    swap
    · exact absurd rfl (unread row)
    cases same
    cases running.symm.trans loaded
    obtain ⟨result, t, g₁, g₂, investigation, applies, rfl⟩ | ⟨o', stop, investigation⟩ :=
      started.of_bind
    swap
    · exact .single (.investigated found opened investigation)
    have cut := Moves.single (KnownTurn.investigated found opened investigation)
    obtain ⟨_, u', g₃, g₄, applying, after, rfl⟩ | ⟨o', stop, stopped⟩ := applies.of_bind
    · obtain ⟨applied, rfl⟩ | ⟨rfl, faulty⟩ := applyResult_ends applying
      · have ran := Moves.single (KnownTurn.ran found opened investigation applied)
        have moves := ran.append (answer_turns id _ trivial after).1
        simpa using moves
      · have moves := (cut.append (.single (.quiet fun l mem => absurd mem (faulty l)))).append
          (answer_turns id _ trivial after).1
        simpa using moves
    · obtain ⟨applied, rfl⟩ | ⟨rfl, faulty⟩ := applyResult_ends stopped
      · have ran := Moves.single (KnownTurn.ran found opened investigation applied)
        simpa using ran
      · have moves := cut.append (.single (.quiet fun l mem => absurd mem (faulty l)))
        simpa using moves

theorem serve_knownTurns (request : Request) :
    KnownTurns app permit request (fun _ => True) (serve app request) fun _ _ => True := by
  cases asked : request.endpoint with
  | createIncident scenarioKey =>
    rw [serve, asked]
    exact createIncident_turns scenarioKey
  | listIncidents =>
    rw [serve, asked]
    exact listIncidents_turns
  | getIncident id =>
    rw [serve, asked]
    exact getIncident_turns id
  | runIncident id =>
    rw [serve, asked]
    exact runIncident_turns id
  | decideApproval id body =>
    rw [serve, asked]
    exact decideApproval_turns id body asked
  | getTimeline id =>
    rw [serve, asked]
    exact (getTimeline_turns id).weaken (fun _ pre => pre) fun _ _ _ => trivial

theorem serve_turns (request : Request) :
    Turns app permit request (fun _ => True) (serve app request) fun _ _ => True :=
  (serve_knownTurns request).mono fun _ _ _ => KnownTurn.turn

/-- The states and events of histories of calls that do not overlap, from empty tables. -/
abbrev History (app : App) (permit : Permit Label ChatOutcome Database Error) :
    Database → List (Request × BackendEvent) → Prop :=
  Served permit (serve app) Database.empty

/-- What every turn keeps holds after every history. -/
theorem History.invariant {Inv : Database → List (Request × BackendEvent) → Prop}
    (start : Inv .empty [])
    (preserved : ∀ request s t h g, Inv s h → Turn app permit request s t g →
      Inv t (h ++ g.map (request, ·)))
    {db : Database} {h : List (Request × BackendEvent)} (history : History app permit db h) :
    Inv db h := by
  refine (history.moves serve_turns).invariant (h := []) ?_ start
  rintro s t h _ inv ⟨request, g, turn, rfl⟩
  exact preserved request s t h g inv turn

theorem History.known_invariant {Inv : Database → List (Request × BackendEvent) → Prop}
    (start : Inv .empty [])
    (preserved : ∀ request s t h g, Inv s h → KnownTurn app permit request s t g →
      Inv t (h ++ g.map (request, ·)))
    {db : Database} {h : List (Request × BackendEvent)} (history : History app permit db h) :
    Inv db h := by
  refine (history.moves serve_knownTurns).invariant (h := []) ?_ start
  rintro s t h _ inv ⟨request, g, turn, rfl⟩
  exact preserved request s t h g inv turn

/-- The states and events of such histories, also in the middle of a call. -/
abbrev TurnHistory (app : App) : Database → List (Request × BackendEvent) → Prop :=
  Moves (Tagged (Turn app anyFaults)) Database.empty

theorem TurnHistory.of_history {s : Database} {h : List (Request × BackendEvent)}
    (history : History app anyFaults s h) : TurnHistory app s h :=
  history.moves serve_turns

/-- What every turn keeps holds after every turn. -/
theorem TurnHistory.invariant {Inv : Database → List (Request × BackendEvent) → Prop}
    (start : Inv .empty [])
    (preserved : ∀ request s t h g, Inv s h → Turn app anyFaults request s t g →
      Inv t (h ++ g.map (request, ·)))
    {s : Database} {h : List (Request × BackendEvent)} (history : TurnHistory app s h) :
    Inv s h := by
  refine Moves.invariant (h := []) ?_ history start
  rintro s t h _ inv ⟨request, g, turn, rfl⟩
  exact preserved request s t h g inv turn

end OpsPilot.IncidentTurns
