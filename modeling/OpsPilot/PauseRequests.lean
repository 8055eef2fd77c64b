import OpsPilot.AcceptedApproval

/-! Requests of any kind next to an incident that waits. Each of them leaves the incident alone
until it resumes the incident's graph, which it does with the row that waits, or not at all. -/

namespace OpsPilot.PauseRequests
open AgentSchemas SyntheticEnvironment InvestigationState Models StepEffects GraphNodes
open IdempotentExecution Investigation IncidentApi EndpointRules IncidentTurns IncidentPhases
open Isolation ProgramLogic
open PendingApproval ExpiredApproval DurableProgram Noninterference

variable {app : App} {py : Platform} {id : ℕ} {row : Incident} {s t u : Database}

def remediationsOf (db : Database) (id : ℕ) : List RemediationExecution :=
  db.remediationExecutions.filter (·.call.threadId == threadIdOf id)

structure SameIncident (py : Platform) (id : ℕ) (s t : Database) : Prop where
  same : SameFor id s t
  lookups : ∀ call : RemediationCall, call.threadId = threadIdOf id →
    s.remediation? (idempotencyKey py call) = t.remediation? (idempotencyKey py call)
  remediations : remediationsOf t id = remediationsOf s id

theorem SameIncident.refl (s : Database) : SameIncident py id s s :=
  ⟨.refl id s, fun _ _ => rfl, rfl⟩

theorem SameIncident.symm (same : SameIncident py id s t) : SameIncident py id t s :=
  ⟨⟨same.same.row.symm, same.same.rows.symm, same.same.checkpoint.symm⟩,
    fun call mine => (same.lookups call mine).symm, same.remediations.symm⟩

theorem SameIncident.trans (first : SameIncident py id s t) (later : SameIncident py id t u) :
    SameIncident py id s u :=
  ⟨first.same.trans later.same,
    fun call mine => (first.lookups call mine).trans (later.lookups call mine),
    later.remediations.trans first.remediations⟩

theorem sameIncident_threadwise : Threadwise py (threadIdOf id) (SameIncident py id) where
  checkpoint agree := agree.same.checkpoint.symm
  remediations agree := agree.lookups
  saves agree checkpoint :=
    ⟨⟨agree.same.row, agree.same.rows, by simp [Database.saveCheckpoint]⟩, agree.lookups,
      agree.remediations⟩
  inserts {s t} agree row own := by
    refine ⟨⟨agree.same.row, agree.same.rows, agree.same.checkpoint⟩, fun call mine => ?_, ?_⟩
    · rw [remediation?_append, remediation?_append, agree.lookups call mine]
    · have kept : t.remediationExecutions.filter (·.call.threadId == threadIdOf id) =
          s.remediationExecutions.filter (·.call.threadId == threadIdOf id) := agree.remediations
      simp only [remediationsOf, List.filter_append, kept]

theorem applyResult_blind (server : Server) (incident : Incident) (result : InvestigationResult) :
    Blind (SameIncident py id) (applyResult app server id incident result) := by
  unfold applyResult
  split
  · refine Blind.perform fun s t agree => ⟨⟨⟨?_, ?_, agree.same.checkpoint⟩, ?_, ?_⟩, rfl⟩
    · simp [pauseIncident, addAudit, Database.updateIncident, persistNewEvidence, agree.same.row]
    · rw [auditOf_pauseIncident, auditOf_pauseIncident, agree.same.rows]
    · exact agree.lookups
    · exact agree.remediations
  · cases known : scenarioById app incident.scenarioId with
    | none => trivial
    | some scenario =>
      refine Blind.perform fun s t agree => ⟨⟨⟨?_, ?_, ?_⟩, fun call mine => ?_, ?_⟩, rfl⟩
      · simp only [closeIncident, addMemory_incidents]
        split <;> simp [addAudit, Database.updateIncident, persistNewEvidence, agree.same.row]
      · rw [auditOf_closeIncident, auditOf_closeIncident, agree.same.rows]
      · rw [closeIncident_checkpoints, closeIncident_checkpoints, agree.same.checkpoint]
      · simp only [Database.remediation?, closeIncident_remediations]
        exact agree.lookups call mine
      · simp only [remediationsOf, closeIncident_remediations]
        exact agree.remediations

/-- Labels of steps that leave the incident alone, once it exists. -/
def elsewhere (id : ℕ) : Label → Prop
  | .createIncident _ => True
  | .executor _ call => call.threadId ≠ threadIdOf id
  | l => stranger id l

theorem remediations_of_effect {l : Label} (effect : Effect l s u)
    (other : ∀ row, l ≠ .commit row) :
    u.remediationExecutions = s.remediationExecutions := by
  cases l with
  | commit row => exact absurd rfl (other row)
  | createIncident =>
    obtain ⟨_, _, rfl⟩ := effect
    rfl
  | commitRunning =>
    obtain ⟨_, rfl⟩ := effect
    rfl
  | saveCheckpoint =>
    obtain ⟨_, rfl⟩ := effect
    rfl
  | applyResult =>
    obtain ⟨_, _, rfl⟩ | ⟨_, _, _, _, _, rfl⟩ := effect
    · rfl
    · exact closeIncident_remediations _ _ _ _ _ _ _
  | _ =>
    cases effect
    rfl

theorem sameIncident_of_same (same : SameFor id s u)
    (kept : u.remediationExecutions = s.remediationExecutions) : SameIncident py id s u :=
  ⟨same, fun _ _ => by simp only [Database.remediation?, kept], by simp only [remediationsOf, kept]⟩

theorem sameIncident_of_insert {row : RemediationExecution}
    (other : row.call.threadId ≠ threadIdOf id)
    (apart : KeysApart py (threadIdOf id)
      { s with remediationExecutions := s.remediationExecutions ++ [row] }) :
    SameIncident py id s { s with remediationExecutions := s.remediationExecutions ++ [row] } := by
  refine ⟨⟨rfl, rfl, rfl⟩, fun call mine => ?_, ?_⟩
  · have unlike : ¬ (row.idempotencyKey == idempotencyKey py call) = true := fun keyed =>
      other (apart row (by simp) call mine (beq_iff_eq.mp keyed))
    rw [remediation?_append, if_neg unlike, Option.or_none]
  · simp [remediationsOf, other]

theorem sameIncident_of_effect {l : Label} (effect : Effect l s u) (outside : elsewhere id l)
    (born : id < s.nextIncidentId) (apart : KeysApart py (threadIdOf id) u) :
    SameIncident py id s u := by
  cases l with
  | createIncident =>
    obtain ⟨_, _, rfl⟩ := effect
    exact sameIncident_of_same ⟨by simp [born.ne], rfl, rfl⟩ rfl
  | commit row =>
    obtain rfl | ⟨_, rfl⟩ := effect
    · exact .refl _
    · exact sameIncident_of_insert outside apart
  | executor =>
    cases effect
    exact .refl _
  | _ =>
    exact sameIncident_of_same (sameFor_of_effect effect (foreign_of_stranger outside))
      (remediations_of_effect effect fun _ => Label.noConfusion)

theorem elsewhere_of_inResume {j : ℕ} (other : j ≠ id) {l : Label}
    (inside : inResume (threadIdOf j) l) : elsewhere id l := by
  have outside := stranger_of_inResume other inside
  cases l with
  | executor key call =>
    obtain inside | ⟨_, same⟩ := inside
    · exact fun same => other (threadIdOf_injective (inside.symm.trans same))
    · cases same
  | createIncident => trivial
  | _ => exact outside

theorem elsewhere_of_ofIncident {j : ℕ} (other : j ≠ id) {l : Label} (inside : ofIncident j l) :
    elsewhere id l := by
  obtain rfl | inside | ⟨_, rfl⟩ := inside
  · trivial
  · exact elsewhere_of_inResume other inside
  · exact other

structure Standing (id : ℕ) (row : Incident) (s : Database) : Prop where
  born : id < s.nextIncidentId
  found : s.incidents id = some row ∨
    ∃ closed, s.incidents id = some closed ∧ isClosed closed.status = true

inductive Resolving (app : App) (id : ℕ) (row : Incident) : {β : Type} → Backend β → Prop where
  | approval (server body scenario) (known : scenarioById app row.scenarioId = some scenario)
      (accepted : checkParams app row body.approved (orEmpty body.params) = .ret ()) :
      Resolving app id row (resolveApproval app server id row body scenario)
  | timeout (server scenario) (known : scenarioById app row.scenarioId = some scenario)
      (expired : slaExpired app server.now row = true) :
      Resolving app id row (resolveTimeout app server id row scenario)

inductive Careful (app : App) (id : ℕ) (row : Incident) {α : Type} : Backend α → Prop where
  | ret (a) : Careful app id row (.ret a)
  | raise (e) : Careful app id row (.raise e)
  | dead : Careful app id row .dead
  | act {l update n f} (outside : elsewhere id l)
      (next : ∀ s, Standing id row s → Careful app id row (n s)) :
      Careful app id row (.act l update n f)
  | ask {l n f} (next : ∀ r, Careful app id row (n r)) : Careful app id row (.ask l n f)
  | resolve {β : Type} {q : Backend β} {k : β → Backend α} (resolving : Resolving app id row q)
      (next : ∀ b, Careful app id row (k b)) : Careful app id row (q.bind k)

theorem Careful.bind {α β : Type} {p : Backend α} {k : α → Backend β}
    (careful : Careful app id row p) (rest : ∀ a, Careful app id row (k a)) :
    Careful app id row (p.bind k) := by
  induction careful with
  | ret a => exact rest a
  | raise e => exact .raise e
  | dead => exact .dead
  | act outside _ ih => exact .act outside ih
  | ask _ ih => exact .ask ih
  | resolve resolving _ ih =>
    rw [Program.bind_assoc]
    exact .resolve resolving ih

theorem Careful.of_does {α : Type} {allowed : Label → Prop} {p : Backend α} (does : Does allowed p)
    (outside : ∀ l, allowed l → elsewhere id l) : Careful app id row p := by
  induction p with
  | ret a => exact .ret a
  | raise e => exact .raise e
  | dead => exact .dead
  | act l update n f ihn _ =>
    exact .act (outside l (does.1 .empty).1) fun s _ => ihn s (does.2.1 s)
  | ask l n f ihn _ => exact .ask fun r => ihn r (does.1 r)

def Snapshot (row incident : Incident) : Prop := incident = row ∨ isClosed incident.status = true

theorem Standing.snapshot (standing : Standing id row s) :
    ∃ incident, s.incidents id = some incident ∧ Snapshot row incident := by
  obtain found | ⟨closed, found, status⟩ := standing.found
  · exact ⟨row, found, .inl rfl⟩
  · exact ⟨closed, found, .inr status⟩

/-- Care of one incident, as a judgement about the parts of a request. -/
def caring (app : App) (id : ℕ) (row : Incident) : BackendLogic :=
  .of (Careful app id row) (fun _ => True) fun e _ => .raise e

theorem caring_of_does {α : Type} {allowed : Label → Prop} {p : Backend α} (does : Does allowed p)
    (outside : ∀ l, allowed l → elsewhere id l) : (caring app id row).judges anything p s :=
  Logic.judges_of_bind fun _ rest => (Careful.of_does does outside).bind rest

theorem Careful.of_caring {α : Type} {p : Backend α}
    (judged : (caring app id row).judges anything p s) : Careful app id row p :=
  Logic.holds_of_judges judged .ret

/-- What is known of the rows of the incident itself. -/
def Noted (id : ℕ) (row : Incident) (j : ℕ) (incident : Incident) (_ : Database) : Prop :=
  j = id → Snapshot row incident

theorem caring_parts (server : Server) (j : ℕ) :
    Parts (caring app id row) app server (Noted id row) j where
  stays noted _ := noted
  missing := trivial
  load _ := fun _ _ rest => .act trivial fun s standing => rest _ fun _ incident found mine => by
    obtain ⟨own, found', snapshot⟩ := standing.snapshot
    cases found'.symm.trans (mine ▸ found)
    exact snapshot
  scenario _ _ := fun _ _ rest => .act trivial fun _ _ => rest _ fun _ => rfl
  timeout {incident scenario _} noted expired known := by
    by_cases mine : j = id
    · subst mine
      obtain rfl | closed := noted rfl
      · exact Logic.judges_of_bind fun _ rest => .resolve (.timeout server scenario known expired) rest
      · rw [awaiting_of_expired expired] at closed
        cases closed
    · exact caring_of_does (resolveTimeout_does app server j incident scenario)
        fun _ => elsewhere_of_ofIncident mine

section
variable (server : Server)

theorem decideApproval_careful (body : ApprovalDecision) :
    Careful app id row (decideApproval app server id body) := by
  refine .of_caring ((caring_parts server id).decideApproval (fun _ _ => trivial) ?_ .empty)
  intro incident scenario _ noted awaiting accepted known
  obtain rfl | closed := noted rfl
  · exact Logic.judges_of_bind fun _ rest =>
      .resolve (.approval server body scenario known accepted) rest
  · rw [awaiting] at closed
    cases closed

theorem runIncident_careful (awaiting : row.status ≠ .opened) :
    Careful app id row (runIncident app server id) := by
  refine .of_caring ((caring_parts server id).runIncident (fun _ _ => trivial) ?_ .empty)
  intro incident scenario _ noted opened _
  obtain rfl | closed := noted rfl
  · exact absurd opened awaiting
  · rw [opened] at closed
    cases closed

theorem listIncidents_careful : Careful app id row (listIncidents app server) := by
  refine .of_caring (listIncidents_judged (caring_parts server) (fun _ => ?_) .empty)
  refine fun _ _ rest => .act trivial fun s standing => rest _ fun _ entry mem mine => ?_
  obtain ⟨incident, found, snapshot⟩ := standing.snapshot
  cases found.symm.trans (mine ▸ mem_allIncidents mem)
  exact snapshot

end

theorem serve_careful (started : row.status ≠ .opened) (request : Request) :
    Careful app id row (serve app request) := by
  obtain ⟨endpoint, server⟩ := request
  cases endpoint with
  | createIncident scenarioKey =>
    refine .of_does (createIncident_does app server scenarioKey) ?_
    rintro l (rfl | ⟨j, rfl⟩) <;> trivial
  | listIncidents => exact listIncidents_careful server
  | getIncident j =>
    by_cases mine : j = id
    · subst mine
      exact .of_caring ((caring_parts server j).getIncident (fun _ _ => trivial) .empty)
    · exact .of_does (getIncident_does app server j) fun _ => elsewhere_of_ofIncident mine
  | runIncident j =>
    by_cases mine : j = id
    · subst mine
      exact runIncident_careful server started
    · refine .of_does (runIncident_does app server j) ?_
      rintro l (rfl | inside)
      · exact mine
      · exact elsewhere_of_ofIncident mine inside
  | decideApproval j body =>
    by_cases mine : j = id
    · subst mine
      exact decideApproval_careful server body
    · exact .of_does (decideApproval_does app server j body) fun _ => elsewhere_of_ofIncident mine
  | getTimeline j =>
    by_cases mine : j = id
    · subst mine
      exact .of_caring ((caring_parts server j).getTimeline (fun _ _ => trivial)
        (fun _ _ _ rest => .act trivial fun _ _ => rest _ fun _ => trivial) .empty)
    · exact .of_does (getTimeline_does app server j) fun _ => elsewhere_of_ofIncident mine

end OpsPilot.PauseRequests
