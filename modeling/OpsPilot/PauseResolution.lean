import OpsPilot.PauseRequests
import OpsPilot.RequestPool
import OpsPilot.AutoEscalation

/-! An incident that waits, under any number of requests in any interleaving without faults. As
long as no request resumes its graph after another has, the pause is resolved exactly once. -/

namespace OpsPilot.PauseResolution
open JsonText AgentSchemas SyntheticEnvironment InvestigationState Models StepEffects GraphNodes
open IdempotentExecution RunTrace Investigation IncidentApi EndpointRules InvestigationOutcomes
open IncidentTurns IncidentPhases ThreadHistory ApprovalTimeout Isolation ExpiredPause ExpiredApproval
open PendingApproval AcceptedApproval PauseRequests AutoEscalation DurableProgram CallHistory
open Noninterference RequestPool

variable {app : App} {id : ℕ} {row : Incident} {s t u : Database} {h : EventLog} {server : Server}
  {scenario : Scenario} {decision : Json} {result : InvestigationResult} {g : List BackendEvent}

inductive Happening where
  | resumed (decision : Json)
  | executed (call : RemediationCall)
  | applied (result : InvestigationResult)

def happening? (id : ℕ) : BackendEvent → Option Happening
  | .performed (.resume threadId decision) =>
    if threadId = threadIdOf id then some (.resumed decision) else none
  | .performed (.executor _ call) =>
    if call.threadId = threadIdOf id then some (.executed call) else none
  | .performed (.applyResult j result) => if j = id then some (.applied result) else none
  | _ => none

def happenings (id : ℕ) (g : List BackendEvent) : List Happening := g.filterMap (happening? id)

theorem happenings_append (id : ℕ) (g g' : List BackendEvent) :
    happenings id (g ++ g') = happenings id g ++ happenings id g' := by
  simp [happenings]

theorem happening?_elsewhere {l : Label} (outside : elsewhere id l) :
    happening? id (.performed l) = none := by
  cases l with
  | resume | executor | applyResult => exact if_neg outside
  | _ => rfl

inductive Honours (app : App) (id : ℕ) (row : Incident) (scenario : Scenario) (decision : Json) :
    List RemediationCall → List RemediationExecution → Prop where
  | refused (refused : isApproved (some decision) = false) :
      Honours app id row scenario decision [] []
  | approved {body remediation} (approved : body.approved = true)
      (same : decision = decisionOf body)
      (valid : Validates app scenario row body (.ok remediation)) :
      Honours app id row scenario decision [approvedCall id scenario row remediation]
        [⟨idempotencyKey app.py (approvedCall id scenario row remediation),
          approvedCall id scenario row remediation, remediation.result⟩]

structure ResolvedBy (app : App) (id : ℕ) (row : Incident) (u : Database)
    (g : List BackendEvent) (server : Server) (scenario : Scenario) (decision : Json)
    (calls : List RemediationCall) (result : InvestigationResult) : Prop where
  known : scenarioById app row.scenarioId = some scenario
  happened : happenings id g =
    .resumed decision :: (calls.map .executed ++ [.applied result])
  honoured : Honours app id row scenario decision calls (remediationsOf u id)
  decided : result.approvalDecision = some decision
  recorded : ∃ now values asker asking, u.auditOf id =
    evidenceRows id now values ++ [requestRow asker id asking, decisionRow server id result]
  closed : ∃ row', u.incidents id = some row' ∧ isClosed row'.status = true

def ResolvedOnce (app : App) (id : ℕ) (row : Incident) (u : Database)
    (g : List BackendEvent) : Prop :=
  ∃ server scenario decision calls result,
    ResolvedBy app id row u g server scenario decision calls result

theorem ResolvedOnce.of_same {g' : List BackendEvent} (once : ResolvedOnce app id row t g)
    (same : SameIncident app.py id t u) (happened : happenings id g' = happenings id g) :
    ResolvedOnce app id row u g' := by
  obtain ⟨server, scenario, decision, calls, result, by'⟩ := once
  refine ⟨server, scenario, decision, calls, result, by'.known, happened.trans by'.happened, ?_,
    by'.decided, ?_, ?_⟩
  · rw [same.remediations]
    exact by'.honoured
  · rw [same.same.rows]
    exact by'.recorded
  · rw [same.same.row]
    exact by'.closed

theorem happenings_resumed (id : ℕ) (decision : Json) :
    happenings id [.performed (.resume (threadIdOf id) decision)] = [.resumed decision] := by
  simp [happenings, happening?]

theorem happenings_inThread (inside : ∀ l, .performed l ∈ g → inThread (threadIdOf id) l) :
    happenings id g = (invocations g).map .executed := by
  induction g with
  | nil => rfl
  | cons ev g ih =>
    have rest := ih fun l mem => inside l (List.mem_cons_of_mem _ mem)
    have split : happenings id (ev :: g) = happenings id [ev] ++ happenings id g :=
      happenings_append id [ev] g
    have split' : invocations (ev :: g) = invocations [ev] ++ invocations g :=
      invocations_append [ev] g
    have first : happenings id [ev] = (invocations [ev]).map .executed := by
      cases ev with
      | performed l =>
        have own := inside l List.mem_cons_self
        cases l with
        | executor key call =>
          have mine : call.threadId = threadIdOf id := own
          simp [happenings, happening?, invocations, invocationOf, mine]
        | resume | applyResult => exact own.elim
        | _ => rfl
      | _ => rfl
    rw [split, split', rest, first, List.map_append]

theorem happenings_resume {o : Outcome Error InvestigationResult}
    (run : Runs .alone noFaults (resumeInvestigation app scenario (threadIdOf id) decision) s o
      u g) : happenings id g = .resumed decision :: (invocations g).map .executed := by
  change Runs .alone noFaults ((mark (.resume (threadIdOf id) decision)).bind _) s o u g at run
  obtain ⟨_, t, g₁, g₂, marked, rest, rfl⟩ | ⟨_, stop, marked⟩ := run.of_bind
  · obtain ⟨_, rfl, rfl⟩ | ⟨_, fails⟩ := perform_fails marked
    swap
    · exact (StepFails.faultless fails).elim
    have does := resumed_does app scenario (depsOf app scenario {} (threadIdOf id) "") decision
    have inside : ∀ l, .performed l ∈ g₂ → inThread (threadIdOf id) l :=
      labels_of_does (does _) rest
    rw [happenings_append, happenings_inThread inside, happenings_resumed, invocations_append]
    rfl
  · obtain ⟨rfl, _⟩ | ⟨_, fails⟩ := perform_fails marked
    · cases stop
    · exact (StepFails.faultless fails).elim

theorem resume_refuses {values : GraphState} {diagnosis : SubmitDiagnosisArgs}
    (pending : Pending s id row values diagnosis) (refused : isApproved (some decision) = false)
    (run : Runs .alone noFaults (resumeInvestigation app scenario (threadIdOf id) decision) s
      (.returned result) t g) :
    invocations g = [] ∧ t.remediationExecutions = s.remediationExecutions := by
  have gate : AtGate [] id ⟨values, some .evaluatePolicy⟩ :=
    .waiting pending.diagnosed pending.approval
  constructor
  · refine List.filterMap_eq_nil_iff.mpr fun ev mem => ?_
    have inside := refusal_labels gate pending.stored refused run ev mem
    unfold invocationOf
    split
    · exact inside.elim
    · rfl
  · obtain ⟨_, stop⟩ | ⟨_, _, advances⟩ := resume_advances run pending.stored trivial
    · exact absurd rfl (stop result)
    cases advances with
    | unmoved stop | executed _ stop | judged _ stop => exact absurd rfl (stop result)
    | finished ends =>
      have nothing : gateCall app (resumeDeps app scenario (threadIdOf id)) diagnosis
          (some decision) = none := gateCall_refused _ pending.approval refused
      cases ends with
      | undiagnosed missing => cases pending.diagnosed.symm.trans missing
      | idle => rfl
      | stopped _ _ stop => cases stop
      | ran found _ asked =>
        cases pending.diagnosed.symm.trans found
        cases asked.symm.trans nothing

inductive Decisive (app : App) (row : Incident) : Json → Prop where
  | refused {decision : Json} (refused : isApproved (some decision) = false) :
      Decisive app row decision
  | approved {body : ApprovalDecision} (approved : body.approved = true)
      (accepted : checkParams app row body.approved (orEmpty body.params) = .ret ()) :
      Decisive app row (decisionOf body)

theorem decisive_of_accepted {body : ApprovalDecision}
    (accepted : checkParams app row body.approved (orEmpty body.params) = .ret ()) :
    Decisive app row (decisionOf body) := by
  cases approved : body.approved with
  | true => exact .approved approved accepted
  | false => exact .refused approved

theorem remediationsOf_unremediated (clean : Unremediated s id) : remediationsOf s id = [] := by
  refine List.filter_eq_nil_iff.mpr fun row mem => ?_
  simpa using clean row mem

theorem resume_honours {values : GraphState} {diagnosis : SubmitDiagnosisArgs}
    (pending : Pending s id row values diagnosis) (clean : Unremediated s id)
    (apart : KeysApart app.py (threadIdOf id) s) (decisive : Decisive app row decision)
    (run : Runs .alone noFaults (resumeInvestigation app scenario (threadIdOf id) decision) s
      (.returned result) t g) :
    Honours app id row scenario decision (invocations g) (remediationsOf t id) := by
  have none : s.remediationExecutions.filter (·.call.threadId == threadIdOf id) = [] :=
    remediationsOf_unremediated clean
  cases decisive with
  | refused refused =>
    obtain ⟨nothing, kept⟩ := resume_refuses pending refused run
    rw [nothing, remediationsOf, kept, none]
    exact .refused refused
  | @approved body approved accepted =>
    obtain ⟨_, remediation, valid⟩ | ⟨text, _, refused, _⟩ :=
      checkParams_validates app body pending scenario
    · have remedied := resume_remedies pending (fresh_of_unremediated clean apart)
        (gateCall_approved pending approved valid) run
      rw [remedied.invoked, remediationsOf, remedied.stored, List.filter_append, none,
        List.nil_append, List.filter_cons_of_pos (by simp [approvedCall]), List.filter_nil]
      exact .approved approved rfl valid
    · rw [approved, refused] at accepted
      cases accepted

theorem resume_trail {request : Request} (history : TurnHistory app s h)
    (found : s.incidents id = some row) (awaiting : row.status = .awaitingApproval)
    (real : RealDecision request id decision)
    (run : Runs .alone noFaults (resumeInvestigation app scenario (threadIdOf id) decision) s
      (.returned result) t g) :
    ∃ now values asker asking,
      s.auditOf id = evidenceRows id now values ++ [requestRow asker id asking] ∧
      result.evidenceTrail.drop (s.auditOf id).length = [] := by
  obtain ⟨saved, now, asker, asking, stored, gate, rows⟩ := trail_of_awaiting history found awaiting
  refine ⟨now, saved.values, asker, asking, rows, ?_⟩
  obtain ⟨_, resumed⟩ := gate_resumed gate stored real run
  obtain ⟨_, _, _, _, rfl⟩ := resumed.returned result rfl
  refine List.drop_eq_nil_of_le ?_
  simp [rows, evidenceRows, finishedResult, resumed.carried.evidenceTrail]

theorem resolvedOnce_of_applied {request : Request} (history : TurnHistory app s h)
    (found : s.incidents id = some row) (awaiting : row.status = .awaitingApproval)
    (finished : ¬ Unfinished h id) (apart : KeysApart app.py (threadIdOf id) s)
    (known : scenarioById app row.scenarioId = some scenario)
    (real : RealDecision request id decision) (decisive : Decisive app row decision)
    (run : Runs .alone noFaults (resumeInvestigation app scenario (threadIdOf id) decision) s
      (.returned result) t g) (applied : Applied app server id row result t u) :
    ResolvedOnce app id row u (g ++ [.performed (.applyResult id result)]) := by
  obtain ⟨clean, values, diagnosis, pending⟩ := waiting_tracked history found awaiting finished
  have gate : AtGate h id ⟨values, some .evaluatePolicy⟩ :=
    .waiting pending.diagnosed pending.approval
  have closing := (resolution history found awaiting real (run.mono fun _ _ _ => trivial)).closing
  have untouched := untouched_of_graph (resumeInvestigation_does _ _ _ _ _) run
  have decided := resume_decision gate pending.stored run
  rw [if_pos rfl] at decided
  cases applied with
  | paused pausing => exact absurd pausing closing
  | closed scenario' =>
    refine ⟨server, scenario, decision, invocations g, result, known, ?_, ?_, decided, ?_, ?_⟩
    · have last : happenings id ([.performed (.applyResult id result)] : List BackendEvent) =
          [.applied result] := by simp [happenings, happening?]
      rw [happenings_append, happenings_resume run, last]
      rfl
    · rw [remediationsOf, closeIncident_remediations]
      exact resume_honours pending clean apart decisive run
    · have rows : t.auditOf id = s.auditOf id := by rw [Database.auditOf, untouched.auditLog]; rfl
      obtain ⟨now, values, asker, asking, trail, nothing⟩ :=
        resume_trail history found awaiting real run
      refine ⟨now, values, asker, asking, ?_⟩
      rw [auditOf_closeIncident, if_pos rfl, if_pos awaiting, rows, nothing, trail]
      simp
    · have present : t.incidents id = some row := by rw [untouched.incidents, found]
      exact closeIncident_row present closing

theorem resolveApproval_resolves {body : ApprovalDecision} {o : Outcome Error Unit}
    (history : TurnHistory app s h) (found : s.incidents id = some row)
    (awaiting : row.status = .awaitingApproval) (finished : ¬ Unfinished h id)
    (apart : KeysApart app.py (threadIdOf id) s)
    (known : scenarioById app row.scenarioId = some scenario)
    (accepted : checkParams app row body.approved (orEmpty body.params) = .ret ())
    (run : Runs .alone noFaults (resolveApproval app server id row body scenario) s o u g) :
    o = .returned () ∧ ResolvedOnce app id row u g := by
  obtain ⟨saved, stored, gate⟩ := gate_of_awaiting history found awaiting
  obtain ⟨result, t, g₁, g₂, resume, applying, rfl⟩ | ⟨o', stop, resume⟩ := run.of_bind
  swap
  · obtain ⟨_, rfl⟩ := resume_returns gate stored resume
    cases stop
  obtain ⟨rfl, applied, rfl⟩ | ⟨_, unapplied⟩ := applyResult_outcome applying
  · let request : Request := ⟨.decideApproval id body, server⟩
    have real : RealDecision request id (decisionOf body) := .answered body rfl
    exact ⟨rfl, resolvedOnce_of_applied history found awaiting finished apart known real
      (decisive_of_accepted accepted) resume applied⟩
  · cases unapplied with
    | lost unknown => cases known.symm.trans unknown
    | failed fails => exact (StepFails.faultless fails).elim

theorem resolveTimeout_resolves {o : Outcome Error Bool} (history : TurnHistory app s h)
    (found : s.incidents id = some row) (awaiting : row.status = .awaitingApproval)
    (finished : ¬ Unfinished h id) (apart : KeysApart app.py (threadIdOf id) s)
    (known : scenarioById app row.scenarioId = some scenario)
    (expired : slaExpired app server.now row = true)
    (run : Runs .alone noFaults (resolveTimeout app server id row scenario) s o u g) :
    o = .returned true ∧ ResolvedOnce app id row u g := by
  obtain ⟨saved, stored, gate⟩ := gate_of_awaiting history found awaiting
  have loads : Runs .alone noFaults (loadScenario app row.scenarioId) s (.returned scenario) s
      [.performed (.loadScenario row.scenarioId)] := by
    refine (Runs.performed trivial).bind ?_
    rw [known]
    exact .ret scenario s
  have whole : Runs .alone noFaults (maybeApplyApprovalTimeout app server id row) s o u
      ([.performed (.loadScenario row.scenarioId)] ++ g) := by
    unfold maybeApplyApprovalTimeout
    rw [if_pos expired]
    exact loads.bind run
  rw [List.singleton_append] at whole
  generalize events : Event.performed (Label.loadScenario row.scenarioId) :: g = g' at whole
  cases maybeApplyApprovalTimeout_ends whole with
  | fresh => cases events
  | unloaded _ fails => exact (StepFails.faultless fails).elim
  | lost _ unknown => cases known.symm.trans unknown
  | swallowed _ _ _ resume | aborted _ _ resume | died _ _ resume =>
    obtain ⟨_, same⟩ := resume_returns gate stored resume
    cases same
  | unapplied _ known' _ _ unapplied =>
    cases unapplied with
    | lost unknown => cases known'.symm.trans unknown
    | failed fails => exact (StepFails.faultless fails).elim
  | resolved _ known' resume applied =>
    cases known.symm.trans known'
    cases events
    let request : Request := ⟨.getIncident id, server⟩
    have real : RealDecision request id timeoutDecision := .timedOut
    exact ⟨rfl, resolvedOnce_of_applied history found awaiting finished apart known real
      (.refused rfl) resume applied⟩

theorem resolving_resolves {β : Type} {q : Backend β} {o : Outcome Error β}
    (resolving : Resolving app id row q) (history : TurnHistory app s h)
    (found : s.incidents id = some row) (awaiting : row.status = .awaitingApproval)
    (finished : ¬ Unfinished h id) (apart : KeysApart app.py (threadIdOf id) s)
    (run : Runs .alone noFaults q s o u g) :
    (∃ b, o = .returned b) ∧ ResolvedOnce app id row u g := by
  cases resolving with
  | approval server body scenario known accepted =>
    obtain ⟨rfl, once⟩ :=
      resolveApproval_resolves history found awaiting finished apart known accepted run
    exact ⟨⟨_, rfl⟩, once⟩
  | timeout server scenario known expired =>
    obtain ⟨rfl, once⟩ :=
      resolveTimeout_resolves history found awaiting finished apart known expired run
    exact ⟨⟨_, rfl⟩, once⟩

theorem resolving_begins {β : Type} {q : Backend β} (resolving : Resolving app id row q) :
    ∃ decision update next fails,
      q = .act (.resume (threadIdOf id) decision) update next fails := by
  cases resolving with
  | approval => exact ⟨_, _, _, _, rfl⟩
  | timeout => exact ⟨_, _, _, _, rfl⟩

theorem resolving_step {α β : Type} {q : Backend β} {k : β → Backend α} {p : Backend α}
    {m : Move ChatOutcome Error} {ev : BackendEvent} (resolving : Resolving app id row q)
    (step : advance m (q.bind k) s = some (ev, p, t)) (calm : ev.faultFree) :
    ∃ decision p', ev = .performed (.resume (threadIdOf id) decision) ∧
      advance m q s = some (ev, p', t) ∧ p = p'.bind k := by
  obtain ⟨decision, update, next, fails, rfl⟩ := resolving_begins resolving
  obtain ⟨p', own, rfl⟩ := advance_bind rfl step
  obtain ⟨rfl, _⟩ | ⟨_, rfl, _⟩ | ⟨rfl, _⟩ := advance_act own
  · exact ⟨decision, p', rfl, own, rfl⟩
  · exact calm.elim
  · exact calm.elim

theorem resolving_blind {β : Type} {q : Backend β} (resolving : Resolving app id row q) :
    Blind (SameIncident app.py id) q := by
  cases resolving with
  | approval server body scenario =>
    exact (resumeInvestigation_blind sameIncident_threadwise _ _).bind fun _ =>
      applyResult_blind server row _
  | timeout server scenario =>
    refine Blind.bind (Blind.tryCatch ?_ fun e => by cases e <;> trivial) ?_
    · exact (resumeInvestigation_blind sameIncident_threadwise _ _).bind fun _ => trivial
    · rintro (_ | result)
      · trivial
      · exact (applyResult_blind server row result).bind fun _ => trivial

def WritesLast {α : Type} : Backend α → Prop
  | .ret _ => True
  | .raise _ => True
  | .dead => True
  | .act _ u n _ => (∀ s, (u s).incidents = s.incidents ∧ WritesLast (n s)) ∨
      ∀ s, (n s).finished.isSome = true
  | .ask _ n _ => ∀ r, WritesLast (n r)

theorem WritesLast.bind {α β : Type} {threadId : String} {p : Backend α} {k : α → Backend β}
    (does : Does (inResume threadId) p) (rest : ∀ a, WritesLast (k a)) : WritesLast (p.bind k) := by
  induction p with
  | ret a => exact rest a
  | raise e => trivial
  | dead => trivial
  | act l u n f ihn _ =>
    exact .inl fun s => ⟨(untouched_of_effect (does.1 s).1 (does.1 s).2).incidents,
      ihn s (does.2.1 s)⟩
  | ask l n f ihn _ => exact fun r => ihn r (does.1 r)

theorem writesLast_of_finished {α : Type} {p : Backend α} (done : p.finished.isSome = true) :
    WritesLast p := by
  cases p with
  | ret | raise | dead => trivial
  | act | ask => cases done

theorem finished_bind {α β : Type} {p : Backend α} {k : α → Backend β}
    (ended : p.finished.isSome = true) (done : ∀ a, (k a).finished.isSome = true) :
    (p.bind k).finished.isSome = true := by
  cases p with
  | ret a => exact done a
  | raise | dead => rfl
  | act | ask => cases ended

theorem unfinished_bind {α β : Type} {p : Backend α} {k : α → Backend β}
    (unfinished : p.finished = none) : (p.bind k).finished = none := by
  cases p with
  | ret | raise | dead => cases unfinished
  | act | ask => rfl

theorem WritesLast.then {α β : Type} {p : Backend α} {k : α → Backend β} (last : WritesLast p)
    (done : ∀ a, (k a).finished.isSome = true) : WritesLast (p.bind k) := by
  induction p with
  | ret a => exact writesLast_of_finished (done a)
  | raise e => trivial
  | dead => trivial
  | act l u n f ihn _ =>
    obtain still | ends := last
    · exact .inl fun s => ⟨(still s).1, ihn s (still s).2⟩
    · exact .inr fun s => finished_bind (ends s) done
  | ask l n f ihn _ => exact fun r => ihn r (last r)

theorem writesLast_apply (app : App) (server : Server) (id : ℕ) (incident : Incident)
    (result : InvestigationResult) :
    WritesLast (applyResult app server id incident result) := by
  unfold applyResult
  split
  · exact .inr fun _ => rfl
  · cases scenarioById app incident.scenarioId with
    | none => trivial
    | some scenario => exact .inr fun _ => rfl

theorem resolving_writesLast {β : Type} {q : Backend β} (resolving : Resolving app id row q) :
    WritesLast q := by
  cases resolving with
  | approval server body scenario =>
    exact WritesLast.bind (resumeInvestigation_does _ _ _ _ _) (writesLast_apply app server id row)
  | timeout server scenario =>
    have does : Does (inResume (threadIdOf id)) (Program.tryCatch
        ((resumeInvestigation app scenario (threadIdOf id) timeoutDecision).bind
          fun result => .ret (some result)) swallow) :=
      Guarantees.tryCatch ((resumeInvestigation_does _ _ _ _ _).bind fun _ => trivial) swallow_does
    refine WritesLast.bind does ?_
    rintro (_ | result)
    · trivial
    · exact (writesLast_apply app server id row result).then fun _ => rfl

theorem WritesLast.step {α : Type} {p p' : Backend α} {m : Move ChatOutcome Error} {s' : Database}
    {ev : BackendEvent} (last : WritesLast p) (step : advance m p s = some (ev, p', s'))
    (calm : ev.faultFree) :
    WritesLast p' ∧ (s'.incidents = s.incidents ∨ p'.finished.isSome = true) := by
  cases p with
  | ret | raise | dead => cases m <;> cases step
  | act l u n f =>
    obtain ⟨rfl, rfl, rfl⟩ | ⟨e, rfl, _⟩ | ⟨rfl, _⟩ := advance_act step
    · obtain still | ends := last
      · exact ⟨(still s).2, .inl (still s).1⟩
      · exact ⟨writesLast_of_finished (ends s), .inr (ends s)⟩
    · exact calm.elim
    · exact calm.elim
  | ask l n f =>
    obtain ⟨r, rfl, rfl, rfl⟩ | ⟨e, rfl, _⟩ | ⟨rfl, _⟩ := advance_ask step
    · exact ⟨last r, .inl rfl⟩
    · exact calm.elim
    · exact calm.elim

structure Partway (app : App) (s : Database) (id : ℕ) (row : Incident) {β : Type} (q p : Backend β)
    (t : Database) (g : List BackendEvent) : Prop where
  resolving : Resolving app id row q
  blind : Blind (SameIncident app.py id) p
  last : WritesLast p
  reached : ∀ {o u g'}, Runs .alone noFaults p t o u g' → Runs .alone noFaults q s o u (g ++ g')

theorem Partway.start {β : Type} {q : Backend β} (resolving : Resolving app id row q) :
    Partway app s id row q q s [] :=
  ⟨resolving, resolving_blind resolving, resolving_writesLast resolving, fun run => run⟩

theorem Partway.step {β : Type} {q p p' : Backend β} {m : Move ChatOutcome Error} {t' : Database}
    {ev : BackendEvent} (part : Partway app s id row q p t g)
    (step : advance m p t = some (ev, p', t')) (calm : ev.faultFree) :
    Partway app s id row q p' t' (g ++ [ev]) ∧
      (t'.incidents = t.incidents ∨ p'.finished.isSome = true) := by
  obtain ⟨last, ends⟩ := part.last.step step calm
  refine ⟨⟨part.resolving, (part.blind.advance (.refl t) step).1, last, fun run => ?_⟩, ends⟩
  rw [List.append_assoc]
  exact part.reached (.step (Rely.alone.refl t) step calm run)

theorem runs_of_finished {β : Type} {p : Backend β} {o : Outcome Error β}
    (done : p.finished = some o) : Runs .alone noFaults p t o t [] := by
  cases p with
  | ret a =>
    cases done
    exact .ret a t
  | raise e =>
    cases done
    exact .raise e t
  | dead =>
    cases done
    exact .dead t
  | act | ask => cases done

theorem Partway.ends {β : Type} {q p : Backend β} {o : Outcome Error β}
    (part : Partway app s id row q p t g) (history : TurnHistory app s h)
    (found : s.incidents id = some row) (awaiting : row.status = .awaitingApproval)
    (finished : ¬ Unfinished h id) (apart : KeysApart app.py (threadIdOf id) s)
    (done : p.finished = some o) : (∃ b, p = .ret b) ∧ ResolvedOnce app id row t g := by
  have run := part.reached (runs_of_finished done)
  rw [List.append_nil] at run
  obtain ⟨⟨b, rfl⟩, once⟩ :=
    resolving_resolves part.resolving history found awaiting finished apart run
  refine ⟨⟨b, ?_⟩, once⟩
  cases p with
  | ret a =>
    cases done
    rfl
  | raise | dead | act | ask => cases done

abbrev Requests (ι : Type) := Pool ι Label ChatOutcome Database Error Response

variable {ι : Type}

abbrev serveAll (app : App) (s : Database) (asks : ι → Request) : Requests ι :=
  Pool.start s fun i => serve app (asks i)

def incidentLog (pool : Requests ι) (id : ℕ) : List Happening :=
  happenings id (pool.history.map Prod.snd)

def Begun (id : ℕ) (pool : Requests ι) : Prop := ∃ decision, .resumed decision ∈ incidentLog pool id

def isResumed : Happening → Bool
  | .resumed _ => true
  | _ => false

theorem begun_iff {pool : Requests ι} :
    Begun id pool ↔ (incidentLog pool id).any isResumed = true := by
  rw [List.any_eq_true]
  constructor
  · rintro ⟨decision, mem⟩
    exact ⟨_, mem, rfl⟩
  · rintro ⟨happening, mem, resumed⟩
    cases happening with
    | resumed decision => exact ⟨decision, mem⟩
    | executed | applied => cases resumed

theorem begun_of_resolved {pool : Requests ι} (once : ResolvedOnce app id row t g)
    (happened : incidentLog pool id = happenings id g) : Begun id pool := by
  obtain ⟨_, _, decision, _, _, by'⟩ := once
  refine ⟨decision, ?_⟩
  rw [happened, by'.happened]
  exact List.mem_cons_self

def calm (app : App) (id : ℕ) : PoolPermit ι Label ChatOutcome Database Error Response :=
  fun _ _ ev next => ev.faultFree ∧ KeysApart app.py (threadIdOf id) next.state

def oneResume (app : App) (id : ℕ) : PoolPermit ι Label ChatOutcome Database Error Response :=
  fun pool who ev next => calm app id pool who ev next ∧
    ∀ decision, ev = .performed (.resume (threadIdOf id) decision) → ¬ Begun id pool

inductive Stage (app : App) (s : Database) (id : ℕ) (row : Incident) (pool : Requests ι) :
    Prop where
  | waiting (same : SameIncident app.py id s pool.state)
      (careful : ∀ i, Careful app id row (pool.requests i)) (quiet : incidentLog pool id = [])
  | resolving {who : ι} {β : Type} {q p : Backend β} {k : β → Backend Response} {t : Database}
      {g : List BackendEvent} (part : Partway app s id row q p t g)
      (unfinished : p.finished = none) (mine : pool.requests who = p.bind k)
      (after : ∀ b, Careful app id row (k b))
      (others : ∀ i, i ≠ who → Careful app id row (pool.requests i))
      (same : SameIncident app.py id t pool.state) (still : t.incidents id = some row)
      (happened : incidentLog pool id = happenings id g) (begun : Begun id pool)
  | resolved {t : Database} {g : List BackendEvent} (once : ResolvedOnce app id row t g)
      (careful : ∀ i, Careful app id row (pool.requests i))
      (same : SameIncident app.py id t pool.state)
      (happened : incidentLog pool id = happenings id g)

/-- The incident exists, and all requests take steps with known effects. -/
structure Inv (app : App) (s : Database) (id : ℕ) (row : Incident) (pool : Requests ι) : Prop where
  does : ∀ i, Does (fun _ => True) (pool.requests i)
  born : id < pool.state.nextIncidentId
  stage : Stage app s id row pool

theorem Inv.standing {pool : Requests ι} (inv : Inv app s id row pool)
    (found : s.incidents id = some row) : Standing id row pool.state := by
  refine ⟨inv.born, ?_⟩
  cases inv.stage with
  | waiting same => exact .inl (same.same.row.trans found)
  | resolving _ _ _ _ _ same still => exact .inl (same.same.row.trans still)
  | resolved once _ same =>
    obtain ⟨_, _, _, _, _, by'⟩ := once
    obtain ⟨closed, found', status⟩ := by'.closed
    exact .inr ⟨closed, same.same.row.trans found', status⟩

variable [DecidableEq ι]

theorem incidentLog_moved (pool : Requests ι) (who : ι) (ev : BackendEvent) (p : Backend Response)
    (state : Database) : incidentLog (pool.moved who ev p state) id =
      incidentLog pool id ++ happenings id [ev] := by
  simp [incidentLog, happenings_append]

theorem begun_moved {pool : Requests ι} {who : ι} {ev : BackendEvent} {p : Backend Response}
    {state : Database} (begun : Begun id pool) : Begun id (pool.moved who ev p state) := by
  obtain ⟨decision, mem⟩ := begun
  refine ⟨decision, ?_⟩
  rw [incidentLog_moved]
  exact List.mem_append_left _ mem

theorem happenings_elsewhere {ev : BackendEvent}
    (outside : ∀ l, ev = .performed l → elsewhere id l) : happenings id [ev] = [] := by
  refine List.filterMap_eq_nil_iff.mpr fun ev' mem => ?_
  obtain rfl := List.mem_singleton.mp mem
  cases ev' with
  | performed l => exact happening?_elsewhere (outside l rfl)
  | answered | failed | died => rfl

theorem sameIncident_of_step {α : Type} {p p' : Backend α} {m : Move ChatOutcome Error}
    {s' : Database} {ev : BackendEvent} (does : Does (fun _ => True) p)
    (step : advance m p s = some (ev, p', s')) (outside : ∀ l, ev = .performed l → elsewhere id l)
    (born : id < s.nextIncidentId) (apart : KeysApart app.py (threadIdOf id) s') :
    SameIncident app.py id s s' := by
  by_cases performed : ∃ l, ev = .performed l
  · obtain ⟨l, rfl⟩ := performed
    exact sameIncident_of_effect (Guarantees.performed does step).2 (outside l rfl) born apart
  · rw [advance_unchanged (fun l same => performed ⟨l, same⟩) step]
    exact .refl s

theorem careful_step {α : Type} {p p' : Backend α} {m : Move ChatOutcome Error} {s' : Database}
    {ev : BackendEvent} (careful : Careful app id row p) (standing : Standing id row s)
    (step : advance m p s = some (ev, p', s')) (calm : ev.faultFree) :
    ((∀ l, ev = .performed l → elsewhere id l) ∧ Careful app id row p') ∨
      ∃ (β : Type) (q : Backend β) (k : β → Backend α), Resolving app id row q ∧ p = q.bind k ∧
        ∀ b, Careful app id row (k b) := by
  cases careful with
  | ret | raise | dead => cases m <;> cases step
  | act outside next =>
    obtain ⟨rfl, rfl, _⟩ | ⟨e, rfl, _⟩ | ⟨rfl, _⟩ := advance_act step
    · refine .inl ⟨?_, next s standing⟩
      rintro _ ⟨⟩
      exact outside
    · exact calm.elim
    · exact calm.elim
  | ask next =>
    obtain ⟨r, rfl, rfl, _⟩ | ⟨e, rfl, _⟩ | ⟨rfl, _⟩ := advance_ask step
    · refine .inl ⟨?_, next r⟩
      rintro _ ⟨⟩
    · exact calm.elim
    · exact calm.elim
  | resolve resolving next => exact .inr ⟨_, _, _, resolving, rfl, next⟩

theorem moved_careful {pool : Requests ι} {who : ι} {ev : BackendEvent} {p : Backend Response}
    {state : Database} (own : Careful app id row p)
    (others : ∀ i, i ≠ who → Careful app id row (pool.requests i)) (i : ι) :
    Careful app id row ((pool.moved who ev p state).requests i) := by
  by_cases mine : i = who
  · subst mine
    rwa [Pool.moved_self]
  · rw [Pool.moved_other pool ev p state mine]
    exact others i mine

theorem nextIncidentId_of_effect {l : Label} (effect : Effect l s u) :
    s.nextIncidentId ≤ u.nextIncidentId := by
  cases l with
  | createIncident =>
    obtain ⟨_, _, rfl⟩ := effect
    exact Nat.le_succ _
  | commitRunning =>
    obtain ⟨_, rfl⟩ := effect
    exact le_rfl
  | saveCheckpoint =>
    obtain ⟨_, rfl⟩ := effect
    exact le_rfl
  | commit =>
    obtain rfl | ⟨_, rfl⟩ := effect <;> exact le_rfl
  | applyResult =>
    obtain ⟨_, _, rfl⟩ | ⟨_, _, _, _, _, rfl⟩ := effect
    · exact le_rfl
    · rw [closeIncident_nextIncidentId]
  | _ =>
    cases effect
    exact le_rfl

theorem serve_does (app : App) (request : Request) : Does (fun _ => True) (serve app request) := by
  obtain ⟨endpoint, server⟩ := request
  cases endpoint with
  | createIncident scenarioKey =>
    exact (createIncident_does app server scenarioKey).mono fun _ _ => trivial
  | listIncidents => exact (listIncidents_does app server).mono fun _ _ => trivial
  | getIncident id => exact (getIncident_does app server id).mono fun _ _ => trivial
  | runIncident id => exact (runIncident_does app server id).mono fun _ _ => trivial
  | decideApproval id body => exact (decideApproval_does app server id body).mono fun _ _ => trivial
  | getTimeline id => exact (getTimeline_does app server id).mono fun _ _ => trivial

omit [DecidableEq ι] in
theorem inv_start (history : TurnHistory app s h) (found : s.incidents id = some row)
    (awaiting : row.status = .awaitingApproval) (asks : ι → Request) :
    Inv app s id row (serveAll app s asks) := by
  have started : row.status ≠ .opened := by
    rw [awaiting]
    exact IncidentStatus.noConfusion
  refine ⟨fun i => serve_does app (asks i), ?_, ?_⟩
  · by_contra unborn
    have absent := (turnHistory_phases history).unused id (Nat.le_of_not_lt unborn)
    cases absent.symm.trans found
  · exact .waiting (.refl s) (fun i => serve_careful started (asks i)) rfl

section
variable (history : TurnHistory app s h) (found : s.incidents id = some row)
  (awaiting : row.status = .awaitingApproval) (finished : ¬ Unfinished h id)
  (apart : KeysApart app.py (threadIdOf id) s)
include history found awaiting finished apart

theorem stage_of_partway {pool : Requests ι} {who : ι} {ev : BackendEvent} {β : Type}
    {q p : Backend β} {k : β → Backend Response} {state : Database}
    (part : Partway app s id row q p t g) (after : ∀ b, Careful app id row (k b))
    (others : ∀ i, i ≠ who → Careful app id row (pool.requests i))
    (same : SameIncident app.py id t state)
    (still : t.incidents id = some row ∨ p.finished.isSome = true)
    (happened : incidentLog (pool.moved who ev (p.bind k) state) id = happenings id g)
    (begun : Begun id (pool.moved who ev (p.bind k) state)) :
    Stage app s id row (pool.moved who ev (p.bind k) state) := by
  cases done : p.finished with
  | none =>
    refine .resolving part done (Pool.moved_self pool who ev _ state) after ?_ same ?_ happened
      begun
    · intro i other
      rw [Pool.moved_other pool ev _ state other]
      exact others i other
    · refine still.resolve_right fun ended => ?_
      rw [done] at ended
      cases ended
  | some o =>
    obtain ⟨⟨b, rfl⟩, once⟩ := part.ends history found awaiting finished apart done
    exact .resolved once (moved_careful (after b) others) same happened

theorem stage_step {pool : Requests ι} {who : ι} {m : Move ChatOutcome Error} {ev : BackendEvent}
    {p : Backend Response} {state : Database} (inv : Inv app s id row pool)
    (step : advance m (pool.requests who) pool.state = some (ev, p, state))
    (ok : oneResume app id pool who ev (pool.moved who ev p state)) :
    Stage app s id row (pool.moved who ev p state) := by
  obtain ⟨⟨calm, apart'⟩, once⟩ := ok
  have standing := inv.standing found
  have unmoved (outside : ∀ l, ev = .performed l → elsewhere id l) :
      SameIncident app.py id pool.state state :=
    sameIncident_of_step (inv.does who) step outside inv.born apart'
  have same_log (outside : ∀ l, ev = .performed l → elsewhere id l) :
      incidentLog (pool.moved who ev p state) id = incidentLog pool id := by
    rw [incidentLog_moved, happenings_elsewhere outside, List.append_nil]
  cases inv.stage with
  | waiting same careful quiet =>
    obtain ⟨outside, next⟩ | ⟨β, q, k, resolving, whole, after⟩ :=
      careful_step (careful who) standing step calm
    · exact .waiting (same.trans (unmoved outside)) (moved_careful next fun i _ => careful i)
        ((same_log outside).trans quiet)
    · rw [whole] at step
      obtain ⟨decision, p', rfl, own, rfl⟩ := resolving_step resolving step calm
      obtain ⟨_, t, alone, agree⟩ := (resolving_blind resolving).advance same.symm own
      obtain ⟨part, still⟩ := (Partway.start resolving).step alone calm
      have happened : incidentLog (pool.moved who (.performed (.resume (threadIdOf id) decision))
          (p'.bind k) state) id = [.resumed decision] := by
        rw [incidentLog_moved, quiet, happenings_resumed, List.nil_append]
      refine stage_of_partway history found awaiting finished apart part after
        (fun i _ => careful i) agree.symm (still.imp_left fun kept => ?_) ?_ ⟨decision, ?_⟩
      · rw [kept, found]
      · rw [happened, List.nil_append, happenings_resumed]
      · rw [happened]
        exact List.mem_singleton_self _
  | @resolving resolver β q p₀ k t g part unfinished mine after others same still happened begun =>
    have begun' : Begun id (pool.moved who ev p state) := begun_moved begun
    by_cases own : who = resolver
    · subst own
      rw [mine] at step
      obtain ⟨p', own, rfl⟩ := advance_bind unfinished step
      obtain ⟨_, t', alone, agree⟩ := part.blind.advance same.symm own
      obtain ⟨part', still'⟩ := part.step alone calm
      refine stage_of_partway history found awaiting finished apart part' after others agree.symm
        (still'.imp_left fun kept => ?_) ?_ begun'
      · rw [kept, still]
      · rw [incidentLog_moved, happened, happenings_append]
    · obtain ⟨outside, next⟩ | ⟨β', q', k', resolving, whole, _⟩ :=
        careful_step (others who own) standing step calm
      · have resolver_moved : (pool.moved who ev p state).requests resolver = p₀.bind k := by
          rw [Pool.moved_other pool ev p state (Ne.symm own), mine]
        refine .resolving part unfinished resolver_moved after (fun i other => ?_)
          (same.trans (unmoved outside)) still ((same_log outside).trans happened) begun'
        by_cases mover : i = who
        · subst mover
          rwa [Pool.moved_self]
        · rw [Pool.moved_other pool ev p state mover]
          exact others i other
      · rw [whole] at step
        obtain ⟨decision, _, rfl, _⟩ := resolving_step resolving step calm
        exact absurd begun (once decision rfl)
  | @resolved t g resolved careful same happened =>
    obtain ⟨outside, next⟩ | ⟨β, q, k, resolving, whole, after⟩ :=
      careful_step (careful who) standing step calm
    · exact .resolved resolved (moved_careful next fun i _ => careful i)
        (same.trans (unmoved outside)) ((same_log outside).trans happened)
    · rw [whole] at step
      obtain ⟨decision, _, rfl, _⟩ := resolving_step resolving step calm
      exact absurd (begun_of_resolved resolved happened) (once decision rfl)

theorem inv_step {pool : Requests ι} {who : ι} {m : Move ChatOutcome Error} {ev : BackendEvent}
    {p : Backend Response} {state : Database} (inv : Inv app s id row pool)
    (step : advance m (pool.requests who) pool.state = some (ev, p, state))
    (ok : oneResume app id pool who ev (pool.moved who ev p state)) :
    Inv app s id row (pool.moved who ev p state) := by
  obtain ⟨does, effect⟩ := (inv.does who).advance step
  refine ⟨fun i => ?_, ?_, stage_step history found awaiting finished apart inv step ok⟩
  · by_cases mine : i = who
    · subst mine
      rwa [Pool.moved_self]
    · rw [Pool.moved_other pool ev p state mine]
      exact inv.does i
  · obtain rfl | ⟨_, effect⟩ := effect
    · exact inv.born
    · exact lt_of_lt_of_le inv.born (nextIncidentId_of_effect effect)

/-- In every interleaving of any requests in which the incident's graph is resumed once, the pause
is resolved once when all of them have finished: by that decision, with all that it asks for. -/
theorem pause_resolved_once (asks : ι → Request) {pool : Requests ι}
    (reach : Reaches (oneResume app id) (serveAll app s asks) pool)
    (done : ∀ i, (pool.requests i).finished.isSome = true) :
    ResolvedOnce app id row pool.state (pool.history.map Prod.snd) ↔ Begun id pool := by
  constructor
  · exact fun once => begun_of_resolved once rfl
  · rintro ⟨decision, began⟩
    have inv := reach.invariant
      (fun _ _ _ _ _ _ inv step ok => inv_step history found awaiting finished apart inv step ok)
      (inv_start history found awaiting asks)
    cases inv.stage with
    | waiting _ _ quiet =>
      rw [quiet] at began
      cases began
    | @resolving who _ _ _ _ _ _ _ unfinished mine =>
      have ended := done who
      rw [mine, unfinished_bind unfinished] at ended
      cases ended
    | resolved once _ same happened => exact once.of_same same happened

end

def answers : Bool → Request
  | true => ⟨.decideApproval 1 lateApproval, promptServer⟩
  | false => ⟨.decideApproval 1 ⟨false, "bob", none⟩, promptServer⟩

def ownRows : PoolPermit Bool Label ChatOutcome Database Error Response := fun _ _ ev next =>
  ev.faultFree ∧ next.state.remediationExecutions.all (·.call.threadId == threadIdOf 1) = true

def ownResume : PoolPermit Bool Label ChatOutcome Database Error Response :=
  fun pool who ev next => ownRows pool who ev next ∧
    ((happenings 1 [ev]).any isResumed = true → ¬ (incidentLog pool 1).any isResumed = true)

instance (pool : Requests Bool) (who : Bool) (ev : BackendEvent) (next : Requests Bool) :
    Decidable (ownRows pool who ev next) := inferInstanceAs (Decidable (_ ∧ _))

instance (pool : Requests Bool) (who : Bool) (ev : BackendEvent) (next : Requests Bool) :
    Decidable (ownResume pool who ev next) := inferInstanceAs (Decidable (_ ∧ (_ → _)))

theorem calm_of_ownRows (pool : Requests Bool) (who : Bool) (ev : BackendEvent)
    (next : Requests Bool) (ok : ownRows pool who ev next) : calm checkoutApp 1 pool who ev next :=
  ⟨ok.1, fun row mem _ _ _ => beq_iff_eq.mp (List.all_eq_true.mp ok.2 row mem)⟩

theorem oneResume_of_ownResume (pool : Requests Bool) (who : Bool) (ev : BackendEvent)
    (next : Requests Bool) (ok : ownResume pool who ev next) :
    oneResume checkoutApp 1 pool who ev next := by
  refine ⟨calm_of_ownRows pool who ev next ok.1, ?_⟩
  rintro decision rfl begun
  refine ok.2 ?_ (begun_iff.mp begun)
  rw [happenings_resumed]
  rfl

def bothServed (permit : PoolPermit Bool Label ChatOutcome Database Error Response)
    [∀ pool who ev next, Decidable (permit pool who ev next)]
    (schedule : List (Bool × Move ChatOutcome Error)) (holds : Requests Bool → Bool)
    (s : Database) : Bool :=
  decide ((serveAll checkoutApp s answers).Permitted permit schedule) &&
    ((serveAll checkoutApp s answers).run schedule).any fun pool =>
      (pool.requests true).finished.isSome && (pool.requests false).finished.isSome && holds pool

theorem reaches_of_bothServed {permit : PoolPermit Bool Label ChatOutcome Database Error Response}
    [∀ pool who ev next, Decidable (permit pool who ev next)]
    {schedule : List (Bool × Move ChatOutcome Error)} {holds : Requests Bool → Bool}
    (served : bothServed permit schedule holds s = true) :
    ∃ pool, Reaches permit (serveAll checkoutApp s answers) pool ∧
      (∀ i, (pool.requests i).finished.isSome = true) ∧ holds pool = true := by
  obtain ⟨permitted, served⟩ := Bool.and_eq_true _ _ |>.mp served
  obtain ⟨pool, ran, done⟩ := Option.any_eq_true _ _ |>.mp served
  simp only [Bool.and_eq_true] at done
  refine ⟨pool, reaches_of_run (of_decide_eq_true permitted) ran, ?_, done.2⟩
  rintro (_ | _)
  · exact done.1.2
  · exact done.1.1

def inTurn : List (Bool × Move ChatOutcome Error) :=
  approvalSteps.map (true, ·) ++ [(false, .perform)]

theorem pause_resolved_once_in_turn : ∃ (s : Database) (h : EventLog) (row : Incident)
    (pool : Requests Bool), TurnHistory checkoutApp s h ∧ s.incidents 1 = some row ∧
    row.status = .awaitingApproval ∧
    Reaches (oneResume checkoutApp 1) (serveAll checkoutApp s answers) pool ∧
    (∀ i, (pool.requests i).finished.isSome = true) ∧
    ResolvedOnce checkoutApp 1 row pool.state (pool.history.map Prod.snd) := by
  have played : ((playCalls anyFaults (serve checkoutApp) pausingCalls Database.empty).any
      fun after => isWaiting after.1 after.2 &&
        bothServed ownResume inTurn (fun pool => (incidentLog pool 1).any isResumed) after.1) =
      true := by
    decide +kernel
  obtain ⟨⟨s, h⟩, ran, facts⟩ := Option.any_eq_true _ _ |>.mp played
  obtain ⟨waits, served⟩ := Bool.and_eq_true _ _ |>.mp facts
  obtain ⟨row, found, awaiting, finished, apart, _⟩ := waiting_of_isWaiting waits
  have history : TurnHistory checkoutApp s h := .of_history (served_of_playCalls .start ran)
  obtain ⟨pool, reach, done, begun⟩ := reaches_of_bothServed served
  have reach := reach.mono oneResume_of_ownResume
  exact ⟨s, h, row, pool, history, found, awaiting, reach, done,
    (pause_resolved_once history found awaiting finished apart answers reach done).mpr
      (begun_iff.mpr begun)⟩

def overlapping : List (Bool × Move ChatOutcome Error) :=
  (true, .perform) :: (false, .perform) :: ((approvalSteps.drop 1).take 7).map (true, ·) ++
    (steps 9).map (false, ·) ++ (approvalSteps.drop 8).map (true, ·)

def decidedBefore (pool : Requests Bool) : Bool :=
  (pool.state.auditOf 1).dropLast.getLast?.any (·.toolName == "approval_decision")

theorem pause_resolved_twice : ¬ ∀ s h, TurnHistory checkoutApp s h → ∀ id row,
    s.incidents id = some row → row.status = .awaitingApproval → ¬ Unfinished h id →
    KeysApart checkoutApp.py (threadIdOf id) s → ∀ (asks : Bool → Request) pool,
      Reaches (calm checkoutApp id) (serveAll checkoutApp s asks) pool →
      (∀ i, (pool.requests i).finished.isSome = true) → Begun id pool →
      ResolvedOnce checkoutApp id row pool.state (pool.history.map Prod.snd) := by
  intro once
  have played : ((playCalls anyFaults (serve checkoutApp) pausingCalls Database.empty).any
      fun after => isWaiting after.1 after.2 && bothServed ownRows overlapping (fun pool =>
        (incidentLog pool 1).any isResumed && decidedBefore pool) after.1) = true := by
    decide +kernel
  obtain ⟨⟨s, h⟩, ran, facts⟩ := Option.any_eq_true _ _ |>.mp played
  obtain ⟨waits, served⟩ := Bool.and_eq_true _ _ |>.mp facts
  obtain ⟨row, found, awaiting, finished, apart, _⟩ := waiting_of_isWaiting waits
  have history : TurnHistory checkoutApp s h := .of_history (served_of_playCalls .start ran)
  obtain ⟨pool, reach, done, facts⟩ := reaches_of_bothServed served
  obtain ⟨begun, twice⟩ := Bool.and_eq_true _ _ |>.mp facts
  obtain ⟨_, _, _, _, _, by'⟩ := once s h history 1 row found awaiting finished apart answers pool
    (reach.mono calm_of_ownRows) done (begun_iff.mpr begun)
  obtain ⟨now, values, asker, asking, rows⟩ := by'.recorded
  rw [decidedBefore, rows] at twice
  simp [List.dropLast_append_of_ne_nil, requestRow] at twice

end OpsPilot.PauseResolution
