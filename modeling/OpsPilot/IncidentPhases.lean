import OpsPilot.IncidentTurns
import OpsPilot.InvestigationOutcomes

/-! The life of an incident over a history of calls that do not overlap: opened, stranded in a
run, ended without a pause, paused at the policy gate, resolved. Each phase says what the
incident's audit rows and its thread's checkpoint are. -/

namespace OpsPilot.IncidentPhases
open JsonText AgentSchemas SyntheticEnvironment InvestigationState Models RunTrace StepEffects
open GraphNodes Investigation IncidentApi GraphRun PolicyGate InvestigationOutcomes IncidentTurns
open DurableProgram CallHistory

variable {app : App} {permit : Permit Label ChatOutcome Database Error}

/-- Events, each next to the request it belongs to. -/
abbrev EventLog := List (Request × BackendEvent)

def Decides (h : EventLog) (id : ℕ) (decision : Json) : Prop :=
  ∃ request, (request, .performed (.resume (threadIdOf id) decision)) ∈ h ∧
    RealDecision request id decision

def Unresumed (h : EventLog) (id : ℕ) : Prop :=
  ∀ request decision, (request, .performed (.resume (threadIdOf id) decision)) ∉ h

structure Decided (h : EventLog) (id : ℕ) (values : GraphState) : Prop where
  verdict : values.policyVerdict = some .requireApproval
  decision : ∃ decision, values.approvalDecision = some decision ∧ Decides h id decision

/-- Where the thread of a paused incident stands: at the gate, or further if a call that
resumed it was cut short. -/
inductive AtGate (h : EventLog) (id : ℕ) : Saved → Prop where
  | waiting {values diagnosis} (found : values.diagnosis = some diagnosis)
      (approval : policy diagnosis.recommendedAction = .requireApproval) :
      AtGate h id ⟨values, some .evaluatePolicy⟩
  | deciding {values} (decided : Decided h id values) : AtGate h id ⟨values, some .decide⟩
  | decided {values status} (decided : Decided h id values) (ended : values.status = some status)
      (closed : status ≠ .awaitingApproval) : AtGate h id ⟨values, none⟩

/-- A trail in order, of tools that the model named. -/
structure Sound (h : EventLog) (values : GraphState) : Prop where
  stepped : Stepped values
  named : ∀ record ∈ values.evidenceTrail, record.toolName ∈ receivedNames (h.map Prod.snd)

structure Asked (h : EventLog) (id : ℕ) (values : GraphState) (request : Request)
    (result : InvestigationResult) : Prop where
  shown : ∃ payload, result.pendingApproval = some payload ∧
    (request, .performed (.interrupt (threadIdOf id) payload)) ∈ h
  steps : result.stepsUsed = values.stepsUsed

structure Answered (h : EventLog) (id : ℕ) (values : GraphState) (request : Request)
    (result : InvestigationResult) : Prop where
  applied : (request, .performed (.applyResult id result)) ∈ h
  verdict : result.policyVerdict = some .requireApproval
  decision : ∃ decision, result.approvalDecision = some decision ∧ Decides h id decision
  steps : result.stepsUsed = values.stepsUsed

def evidenceRows (id : ℕ) (now : ℤ) (values : GraphState) : List AuditLogEntry :=
  values.evidenceTrail.map (evidenceRow id now)

structure Blank (db : Database) (h : EventLog) (id : ℕ) : Prop where
  rows : db.auditOf id = []
  checkpoint : db.checkpoints (threadIdOf id) = none
  unpaused : ∀ request payload,
    (request, .performed (.interrupt (threadIdOf id) payload)) ∉ h

inductive Phase (db : Database) (h : EventLog) (id : ℕ) : Prop where
  | unborn (absent : db.incidents id = none) (blank : Blank db h id)
  | opened {row} (found : db.incidents id = some row) (status : row.status = .opened)
      (blank : Blank db h id)
  | stranded {row} (found : db.incidents id = some row) (status : row.status = .running)
      (rows : db.auditOf id = [])
  | ended {row values now} (found : db.incidents id = some row)
      (closed : isClosed row.status = true)
      (stored : db.checkpoints (threadIdOf id) = some ⟨values, none⟩) (sound : Sound h values)
      (unpaused : ∀ request payload,
        (request, .performed (.interrupt (threadIdOf id) payload)) ∉ h)
      (rows : db.auditOf id = evidenceRows id now values)
  | paused {row saved now request result} (found : db.incidents id = some row)
      (awaiting : row.status = .awaitingApproval)
      (stored : db.checkpoints (threadIdOf id) = some saved) (gate : AtGate h id saved)
      (sound : Sound h saved.values) (asked : Asked h id saved.values request result)
      (rows : db.auditOf id =
        evidenceRows id now saved.values ++ [requestRow request.server id result])
  | resolved {row values now request result request' result'} (found : db.incidents id = some row)
      (closed : isClosed row.status = true)
      (stored : db.checkpoints (threadIdOf id) = some ⟨values, none⟩) (sound : Sound h values)
      (asked : Asked h id values request result)
      (answered : Answered h id values request' result')
      (rows : db.auditOf id = evidenceRows id now values ++
        [requestRow request.server id result, decisionRow request'.server id result'])

theorem threadIdOf_injective : Function.Injective threadIdOf := by
  intro a b same
  have digits : Nat.toDigits 10 a = Nat.toDigits 10 b := by
    rw [← Nat.toList_repr, ← Nat.toList_repr]
    exact congrArg String.toList ((String.append_right_inj _).mp same)
  rw [← Nat.ofDigitChars_ten_toDigits (n := a), digits, Nat.ofDigitChars_ten_toDigits]

section
variable {h : EventLog} {id : ℕ} {values : GraphState}

theorem Decides.grow {decision : Json} (decides : Decides h id decision) (g : EventLog) :
    Decides (h ++ g) id decision := by
  obtain ⟨request, mem, real⟩ := decides
  exact ⟨request, List.mem_append_left g mem, real⟩

theorem Unresumed.grow {request : Request} {g : List BackendEvent} (unresumed : Unresumed h id)
    (quiet : ∀ decision, .performed (.resume (threadIdOf id) decision) ∉ g) :
    Unresumed (h ++ g.map (request, ·)) id := by
  intro request' decision mem
  rcases List.mem_append.mp mem with old | new
  · exact unresumed request' decision old
  · obtain ⟨ev, event, same⟩ := List.mem_map.mp new
    cases same
    exact quiet decision event

theorem Decided.grow (decided : Decided h id values) (g : EventLog) :
    Decided (h ++ g) id values := by
  obtain ⟨verdict, decision, same, decides⟩ := decided
  exact ⟨verdict, decision, same, decides.grow g⟩

theorem AtGate.grow {saved : Saved} (gate : AtGate h id saved) (g : EventLog) :
    AtGate (h ++ g) id saved := by
  cases gate with
  | waiting found approval => exact .waiting found approval
  | deciding decided => exact .deciding (decided.grow g)
  | decided decided ended closed => exact .decided (decided.grow g) ended closed

theorem Sound.grow (sound : Sound h values) (g : EventLog) : Sound (h ++ g) values := by
  refine ⟨sound.stepped, fun record mem => ?_⟩
  have named := sound.named record mem
  rw [List.map_append, receivedNames, responses_append, List.flatMap_append]
  exact List.mem_append_left _ named

theorem Asked.grow {request : Request} {result : InvestigationResult}
    (asked : Asked h id values request result) (g : EventLog) :
    Asked (h ++ g) id values request result := by
  obtain ⟨⟨payload, shown, mem⟩, steps⟩ := asked
  exact ⟨⟨payload, shown, List.mem_append_left g mem⟩, steps⟩

theorem Answered.grow {request : Request} {result : InvestigationResult}
    (answered : Answered h id values request result) (g : EventLog) :
    Answered (h ++ g) id values request result := by
  obtain ⟨applied, verdict, ⟨decision, same, decides⟩, steps⟩ := answered
  exact ⟨List.mem_append_left g applied, verdict, ⟨decision, same, decides.grow g⟩, steps⟩

end

/-- What the phase of an incident is read off. -/
structure SameFor (id : ℕ) (s u : Database) : Prop where
  row : u.incidents id = s.incidents id
  rows : u.auditOf id = s.auditOf id
  checkpoint : u.checkpoints (threadIdOf id) = s.checkpoints (threadIdOf id)

theorem SameFor.refl (id : ℕ) (s : Database) : SameFor id s s := ⟨rfl, rfl, rfl⟩

theorem SameFor.trans {id : ℕ} {a b c : Database} (first : SameFor id a b)
    (later : SameFor id b c) : SameFor id a c :=
  ⟨later.row.trans first.row, later.rows.trans first.rows,
    later.checkpoint.trans first.checkpoint⟩

theorem Phase.frame {s u : Database} {h g : EventLog} {id : ℕ} (phase : Phase s h id)
    (same : SameFor id s u)
    (silent : ∀ request payload, (request, .performed (.interrupt (threadIdOf id) payload)) ∉ g) :
    Phase u (h ++ g) id := by
  have unpaused : (∀ request payload,
      (request, .performed (.interrupt (threadIdOf id) payload)) ∉ h) → ∀ request payload,
      (request, .performed (.interrupt (threadIdOf id) payload)) ∉ h ++ g := by
    intro before request payload mem
    exact (List.mem_append.mp mem).elim (before request payload) (silent request payload)
  have blank : Blank s h id → Blank u (h ++ g) id := fun blank =>
    ⟨same.rows.trans blank.rows, same.checkpoint.trans blank.checkpoint, unpaused blank.unpaused⟩
  cases phase with
  | unborn absent empty => exact .unborn (same.row.trans absent) (blank empty)
  | opened found status empty => exact .opened (same.row.trans found) status (blank empty)
  | stranded found status rows => exact .stranded (same.row.trans found) status (same.rows.trans rows)
  | ended found closed stored sound before rows =>
    exact .ended (same.row.trans found) closed (same.checkpoint.trans stored) (sound.grow g)
      (unpaused before) (same.rows.trans rows)
  | paused found awaiting stored gate sound asked rows =>
    exact .paused (same.row.trans found) awaiting (same.checkpoint.trans stored) (gate.grow g)
      (sound.grow g) (asked.grow g) (same.rows.trans rows)
  | resolved found closed stored sound asked answered rows =>
    exact .resolved (same.row.trans found) closed (same.checkpoint.trans stored) (sound.grow g)
      (asked.grow g) (answered.grow g) (same.rows.trans rows)

def foreign (id : ℕ) : Label → Prop
  | .createIncident _ => False
  | .commitRunning j => j ≠ id
  | .applyResult j _ => j ≠ id
  | .saveCheckpoint threadId => threadId ≠ threadIdOf id
  | .interrupt threadId _ => threadId ≠ threadIdOf id
  | _ => True

theorem foreign_of_inResume {id j : ℕ} (other : j ≠ id) {l : Label}
    (inside : inResume (threadIdOf j) l) : foreign id l := by
  have different : threadIdOf j ≠ threadIdOf id := fun same => other (threadIdOf_injective same)
  obtain inside | ⟨_, rfl⟩ := inside
  · cases l with
    | saveCheckpoint t | interrupt t _ =>
      cases inside
      exact different
    | createIncident | commitRunning | applyResult => exact inside.elim
    | _ => trivial
  · trivial

@[simp] theorem auditOf_append (db : Database) (rows : List AuditLogEntry) (id : ℕ) :
    Database.auditOf { db with auditLog := db.auditLog ++ rows } id =
      db.auditOf id ++ rows.filter (·.incidentId == id) := by
  simp [Database.auditOf]

theorem updateIncident_other (db : Database) {id j : ℕ} (other : j ≠ id)
    (change : Incident → Incident) :
    (db.updateIncident j change).incidents id = db.incidents id := by
  simp [Database.updateIncident, other.symm]

@[simp] theorem addMemory_auditOf (settings : Settings) (server : Server) (serviceId id : ℕ)
    (result : InvestigationResult) (db : Database) (j : ℕ) :
    (addMemory settings server serviceId id result db).auditOf j = db.auditOf j := by
  unfold addMemory
  split <;> rfl

@[simp] theorem addMemory_checkpoints (settings : Settings) (server : Server) (serviceId id : ℕ)
    (result : InvestigationResult) (db : Database) :
    (addMemory settings server serviceId id result db).checkpoints = db.checkpoints := by
  unfold addMemory
  split <;> rfl

theorem filter_evidenceRow (id j : ℕ) (now : ℤ) (records : List ToolCallRecord) :
    (records.map (evidenceRow j now)).filter (·.incidentId == id) =
      if j = id then records.map (evidenceRow j now) else [] := by
  split
  case isTrue same => exact List.filter_eq_self.mpr (by simp [evidenceRow, same])
  case isFalse other => exact List.filter_eq_nil_iff.mpr (by simp [evidenceRow, other])

theorem auditOf_added {s u : Database} {id j : ℕ} {now : ℤ} {records : List ToolCallRecord}
    {rows : List AuditLogEntry}
    (log : u.auditLog = s.auditLog ++ (records.map (evidenceRow j now) ++ rows))
    (mine : ∀ row ∈ rows, row.incidentId = j) : u.auditOf id =
      s.auditOf id ++ if j = id then records.map (evidenceRow j now) ++ rows else [] := by
  rw [Database.auditOf, log, List.filter_append, List.filter_append, filter_evidenceRow]
  split
  case isTrue same =>
    have kept : rows.filter (·.incidentId == id) = rows :=
      List.filter_eq_self.mpr fun row mem => by simp [mine row mem, same]
    rw [kept]
    rfl
  case isFalse other =>
    have dropped : rows.filter (·.incidentId == id) = [] :=
      List.filter_eq_nil_iff.mpr fun row mem => by simp [mine row mem, other]
    rw [dropped, List.append_nil]
    rfl

theorem auditOf_pauseIncident (server : Server) (result : InvestigationResult) (db : Database)
    (id j : ℕ) : (pauseIncident server j result db).auditOf id = db.auditOf id ++
      if j = id then (result.evidenceTrail.drop (db.auditOf j).length).map
        (evidenceRow j server.now) ++ [requestRow server j result] else [] := by
  refine auditOf_added ?_ (by simp [requestRow])
  simp [pauseIncident, addAudit, persistNewEvidence, Database.updateIncident]

theorem auditOf_closeIncident (settings : Settings) (server : Server) (scenario : Scenario)
    (incident : Incident) (result : InvestigationResult) (db : Database) (id j : ℕ) :
    (closeIncident settings server scenario j incident result db).auditOf id = db.auditOf id ++
      if j = id then (result.evidenceTrail.drop (db.auditOf j).length).map
        (evidenceRow j server.now) ++
          (if incident.status = .awaitingApproval then [decisionRow server j result] else [])
      else [] := by
  unfold closeIncident
  rw [addMemory_auditOf]
  split
  case isTrue =>
    refine auditOf_added ?_ (by simp [decisionRow])
    simp [addAudit, persistNewEvidence, Database.updateIncident]
  case isFalse =>
    refine auditOf_added ?_ (by simp)
    simp [persistNewEvidence, Database.updateIncident]

theorem sameFor_of_effect {l : Label} {s u : Database} {id : ℕ} (effect : Effect l s u)
    (other : foreign id l) : SameFor id s u := by
  cases l with
  | createIncident => exact other.elim
  | commitRunning j =>
    obtain ⟨server, rfl⟩ := effect
    exact ⟨updateIncident_other s other _, rfl, rfl⟩
  | saveCheckpoint threadId =>
    obtain ⟨checkpoint, rfl⟩ := effect
    exact ⟨rfl, rfl, by simp [Database.saveCheckpoint, Ne.symm other]⟩
  | commit row => obtain rfl | ⟨_, rfl⟩ := effect <;> exact ⟨rfl, rfl, rfl⟩
  | applyResult j result =>
    obtain ⟨_, server, rfl⟩ | ⟨_, settings, server, scenario, incident, rfl⟩ := effect
    · refine ⟨updateIncident_other _ other _, ?_, rfl⟩
      rw [auditOf_pauseIncident, if_neg other, List.append_nil]
    · obtain ⟨change, rows, _⟩ := closeIncident_incidents settings server scenario j incident result s
      refine ⟨?_, ?_, ?_⟩
      · rw [rows, updateIncident_other _ other]
      · rw [auditOf_closeIncident, if_neg other, List.append_nil]
      · unfold closeIncident
        rw [addMemory_checkpoints]
        split <;> rfl
  | _ =>
    cases effect
    exact .refl id _

theorem sameFor_of_does {α : Type} {p : Backend α} {s u : Database} {o : Outcome Error α}
    {g : List BackendEvent} {id : ℕ}
    (does : Does (foreign id) p) (run : Runs .alone permit p s o u g) :
    SameFor id s u ∧ ∀ payload, .performed (.interrupt (threadIdOf id) payload) ∉ g := by
  refine ⟨?_, ?_⟩
  · refine runs_of_guarantees (R := SameFor id) (SameFor.refl id) SameFor.trans ?_ does run
    exact fun _ _ _ step => sameFor_of_effect step.2 step.1
  · intro payload mem
    exact labels_of_does does run _ mem rfl

/-- An answered gate records the answer. -/
theorem policy_decided {deps : NodeDeps} {values : GraphState} {diagnosis : SubmitDiagnosisArgs}
    {decision : Json} {s t : Database} {update : GraphUpdate} {g : List BackendEvent}
    (found : values.diagnosis = some diagnosis)
    (approval : policy diagnosis.recommendedAction = .requireApproval)
    (ends : PolicyEnds .alone permit app deps values (some decision) s
      (.returned (.update update)) t g) :
    (values.merge update).policyVerdict = some .requireApproval ∧
      (values.merge update).approvalDecision = some decision := by
  rw [← verdictOf_eq deps] at approval
  cases ends with
  | undiagnosed missing => cases found.symm.trans missing
  | idle found' =>
    cases found.symm.trans found'
    rw [approval]
    exact ⟨rfl, rfl⟩
  | ran found' =>
    cases found.symm.trans found'
    rw [approval]
    exact ⟨rfl, rfl⟩
  | stopped _ _ stop => cases stop

theorem Decided.decide {h : EventLog} {id : ℕ} {deps : NodeDeps} {values : GraphState}
    (decided : Decided h id values) :
    AtGate h id ⟨values.merge (decide deps values), none⟩ :=
  .decided ⟨decided.verdict, decided.decision⟩ rfl (finalStatus_closed deps values)

structure Resumed (h : EventLog) (id : ℕ) (saved : Saved)
    (o : Outcome Error InvestigationResult) (u : Database) (saved' : Saved) : Prop where
  stored : u.checkpoints (threadIdOf id) = some saved'
  gate : AtGate h id saved'
  carried : Carried saved.values saved'.values
  returned : ∀ result, o = .returned result → saved'.next = none ∧ ∃ scenario status,
    saved'.values.status = some status ∧ result = finishedResult scenario saved'.values status

theorem gate_resumed {request : Request} {id : ℕ} {h : EventLog} {scenario : Scenario}
    {decision : Json} {s u : Database} {o : Outcome Error InvestigationResult}
    {g : List BackendEvent} {saved : Saved} (gate : AtGate h id saved)
    (stored : s.checkpoints (threadIdOf id) = some saved) (real : RealDecision request id decision)
    (run : Runs .alone permit (resumeInvestigation app scenario (threadIdOf id) decision)
      s o u g) :
    ∃ saved', Resumed (h ++ g.map (request, ·)) id saved o u saved' := by
  have past : pastGate saved.next := by cases gate <;> trivial
  obtain ⟨rfl, stop⟩ | ⟨resumed, _, advances⟩ := resume_advances run stored past
  · exact ⟨saved, stored, gate.grow _, Carried.refl _, fun result same => absurd same (stop result)⟩
  have decides : Decides (h ++ g.map (request, ·)) id decision :=
    ⟨request, List.mem_append_right _ (List.mem_map_of_mem resumed), real⟩
  have judged : ∀ {values t g₁} {update : GraphUpdate},
      AtGate h id ⟨values, some .evaluatePolicy⟩ → PolicyEnds .alone permit app
        (resumeDeps app scenario (threadIdOf id)) values (some decision) s
        (.returned (.update update)) t g₁ →
      Decided (h ++ g.map (request, ·)) id (values.merge update) := by
    rintro values t g₁ update ⟨found, approval⟩ ends
    obtain ⟨verdict, answer⟩ := policy_decided found approval ends
    exact ⟨verdict, decision, answer, decides⟩
  cases advances with
  | unmoved stop =>
    exact ⟨saved, stored, gate.grow _, Carried.refl _, fun result same => absurd same (stop result)⟩
  | executed ends stop =>
    exact ⟨_, (congrFun (policy_stays ends) _).trans stored, gate.grow _, Carried.refl _,
      fun result same => absurd same (stop result)⟩
  | judged ends stop =>
    exact ⟨_, saveCheckpoint_self _ _ _, .deciding (judged gate ends), carried_policy ends,
      fun result same => absurd same (stop result)⟩
  | finished ends =>
    refine ⟨_, saveCheckpoint_self _ _ _, (judged gate ends).decide,
      (carried_policy ends).trans (carried_decide _ _), ?_⟩
    rintro _ ⟨⟩
    exact ⟨rfl, _, _, rfl, rfl⟩
  | decided =>
    cases gate with
    | deciding decided =>
      refine ⟨_, saveCheckpoint_self _ _ _, (decided.grow _).decide, carried_decide _ _, ?_⟩
      rintro _ ⟨⟩
      exact ⟨rfl, _, _, rfl, rfl⟩
  | again ended =>
    refine ⟨_, stored, gate.grow _, Carried.refl _, ?_⟩
    rintro _ ⟨⟩
    exact ⟨rfl, _, _, ended, rfl⟩

theorem Sound.of_carried {h : EventLog} {before after : GraphState} (sound : Sound h before)
    (carried : Carried before after) : Sound h after :=
  ⟨sound.stepped.of_carried carried, carried.evidenceTrail ▸ sound.named⟩

@[simp] theorem pauseIncident_checkpoints (server : Server) (id : ℕ)
    (result : InvestigationResult) (db : Database) :
    (pauseIncident server id result db).checkpoints = db.checkpoints := rfl

@[simp] theorem closeIncident_checkpoints (settings : Settings) (server : Server)
    (scenario : Scenario) (id : ℕ) (incident : Incident) (result : InvestigationResult)
    (db : Database) :
    (closeIncident settings server scenario id incident result db).checkpoints =
      db.checkpoints := by
  unfold closeIncident
  rw [addMemory_checkpoints]
  split <;> rfl

theorem pauseIncident_row {server : Server} {id : ℕ} {result : InvestigationResult}
    {db : Database} {row : Incident} (found : db.incidents id = some row) :
    ∃ row', (pauseIncident server id result db).incidents id = some row' ∧
      row'.status = .awaitingApproval := by
  simp [pauseIncident, addAudit, Database.updateIncident, persistNewEvidence, found]

theorem closeIncident_row {settings : Settings} {server : Server} {scenario : Scenario} {id : ℕ}
    {incident row : Incident} {result : InvestigationResult} {db : Database}
    (found : db.incidents id = some row) (closed : result.status ≠ .awaitingApproval) :
    ∃ row', (closeIncident settings server scenario id incident result db).incidents id =
      some row' ∧ isClosed row'.status = true := by
  obtain ⟨change, rows, status⟩ :=
    closeIncident_incidents settings server scenario id incident result db
  refine ⟨change row, ?_, ?_⟩
  · rw [rows]
    simp [Database.updateIncident, found]
  · rw [(status row).2]
    generalize result.status = reported at closed
    cases reported <;> first | rfl | exact absurd rfl closed

/-- A run that was applied has ended, or is paused at the gate. -/
theorem Phase.ran {h : EventLog} {id : ℕ} {request : Request} {row : Incident}
    {scenario : Scenario} {result : InvestigationResult} {s t u : Database} {g : List BackendEvent}
    (blank : Blank s h id) (running : s.incidents id = some row) (status : row.status = .running)
    (run : Runs .alone permit (runInvestigation app scenario (threadIdOf id)) s (.returned result)
      t g) (applied : Applied app request.server id row result t u) {g' : List BackendEvent}
    (inside : ∀ ev ∈ g, ev ∈ g') (silent : pauses g = [] → pauses g' = []) :
    Phase u (h ++ g'.map (request, ·)) id := by
  have untouched := untouched_of_graph
    ((runInvestigation_does app scenario _ {} true).mono fun _ => .inl) run
  have found : t.incidents id = some row := by rw [untouched.incidents, running]
  have rows : t.auditOf id = [] := by
    rw [Database.auditOf, untouched.auditLog]
    exact blank.rows
  obtain ⟨values, stepped, named, trail, steps, returned⟩ := run_returned run blank.checkpoint
  have sound : Sound (h ++ g'.map (request, ·)) values := by
    refine ⟨stepped, fun record mem => ?_⟩
    obtain ⟨response, received, name⟩ := List.mem_flatMap.mp (named record mem)
    obtain ⟨ev, event, same⟩ := List.mem_filterMap.mp received
    refine List.mem_flatMap.mpr ⟨response, List.mem_filterMap.mpr ⟨ev, ?_, same⟩, name⟩
    have tagged : ev ∈ (g'.map (request, ·)).map Prod.snd := by simpa using inside ev event
    rw [List.map_append]
    exact List.mem_append_right _ tagged
  cases returned with
  | ended closed saved unpaused =>
    cases applied with
    | paused pausing => exact absurd pausing closed
    | closed scenario =>
      obtain ⟨row', found', closed'⟩ := closeIncident_row found closed
      have rows' : (closeIncident app.settings request.server scenario id row result t).auditOf id =
          evidenceRows id request.server.now values := by
        rw [auditOf_closeIncident, rows, if_pos rfl, status, trail]
        simp [evidenceRows]
      refine .ended found' closed' ?_ sound ?_ rows'
      · rw [closeIncident_checkpoints, saved]
      · intro request' payload mem
        rcases List.mem_append.mp mem with before | during
        · exact blank.unpaused request' payload before
        · obtain ⟨ev, event, same⟩ := List.mem_map.mp during
          cases same
          have shown : payload ∈ pauses g' := List.mem_filterMap.mpr ⟨_, event, rfl⟩
          rw [silent unpaused] at shown
          cases shown
  | paused awaiting saved diagnosed approval shown asked =>
    cases applied with
    | closed _ closing => exact absurd awaiting closing
    | paused =>
      obtain ⟨row', found', awaiting'⟩ := pauseIncident_row found
      have rows' : (pauseIncident request.server id result t).auditOf id =
          evidenceRows id request.server.now values ++ [requestRow request.server id result] := by
        rw [auditOf_pauseIncident, rows, if_pos rfl, trail]
        simp [evidenceRows]
      refine .paused found' awaiting' ?_ (.waiting diagnosed approval) sound
        ⟨⟨_, shown, ?_⟩, steps⟩ rows'
      · rw [pauseIncident_checkpoints, saved]
      · exact List.mem_append_right _ (List.mem_map_of_mem (inside _ asked))

theorem Phase.of_awaiting {s : Database} {h : EventLog} {id : ℕ} {row : Incident}
    (phase : Phase s h id) (found : s.incidents id = some row)
    (awaiting : row.status = .awaitingApproval) : ∃ saved now asker asking,
      s.checkpoints (threadIdOf id) = some saved ∧ AtGate h id saved ∧ Sound h saved.values ∧
      Asked h id saved.values asker asking ∧
      s.auditOf id = evidenceRows id now saved.values ++ [requestRow asker.server id asking] := by
  cases phase with
  | unborn absent => cases absent.symm.trans found
  | opened same other | stranded same other =>
    cases same.symm.trans found
    cases awaiting.symm.trans other
  | ended same closed | resolved same closed =>
    cases same.symm.trans found
    rw [awaiting] at closed
    cases closed
  | paused _ _ stored gate sound asked rows => exact ⟨_, _, _, _, stored, gate, sound, asked, rows⟩

/-- A resume of it returns a result that closes it. -/
theorem Phase.closing {s u : Database} {h : EventLog} {id : ℕ} {request : Request} {row : Incident}
    {scenario : Scenario} {decision : Json} {result : InvestigationResult} {g : List BackendEvent}
    (phase : Phase s h id) (found : s.incidents id = some row)
    (awaiting : row.status = .awaitingApproval) (real : RealDecision request id decision)
    (run : Runs .alone permit (resumeInvestigation app scenario (threadIdOf id) decision) s
      (.returned result) u g) : result.status ≠ .awaitingApproval := by
  obtain ⟨saved, _, _, _, stored, gate, _⟩ := phase.of_awaiting found awaiting
  obtain ⟨saved', resumed⟩ := gate_resumed gate stored real run
  obtain ⟨ends, scenario', status, ended, rfl⟩ := resumed.returned result rfl
  obtain ⟨values, next⟩ := saved'
  cases ends
  cases resumed.gate with
  | decided _ ended' closed =>
    cases ended.symm.trans ended'
    exact closed

/-- A paused incident stays paused while its resumes are cut short, and one that is applied
resolves it. -/
theorem Phase.resumed {h : EventLog} {id : ℕ} {request : Request} {row : Incident}
    {scenario : Scenario} {decision : Json} {o : Outcome Error InvestigationResult}
    {s u : Database} {g : List BackendEvent} (phase : Phase s h id)
    (found : s.incidents id = some row) (status : row.status = .awaitingApproval)
    (real : RealDecision request id decision)
    (run : Runs .alone permit (resumeInvestigation app scenario (threadIdOf id) decision)
      s o u g) :
    Phase u (h ++ g.map (request, ·)) id ∧ ∀ result, o = .returned result → ∀ v,
      Applied app request.server id row result u v →
        Phase v (h ++ (g ++ [Event.performed (Label.applyResult id result)]).map (request, ·)) id := by
  have untouched := untouched_of_graph (resumeInvestigation_does app scenario _ decision {}) run
  have found' : u.incidents id = some row := by rw [untouched.incidents, found]
  obtain ⟨saved, now, asker, asking, stored, gate, sound, asked, rows⟩ :=
    phase.of_awaiting found status
  obtain ⟨saved', resumed⟩ := gate_resumed gate stored real run
  have sound' := sound.of_carried resumed.carried
  have asked' : Asked h id saved'.values asker asking :=
    ⟨asked.shown, asked.steps.trans resumed.carried.stepsUsed.symm⟩
  have rows' : u.auditOf id =
      evidenceRows id now saved'.values ++ [requestRow asker.server id asking] := by
    rw [Database.auditOf, untouched.auditLog, evidenceRows, resumed.carried.evidenceTrail]
    exact rows
  refine ⟨.paused found' status resumed.stored resumed.gate (sound'.grow _) (asked'.grow _)
    rows', ?_⟩
  intro result returned v applied
  obtain ⟨stopped, scenario', reported, ended, rfl⟩ := resumed.returned result returned
  obtain ⟨values, next⟩ := saved'
  cases stopped
  cases resumed.gate with
  | decided decided ended' closed =>
    cases ended.symm.trans ended'
    cases applied with
    | paused pausing => exact absurd pausing closed
    | closed scenario =>
      have ending : (finishedResult scenario' values reported).status ≠ .awaitingApproval := closed
      obtain ⟨row', found'', closed'⟩ := closeIncident_row found' ending
      have later : h ++ (g ++ [Event.performed (Label.applyResult id
          (finishedResult scenario' values reported))]).map (request, ·) =
          h ++ g.map (request, ·) ++
            [(request, .performed (.applyResult id (finishedResult scenario' values reported)))] := by
        rw [List.map_append, List.append_assoc]
        rfl
      rw [later]
      have rows'' : (closeIncident app.settings request.server scenario id row
          (finishedResult scenario' values reported) u).auditOf id = evidenceRows id now values ++
            [requestRow asker.server id asking,
              decisionRow request.server id (finishedResult scenario' values reported)] := by
        rw [auditOf_closeIncident, rows', if_pos rfl, if_pos status]
        simp [evidenceRows, finishedResult]
      refine .resolved found'' closed' ?_ ((sound'.grow _).grow _) ((asked'.grow _).grow _)
        ⟨?_, decided.verdict, ?_, rfl⟩ rows''
      · rw [closeIncident_checkpoints, resumed.stored]
      · exact List.mem_append_right _ List.mem_cons_self
      · obtain ⟨answer, same, decides⟩ := decided.decision
        exact ⟨answer, same, decides.grow _⟩

structure Phases (db : Database) (h : EventLog) : Prop where
  unused : ∀ id ≥ db.nextIncidentId, db.incidents id = none
  phase : ∀ id, Phase db h id

/-- A turn of one incident. -/
theorem Phases.turn {s u : Database} {h g : EventLog} {j : ℕ} {row : Incident}
    (phases : Phases s h) (found : s.incidents j = some row)
    (next : u.nextIncidentId = s.nextIncidentId)
    (others : ∀ id, j ≠ id → SameFor id s u ∧
      ∀ request payload, (request, .performed (.interrupt (threadIdOf id) payload)) ∉ g)
    (own : Phase u (h ++ g) j) : Phases u (h ++ g) := by
  refine ⟨fun id high => ?_, fun id => ?_⟩
  · rw [next] at high
    have missing := phases.unused id high
    have different : j ≠ id := by
      rintro rfl
      cases missing.symm.trans found
    rw [(others id different).1.row, missing]
  · by_cases same : j = id
    · exact same ▸ own
    · obtain ⟨kept, silent⟩ := others id same
      exact (phases.phase id).frame kept silent

theorem unpaused_of_labels {id : ℕ} {request : Request} {g : List BackendEvent}
    (labels : ∀ payload, .performed (.interrupt (threadIdOf id) payload) ∉ g) (request' : Request)
    (payload : Json) :
    (request', .performed (.interrupt (threadIdOf id) payload)) ∉ g.map (request, ·) := by
  intro mem
  obtain ⟨ev, event, same⟩ := List.mem_map.mp mem
  cases same
  exact labels payload event

theorem Phase.blank {s : Database} {h : EventLog} {id : ℕ} {row : Incident} (phase : Phase s h id)
    (found : s.incidents id = some row) (status : row.status = .opened) : Blank s h id := by
  cases phase with
  | unborn absent => cases absent.symm.trans found
  | opened _ _ blank => exact blank
  | stranded same other | paused same other =>
    cases same.symm.trans found
    cases status.symm.trans other
  | ended same closed | resolved same closed =>
    cases same.symm.trans found
    rw [status] at closed
    cases closed

theorem markRunning_sameFor {server : Server} {id j : ℕ} (other : j ≠ id) (s : Database) :
    SameFor id s (markRunning server j s) :=
  ⟨updateIncident_other s other _, rfl, rfl⟩

theorem markRunning_row {server : Server} {id : ℕ} {row : Incident} {s : Database}
    (found : s.incidents id = some row) : (markRunning server id s).incidents id =
      some { row with status := .running, startedAt := some server.now } := by
  simp [markRunning, Database.updateIncident, found]

theorem run_others {request : Request} {j : ℕ} {scenario : Scenario} {s t : Database}
    {o : Outcome Error InvestigationResult} {g : List BackendEvent}
    (run : Runs .alone permit (runInvestigation app scenario (threadIdOf j))
      (markRunning request.server j s) o t g) (id : ℕ) (other : j ≠ id) :
    SameFor id s t ∧ ∀ payload, .performed (.interrupt (threadIdOf id) payload) ∉ g := by
  obtain ⟨same, silent⟩ := sameFor_of_does ((runInvestigation_does app scenario _ {} true).mono
    fun _ inside => foreign_of_inResume other (.inl inside)) run
  exact ⟨(markRunning_sameFor other s).trans same, silent⟩

theorem resume_others {j : ℕ} {scenario : Scenario} {decision : Json} {s t : Database}
    {o : Outcome Error InvestigationResult} {g : List BackendEvent}
    (run : Runs .alone permit (resumeInvestigation app scenario (threadIdOf j) decision) s o t g)
    (id : ℕ) (other : j ≠ id) :
    SameFor id s t ∧ ∀ payload, .performed (.interrupt (threadIdOf id) payload) ∉ g :=
  sameFor_of_does ((resumeInvestigation_does app scenario _ decision {}).mono
    fun _ => foreign_of_inResume other) run

theorem phases_created (phases : Phases s h) (request : Request) (key : String)
    (scenario : Scenario) : Phases (created request.server scenario s)
      (h ++ [.performed (.createIncident key)].map (request, ·)) := by
  have free := phases.unused s.nextIncidentId le_rfl
  have silent : ∀ id request' payload, (request', .performed (.interrupt (threadIdOf id) payload)) ∉
      [Event.performed (Label.createIncident key)].map fun ev =>
        ((request, ev) : Request × BackendEvent) :=
    fun id => unpaused_of_labels (by simp)
  refine ⟨fun id high => ?_, fun id => ?_⟩
  · have different : id ≠ s.nextIncidentId := (Nat.lt_of_succ_le high).ne'
    simpa [created, different] using phases.unused id (Nat.le_of_succ_le high)
  · by_cases new : id = s.nextIncidentId
    · subst new
      have framed := (phases.phase s.nextIncidentId).frame (.refl _ s)
        (silent s.nextIncidentId)
      cases framed with
      | unborn _ blank =>
        have added : (created request.server scenario s).incidents s.nextIncidentId = some
            { scenarioId := scenario.id, status := .opened, createdAt := request.server.now } := by
          simp [created]
        exact .opened added rfl ⟨blank.rows, blank.checkpoint, blank.unpaused⟩
      | opened found | stranded found | ended found | paused found | resolved found =>
        cases free.symm.trans found
    · refine (phases.phase id).frame ⟨?_, rfl, rfl⟩ (silent id)
      simp [created, new]

theorem phases_ran {request : Request} {id : ℕ} {row : Incident} {scenario : Scenario}
    {result : InvestigationResult} {t u : Database} {g : List BackendEvent} (phases : Phases s h)
    (found : s.incidents id = some row) (opened : row.status = .opened)
    (run : Runs .alone permit (runInvestigation app scenario (threadIdOf id))
      (markRunning request.server id s) (.returned result) t g)
    (applied : Applied app request.server id
      { row with status := .running, startedAt := some request.server.now } result t u) :
    Phases u (h ++ List.map (fun ev : BackendEvent => (request, ev))
      (.performed (.commitRunning id) :: .performed (.loadIncident id) :: g ++
        [.performed (.applyResult id result)])) := by
  have blank := (phases.phase id).blank found opened
  have untouched := untouched_of_graph
    ((runInvestigation_does app scenario _ {} true).mono fun _ => .inl) run
  refine phases.turn found (applied.nextIncidentId.trans untouched.nextIncidentId) ?_ ?_
  · intro other different
    obtain ⟨same, silent⟩ := run_others run other different
    exact ⟨same.trans (sameFor_of_effect applied.effect different),
      unpaused_of_labels (by simpa using silent)⟩
  · refine Phase.ran (s := markRunning request.server id s)
      ⟨blank.rows, blank.checkpoint, blank.unpaused⟩ (markRunning_row found) rfl run applied ?_ ?_
    · exact fun ev mem => List.mem_append_left _
        (List.mem_cons_of_mem _ (List.mem_cons_of_mem _ mem))
    · intro unpaused
      have before : pauses (.performed (.commitRunning id) :: .performed (.loadIncident id) :: g) =
        pauses g := rfl
      rw [pauses_append, before, unpaused]
      rfl

theorem phases_turn (request : Request) (s u : Database) (h : EventLog) (g : List BackendEvent)
    (phases : Phases s h) (turn : Turn app permit request s u g) :
    Phases u (h ++ g.map (request, ·)) := by
  cases turn with
  | quiet still =>
    refine ⟨phases.unused, fun id => (phases.phase id).frame (.refl id s) ?_⟩
    exact unpaused_of_labels fun payload mem => still _ mem
  | @created key scenario => exact phases_created phases request key scenario
  | @started id row found opened =>
    refine phases.turn found rfl ?_ ?_
    · exact fun _ other => ⟨markRunning_sameFor other s, unpaused_of_labels (by simp)⟩
    · exact .stranded (markRunning_row found) rfl ((phases.phase id).blank found opened).rows
  | @investigated id row scenario o _ g found opened run =>
    have untouched := untouched_of_graph
      ((runInvestigation_does app scenario _ {} true).mono fun _ => .inl) run
    refine phases.turn found untouched.nextIncidentId ?_ ?_
    · intro other different
      obtain ⟨same, silent⟩ := run_others run other different
      exact ⟨same, unpaused_of_labels (by simpa using silent)⟩
    · refine .stranded (by rw [untouched.incidents, markRunning_row found]) rfl ?_
      rw [Database.auditOf, untouched.auditLog]
      exact ((phases.phase id).blank found opened).rows
  | ran found opened run applied => exact phases_ran phases found opened run applied
  | @resumed id row scenario decision o _ g found awaiting real run =>
    have untouched := untouched_of_graph (resumeInvestigation_does app scenario _ decision {}) run
    refine phases.turn found untouched.nextIncidentId ?_
      ((phases.phase id).resumed found awaiting real run).1
    intro other different
    obtain ⟨same, silent⟩ := resume_others run other different
    exact ⟨same, unpaused_of_labels silent⟩
  | @resolved id row scenario decision result t _ g found awaiting real run applied =>
    have untouched := untouched_of_graph (resumeInvestigation_does app scenario _ decision {}) run
    refine phases.turn found (applied.nextIncidentId.trans untouched.nextIncidentId) ?_
      (((phases.phase id).resumed found awaiting real run).2 result rfl u applied)
    intro other different
    obtain ⟨same, silent⟩ := resume_others run other different
    exact ⟨same.trans (sameFor_of_effect applied.effect different),
      unpaused_of_labels (by simpa using silent)⟩

theorem turnHistory_phases {db : Database} {h : EventLog} (history : TurnHistory app db h) :
    Phases db h :=
  TurnHistory.invariant
    ⟨fun _ _ => rfl, fun _ => .unborn rfl ⟨rfl, rfl, fun _ _ => List.not_mem_nil⟩⟩
    phases_turn history

theorem history_phases {db : Database} {h : EventLog} (history : History app permit db h) :
    Phases db h :=
  History.invariant ⟨fun _ _ => rfl, fun _ => .unborn rfl ⟨rfl, rfl, fun _ _ => List.not_mem_nil⟩⟩
    phases_turn history

end OpsPilot.IncidentPhases
