import OpsPilot.ThreadHistory
import OpsPilot.MemoryHistory
import Mathlib.Algebra.Order.BigOperators.Group.List

/-! What a pause that the SLA timeout closes leaves in service memory. -/

namespace OpsPilot.AutoEscalation
open AgentSchemas SyntheticEnvironment InvestigationState Models Memory Investigation IncidentApi
open StepEffects PolicyGate InvestigationOutcomes MemoryMerge MemoryHistory ThreadHistory
open IncidentTurns IncidentPhases DurableProgram CallHistory

variable {app : App} {s t u : Database} {h : EventLog}

structure SameMemory (s u : Database) : Prop where
  rows : u.serviceMemory = s.serviceMemory
  nextId : u.nextMemoryId = s.nextMemoryId

theorem SameMemory.refl (s : Database) : SameMemory s s := ⟨rfl, rfl⟩

theorem SameMemory.trans {a b c : Database} (first : SameMemory a b) (later : SameMemory b c) :
    SameMemory a c :=
  ⟨later.rows.trans first.rows, later.nextId.trans first.nextId⟩

theorem sameMemory_of_graph {α : Type} {threadId : String} {p : Backend α} {s u : Database}
    {o : Outcome Error α} {g : List BackendEvent} (does : Does (inResume threadId) p)
    (run : Runs .alone anyFaults p s o u g) : SameMemory s u := by
  refine runs_of_guarantees SameMemory.refl SameMemory.trans ?_ does run
  rintro l a b ⟨inside | ⟨_, rfl⟩, effect⟩
  swap
  · cases effect
    exact .refl _
  cases l with
  | saveCheckpoint =>
    obtain ⟨_, rfl⟩ := effect
    exact ⟨rfl, rfl⟩
  | commit => obtain rfl | ⟨_, rfl⟩ := effect <;> exact ⟨rfl, rfl⟩
  | createIncident | commitRunning | applyResult => exact inside.elim
  | _ =>
    cases effect
    exact .refl _

inductive Remembers (settings : Settings) (server : Server) (id : ℕ) (result : InvestigationResult)
    (s u : Database) : Prop where
  | nothing (same : SameMemory s u)
  | closed {t : Database} (serviceId : ℕ) (closing : result.status ≠ .awaitingApproval)
      (same : SameMemory s t)
      (after : SameMemory (addMemory settings server serviceId id result t) u)

theorem applied_remembers {server : Server} {id : ℕ} {row : Incident}
    {result : InvestigationResult} (same : SameMemory s t)
    (applied : Applied app server id row result t u) :
    Remembers app.settings server id result s u := by
  cases applied with
  | paused => exact .nothing (same.trans ⟨rfl, rfl⟩)
  | closed scenario closing =>
    obtain ⟨db, rows, ids, closes⟩ :=
      closeIncident_memory app.settings server scenario id row result t
    rw [closes]
    exact .closed scenario.service.id closing (same.trans ⟨rows, ids⟩) (.refl _)

inductive Concludes (app : App) (request : Request) (s : Database) (id : ℕ)
    (result : InvestigationResult) : List BackendEvent → Prop where
  | ran {row scenario t g g'} (found : s.incidents id = some row) (opened : row.status = .opened)
      (run : Runs .alone anyFaults (runInvestigation app scenario (threadIdOf id))
        (markRunning request.server id s) (.returned result) t g) :
      Concludes app request s id result g'
  | resolved {row scenario decision t g g'} (found : s.incidents id = some row)
      (awaiting : row.status = .awaitingApproval) (real : RealDecision request id decision)
      (run : Runs .alone anyFaults (resumeInvestigation app scenario (threadIdOf id) decision) s
        (.returned result) t g) : Concludes app request s id result (g ++ g')

theorem turn_remembers {request : Request} {g : List BackendEvent}
    (turn : Turn app anyFaults request s u g) : SameMemory s u ∨ ∃ id result,
      .performed (.applyResult id result) ∈ g ∧ Concludes app request s id result g ∧
        Remembers app.settings request.server id result s u := by
  cases turn with
  | quiet => exact .inl (.refl _)
  | created => exact .inl ⟨rfl, rfl⟩
  | started => exact .inl ⟨rfl, rfl⟩
  | investigated _ _ run =>
    have same := sameMemory_of_graph ((runInvestigation_does app _ _ {} true).mono fun _ => .inl) run
    exact .inl ⟨same.rows, same.nextId⟩
  | resumed _ _ _ run =>
    exact .inl (sameMemory_of_graph (resumeInvestigation_does app _ _ _ {}) run)
  | ran found opened run applied =>
    have same := sameMemory_of_graph ((runInvestigation_does app _ _ {} true).mono fun _ => .inl) run
    exact .inr ⟨_, _, by simp, .ran found opened run,
      applied_remembers ⟨same.rows, same.nextId⟩ applied⟩
  | resolved found awaiting real run applied =>
    have same := sameMemory_of_graph (resumeInvestigation_does app _ _ _ {}) run
    exact .inr ⟨_, _, by simp, .resolved found awaiting real run, applied_remembers same applied⟩

structure Identified (db : Database) : Prop where
  ids : (db.serviceMemory.map (·.id)).Nodup
  fresh : ∀ row ∈ db.serviceMemory, row.id < db.nextMemoryId

theorem Identified.of_same (identified : Identified s) (same : SameMemory s u) : Identified u where
  ids := same.rows ▸ identified.ids
  fresh row mem := by
    rw [same.nextId]
    exact identified.fresh row (same.rows ▸ mem)

/-- The ids stay distinct with one that was not given out yet. -/
theorem Identified.append (identified : Identified s) {memory : ServiceMemory}
    (new : memory.id = s.nextMemoryId) : ((s.serviceMemory ++ [memory]).map (·.id)).Nodup := by
  refine ids_append identified.ids fun old => ?_
  obtain ⟨row, mem, same⟩ := List.mem_map.mp old
  exact (identified.fresh row mem).ne (same.trans new)

theorem Identified.remembers {settings : Settings} {server : Server} {serviceId id : ℕ}
    {result : InvestigationResult} (identified : Identified s) :
    Identified (addMemory settings server serviceId id result s) := by
  unfold addMemory
  cases written : writeConfirmedMemory settings s.nextMemoryId serviceId id server.now result with
  | none => exact identified
  | some memory =>
    have new : memory.id = s.nextMemoryId := (writeConfirmedMemory_written written).id
    have subset := consolidate_ids (s.serviceMemory ++ [memory]) serviceId
    refine ⟨subset.nodup (identified.append new), fun row mem => ?_⟩
    obtain ⟨old, present, same⟩ := List.mem_map.mp (subset.subset (List.mem_map_of_mem mem))
    dsimp only at same ⊢
    rw [← same]
    rcases List.mem_append.mp present with before | last
    · exact (identified.fresh old before).trans (Nat.lt_succ_self _)
    · rw [List.mem_singleton.mp last, new]
      exact Nat.lt_succ_self _

theorem identified_turn (request : Request) (s u : Database) (_ : EventLog) (g : List BackendEvent)
    (identified : Identified s) (turn : Turn app anyFaults request s u g) : Identified u := by
  obtain same | ⟨id, result, _, _, same | ⟨_, _, same, after⟩⟩ := turn_remembers turn
  · exact identified.of_same same
  · exact identified.of_same same
  · exact (identified.of_same same).remembers.of_same after

theorem turnHistory_identified (history : TurnHistory app s h) : Identified s :=
  TurnHistory.invariant ⟨List.nodup_nil, fun _ mem => nomatch mem⟩ identified_turn history

/-- A row after a closing goes back to a row before it or to what the closing wrote. -/
theorem addMemory_origin {settings : Settings} {server : Server} {serviceId id : ℕ}
    {result : InvestigationResult} {row : ServiceMemory}
    (mem : row ∈ (addMemory settings server serviceId id result s).serviceMemory) :
    ∃ old, old.sourceIncidentId = row.sourceIncidentId ∧ old.outcome = row.outcome ∧
      (old ∈ s.serviceMemory ∨
        writeConfirmedMemory settings s.nextMemoryId serviceId id server.now result = some old) := by
  unfold addMemory at mem
  cases written : writeConfirmedMemory settings s.nextMemoryId serviceId id server.now result with
  | none =>
    rw [written] at mem
    exact ⟨row, rfl, rfl, .inl mem⟩
  | some memory =>
    rw [written] at mem
    obtain ⟨old, present, source, outcome⟩ := consolidateServiceMemory_origin mem
    refine ⟨old, source, outcome, (List.mem_append.mp present).imp_right fun new => ?_⟩
    rw [List.mem_singleton.mp new]

def NothingRemembered (before after : List ServiceMemory) : Prop :=
  ∀ row ∈ after, ∃ old ∈ before, old.id = row.id ∧ row.occurrenceCount ≤ old.occurrenceCount

theorem NothingRemembered.refl (rows : List ServiceMemory) : NothingRemembered rows rows :=
  fun row mem => ⟨row, mem, rfl, le_rfl⟩

theorem confirmation_shows {rows : List ServiceMemory} {memory : ServiceMemory} {serviceId : ℕ}
    (ids : ((rows ++ [memory]).map (·.id)).Nodup) (own : memory.serviceId = serviceId)
    (once : memory.occurrenceCount = 1) :
    ¬ NothingRemembered rows (consolidateServiceMemory (rows ++ [memory]) serviceId) := by
  intro nothing
  have present : memory ∈ rows ++ [memory] := by simp
  have listed := listServiceMemory_perm (rows ++ [memory]) serviceId
  have read : memory ∈ listServiceMemory (rows ++ [memory]) serviceId :=
    listed.mem_iff.mpr (List.mem_filter.mpr ⟨present, beq_iff_eq.mpr own⟩)
  have inGroup : memory ∈ (listServiceMemory (rows ++ [memory]) serviceId).filter
      (samePattern memory) := List.mem_filter.mpr ⟨read, by simp [samePattern]⟩
  cases group : (listServiceMemory (rows ++ [memory]) serviceId).filter (samePattern memory) with
  | nil =>
    rw [group] at inGroup
    cases inGroup
  | cons survivor stale =>
    have here : survivor ∈ (listServiceMemory (rows ++ [memory]) serviceId).filter
        (samePattern memory) := group ▸ List.mem_cons_self
    obtain ⟨selected, alike⟩ := List.mem_filter.mp here
    obtain ⟨stored, service⟩ := List.mem_filter.mp (listed.mem_iff.mp selected)
    have grouped : (listServiceMemory (rows ++ [memory]) serviceId).filter (samePattern survivor) =
        survivor :: stale := by rw [← samePattern_congr alike, group]
    obtain ⟨kept, stays, id, counts⟩ : ∃ kept,
        merged (listServiceMemory (rows ++ [memory]) serviceId) survivor = some kept ∧
          kept.id = survivor.id ∧ (survivor = memory ∨
            survivor.occurrenceCount < kept.occurrenceCount) := by
      unfold merged
      rw [grouped]
      dsimp only
      rw [if_neg (not_not.mpr rfl)]
      split
      case isTrue alone =>
        rw [group, alone, List.mem_singleton] at inGroup
        exact ⟨survivor, rfl, rfl, .inl inGroup.symm⟩
      case isFalse =>
        refine ⟨_, rfl, rfl, ?_⟩
        rw [group] at inGroup
        refine (List.mem_cons.mp inGroup).imp Eq.symm fun inside => ?_
        have counted := List.le_sum_of_mem
          (List.mem_map_of_mem (f := (·.occurrenceCount)) inside)
        simp only [List.map_cons, List.sum_cons]
        omega
    have shown : kept ∈ consolidateServiceMemory (rows ++ [memory]) serviceId := by
      rw [consolidateServiceMemory_eq]
      refine List.mem_filterMap.mpr ⟨survivor, stored, ?_⟩
      rw [consolidated, if_neg (not_not.mpr (beq_iff_eq.mp service)), stays]
    obtain ⟨old, before, same, fewer⟩ := nothing kept shown
    have same' := List.inj_on_of_nodup_map ids (List.mem_append_left _ before) stored
      (same.trans id)
    rcases counts with rfl | more
    · rw [List.map_append, List.nodup_append] at ids
      exact ids.2.2 _ (List.mem_map_of_mem before) _ (by simp) (congrArg _ same')
    · rw [same'] at fewer
      omega

theorem addMemory_remembers {settings : Settings} {server : Server} {serviceId id : ℕ}
    {result : InvestigationResult} (identified : Identified s) :
    NothingRemembered s.serviceMemory
        (addMemory settings server serviceId id result s).serviceMemory ↔
      writeConfirmedMemory settings s.nextMemoryId serviceId id server.now result = none := by
  unfold addMemory
  cases written : writeConfirmedMemory settings s.nextMemoryId serviceId id server.now result with
  | none => exact ⟨fun _ => rfl, fun _ => .refl _⟩
  | some memory =>
    have fields := writeConfirmedMemory_written written
    constructor
    · intro nothing
      exact absurd nothing (confirmation_shows (identified.append fields.id) fields.serviceId
        fields.once)
    · intro same
      cases same

/-- The decision that is recorded with the result says that the time was up. -/
def timedOut (result : InvestigationResult) : Bool :=
  result.approvalDecision.any (isTruthy · "timed_out")

/-- A paused incident is resolved, and what is recorded is the timeout's decision. -/
inductive TimeoutClosing (app : App) (s : Database) (id : ℕ) (u : Database) : Prop where
  | resolved {row scenario decision result t g} (request : Request)
      (found : s.incidents id = some row) (awaiting : row.status = .awaitingApproval)
      (real : RealDecision request id decision)
      (run : Runs .alone anyFaults (resumeInvestigation app scenario (threadIdOf id) decision) s
        (.returned result) t g) (applied : Applied app request.server id row result t u)
      (recorded : timedOut result = true) : TimeoutClosing app s id u

/-- The diagnosis that waits for approval is below the floor for memory. -/
def DoubtfulDiagnosis (app : App) (db : Database) (id : ℕ) : Prop :=
  ∀ saved diagnosis, db.checkpoints (threadIdOf id) = some saved →
    saved.values.diagnosis = some diagnosis →
      diagnosis.confidence < app.settings.memoryWriteMinConfidence

theorem resolution_written {id : ℕ} {result : InvestigationResult}
    (resolved : Resolution s h id result) (memoryId serviceId incidentId : ℕ) (now : ℤ) :
    writeConfirmedMemory app.settings memoryId serviceId incidentId now result = none ↔
      DoubtfulDiagnosis app s id := by
  obtain ⟨saved, stored, same⟩ := resolved.stored
  constructor
  · intro nothing saved' diagnosis stored' found
    cases stored.symm.trans stored'
    rw [← same] at found
    have action := resolved.approval diagnosis found
    unfold writeConfirmedMemory at nothing
    rw [found] at nothing
    dsimp only at nothing
    split_ifs at nothing with escalated doubtful
    · rw [escalated] at action
      cases action
    · exact doubtful
  · intro doubtful
    cases written : writeConfirmedMemory app.settings memoryId serviceId incidentId now result with
    | none => rfl
    | some memory =>
      obtain ⟨diagnosis, found, _, confident⟩ := (writeConfirmedMemory_written written).diagnosis
      exact absurd (doubtful saved diagnosis stored (same ▸ found)) (not_lt.mpr confident)

theorem timeout_remembers (history : TurnHistory app s h) {id : ℕ}
    (closing : TimeoutClosing app s id u) :
    NothingRemembered s.serviceMemory u.serviceMemory ↔ DoubtfulDiagnosis app s id := by
  obtain ⟨_, found, awaiting, real, run, applied, _⟩ := closing
  have resolved := resolution history found awaiting real run
  have same := sameMemory_of_graph (resumeInvestigation_does app _ _ _ {}) run
  cases applied with
  | paused pausing => exact absurd pausing resolved.closing
  | closed scenario =>
    obtain ⟨db, rows, ids, closes⟩ := closeIncident_memory app.settings _ scenario id _ _ _
    have kept := same.trans ⟨rows, ids⟩
    rw [closes, ← kept.rows, addMemory_remembers ((turnHistory_identified history).of_same kept),
      resolution_written resolved]

def DeniedByApprover (h : EventLog) (id : ℕ) : Prop :=
  ∃ request body, request.endpoint = .decideApproval id body ∧ body.approved = false ∧
    (request, .performed (.resume (threadIdOf id) (decisionOf body))) ∈ h

theorem DeniedByApprover.grow {id : ℕ} (denied : DeniedByApprover h id) (g : EventLog) :
    DeniedByApprover (h ++ g) id := by
  obtain ⟨request, body, asked, refused, resumed⟩ := denied
  exact ⟨request, body, asked, refused, List.mem_append_left g resumed⟩

/-- Whenever the timeout closed an incident, its diagnosis was below the floor for memory. -/
def TimeoutsDoubtful (settings : Settings) (h : EventLog) : Prop :=
  ∀ request id result diagnosis, (request, .performed (.applyResult id result)) ∈ h →
    timedOut result = true → result.diagnosis = some diagnosis →
      diagnosis.confidence < settings.memoryWriteMinConfidence

def DenialsReal (s : Database) (h : EventLog) : Prop :=
  ∀ row ∈ s.serviceMemory, row.outcome = "denied" → DeniedByApprover h row.sourceIncidentId

theorem denied_outcome {result : InvestigationResult} (denied : deriveOutcome result = "denied") :
    result.policyVerdict = some .requireApproval ∧
      approvedFlag result.approvalDecision = false := by
  unfold deriveOutcome at denied
  split at denied
  · simp at denied
  · simp at denied
  case h_3 verdict =>
    split at denied
    · simp at denied
    · exact ⟨verdict, Bool.eq_false_iff.mpr ‹_›⟩
  · simp at denied

theorem denial_concluded {request : Request} {g : List BackendEvent} {id : ℕ}
    {result : InvestigationResult} (history : TurnHistory app s h)
    (concludes : Concludes app request s id result g) (closing : result.status ≠ .awaitingApproval)
    (denied : deriveOutcome result = "denied") :
    DeniedByApprover (h ++ g.map (request, ·)) id ∨ timedOut result = true := by
  obtain ⟨verdict, refused⟩ := denied_outcome denied
  cases concludes with
  | ran found opened run =>
    have blank := ((turnHistory_phases history).phase id).blank found opened
    exact absurd verdict (run_unasked run blank.checkpoint closing).1
  | resolved found awaiting real run =>
    obtain ⟨decision, recorded, asker, resumed, given⟩ :=
      (resolution history found awaiting real run).decision
    rw [recorded] at refused
    cases given with
    | answered body asked =>
      refine .inl ⟨asker, body, asked, refused, ?_⟩
      rw [List.map_append, ← List.append_assoc]
      exact List.mem_append_left _ resumed
    | timedOut =>
      right
      rw [timedOut, recorded]
      rfl

theorem denials_turn (request : Request) (s u : Database) (h : EventLog) (g : List BackendEvent)
    (inv : TurnHistory app s h ∧ (TimeoutsDoubtful app.settings h → DenialsReal s h))
    (turn : Turn app anyFaults request s u g) :
    TurnHistory app u (h ++ g.map (request, ·)) ∧
      (TimeoutsDoubtful app.settings (h ++ g.map (request, ·)) →
        DenialsReal u (h ++ g.map (request, ·))) := by
  obtain ⟨history, real⟩ := inv
  refine ⟨.tail history ⟨request, g, turn, rfl⟩, fun doubtful row mem denied => ?_⟩
  have before : ∀ row ∈ s.serviceMemory, row.outcome = "denied" →
      DeniedByApprover (h ++ g.map (request, ·)) row.sourceIncidentId := fun row mem denied =>
    (real (fun request id result diagnosis event => doubtful request id result diagnosis
      (List.mem_append_left _ event)) row mem denied).grow _
  obtain same | ⟨id, result, applied, concludes, remembers⟩ := turn_remembers turn
  · exact before row (same.rows ▸ mem) denied
  cases remembers with
  | nothing same => exact before row (same.rows ▸ mem) denied
  | @closed t serviceId closing same after =>
    obtain ⟨old, source, outcome, stored | written⟩ := addMemory_origin (after.rows ▸ mem)
    · rw [← source]
      exact before old (same.rows ▸ stored) (outcome.trans denied)
    · have fields := writeConfirmedMemory_written written
      rw [← source, fields.sourceIncidentId]
      have refusal := fields.outcome.symm.trans (outcome.trans denied)
      refine (denial_concluded history concludes closing refusal).resolve_right fun marked => ?_
      obtain ⟨diagnosis, found, _, confident⟩ := fields.diagnosis
      refine not_lt.mpr confident (doubtful request id result diagnosis ?_ marked found)
      exact List.mem_append_right _ (List.mem_map_of_mem applied)

theorem turnHistory_denials (history : TurnHistory app s h) :
    TimeoutsDoubtful app.settings h → DenialsReal s h := by
  have inv : TurnHistory app s h ∧ (TimeoutsDoubtful app.settings h → DenialsReal s h) :=
    TurnHistory.invariant ⟨.refl _, fun _ _ mem => nomatch mem⟩ denials_turn history
  exact inv.2

/-- For every history: a timeout that closes an incident leaves the memory table as it was exactly
if the waiting diagnosis is below the floor, and where all are, every remembered denial was an
approver's. -/
theorem auto_escalation_unremembered (history : TurnHistory app s h) :
    (∀ id u, TimeoutClosing app s id u →
      (NothingRemembered s.serviceMemory u.serviceMemory ↔ DoubtfulDiagnosis app s id)) ∧
    (TimeoutsDoubtful app.settings h → DenialsReal s h) :=
  ⟨fun _ _ closing => timeout_remembers history closing, turnHistory_denials history⟩

def pausingCalls : List (Request × List (Move ChatOutcome Error)) :=
  [(⟨.createIncident "checkout-deploy-outage", ⟨"process-1", 0⟩⟩, createSteps),
   (⟨.runIncident 1, ⟨"process-1", 0⟩⟩,
    untilModel ++ .reply (.response rollbackDiagnosis) :: untilPause)]

def escalated (s : Database) : Option (Incident × InvestigationResult × Database × Database) :=
  match s.incidents 1, eval (resumeInvestigation checkoutApp checkoutDeployOutage (threadIdOf 1)
      timeoutDecision) (fun _ => .transient "") s with
  | some row, (.returned result, t, _) =>
    if row.status = .awaitingApproval ∧ result.status ≠ .awaitingApproval ∧ timedOut result = true
    then some (row, result, t, closeIncident {} ⟨"process-1", 3600000000⟩ checkoutDeployOutage 1
      row result t)
    else none
  | _, _ => none

theorem escalated_closing {s : Database}
    {closing : Incident × InvestigationResult × Database × Database}
    (closes : escalated s = some closing) : TimeoutClosing checkoutApp s 1 closing.2.2.2 := by
  unfold escalated at closes
  split at closes
  case h_1 row result t g found ended =>
    split_ifs at closes with facts
    cases closes
    have ran := eval_runs (resumeInvestigation checkoutApp checkoutDeployOutage (threadIdOf 1)
      timeoutDecision) (fun _ => .transient "") s
    rw [ended] at ran
    exact .resolved ⟨.getIncident 1, ⟨"process-1", 3600000000⟩⟩ found facts.1 .timedOut
      (ran.mono fun _ _ _ => trivial) (.closed checkoutDeployOutage facts.2.1) facts.2.2
  · cases closes

theorem expired_pause : ∃ s h u, TurnHistory checkoutApp s h ∧ TimeoutClosing checkoutApp s 1 u ∧
    s.serviceMemory = [] ∧ u.serviceMemory.map (·.outcome) = ["denied"] := by
  have played : ((playCalls anyFaults (serve checkoutApp) pausingCalls Database.empty).any
      fun after => after.1.serviceMemory.isEmpty && (escalated after.1).any
        fun closing => closing.2.2.2.serviceMemory.map (·.outcome) == ["denied"]) = true := by
    decide +kernel
  obtain ⟨⟨s, h⟩, ran, facts⟩ := Option.any_eq_true _ _ |>.mp played
  rw [Bool.and_eq_true, List.isEmpty_iff] at facts
  obtain ⟨closing, closes, outcomes⟩ := Option.any_eq_true _ _ |>.mp facts.2
  exact ⟨s, h, _, .of_history (served_of_playCalls .start ran), escalated_closing closes, facts.1,
    beq_iff_eq.mp outcomes⟩

theorem auto_escalation_unremembered_rollback : ∃ (s : Database) (h : EventLog) (u : Database),
    TurnHistory checkoutApp s h ∧
    (NothingRemembered s.serviceMemory u.serviceMemory ↔ DoubtfulDiagnosis checkoutApp s 1) ∧
    u.serviceMemory.map (·.outcome) = ["denied"] := by
  obtain ⟨s, h, u, history, closing, _, denied⟩ := expired_pause
  exact ⟨s, h, u, history, (auto_escalation_unremembered history).1 1 u closing, denied⟩

theorem auto_escalation_remembered : ¬ ∀ s h, TurnHistory checkoutApp s h → ∀ id u,
    TimeoutClosing checkoutApp s id u → NothingRemembered s.serviceMemory u.serviceMemory := by
  intro nothing
  obtain ⟨s, h, u, history, closing, empty, denied⟩ := expired_pause
  have unchanged := nothing s h history 1 u closing
  rw [empty] at unchanged
  cases rows : u.serviceMemory with
  | nil =>
    rw [rows] at denied
    cases denied
  | cons row rest =>
    rw [rows] at unchanged
    obtain ⟨_, none, _⟩ := unchanged row List.mem_cons_self
    cases none

end OpsPilot.AutoEscalation
