import OpsPilot.Models

/-! Memory of confirmed diagnoses: written once, when an incident closes, and merged by pattern. -/

namespace OpsPilot.Memory
open JsonText AgentSchemas Models

def memoryContextLimit : ℕ := 3

/-- `bool((decision or {}).get("approved"))` -/
def approvedFlag (decision : Option Json) : Bool :=
  (((decision.getD (.obj [])).field? "approved").map Json.truthy).getD false

def deriveOutcome (result : InvestigationResult) : String :=
  match result.policyVerdict with
  | some .block => "blocked"
  | some .execute => "executed"
  | some .requireApproval =>
    if approvedFlag result.approvalDecision then "approved_and_executed" else "denied"
  | _ => "unknown"

/-- The row an incident's result adds, if the write policy lets it add one. -/
def writeConfirmedMemory (settings : Settings) (memoryId serviceId incidentId : ℕ) (now : ℤ)
    (result : InvestigationResult) : Option ServiceMemory :=
  match result.diagnosis with
  | none => none
  | some diagnosis =>
    if diagnosis.recommendedAction = .escalate then none
    else if diagnosis.confidence < settings.memoryWriteMinConfidence then none
    else some
      { id := memoryId
        serviceId := serviceId
        sourceIncidentId := incidentId
        symptomPattern := "; ".intercalate diagnosis.evidence
        rootCause := diagnosis.diagnosis
        fixApplied := diagnosis.recommendedAction.name
        outcome := deriveOutcome result
        confidence := diagnosis.confidence
        createdAt := now }

structure Written (settings : Settings) (memoryId serviceId incidentId : ℕ)
    (result : InvestigationResult) (memory : ServiceMemory) : Prop where
  id : memory.id = memoryId
  serviceId : memory.serviceId = serviceId
  sourceIncidentId : memory.sourceIncidentId = incidentId
  outcome : memory.outcome = deriveOutcome result
  once : memory.occurrenceCount = 1
  diagnosis : ∃ diagnosis, result.diagnosis = some diagnosis ∧
    diagnosis.recommendedAction ≠ .escalate ∧
    settings.memoryWriteMinConfidence ≤ diagnosis.confidence

theorem writeConfirmedMemory_isSome (settings : Settings) (memoryId serviceId incidentId : ℕ)
    (now : ℤ) (result : InvestigationResult) :
    (writeConfirmedMemory settings memoryId serviceId incidentId now result).isSome =
      (writeConfirmedMemory settings 0 0 0 0 result).isSome := by
  unfold writeConfirmedMemory
  split
  · rfl
  · split_ifs <;> rfl

theorem writeConfirmedMemory_written {settings : Settings} {memoryId serviceId incidentId : ℕ}
    {now : ℤ} {result : InvestigationResult} {memory : ServiceMemory}
    (written : writeConfirmedMemory settings memoryId serviceId incidentId now result =
      some memory) : Written settings memoryId serviceId incidentId result memory := by
  unfold writeConfirmedMemory at written
  split at written
  · cases written
  case h_2 diagnosis found =>
    split_ifs at written with escalated doubtful
    cases written
    exact ⟨rfl, rfl, rfl, rfl, rfl, diagnosis, found, escalated, not_lt.mp doubtful⟩

/-- Newest first. -/
def listServiceMemory (table : List ServiceMemory) (serviceId : ℕ) :
    List ServiceMemory :=
  (table.filter (·.serviceId == serviceId)).insertionSort (fun a b => a.createdAt ≥ b.createdAt)

def moreRelevant (a b : ServiceMemory) : Bool :=
  if a.occurrenceCount ≠ b.occurrenceCount then b.occurrenceCount < a.occurrenceCount
  else if a.confidence ≠ b.confidence then b.confidence < a.confidence
  else b.createdAt ≤ a.createdAt

def retrieveRelevantMemory (table : List ServiceMemory) (serviceId : ℕ) :
    List ServiceMemory :=
  ((table.filter (·.serviceId == serviceId)).insertionSort (moreRelevant · ·)).take
    memoryContextLimit

def memoryHeader : String :=
  "Prior related incidents for this service (advisory only, from past confirmed diagnoses — NOT " ++
  "current evidence). These may suggest a hypothesis worth checking first, but if what you " ++
  "actually observe in this incident's metrics, logs, deployments, or dependency status " ++
  "contradicts one of these, trust the current evidence, not this list:"

def memoryLine (row : ServiceMemory) : String :=
  "- Symptom pattern: " ++ row.symptomPattern ++ "\n" ++
  "  Root cause: " ++ row.rootCause ++ "\n" ++
  "  Fix applied: " ++ row.fixApplied ++ " (outcome: " ++ row.outcome ++ ")\n" ++
  "  Confirmed " ++ toString row.occurrenceCount ++ "x, confidence " ++
    String.ofList (fixedText 2 row.confidence)

def formatMemoryForPrompt (rows : List ServiceMemory) : String :=
  match rows with
  | [] => ""
  | rows => "\n".intercalate (memoryHeader :: rows.map memoryLine)

def samePattern (a b : ServiceMemory) : Bool :=
  a.symptomPattern == b.symptomPattern && a.fixApplied == b.fixApplied

/-- The newest row of each pattern stays, with the group's count and best confidence. -/
def consolidateServiceMemory (table : List ServiceMemory) (serviceId : ℕ) :
    List ServiceMemory :=
  let rows := listServiceMemory table serviceId
  table.filterMap fun row =>
    if row.serviceId ≠ serviceId then some row
    else
      match rows.filter (samePattern row) with
      | survivor :: stale =>
        if row.id ≠ survivor.id then none
        else if stale = [] then some row
        else some
          { row with
            occurrenceCount := ((survivor :: stale).map (·.occurrenceCount)).sum
            confidence := (stale.map (·.confidence)).foldl max survivor.confidence }
      | [] => some row

/-- `DELETE /memory/{memory_id}` -/
def deleteMemoryEntry (memoryId : ℕ) (db : Database) : Except Error Database :=
  match db.serviceMemory.find? (·.id == memoryId) with
  | none => .error (.http 404 ("No memory entry with id " ++ toString memoryId ++ "."))
  | some entry => .ok { db with serviceMemory := db.serviceMemory.filter (·.id != entry.id) }

theorem consolidateServiceMemory_origin {table : List ServiceMemory} {serviceId : ℕ}
    {row : ServiceMemory} (mem : row ∈ consolidateServiceMemory table serviceId) :
    ∃ old ∈ table, old.sourceIncidentId = row.sourceIncidentId ∧ old.outcome = row.outcome := by
  obtain ⟨old, present, kept⟩ := List.mem_filterMap.mp mem
  refine ⟨old, present, ?_⟩
  split at kept
  · cases kept
    exact ⟨rfl, rfl⟩
  · split at kept
    · split at kept
      · cases kept
      · split at kept <;> cases kept <;> exact ⟨rfl, rfl⟩
    · cases kept
      exact ⟨rfl, rfl⟩

end OpsPilot.Memory
