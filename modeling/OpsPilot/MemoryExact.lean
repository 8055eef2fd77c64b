import OpsPilot.MemoryConsolidation
import OpsPilot.MemoryScope

/-! What the memory table holds while requests and evaluations overlap: what one consolidation of
all confirmations would have left, each of them counted once. -/

namespace OpsPilot.MemoryExact
open InvestigationState Models Memory MemoryMerge IncidentApi StepEffects MemoryHistory
open MemoryConsolidation Workload MemoryScope DurableProgram RequestPool AssumeGuarantee

def confirms (settings : Settings) : BackendEvent → Bool
  | .performed (.applyResult _ result) =>
    decide (result.status ≠ .awaitingApproval) &&
      (writeConfirmedMemory settings 0 0 0 0 result).isSome
  | _ => false

def ConfirmedBy (settings : Settings) (clock : Option ℤ) (event : BackendEvent)
    (memory : ServiceMemory) : Prop :=
  ∃ result now, event = .performed (.applyResult memory.sourceIncidentId result) ∧
    clock = some now ∧
    writeConfirmedMemory settings memory.id memory.serviceId memory.sourceIncidentId now result =
      some memory

section
variable {app : App} {clock : Option ℤ} {s s' : Database}

inductive MemoryStep (app : App) (clock : Option ℤ) (l : Label) (s s' : Database) : Prop
  | untouched (silent : confirms app.settings (.performed l) = false)
      (rows : s'.serviceMemory = s.serviceMemory) (ids : s'.nextMemoryId = s.nextMemoryId)
  | confirmed (memory : ServiceMemory) (closes : confirms app.settings (.performed l) = true)
      (written : ConfirmedBy app.settings clock (.performed l) memory)
      (source : Confirmed app s memory)
      (fresh : memory.id = s.nextMemoryId) (ids : s'.nextMemoryId = s.nextMemoryId + 1)
      (rows : s'.serviceMemory =
        consolidateServiceMemory (s.serviceMemory ++ [memory]) memory.serviceId)

theorem Acts.memoryStep {l : Label} (acts : Acts app clock l s s') :
    MemoryStep app clock l s s' := by
  cases l with
  | applyResult id result =>
    obtain ⟨paused, server, rfl⟩ |
      ⟨closing, row, scenario, server, incident, timed, found, loaded, rfl⟩ := acts
    · exact .untouched (by simp [confirms, paused]) rfl rfl
    · obtain ⟨db, rows, ids, adds⟩ :=
        closeIncident_memory app.settings server scenario id incident result s
      have gate := writeConfirmedMemory_isSome app.settings db.nextMemoryId scenario.service.id id
        server.now result
      rw [adds, addMemory]
      cases written : writeConfirmedMemory app.settings db.nextMemoryId scenario.service.id id
          server.now result with
      | none =>
        rw [written] at gate
        exact .untouched (by simp [confirms, ← gate]) rows ids
      | some memory =>
        rw [written] at gate
        have spec := writeConfirmedMemory_written written
        refine .confirmed memory (by simp [confirms, ← gate, closing])
          ⟨result, server.now, ?_, timed, ?_⟩ (written_confirmed found loaded written)
          (spec.id.trans ids) (by rw [← ids]) ?_
        · rw [spec.sourceIncidentId]
        · rwa [spec.id, spec.serviceId, spec.sourceIncidentId]
        · rw [spec.serviceId, ← rows]
  | createIncident =>
    obtain ⟨_, _, rfl⟩ := acts
    exact .untouched rfl rfl rfl
  | commitRunning | saveCheckpoint =>
    obtain ⟨_, rfl⟩ := acts
    exact .untouched rfl rfl rfl
  | commit =>
    obtain rfl | ⟨_, rfl⟩ := acts <;> exact .untouched rfl rfl rfl
  | _ =>
    cases acts
    exact .untouched rfl rfl rfl

end

theorem consolidate_own (table : List ServiceMemory) (serviceId : ℕ) :
    (consolidateServiceMemory table serviceId).filter (·.serviceId == serviceId) =
      consolidateServiceMemory (table.filter (·.serviceId == serviceId)) serviceId := by
  have list : listServiceMemory (table.filter (·.serviceId == serviceId)) serviceId =
      listServiceMemory table serviceId := by
    simp only [listServiceMemory, List.filter_filter, Bool.and_self]
  rw [consolidateServiceMemory_eq, consolidateServiceMemory_eq, list]
  generalize listServiceMemory table serviceId = rows
  rw [List.filter_filterMap, List.filterMap_filter]
  refine List.filterMap_congr fun row _ => ?_
  by_cases own : row.serviceId = serviceId
  · rw [if_pos (beq_iff_eq.mpr own)]
    cases stays : consolidated rows serviceId row with
    | none => rfl
    | some kept =>
      rw [consolidated, if_neg (not_not.mpr own)] at stays
      simp [Option.filter, (merged_kept stays).serviceId.trans own]
  · rw [if_neg (by simpa using own), consolidated, if_pos own]
    simp [Option.filter, own]

theorem consolidate_other {serviceId other : ℕ} (different : other ≠ serviceId)
    (table : List ServiceMemory) :
    (consolidateServiceMemory table serviceId).filter (·.serviceId == other) =
      table.filter (·.serviceId == other) := by
  have apart : ∀ rows : List ServiceMemory, rows.filter (·.serviceId == other) =
      (rows.filter (·.serviceId != serviceId)).filter (·.serviceId == other) := by
    intro rows
    rw [List.filter_filter]
    refine List.filter_congr fun row _ => ?_
    by_cases own : row.serviceId = other <;> simp [own, different]
  rw [apart, consolidate_others, ← apart]

variable {ι : Type} {app : App} {tasks : ι → Task}

/-- The confirmations of the history, and the table that one consolidation makes of them. -/
structure Exact (app : App) (tasks : ι → Task) (s : Database) (h : List (ι × BackendEvent))
    (confirmed : List ServiceMemory) : Prop where
  events : List.Forall₂ (fun event memory =>
      ConfirmedBy app.settings (clockOf (tasks event.1)) event.2 memory)
    (h.filter (confirms app.settings ·.2)) confirmed
  ids : (confirmed.map (·.id)).Pairwise (· < ·)
  sources : ∀ memory ∈ confirmed, Confirmed app s memory
  table : ∀ serviceId, s.serviceMemory.filter (·.serviceId == serviceId) =
    (consolidateServiceMemory confirmed serviceId).filter (·.serviceId == serviceId)

theorem Exact.quiet {s s' : Database} {h : List (ι × BackendEvent)}
    {confirmed : List ServiceMemory} (inv : Exact app tasks s h confirmed)
    (moved : incidentsStay.holds s s') {event : ι × BackendEvent}
    (silent : confirms app.settings event.2 = false) (rows : s'.serviceMemory = s.serviceMemory) :
    Exact app tasks s' (h ++ [event]) confirmed := by
  refine ⟨?_, inv.ids, fun memory mem => (inv.sources memory mem).stays moved, fun serviceId => ?_⟩
  · rw [List.filter_append, List.filter_cons_of_neg (by simp [silent]), List.filter_nil,
      List.append_nil]
    exact inv.events
  · rw [rows]
    exact inv.table serviceId

theorem Exact.added {s s' : Database} {h : List (ι × BackendEvent)}
    {confirmed : List ServiceMemory} {memory : ServiceMemory}
    (inv : Exact app tasks s h confirmed)
    (moved : incidentsStay.holds s s') {event : ι × BackendEvent}
    (closes : confirms app.settings event.2 = true)
    (written : ConfirmedBy app.settings (clockOf (tasks event.1)) event.2 memory)
    (source : Confirmed app s memory)
    (fresh : ∀ old ∈ confirmed, old.id < memory.id)
    (rows : s'.serviceMemory =
      consolidateServiceMemory (s.serviceMemory ++ [memory]) memory.serviceId) :
    Exact app tasks s' (h ++ [event]) (confirmed ++ [memory]) := by
  have ids : ((confirmed ++ [memory]).map (·.id)).Pairwise (· < ·) := by
    rw [List.map_append, List.pairwise_append]
    refine ⟨inv.ids, List.pairwise_singleton .., fun id old last new => ?_⟩
    obtain ⟨row, mem, rfl⟩ := List.mem_map.mp old
    rw [List.mem_singleton.mp new]
    exact fresh row mem
  have distinct : ((confirmed ++ [memory]).map (·.id)).Nodup := ids.imp fun below => below.ne
  refine ⟨?_, ids, fun row mem => ?_, fun serviceId => ?_⟩
  · have last : [event].filter (confirms app.settings ·.2) = [event] := by simp [closes]
    rw [List.filter_append, last]
    exact List.rel_append inv.events (.cons written .nil)
  · obtain old | new := List.mem_append.mp mem
    · exact (inv.sources row old).stays moved
    · exact List.mem_singleton.mp new ▸ source.stays moved
  · rw [rows]
    by_cases own : serviceId = memory.serviceId
    · subst own
      have part : ((confirmed.filter (·.serviceId == memory.serviceId) ++ [memory]).map
          (·.id)).Nodup :=
        distinct.sublist ((List.filter_sublist.append_right _).map _)
      have last : [memory].filter (·.serviceId == memory.serviceId) = [memory] := by simp
      rw [consolidate_own, List.filter_append, inv.table, consolidate_own, last,
        consolidate_early part, consolidate_own, List.filter_append, last]
    · have gone : [memory].filter (·.serviceId == serviceId) = [] := by
        simp [Ne.symm own]
      rw [consolidate_other own, consolidate_own, List.filter_append, List.filter_append, gone,
        List.append_nil, List.append_nil, inv.table, consolidate_own]

def Below (s : Database) (confirmed : List ServiceMemory) : Prop :=
  ∀ memory ∈ confirmed, memory.id < s.nextMemoryId

theorem MemoryStep.exact {s s' : Database} {h : List (ι × BackendEvent)} {l : Label} {who : ι}
    (step : MemoryStep app (clockOf (tasks who)) l s s') (moved : incidentsStay.holds s s')
    (known : ∃ confirmed, Exact app tasks s h confirmed ∧ Below s confirmed) :
    ∃ confirmed, Exact app tasks s' (h ++ [(who, .performed l)]) confirmed ∧
      Below s' confirmed := by
  obtain ⟨confirmed, inv, below⟩ := known
  cases step with
  | untouched silent rows ids =>
    refine ⟨confirmed, inv.quiet moved silent rows, fun memory mem => ?_⟩
    rw [ids]
    exact below memory mem
  | confirmed memory closes written source fresh ids rows =>
    refine ⟨confirmed ++ [memory], inv.added moved closes written source
      (fun old mem => fresh ▸ below old mem) rows, fun row mem => ?_⟩
    rw [ids]
    obtain old | new := List.mem_append.mp mem
    · exact Nat.lt_succ_of_lt (below row old)
    · rw [List.mem_singleton.mp new, fresh]
      exact Nat.lt_succ_self _

/-- Whatever overlaps and wherever it fails, where results are applied one at a time: the memory of
a service that started empty is what one consolidation of all its confirmations makes, one for each
result that was applied and that the write policy lets in, in the order they were applied. -/
theorem memory_exact [DecidableEq ι] (app : App) (db : Database) (tasks : ι → Task)
    (inOrder : Scoped app db) (empty : db.serviceMemory = []) {pool : Tasks ι}
    (reach : Reaches anyStep (startAll app db tasks) pool) :
    ∃ confirmed, Exact app tasks pool.state pool.history confirmed := by
  suffices kept : (scopedMemory app fun _ => True).Later db pool.state ∧ ∃ confirmed,
      Exact app tasks pool.state pool.history confirmed ∧ Below pool.state confirmed by
    obtain ⟨-, confirmed, inv, -⟩ := kept
    exact ⟨confirmed, inv⟩
  refine assured_induction (fun i => keepsScope app (fun _ => True) (clockOf (tasks i)))
    (fun pool => ∃ confirmed, Exact app tasks pool.state pool.history confirmed ∧
      Below pool.state confirmed) ?_ ?_ reach inOrder (fun _ _ _ => trivial)
    (fun i => program_assures app _ (tasks i) db) ?_
  · intro pool who l rest next moved _ acts known
    rw [Pool.moved_state, Pool.moved_history]
    exact (Acts.memoryStep acts).exact moved.1 known
  · intro pool who event rest _ _ other ⟨confirmed, inv, below⟩
    rw [Pool.moved_state, Pool.moved_history]
    have silent : confirms app.settings event = false := by
      cases event with
      | performed l => exact absurd rfl (other l)
      | answered | failed | died => rfl
    exact ⟨confirmed, inv.quiet (incidentsStay.refl _) silent rfl, below⟩
  · refine ⟨[], ⟨.nil, .nil, by simp, fun serviceId => ?_⟩, by simp [Below]⟩
    change db.serviceMemory.filter _ = _
    rw [empty]
    rfl

/-- The run of incident 1, and a new incident, which is number 2, with its run. -/
def twoIncidents : Option Bool → Task
  | none => .http ⟨.runIncident 1, ⟨"process-1", 0⟩⟩
  | some true => .http ⟨.createIncident "checkout-deploy-outage", ⟨"process-1", 0⟩⟩
  | some false => .http ⟨.runIncident 2, ⟨"process-1", 5⟩⟩

def bothRestarting : List (Option Bool × Move ChatOutcome Error) :=
  (some true, .perform) :: untilModel.map (none, ·) ++ untilModel.map (some false, ·) ++
    (none, .reply (.response restartDiagnosis)) ::
    (some false, .reply (.response restartDiagnosis)) ::
    untilRestart.map (some false, ·) ++ untilRestart.map (none, ·)

/-- The same pattern is confirmed by both: one row that counts two. -/
theorem memory_exact_two : ∃ pool confirmed,
    (startAll checkoutApp RunStart.openIncident twoIncidents).run bothRestarting = some pool ∧
      pool.state.serviceMemory.map (·.occurrenceCount) = [2] ∧
      Exact checkoutApp twoIncidents pool.state pool.history confirmed := by
  have counts : ((startAll checkoutApp RunStart.openIncident twoIncidents).run bothRestarting).any
      (fun pool => pool.state.serviceMemory.map (·.occurrenceCount) == [2]) = true := by
    decide +kernel
  obtain ⟨pool, ran, two⟩ := Option.any_eq_true _ _ |>.mp counts
  obtain ⟨confirmed, inv⟩ := memory_exact checkoutApp RunStart.openIncident twoIncidents
    scoped_openIncident rfl (reaches_of_run (permitted_anyStep bothRestarting _) ran)
  exact ⟨pool, confirmed, ran, beq_iff_eq.mp two, inv⟩

end OpsPilot.MemoryExact
