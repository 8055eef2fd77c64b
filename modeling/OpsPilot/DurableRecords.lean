import OpsPilot.MemoryScope

/-! What the tables keep for good: rows that were once written are never changed or removed again
by anything that works on the database. -/

namespace OpsPilot.DurableRecords
open AgentSchemas SyntheticEnvironment InvestigationState Models IncidentApi StepEffects
open PendingApproval Workload MemoryScope RequestPool

/-- Every row that the first state has, the second has as well: audit rows and remediations in the
same places, and the rows of a timeline in the same order. -/
structure RecordsKept (s t : Database) : Prop where
  audit : s.auditLog <+: t.auditLog
  remediations : s.remediationExecutions <+: t.remediationExecutions
  keys : (s.remediationExecutions.map (·.idempotencyKey)).Nodup →
    (t.remediationExecutions.map (·.idempotencyKey)).Nodup
  incidents : incidentsStay.holds s t

theorem orderBy_sublist {Row Key : Type} [LinearOrder Key] (key : Row → Key) {rows more : List Row}
    (sub : rows.Sublist more) : (orderBy key rows).Sublist (orderBy key more) := by
  have total : Std.Total fun a b : Row => key a ≤ key b := ⟨fun a b => le_total (key a) (key b)⟩
  have transitive : IsTrans Row fun a b => key a ≤ key b := ⟨fun _ _ _ => le_trans⟩
  unfold orderBy
  induction sub with
  | slnil => exact .refl _
  | cons row _ ih => exact ih.trans (List.sublist_orderedInsert _ _)
  | cons_cons row _ ih =>
    exact ih.orderedInsert_sublist row (List.pairwise_insertionSort _ _)

/-- A timeline never loses a row, nor shows two of its rows the other way round. -/
theorem RecordsKept.timeline {s t : Database} (kept : RecordsKept s t) (id : ℕ) :
    (timelineRows s id).Sublist (timelineRows t id) :=
  orderBy_sublist _ (kept.audit.sublist.filter _)

theorem RecordsKept.refl (s : Database) : RecordsKept s s :=
  ⟨List.prefix_refl _, List.prefix_refl _, id, incidentsStay.refl s⟩

theorem RecordsKept.trans {s t u : Database} (first : RecordsKept s t) (next : RecordsKept t u) :
    RecordsKept s u where
  audit := first.audit.trans next.audit
  remediations := first.remediations.trans next.remediations
  keys fresh := next.keys (first.keys fresh)
  incidents := incidentsStay.trans first.incidents next.incidents

theorem closeIncident_auditLog (settings : Settings) (server : Server) (scenario : Scenario)
    (id : ℕ) (incident : Incident) (result : InvestigationResult) (db : Database) :
    db.auditLog <+: (closeIncident settings server scenario id incident result db).auditLog := by
  unfold closeIncident addMemory
  dsimp only
  split <;> split <;> simp [Database.updateIncident, persistNewEvidence, addAudit]

theorem kept_of_effect {l : Label} {s t : Database} (born : Born s) (effect : Effect l s t) :
    RecordsKept s t ∧ Born t := by
  obtain ⟨stays, born'⟩ := stays_of_effect born effect
  refine ⟨?_, born'⟩
  have same : t.auditLog = s.auditLog → t.remediationExecutions = s.remediationExecutions →
      RecordsKept s t := by
    intro audit remediations
    refine ⟨by rw [audit], by rw [remediations], ?_, stays⟩
    rw [remediations]
    exact fun fresh => fresh
  cases l with
  | createIncident =>
    obtain ⟨_, _, rfl⟩ := effect
    exact same rfl rfl
  | commitRunning | saveCheckpoint =>
    obtain ⟨_, rfl⟩ := effect
    exact same rfl rfl
  | commit row =>
    obtain rfl | ⟨missing, rfl⟩ := effect
    · exact same rfl rfl
    · refine ⟨List.prefix_refl _, List.prefix_append _ _, fun fresh => ?_, stays⟩
      rw [Database.remediation?, List.find?_eq_none] at missing
      rw [List.map_append, List.nodup_append]
      refine ⟨fresh, List.nodup_singleton _, ?_⟩
      rintro key old _ new rfl
      obtain ⟨known, mem, same⟩ := List.mem_map.mp old
      rw [List.map_singleton, List.mem_singleton] at new
      exact missing known mem (by simp [same, new])
  | applyResult id result =>
    obtain ⟨_, server, rfl⟩ | ⟨_, settings, server, scenario, incident, rfl⟩ := effect
    · refine ⟨?_, List.prefix_refl _, fun fresh => fresh, stays⟩
      simp [pauseIncident, Database.updateIncident, persistNewEvidence, addAudit]
    · have unchanged := closeIncident_remediations settings server scenario id incident result s
      refine ⟨closeIncident_auditLog settings server scenario id incident result s, ?_, ?_, stays⟩
      · rw [unchanged]
      · rw [unchanged]
        exact fun fresh => fresh
  | _ =>
    cases effect
    exact same rfl rfl

variable {ι : Type} [DecidableEq ι]

/-- Between any two moments of any run, whatever overlaps and wherever it fails, no audit row, no
remediation and no incident is changed or lost, and no idempotency key is recorded twice. -/
theorem records_kept (app : App) (db : Database) (tasks : ι → Task) (born : Born db)
    {pool pool' : Tasks ι} (before : Reaches anyStep (startAll app db tasks) pool)
    (after : Reaches anyStep pool pool') :
    RecordsKept pool.state pool'.state ∧
      ∀ id, (timelineRows pool.state id).Sublist (timelineRows pool'.state id) := by
  have kept : ∀ {first last : Tasks ι}, Born first.state →
      (∀ i, Does (fun _ => True) (first.requests i)) → Reaches anyStep first last →
        RecordsKept first.state last.state ∧ Born last.state := by
    intro first last born does reach
    refine reach.guaranteed (fun s _ => RecordsKept first.state s ∧ Born s) ?_ ?_ does
      ⟨.refl _, born⟩
    · exact fun _ _ _ _ inv _ => inv
    · rintro s s' _ _ l ⟨kept, born⟩ ⟨_, effect⟩
      obtain ⟨more, born⟩ := kept_of_effect born effect
      exact ⟨kept.trans more, born⟩
  have does : ∀ i, Does (fun _ => True) ((startAll app db tasks).requests i) := fun i =>
    ((tasks i).program_licensed app).mono fun _ _ => trivial
  have started := (kept born does before).2
  obtain ⟨records, _⟩ := kept started (before.guarantees does) after
  exact ⟨records, records.timeline⟩

/-- The incident of `remembering` before its result is applied, and the evaluation after it. -/
theorem records_kept_recalled : ∃ pool pool',
    (startAll checkoutApp RunStart.openIncident runThenEvaluate).run (remembering.take 20) =
        some pool ∧ pool.run (remembering.drop 20) = some pool' ∧
      pool.state.auditLog.length < pool'.state.auditLog.length ∧
      RecordsKept pool.state pool'.state ∧
      ∀ id, (timelineRows pool.state id).Sublist (timelineRows pool'.state id) := by
  have runs : ((startAll checkoutApp RunStart.openIncident runThenEvaluate).run
      (remembering.take 20)).any (fun pool => (pool.run (remembering.drop 20)).any fun pool' =>
        decide (pool.state.auditLog.length < pool'.state.auditLog.length)) = true := by
    decide +kernel
  obtain ⟨pool, ran, runs⟩ := Option.any_eq_true _ _ |>.mp runs
  obtain ⟨pool', ran', more⟩ := Option.any_eq_true _ _ |>.mp runs
  exact ⟨pool, pool', ran, ran', of_decide_eq_true more, records_kept checkoutApp
    RunStart.openIncident runThenEvaluate born_openIncident
    (reaches_of_run (permitted_anyStep _ _) ran) (reaches_of_run (permitted_anyStep _ _) ran')⟩

end OpsPilot.DurableRecords
