import Mathlib.Data.Finset.Card
import OpsPilot.SeedSteps

/-! What seeding leaves behind, and when it leaves no runbook twice. -/

namespace OpsPilot.SeedIdempotence
open ScenarioSpecs SeedGenerator SeedSteps

def keywords (spec : ScenarioSpec) : List String := spec.runbooks.map (·.symptomKeyword)

def HasRunbook (tables : Tables) (name keyword : String) : Prop :=
  ∃ service ∈ tables.services, service.name = name ∧
    ∃ row ∈ tables.runbooks, row.serviceId = service.id ∧ row.symptomKeyword = keyword

def Distinct (tables : Tables) : Prop :=
  (tables.runbooks.map fun row => (row.serviceId, row.symptomKeyword)).Nodup

/-- What the specs add to the tables fits its columns: the scenarios with their rows, the services
that are not there yet and the runbooks that their service does not have. -/
def Storable (tables : Tables) (specs : List ScenarioSpec) : Prop :=
  ∀ before spec after, specs = before ++ spec :: after →
    (scenarioRow spec 0 0).fits = true ∧ (scenarioRows spec 0 0).fits = true ∧
    (spec.serviceName ∈ tables.services.map (·.name) ∨
      spec.serviceName ∈ before.map (·.serviceName) ∨
      ServiceRow.fits ⟨0, spec.serviceName, spec.serviceDescription⟩ = true) ∧
    ∀ runbook ∈ spec.runbooks, HasRunbook tables spec.serviceName runbook.symptomKeyword ∨
      (∃ earlier ∈ before, earlier.serviceName = spec.serviceName ∧
        runbook.symptomKeyword ∈ keywords earlier) ∨
      RunbookRow.fits ⟨0, runbook.symptomKeyword, runbook.content⟩ = true

theorem fresh_cons {tables : Tables} {spec : ScenarioSpec} {specs : List ScenarioSpec}
    (fresh : (keysOf tables ++ (spec :: specs).map (·.key)).Nodup) :
    spec.key ∉ keysOf tables ∧ (keysOf (seeded tables spec) ++ specs.map (·.key)).Nodup := by
  rw [List.map_cons, List.append_cons] at fresh
  rw [keysOf_seeded]
  have new := (List.nodup_append'.mp (List.nodup_append'.mp fresh).1).2.2
  exact ⟨List.disjoint_singleton.mp new, fresh⟩

theorem unambiguous_of_distinct {tables : Tables} (distinct : Distinct tables)
    (spec : ScenarioSpec) : Unambiguous tables spec := by
  intro runbook _
  have few := List.nodup_iff_count_le_one.mp distinct
    ((withService tables spec).1, runbook.symptomKeyword)
  rw [List.count, List.countP_map, List.countP_eq_length_filter] at few
  exact few

/-- The spec's scenario is there, under its service, with its rows and no others. -/
def Holds (tables : Tables) (spec : ScenarioSpec) : Prop :=
  ∃ service ∈ tables.services, service.name = spec.serviceName ∧ ∃ id < tables.nextScenarioId,
    scenarioRow spec service.id id ∈ tables.scenarios ∧
    tables.rows.of id = scenarioRows spec service.id id

theorem holds_seeded_self {tables : Tables} (sound : Sound tables) (spec : ScenarioSpec) :
    Holds (seeded tables spec) spec := by
  obtain ⟨service, mem, named, id⟩ := withService_service tables spec
  refine ⟨service, mem, named, tables.nextScenarioId, by simp [seeded], ?_, ?_⟩
  · simp [seeded, id]
  · simp [seeded, id, sound.rowsBelow _ le_rfl, scenarioRows_of_self]

theorem holds_seeded {tables : Tables} {spec : ScenarioSpec} (held : Holds tables spec)
    (other : ScenarioSpec) : Holds (seeded tables other) spec := by
  obtain ⟨service, mem, named, id, below, row, rows⟩ := held
  have apart : id ≠ tables.nextScenarioId := by omega
  refine ⟨service, withService_mono mem, named, id, ?_, ?_, ?_⟩
  · simp only [seeded, withService_nextScenarioId]
    omega
  · simp [seeded, row]
  · simp [seeded, rows, scenarioRows_of_ne other _ apart]

/-- The databases that runs of `seed_all` produce; a run that raises leaves only gaps in the ids. -/
inductive Produced : Tables → Prop
  | empty : Produced {}
  | run {tables tables' : Tables} {specs : List ScenarioSpec} {count : ℕ}
      (earlier : Produced tables) (ok : seedAll specs tables = .ok (count, tables')) :
      Produced tables'
  | raised {tables : Tables} (earlier : Produced tables) (services scenarios : ℕ) :
      Produced { tables with
        nextServiceId := tables.nextServiceId + services
        nextScenarioId := tables.nextScenarioId + scenarios }

theorem sound_of_produced {tables : Tables} (produced : Produced tables) : Sound tables := by
  induction produced with
  | empty => exact sound_empty
  | run earlier ok sound =>
    obtain ⟨-, rfl⟩ := seedAll_ok sound ok
    exact sound_seededAll sound _
  | raised earlier services scenarios sound =>
    exact ⟨sound.names, sound.ids, sound.keys,
      fun row mem => Nat.lt_add_right _ (sound.servicesBelow row mem),
      fun id after => sound.rowsBelow id (le_trans (Nat.le_add_right _ _) after),
      fun row mem => Nat.lt_add_right _ (sound.runbooksBelow row mem)⟩

theorem filter_eq_singleton {Row Key : Type} [BEq Key] [LawfulBEq Key] {rows : List Row}
    {field : Row → Key} (distinct : (rows.map field).Nodup) {row : Row} (mem : row ∈ rows) :
    rows.filter (field · == field row) = [row] := by
  induction rows with
  | nil => cases mem
  | cons first rows ih =>
    obtain ⟨new, distinct⟩ := List.nodup_cons.mp distinct
    obtain rfl | mem := List.mem_cons.mp mem
    · have others : rows.filter (field · == field row) = [] := by
        refine List.filter_eq_nil_iff.mpr fun other mem same => new ?_
        rw [← eq_of_beq same]
        exact List.mem_map_of_mem mem
      rw [List.filter_cons_of_pos (by simp), others]
    · rw [List.filter_cons_of_neg, ih distinct mem]
      exact fun same => new (eq_of_beq same ▸ List.mem_map_of_mem mem)

end OpsPilot.SeedIdempotence
