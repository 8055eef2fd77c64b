import OpsPilot.ReadOnlyTools
import OpsPilot.RowOrder
import Mathlib.Data.String.Basic

/-! What a tool returns when the database is free to choose the order of rows that a query's
`ORDER BY` does not distinguish. -/

namespace OpsPilot.ReproducibleTools
open JsonText SyntheticEnvironment ReadOnlyTools RowOrder

/-- The same rows, stored in another order. -/
structure Reordered (tables tables' : Tables) : Prop where
  scenarios : tables'.scenarios.Perm tables.scenarios
  deployments : tables'.deployments.Perm tables.deployments
  metricPoints : tables'.metricPoints.Perm tables.metricPoints
  logEntries : tables'.logEntries.Perm tables.logEntries
  dependencyStatuses : tables'.dependencyStatuses.Perm tables.dependencyStatuses
  runbooks : tables'.runbooks.Perm tables.runbooks

/-- A call of one of the five handlers. -/
inductive HandlerCall where
  | getMetrics (args : GetMetricsArgs)
  | getLogs (args : GetLogsArgs)
  | getRecentDeployments (args : GetRecentDeploymentsArgs)
  | getDependencyStatus (args : GetDependencyStatusArgs)
  | getRunbook (args : GetRunbookArgs)

def HandlerCall.result (ctx : ToolContext) : HandlerCall → Json
  | .getMetrics args => ReadOnlyTools.getMetrics ctx args
  | .getLogs args => ReadOnlyTools.getLogs ctx args
  | .getRecentDeployments args => ReadOnlyTools.getRecentDeployments ctx args
  | .getDependencyStatus args => ReadOnlyTools.getDependencyStatus ctx args
  | .getRunbook args => ReadOnlyTools.getRunbook ctx args

def Reproducible (ctx : ToolContext) (call : HandlerCall) : Prop :=
  ∀ tables, Reordered ctx.tables tables → call.result { ctx with tables } = call.result ctx

section
variable (ctx : ToolContext)

def selectsMetric (args : GetMetricsArgs) (r : MetricPoint) : Bool :=
  r.scenarioId == ctx.scenario.id && inWindow (window ctx.scenario args.sinceMinutes) r.timestamp &&
    keeps args.metricName r.metricName

def selectsLog (args : GetLogsArgs) (r : LogEntry) : Bool :=
  r.scenarioId == ctx.scenario.id && inWindow (window ctx.scenario args.sinceMinutes) r.timestamp &&
    keeps args.level r.level

def selectsDeployment (args : GetRecentDeploymentsArgs) (r : Deployment) : Bool :=
  r.scenarioId == ctx.scenario.id && inWindow (window ctx.scenario args.sinceMinutes) r.deployedAt

def selectsDependency (r : DependencyStatus) : Bool := r.scenarioId == ctx.scenario.id

def selectsRunbook (r : Runbook) : Bool := r.serviceId == ctx.scenario.service.id

def matchesKeyword (args : GetRunbookArgs) (r : Runbook) : Bool :=
  let symptom := ctx.py.lower r.symptomKeyword.toList
  decide (ctx.py.lower args.symptomKeyword.toList <:+: symptom) ||
    decide (symptom <:+: ctx.py.lower args.symptomKeyword.toList)

/-- Selected rows that the sort key does not distinguish, and that the limit does not cut off,
are the same to the model. -/
def TiesHarmless : HandlerCall → Prop
  | .getMetrics args => ∀ a ∈ ctx.tables.metricPoints.filter (selectsMetric ctx args),
      ∀ b ∈ ctx.tables.metricPoints.filter (selectsMetric ctx args),
        a.timestamp = b.timestamp → a.metricName = b.metricName ∧ a.value = b.value
  | .getLogs args => ∀ a ∈ ctx.tables.logEntries.filter (selectsLog ctx args),
      ∀ b ∈ ctx.tables.logEntries.filter (selectsLog ctx args), a.timestamp = b.timestamp →
        smaller (·.timestamp) a.timestamp (ctx.tables.logEntries.filter (selectsLog ctx args)) <
          args.limit.toNat → a.level = b.level ∧ a.message = b.message
  | .getRecentDeployments args =>
      ∀ a ∈ ctx.tables.deployments.filter (selectsDeployment ctx args),
      ∀ b ∈ ctx.tables.deployments.filter (selectsDeployment ctx args),
        a.deployedAt = b.deployedAt → a.version = b.version ∧ a.diffSummary = b.diffSummary
  | .getDependencyStatus _ =>
      ∀ a ∈ ctx.tables.dependencyStatuses.filter (selectsDependency ctx),
      ∀ b ∈ ctx.tables.dependencyStatuses.filter (selectsDependency ctx),
        a.dependencyName = b.dependencyName →
          a.status = b.status ∧ ctx.py.isoformat a.checkedAt = ctx.py.isoformat b.checkedAt
  | .getRunbook args => ∀ a ∈ ctx.tables.runbooks.filter (selectsRunbook ctx),
      ∀ b ∈ ctx.tables.runbooks.filter (selectsRunbook ctx),
        matchesKeyword ctx args a = true → matchesKeyword ctx args b = true →
          a.symptomKeyword = b.symptomKeyword ∧ a.content = b.content

end

theorem reproducible_of_table {Row : Type} {ctx : ToolContext} {call : HandlerCall}
    (table : Tables → List Row) (replace : List Row → Tables) (selects : Row → Bool)
    (answer : List Row → Json)
    (reorders : ∀ tables, Reordered ctx.tables tables → (table tables).Perm (table ctx.tables))
    (stored : ∀ rows, rows.Perm (table ctx.tables) →
      Reordered ctx.tables (replace rows) ∧ table (replace rows) = rows)
    (result : ∀ tables, call.result { ctx with tables } = answer ((table tables).filter selects)) :
    Reproducible ctx call ↔ ∀ rows : List Row, rows.Perm ((table ctx.tables).filter selects) →
      answer rows = answer ((table ctx.tables).filter selects) := by
  rw [← filter_determined selects (table ctx.tables) fun rows =>
    answer rows = answer ((table ctx.tables).filter selects)]
  have own : call.result ctx = answer ((table ctx.tables).filter selects) := result ctx.tables
  constructor
  · intro reproducible rows perm
    obtain ⟨reordered, same⟩ := stored rows perm
    have answered := reproducible (replace rows) reordered
    rwa [result, own, same] at answered
  · intro determined tables reordered
    rw [result, own]
    exact determined _ (reorders tables reordered)

theorem Reordered.refl (tables : Tables) : Reordered tables tables :=
  ⟨.refl _, .refl _, .refl _, .refl _, .refl _, .refl _⟩

section
variable (ctx : ToolContext)

theorem getMetrics_reproducible (args : GetMetricsArgs) :
    Reproducible ctx (.getMetrics args) ↔ TiesHarmless ctx (.getMetrics args) := by
  rw [reproducible_of_table (·.metricPoints)
    (fun rows => { ctx.tables with metricPoints := rows }) (selectsMetric ctx args)
    (fun rows => .arr ((sorted (·.timestamp) rows).map fun r =>
      .obj [("metric_name", .str r.metricName), ("timestamp", .str (ctx.py.isoformat r.timestamp)),
        ("value", .float r.value)]))
    (fun _ reordered => reordered.metricPoints)
    (fun rows perm => ⟨{ Reordered.refl _ with metricPoints := perm }, rfl⟩) (fun _ => rfl)]
  simp only [Json.arr.injEq]
  rw [sorted_determined]
  refine forall₂_congr fun a _ => forall₂_congr fun b _ => forall_congr' fun tie => ?_
  simp [tie]

theorem getLogs_reproducible (args : GetLogsArgs) :
    Reproducible ctx (.getLogs args) ↔ TiesHarmless ctx (.getLogs args) := by
  rw [reproducible_of_table (·.logEntries)
    (fun rows => { ctx.tables with logEntries := rows }) (selectsLog ctx args)
    (fun rows => .arr (((sorted (·.timestamp) rows).take args.limit.toNat).map fun r =>
      .obj [("timestamp", .str (ctx.py.isoformat r.timestamp)), ("level", .str r.level),
        ("message", .str r.message)]))
    (fun _ reordered => reordered.logEntries)
    (fun rows perm => ⟨{ Reordered.refl _ with logEntries := perm }, rfl⟩) (fun _ => rfl)]
  simp only [Json.arr.injEq]
  rw [take_sorted_determined]
  refine forall₂_congr fun a _ => forall₂_congr fun b _ => forall_congr' fun tie => ?_
  simp [tie]

theorem getRecentDeployments_reproducible (args : GetRecentDeploymentsArgs) :
    Reproducible ctx (.getRecentDeployments args) ↔
      TiesHarmless ctx (.getRecentDeployments args) := by
  rw [reproducible_of_table (·.deployments)
    (fun rows => { ctx.tables with deployments := rows }) (selectsDeployment ctx args)
    (fun rows => .arr ((sorted (·.deployedAt) rows).map fun r =>
      .obj [("version", .str r.version), ("deployed_at", .str (ctx.py.isoformat r.deployedAt)),
        ("diff_summary", .str r.diffSummary)]))
    (fun _ reordered => reordered.deployments)
    (fun rows perm => ⟨{ Reordered.refl _ with deployments := perm }, rfl⟩) (fun _ => rfl)]
  simp only [Json.arr.injEq]
  rw [sorted_determined]
  refine forall₂_congr fun a _ => forall₂_congr fun b _ => forall_congr' fun tie => ?_
  simp [tie]

theorem getDependencyStatus_reproducible (args : GetDependencyStatusArgs) :
    Reproducible ctx (.getDependencyStatus args) ↔
      TiesHarmless ctx (.getDependencyStatus args) := by
  rw [reproducible_of_table (·.dependencyStatuses)
    (fun rows => { ctx.tables with dependencyStatuses := rows }) (selectsDependency ctx)
    (fun rows => .arr ((sorted (·.dependencyName) rows).map fun r =>
      .obj [("dependency_name", .str r.dependencyName), ("status", .str r.status),
        ("checked_at", .str (ctx.py.isoformat r.checkedAt))]))
    (fun _ reordered => reordered.dependencyStatuses)
    (fun rows perm => ⟨{ Reordered.refl _ with dependencyStatuses := perm }, rfl⟩) (fun _ => rfl)]
  simp only [Json.arr.injEq]
  rw [sorted_determined]
  refine forall₂_congr fun a _ => forall₂_congr fun b _ => forall_congr' fun tie => ?_
  simp [tie]

def runbookAnswer (args : GetRunbookArgs) : Option Runbook → Json
  | some r => .obj [("found", .bool true), ("symptom_keyword", .str r.symptomKeyword),
      ("content", .str r.content)]
  | none => .obj [("found", .bool false), ("symptom_keyword", .str args.symptomKeyword),
      ("content", .null)]

theorem runbookAnswer_eq_iff (args : GetRunbookArgs) (found found' : Option Runbook) :
    runbookAnswer args found = runbookAnswer args found' ↔
      found.map (fun r => (r.symptomKeyword, r.content)) =
        found'.map fun r => (r.symptomKeyword, r.content) := by
  rcases found with _ | r <;> rcases found' with _ | r' <;> simp [runbookAnswer]

theorem getRunbook_reproducible (args : GetRunbookArgs) :
    Reproducible ctx (.getRunbook args) ↔ TiesHarmless ctx (.getRunbook args) := by
  rw [reproducible_of_table (·.runbooks)
    (fun rows => { ctx.tables with runbooks := rows }) (selectsRunbook ctx)
    (fun rows => runbookAnswer args (rows.find? (matchesKeyword ctx args)))
    (fun _ reordered => reordered.runbooks)
    (fun rows perm => ⟨{ Reordered.refl _ with runbooks := perm }, rfl⟩) (fun _ => rfl)]
  simp only [runbookAnswer_eq_iff]
  rw [find?_determined]
  refine forall₂_congr fun a _ => forall₂_congr fun b _ => forall₂_congr fun _ _ => ?_
  exact Prod.mk_inj

end

theorem reproducible_of_harmless {ctx : ToolContext} {call : HandlerCall}
    (harmless : TiesHarmless ctx call) : Reproducible ctx call := by
  cases call with
  | getMetrics args => exact (getMetrics_reproducible ctx args).mpr harmless
  | getLogs args => exact (getLogs_reproducible ctx args).mpr harmless
  | getRecentDeployments args => exact (getRecentDeployments_reproducible ctx args).mpr harmless
  | getDependencyStatus args => exact (getDependencyStatus_reproducible ctx args).mpr harmless
  | getRunbook args => exact (getRunbook_reproducible ctx args).mpr harmless

/-- For every content of the tables and every call: what a tool returns does not depend on the
order of undistinguished rows exactly if its ties are harmless. -/
theorem tools_reproducible_iff (ctx : ToolContext) (call : HandlerCall) :
    Reproducible ctx call ↔ TiesHarmless ctx call := by
  cases call with
  | getMetrics args => exact getMetrics_reproducible ctx args
  | getLogs args => exact getLogs_reproducible ctx args
  | getRecentDeployments args => exact getRecentDeployments_reproducible ctx args
  | getDependencyStatus args => exact getDependencyStatus_reproducible ctx args
  | getRunbook args => exact getRunbook_reproducible ctx args

/-- The first samples of the two metric series of the first scenario, at 13:40 both. -/
def checkoutMetrics : ToolContext where
  py := Platform.ascii
  tables := { scenarios := [checkoutDeployOutage]
              metricPoints := [⟨1, "error_rate", 1768484400000000, 2 / 5⟩,
                ⟨1, "latency_ms", 1768484400000000, 120⟩] }
  scenario := checkoutDeployOutage

def firstSeries : Json → Option String
  | .arr (item :: _) =>
    match item.field? "metric_name" with
    | some (.str name) => some name
    | _ => none
  | _ => none

/-- `get_metrics` with its default arguments lists the two series in either order. -/
theorem metric_series_tie : ∃ args,
    GetMetricsArgs.modelValidate checkoutMetrics.py (.obj []) = .ok args ∧
      ¬ Reproducible checkoutMetrics (.getMetrics args) := by
  refine ⟨⟨none, 60⟩, rfl, fun reproducible => ?_⟩
  have same := reproducible
    { checkoutMetrics.tables with metricPoints := checkoutMetrics.tables.metricPoints.reverse }
    { Reordered.refl _ with metricPoints := List.reverse_perm _ }
  have swapped : (firstSeries (HandlerCall.result { checkoutMetrics with
      tables := { checkoutMetrics.tables with
        metricPoints := checkoutMetrics.tables.metricPoints.reverse } }
      (.getMetrics ⟨none, 60⟩))) = some "latency_ms" := by decide
  have stored : firstSeries (HandlerCall.result checkoutMetrics (.getMetrics ⟨none, 60⟩)) =
      some "error_rate" := by decide
  rw [same, stored] at swapped
  exact absurd swapped (by decide)

end OpsPilot.ReproducibleTools
