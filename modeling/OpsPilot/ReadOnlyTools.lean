import OpsPilot.AgentSchemas
import OpsPilot.SyntheticEnvironment

/-! The five read-only tools. Each is bound to one scenario; the model supplies only the
arguments, which are validated before the tool runs. -/

namespace OpsPilot.ReadOnlyTools
open JsonText SyntheticEnvironment

structure ToolContext where
  py : Platform
  tables : Tables
  scenario : Scenario

structure GetMetricsArgs where
  metricName : Option String
  sinceMinutes : ℤ

structure GetLogsArgs where
  level : Option String
  sinceMinutes : ℤ
  limit : ℤ

structure GetRecentDeploymentsArgs where
  sinceMinutes : ℤ

structure GetDependencyStatusArgs where

structure GetRunbookArgs where
  symptomKeyword : String

/-- `name: str | None = None` -/
def optionalText (input : Json) (name : String) : Option (Option String) :=
  match input.field? name with
  | none => some none
  | some .null => some none
  | some (.str s) => some (some s)
  | some _ => none

/-- `name: int = Field(default=default, ge=low, le=high)` -/
def boundedInt (py : Platform) (input : Json) (name : String) (default low high : ℤ) :
    Option ℤ :=
  match input.field? name with
  | none => some default
  | some value => do
    let i ← py.laxInt value
    guard (low ≤ i ∧ i ≤ high)
    return i

def textOrNull : Option String → Json
  | none => .null
  | some s => .str s

/-- `args_model.model_validate`, with the error text it raises. -/
def validated {Args : Type} (py : Platform) (model : String) (input : Json)
    (args : Option Args) : Except String Args :=
  match input.isObject, args with
  | true, some args => .ok args
  | _, _ => .error (py.validationError model input)

namespace GetMetricsArgs

def modelValidate (py : Platform) (input : Json) : Except String GetMetricsArgs :=
  validated py "GetMetricsArgs" input do
    return ⟨← optionalText input "metric_name", ← boundedInt py input "since_minutes" 60 1 10080⟩

def modelDump (args : GetMetricsArgs) : Json :=
  .obj [("metric_name", textOrNull args.metricName), ("since_minutes", .int args.sinceMinutes)]

end GetMetricsArgs

namespace GetLogsArgs

def modelValidate (py : Platform) (input : Json) : Except String GetLogsArgs :=
  validated py "GetLogsArgs" input do
    return ⟨← optionalText input "level", ← boundedInt py input "since_minutes" 60 1 10080,
      ← boundedInt py input "limit" 20 1 100⟩

def modelDump (args : GetLogsArgs) : Json :=
  .obj [("level", textOrNull args.level), ("since_minutes", .int args.sinceMinutes),
    ("limit", .int args.limit)]

end GetLogsArgs

namespace GetRecentDeploymentsArgs

def modelValidate (py : Platform) (input : Json) : Except String GetRecentDeploymentsArgs :=
  validated py "GetRecentDeploymentsArgs" input do
    return ⟨← boundedInt py input "since_minutes" 1440 1 10080⟩

def modelDump (args : GetRecentDeploymentsArgs) : Json :=
  .obj [("since_minutes", .int args.sinceMinutes)]

end GetRecentDeploymentsArgs

namespace GetDependencyStatusArgs

def modelValidate (py : Platform) (input : Json) : Except String GetDependencyStatusArgs :=
  validated py "GetDependencyStatusArgs" input (some ⟨⟩)

def modelDump (_ : GetDependencyStatusArgs) : Json := .obj []

end GetDependencyStatusArgs

namespace GetRunbookArgs

def modelValidate (py : Platform) (input : Json) : Except String GetRunbookArgs :=
  validated py "GetRunbookArgs" input do
    let .str keyword ← input.field? "symptom_keyword" | none
    guard (2 ≤ keyword.length)
    return ⟨keyword⟩

def modelDump (args : GetRunbookArgs) : Json :=
  .obj [("symptom_keyword", .str args.symptomKeyword)]

end GetRunbookArgs

def minutes (n : ℤ) : ℤ := n * 60000000

/-- Anchored to the scenario's own incident start, never to the wall clock. -/
def window (scenario : Scenario) (sinceMinutes : ℤ) : ℤ × ℤ :=
  (scenario.incidentStartedAt - minutes sinceMinutes, scenario.incidentStartedAt + minutes 15)

def inWindow (bounds : ℤ × ℤ) (time : ℤ) : Bool := decide (bounds.1 ≤ time ∧ time ≤ bounds.2)

/-- `if value: query.filter(column == value)`: an empty string filters nothing. -/
def keeps (filter : Option String) (value : String) : Bool :=
  match filter with
  | none => true
  | some "" => true
  | some wanted => value == wanted

def getMetrics (ctx : ToolContext) (args : GetMetricsArgs) : Json :=
  let bounds := window ctx.scenario args.sinceMinutes
  let rows := ctx.tables.metricPoints.filter fun r =>
    r.scenarioId == ctx.scenario.id && inWindow bounds r.timestamp &&
      keeps args.metricName r.metricName
  .arr ((orderBy (·.timestamp) rows).map fun r =>
    .obj [("metric_name", .str r.metricName), ("timestamp", .str (ctx.py.isoformat r.timestamp)),
      ("value", .float r.value)])

def getLogs (ctx : ToolContext) (args : GetLogsArgs) : Json :=
  let bounds := window ctx.scenario args.sinceMinutes
  let rows := ctx.tables.logEntries.filter fun r =>
    r.scenarioId == ctx.scenario.id && inWindow bounds r.timestamp && keeps args.level r.level
  .arr (((orderBy (·.timestamp) rows).take args.limit.toNat).map fun r =>
    .obj [("timestamp", .str (ctx.py.isoformat r.timestamp)), ("level", .str r.level),
      ("message", .str r.message)])

def getRecentDeployments (ctx : ToolContext) (args : GetRecentDeploymentsArgs) : Json :=
  let bounds := window ctx.scenario args.sinceMinutes
  let rows := ctx.tables.deployments.filter fun r =>
    r.scenarioId == ctx.scenario.id && inWindow bounds r.deployedAt
  .arr ((orderBy (·.deployedAt) rows).map fun r =>
    .obj [("version", .str r.version), ("deployed_at", .str (ctx.py.isoformat r.deployedAt)),
      ("diff_summary", .str r.diffSummary)])

def getDependencyStatus (ctx : ToolContext) (_args : GetDependencyStatusArgs) : Json :=
  let rows := ctx.tables.dependencyStatuses.filter fun r => r.scenarioId == ctx.scenario.id
  .arr ((orderBy (·.dependencyName) rows).map fun r =>
    .obj [("dependency_name", .str r.dependencyName), ("status", .str r.status),
      ("checked_at", .str (ctx.py.isoformat r.checkedAt))])

def getRunbook (ctx : ToolContext) (args : GetRunbookArgs) : Json :=
  let keyword := ctx.py.lower args.symptomKeyword.toList
  let rows := ctx.tables.runbooks.filter fun r => r.serviceId == ctx.scenario.service.id
  let found := rows.find? fun r =>
    let symptom := ctx.py.lower r.symptomKeyword.toList
    decide (keyword <:+: symptom) || decide (symptom <:+: keyword)
  match found with
  | some r => .obj [("found", .bool true), ("symptom_keyword", .str r.symptomKeyword),
      ("content", .str r.content)]
  | none => .obj [("found", .bool false), ("symptom_keyword", .str args.symptomKeyword),
      ("content", .null)]

structure ToolCall where
  arguments : Json
  result : Json

structure ToolSpec where
  name : String
  validate : ToolContext → Json → Except String ToolCall

def toolSpec {Args : Type} (name : String) (modelValidate : Platform → Json → Except String Args)
    (modelDump : Args → Json) (handler : ToolContext → Args → Json) : ToolSpec where
  name := name
  validate ctx input :=
    match modelValidate ctx.py input with
    | .error text => .error text
    | .ok args => .ok ⟨modelDump args, handler ctx args⟩

def toolRegistry : List ToolSpec :=
  [toolSpec "get_metrics" GetMetricsArgs.modelValidate GetMetricsArgs.modelDump getMetrics,
   toolSpec "get_logs" GetLogsArgs.modelValidate GetLogsArgs.modelDump getLogs,
   toolSpec "get_recent_deployments" GetRecentDeploymentsArgs.modelValidate
     GetRecentDeploymentsArgs.modelDump getRecentDeployments,
   toolSpec "get_dependency_status" GetDependencyStatusArgs.modelValidate
     GetDependencyStatusArgs.modelDump getDependencyStatus,
   toolSpec "get_runbook" GetRunbookArgs.modelValidate GetRunbookArgs.modelDump getRunbook]

/-- `TOOL_REGISTRY.get(name)` -/
def registered (name : String) : Option ToolSpec := toolRegistry.find? (·.name == name)

def maxToolResultChars : ℕ := 4000

def truncateToolResult (py : Platform) (payload : Json) : Json :=
  let text := py.dumps payload
  if text.length ≤ maxToolResultChars then payload
  else .obj [("truncated", .bool true),
    ("note", .str ("Result truncated to " ++ toString maxToolResultChars ++ " chars of " ++
      toString text.length ++ ".")),
    ("preview", .str (String.ofList (text.take maxToolResultChars)))]

end OpsPilot.ReadOnlyTools
