import OpsPilot.Platform

/-! The seeded tables that investigations read and nothing ever writes. A query without
`ORDER BY` returns rows in table order; `ORDER BY` keeps that order among equal keys. -/

namespace OpsPilot.SyntheticEnvironment

structure Service where
  id : ℕ
  name : String

structure Scenario where
  id : ℕ
  key : String
  service : Service
  title : String
  description : String
  /-- microseconds since the epoch, like every other time -/
  incidentStartedAt : ℤ

structure Deployment where
  scenarioId : ℕ
  version : String
  deployedAt : ℤ
  diffSummary : String

structure MetricPoint where
  scenarioId : ℕ
  metricName : String
  timestamp : ℤ
  value : ℚ

structure LogEntry where
  scenarioId : ℕ
  timestamp : ℤ
  level : String
  message : String

structure DependencyStatus where
  scenarioId : ℕ
  dependencyName : String
  status : String
  checkedAt : ℤ

structure Runbook where
  serviceId : ℕ
  symptomKeyword : String
  content : String

structure Tables where
  scenarios : List Scenario
  deployments : List Deployment := []
  metricPoints : List MetricPoint := []
  logEntries : List LogEntry := []
  dependencyStatuses : List DependencyStatus := []
  runbooks : List Runbook := []

/-- The first scenario of the seed. -/
def checkoutDeployOutage : Scenario where
  id := 1
  key := "checkout-deploy-outage"
  service := ⟨1, "checkout-api"⟩
  title := "Checkout error rate spike following v2.8 deploy"
  description := "checkout-api error rate rose sharply beginning at 14:00 UTC, roughly two " ++
    "minutes after deployment v2.8 went live."
  incidentStartedAt := 1768485720000000

/-- `ORDER BY key` -/
def orderBy {Row Key : Type} [LE Key] [DecidableLE Key] (key : Row → Key) (rows : List Row) :
    List Row :=
  rows.insertionSort (fun a b => key a ≤ key b)

end OpsPilot.SyntheticEnvironment
