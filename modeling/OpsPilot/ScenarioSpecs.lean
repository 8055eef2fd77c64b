import OpsPilot.SyntheticEnvironment

/-! The definitions that the seed is generated from and evaluations are scored against. -/

namespace OpsPilot.ScenarioSpecs
open SyntheticEnvironment

structure DeploymentSpec where
  version : String
  deployedAt : ℤ
  diffSummary : String

structure MetricSeriesSpec where
  metricName : String
  start : ℤ
  stepMinutes : ℤ
  values : List ℚ

structure LogSpec where
  timestamp : ℤ
  level : String
  message : String

structure DependencyStatusSpec where
  dependencyName : String
  status : String
  checkedAt : ℤ

structure RunbookSpec where
  symptomKeyword : String
  content : String

structure GroundTruthSpec where
  expectedEvidence : List String
  expectedDiagnosis : String
  expectedAction : String
  expectedPolicyVerdict : String
  notes : String := ""

structure ScenarioSpec where
  key : String
  serviceName : String
  serviceDescription : String
  title : String
  description : String
  injectedCause : String
  incidentStartedAt : ℤ
  groundTruth : GroundTruthSpec
  deployments : List DeploymentSpec := []
  metricSeries : List MetricSeriesSpec := []
  logs : List LogSpec := []
  dependencyStatuses : List DependencyStatusSpec := []
  runbooks : List RunbookSpec := []

/-- The first scenario of the seed. -/
def checkoutDeployOutageSpec : ScenarioSpec where
  key := checkoutDeployOutage.key
  serviceName := "checkout-api"
  serviceDescription := "Handles cart finalization and payment authorization for web checkout."
  title := checkoutDeployOutage.title
  description := checkoutDeployOutage.description
  injectedCause := "Deployment v2.8 refactored checkout-api's database connection pooling and " ++
    "reduced the pool size from 50 to 5 connections, causing connection exhaustion under " ++
    "normal load."
  incidentStartedAt := checkoutDeployOutage.incidentStartedAt
  groundTruth :=
    { expectedEvidence := ["deployment:checkout-api:v2.8", "metrics:checkout-api:error_rate",
        "logs:checkout-api:connection pool exhausted",
        "dependency_status:postgres-checkout:healthy"]
      expectedDiagnosis := "Deployment v2.8 reduced checkout-api's DB connection pool from 50 " ++
        "to 5 connections. The resulting connection exhaustion under normal traffic is the " ++
        "root cause of the error-rate spike; the database dependency itself remains healthy, " ++
        "ruling out a downstream/infrastructure cause."
      expectedAction := "rollback_deployment"
      expectedPolicyVerdict := "REQUIRE_APPROVAL"
      notes := "Deployment rollback is state-changing and must be gated, even with " ++
        "high-confidence evidence." }
  deployments := [⟨"v2.7", 1768035600000000, "Add promo-code validation endpoint."⟩,
    ⟨"v2.8", 1768485480000000, "Refactor DB connection pooling; pool size reduced from 50 to 5."⟩]
  metricSeries := [⟨"error_rate", 1768484400000000, 5, [0.4, 0.5, 0.4, 11.8, 27.6, 31.2]⟩,
    ⟨"latency_ms", 1768484400000000, 5, [120, 386, 652, 918, 1184, 1450]⟩]
  logs := [⟨1768485540000000, "info", "checkout-api deployment v2.8 rollout complete."⟩,
    ⟨1768485660000000, "error", "psycopg.OperationalError: connection pool exhausted"⟩,
    ⟨1768485780000000, "error", "psycopg.OperationalError: connection pool exhausted"⟩,
    ⟨1768485960000000, "error", "Timeout waiting for available connection (pool_size=5)"⟩]
  dependencyStatuses := [⟨"postgres-checkout", "healthy", 1768485900000000⟩,
    ⟨"payments-gateway", "healthy", 1768485900000000⟩]
  runbooks := [⟨"connection pool exhausted", "Symptom: 'connection pool exhausted' or connection " ++
    "timeout errors shortly after a deploy. Check the most recent deployment's diff for " ++
    "pool-size or connection config changes first. If found, rollback is the standard " ++
    "remediation."⟩]

end OpsPilot.ScenarioSpecs
