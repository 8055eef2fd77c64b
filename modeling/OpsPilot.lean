import OpsPilot.DurableProgram
import OpsPilot.RequestPool
import OpsPilot.AssumeGuarantee
import OpsPilot.ProgramLogic
import OpsPilot.CallHistory
import OpsPilot.StateGraph
import OpsPilot.JsonText
import OpsPilot.Platform
import OpsPilot.PolicyEngine
import OpsPilot.AgentSchemas
import OpsPilot.SyntheticEnvironment
import OpsPilot.ReadOnlyTools
import OpsPilot.RemediationTools
import OpsPilot.InvestigationState
import OpsPilot.Models
import OpsPilot.RunTrace
import OpsPilot.ChatClient
import OpsPilot.GatherContext
import OpsPilot.IdempotentExecution
import OpsPilot.GraphNodes
import OpsPilot.Memory
import OpsPilot.IncidentApi
import OpsPilot.EndpointRules
import OpsPilot.RemediationInterleaving
import OpsPilot.StepEffects
import OpsPilot.RunStart
import OpsPilot.Superstep
import OpsPilot.GatherLoop
import OpsPilot.GraphRun
import OpsPilot.RunCeilings
import OpsPilot.PolicyGate
import OpsPilot.GroundingGuard
import OpsPilot.Stranding
import OpsPilot.IncidentTurns
import OpsPilot.InvestigationOutcomes
import OpsPilot.IncidentPhases
import OpsPilot.AuditTrail
import OpsPilot.Transcript
import OpsPilot.RowOrder
import OpsPilot.ReproducibleTools
import OpsPilot.ThreadVerdicts
import OpsPilot.MemoryMerge
import OpsPilot.MemoryHistory
import OpsPilot.MemoryInterleaving
import OpsPilot.ThreadHistory
import OpsPilot.AutoEscalation
import OpsPilot.Exceptions
import OpsPilot.ApprovalTimeout
import OpsPilot.IncidentRows
import OpsPilot.Noninterference
import OpsPilot.Isolation
import OpsPilot.ExpiredPause
import OpsPilot.ExpiredApproval
import OpsPilot.ReadFaults
import OpsPilot.PendingApproval
import OpsPilot.AcceptedApproval
import OpsPilot.StoredApproval
import OpsPilot.PauseRequests
import OpsPilot.PauseResolution
import OpsPilot.DecisionAgreement
import OpsPilot.ApprovalForgery
import OpsPilot.ScenarioSpecs
import OpsPilot.EvalScores
import OpsPilot.ResultCoherence
import OpsPilot.FalseAlarms
import OpsPilot.EvalRegression
import OpsPilot.SlidingWindow
import OpsPilot.RateLimit
import OpsPilot.Redaction
import OpsPilot.SeedGenerator
import OpsPilot.SeedSteps
import OpsPilot.SeedIdempotence
import OpsPilot.RetryLoop
import OpsPilot.ToolResultBound
import OpsPilot.JsonUnambiguous
import OpsPilot.JsonCanonical
import OpsPilot.IdempotencyKey
import OpsPilot.RequestScope
import OpsPilot.Judge
import OpsPilot.EvalRunner
import OpsPilot.Workload
import OpsPilot.MemoryScope
import OpsPilot.DurableRecords
import OpsPilot.EvalAggregates
import OpsPilot.RecordCodec
import OpsPilot.LastWrite
import OpsPilot.RunStorage
import OpsPilot.AccessGate
import OpsPilot.Undisturbed
import OpsPilot.EvalIsolation
import OpsPilot.SeededScenarios
import OpsPilot.EvalReproducible
import OpsPilot.GroupMerge
import OpsPilot.MemoryConsolidation
import OpsPilot.MemoryExact
import OpsPilot.MemoryRoutes
