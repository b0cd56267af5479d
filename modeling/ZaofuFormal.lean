import ZaofuFormal.Errors.CircuitBreaker
import ZaofuFormal.Events.Cursor
import ZaofuFormal.State.TaskStageBindings
import ZaofuFormal.Fanout.ChildIds
import ZaofuFormal.Fanout.AttemptLedger
import ZaofuFormal.State.SuccessIsFinal
import ZaofuFormal.Workflow.BarrierVerdicts
import ZaofuFormal.Workflow.ExecutionRoutes
import ZaofuFormal.Workflow.BudgetAmendments
import ZaofuFormal.Workflow.Reachability
import ZaofuFormal.Costs.Tracker
import ZaofuFormal.Workflow.OperationRequests
import ZaofuFormal.Workflow.SingleRequest
import ZaofuFormal.Workflow.SettledResults
import ZaofuFormal.Pipeline.ReviewProgress
import ZaofuFormal.Pipeline.InputOrder
import ZaofuFormal.Pipeline.Backpressure
import ZaofuFormal.Pipeline.ReworkOrder
import ZaofuFormal.Pipeline.StaleIntegration
import ZaofuFormal.Pipeline.ExclusiveRoles
import ZaofuFormal.Admission.Capacity
import ZaofuFormal.Admission.Fifo
import ZaofuFormal.Admission.Irreversible
import ZaofuFormal.Security.Attestations
import ZaofuFormal.Security.Nonces
import ZaofuFormal.Security.Redaction
import ZaofuFormal.State.SessionLock
import ZaofuFormal.State.SessionUuids
import ZaofuFormal.Tasks.ChangeOutcome
import ZaofuFormal.Goals.ClosureResult
import ZaofuFormal.Artifacts.JsonPaths
import ZaofuFormal.Artifacts.ReadEvidence
import ZaofuFormal.Refs.WriteScope
import ZaofuFormal.Evolution.TrialSettlement
import ZaofuFormal.Evolution.SealedEvaluator
import ZaofuFormal.Verification.EventSchema
import ZaofuFormal.Verification.VerificationResult
import ZaofuFormal.Memory.Store
import ZaofuFormal.Evolution.ActiveVersions
import ZaofuFormal.Requests.Revisions
import ZaofuFormal.Integration.DerivedIds
import ZaofuFormal.Integration.QueueHistories
import ZaofuFormal.TaskMap.EvidenceOwnership
import ZaofuFormal.TaskMap.StableOrder
import ZaofuFormal.TaskMap.FileOwners
import ZaofuFormal.Candidates.AdvancementReceipts
import ZaofuFormal.Candidates.PackageScope
import ZaofuFormal.Channels.QuestionGraph
import ZaofuFormal.Events.AppendOrder
import ZaofuFormal.Events.TornWrites
import ZaofuFormal.Events.Segments
import ZaofuFormal.Events.SessionTailer
import ZaofuFormal.Events.UnreadableLines
import ZaofuFormal.Events.TaskIndexRuns
import ZaofuFormal.Tasks.TerminalIndex
import ZaofuFormal.Tasks.AuthorityFrame
import ZaofuFormal.Rework.HandoffRuns
