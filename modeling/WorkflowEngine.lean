import WorkflowEngine.Workflow.Encoding
import WorkflowEngine.Workflow.Validation
import WorkflowEngine.Action.Basic
import WorkflowEngine.Action.Builtin
import WorkflowEngine.CommandLine.Options
import WorkflowEngine.CommandLine.Report
import WorkflowEngine.CommandLine.Run
import WorkflowEngine.Engine.Identifier
import WorkflowEngine.Main
import WorkflowEngine.Template
import WorkflowEngine.Proofs.Program
import WorkflowEngine.Proofs.Dispatch
import WorkflowEngine.Proofs.FanOut
import WorkflowEngine.Proofs.Retry
import WorkflowEngine.Proofs.Continues
import WorkflowEngine.Proofs.Writing
import WorkflowEngine.Proofs.Visit
import WorkflowEngine.Proofs.Keeping
import WorkflowEngine.Proofs.ExecutionTurn
import WorkflowEngine.Proofs.Accounting
import WorkflowEngine.Proofs.Trail
import WorkflowEngine.Proofs.Reaction
import WorkflowEngine.Proofs.ResolvedInput
import WorkflowEngine.Proofs.CriticalStep
import WorkflowEngine.Proofs.Session
import WorkflowEngine.Proofs.Phase
import WorkflowEngine.Proofs.PhasedExecution
import WorkflowEngine.Proofs.Registry
import WorkflowEngine.Proofs.Interleaving
import WorkflowEngine.Proofs.Listening
import WorkflowEngine.Proofs.Halting
import WorkflowEngine.Proofs.Cancellation
import WorkflowEngine.Proofs.Ownership
import WorkflowEngine.Proofs.SessionParties
import WorkflowEngine.Proofs.Scheduling
import WorkflowEngine.Proofs.HandlerWork
import WorkflowEngine.Proofs.FinishedWork
import WorkflowEngine.Proofs.Capacity
import WorkflowEngine.Proofs.Evolution
import WorkflowEngine.Proofs.Dispatching
import WorkflowEngine.Proofs.GuardedDispatch
import WorkflowEngine.Proofs.DryRun
import WorkflowEngine.Proofs.Blocks
import WorkflowEngine.Proofs.Counters
import WorkflowEngine.Proofs.Itinerary
import WorkflowEngine.Proofs.References
import WorkflowEngine.Proofs.Fallback
import WorkflowEngine.Proofs.SubSteps
import WorkflowEngine.Proofs.Branching
import WorkflowEngine.Proofs.Multiplicity
import WorkflowEngine.Proofs.Nesting
import WorkflowEngine.Proofs.WellFormed
import WorkflowEngine.Proofs.ConditionGroups
import WorkflowEngine.Proofs.ConditionSemantics
import WorkflowEngine.Proofs.Success
import WorkflowEngine.Proofs.Routing
import WorkflowEngine.Proofs.VisitFrame
import WorkflowEngine.Proofs.Announcements
import WorkflowEngine.Proofs.Stores
import WorkflowEngine.Proofs.FileStores
import WorkflowEngine.Proofs.Determinacy
import WorkflowEngine.Proofs.Ensemble
import WorkflowEngine.Proofs.Isolation
import WorkflowEngine.Proofs.Overlap
import WorkflowEngine.Proofs.Refusal
import WorkflowEngine.Proofs.Keys
import WorkflowEngine.Proofs.Readers
import WorkflowEngine.Proofs.Serialization
import WorkflowEngine.Proofs.Forward
import WorkflowEngine.Proofs.MainLineTour
import WorkflowEngine.Proofs.Endings
import WorkflowEngine.Proofs.StoredRecords
import WorkflowEngine.Proofs.ExecutionOrder
import WorkflowEngine.Proofs.Cursor
import WorkflowEngine.Proofs.RetrySeries
import WorkflowEngine.Proofs.RetryDeadline
import WorkflowEngine.Proofs.RegistryOperations
import WorkflowEngine.Proofs.Doubles
import WorkflowEngine.Proofs.Rounding
import WorkflowEngine.Proofs.OperatorLaws
import WorkflowEngine.Proofs.IntegerComparison
import WorkflowEngine.Proofs.Sorting
import WorkflowEngine.Proofs.Paths
import WorkflowEngine.Proofs.Picking
import WorkflowEngine.Proofs.ShortestDecimals
import WorkflowEngine.Proofs.Numerals
import WorkflowEngine.Proofs.Printing
import WorkflowEngine.Proofs.Uniqueness
import WorkflowEngine.Proofs.Resolution
import WorkflowEngine.Proofs.Handover
import WorkflowEngine.Proofs.Interpolation
import WorkflowEngine.Proofs.DeclarationOrder
import WorkflowEngine.Proofs.StrayPatterns
import WorkflowEngine.Proofs.Delays
import WorkflowEngine.Proofs.Arguments
import WorkflowEngine.Proofs.PathLaws
