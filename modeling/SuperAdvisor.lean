import SuperAdvisor.Events.CanonicalJson
import SuperAdvisor.Events.Consumer
import SuperAdvisor.Events.Consumption
import SuperAdvisor.Events.Envelope
import SuperAdvisor.Events.FailClosed
import SuperAdvisor.Events.PublishedNumbers
import SuperAdvisor.Events.RedactedEvents
import SuperAdvisor.Events.Redaction
import SuperAdvisor.Foundation.Averages
import SuperAdvisor.Foundation.ChainedLog
import SuperAdvisor.Foundation.Cooldown
import SuperAdvisor.Foundation.Dict
import SuperAdvisor.Foundation.EqualReload
import SuperAdvisor.Foundation.FileTree
import SuperAdvisor.Foundation.Gaps
import SuperAdvisor.Foundation.Interleaving
import SuperAdvisor.Foundation.IsoText
import SuperAdvisor.Foundation.JsonIndent
import SuperAdvisor.Foundation.JsonRoundTrip
import SuperAdvisor.Foundation.JsonText
import SuperAdvisor.Foundation.JsonValues
import SuperAdvisor.Foundation.LexicalPaths
import SuperAdvisor.Foundation.LoadedValues
import SuperAdvisor.Foundation.LogEdits
import SuperAdvisor.Foundation.Machine
import SuperAdvisor.Foundation.NamedFields
import SuperAdvisor.Foundation.Occurrences
import SuperAdvisor.Foundation.OrderedDict
import SuperAdvisor.Foundation.PlainDump
import SuperAdvisor.Foundation.PlainEquality
import SuperAdvisor.Foundation.PosixTree
import SuperAdvisor.Foundation.Program
import SuperAdvisor.Foundation.PythonDict
import SuperAdvisor.Foundation.PythonJson
import SuperAdvisor.Foundation.PythonText
import SuperAdvisor.Foundation.PythonValue
import SuperAdvisor.Foundation.Raising
import SuperAdvisor.Foundation.RaisingLoops
import SuperAdvisor.Foundation.RecordFiles
import SuperAdvisor.Foundation.Reloading
import SuperAdvisor.Foundation.SeparatedFields
import SuperAdvisor.Foundation.Sha256
import SuperAdvisor.Foundation.SortedDistinct
import SuperAdvisor.Foundation.StableDump
import SuperAdvisor.Foundation.TypedFields
import SuperAdvisor.Foundation.ValueEquality
import SuperAdvisor.Foundation.Walks
import SuperAdvisor.MainAgent.AgreedResults
import SuperAdvisor.MainAgent.AuditChain
import SuperAdvisor.MainAgent.Checkpoint
import SuperAdvisor.MainAgent.CheckpointFlags
import SuperAdvisor.MainAgent.CheckpointSteps
import SuperAdvisor.MainAgent.CompletionReports
import SuperAdvisor.MainAgent.ConflictGate
import SuperAdvisor.MainAgent.ConflictScan
import SuperAdvisor.MainAgent.DispatchOnce
import SuperAdvisor.MainAgent.ExecuteLoop
import SuperAdvisor.MainAgent.FirstConflict
import SuperAdvisor.MainAgent.FlaggedSessions
import SuperAdvisor.MainAgent.Plan
import SuperAdvisor.MainAgent.PlanAcceptance
import SuperAdvisor.MainAgent.PlannedOrder
import SuperAdvisor.MainAgent.Planner
import SuperAdvisor.MainAgent.RoutedDispatches
import SuperAdvisor.MainAgent.Router
import SuperAdvisor.MainAgent.Runtime
import SuperAdvisor.MainAgent.Session
import SuperAdvisor.MainAgent.SessionHistory
import SuperAdvisor.MainAgent.TopologicalOrder
import SuperAdvisor.MarketData.BackfillProgress
import SuperAdvisor.MarketData.BarCoherence
import SuperAdvisor.MarketData.BarDelivery
import SuperAdvisor.MarketData.Batches
import SuperAdvisor.MarketData.BreakerHistory
import SuperAdvisor.MarketData.Calls
import SuperAdvisor.MarketData.ClosedBarMutations
import SuperAdvisor.MarketData.Collector
import SuperAdvisor.MarketData.CommitAtomicity
import SuperAdvisor.MarketData.Commits
import SuperAdvisor.MarketData.Cycles
import SuperAdvisor.MarketData.DirectionalIndex
import SuperAdvisor.MarketData.FredAdapter
import SuperAdvisor.MarketData.FredIndependence
import SuperAdvisor.MarketData.FxBasket
import SuperAdvisor.MarketData.IncidentRows
import SuperAdvisor.MarketData.LastKnown
import SuperAdvisor.MarketData.Loads
import SuperAdvisor.MarketData.MissingBars
import SuperAdvisor.MarketData.MissingTimes
import SuperAdvisor.MarketData.ParquetRows
import SuperAdvisor.MarketData.Quality
import SuperAdvisor.MarketData.RecordRoundTrip
import SuperAdvisor.MarketData.Records
import SuperAdvisor.MarketData.RelativeStrength
import SuperAdvisor.MarketData.ReportedIncidents
import SuperAdvisor.MarketData.RollingCorrelation
import SuperAdvisor.MarketData.Settings
import SuperAdvisor.MarketData.Storage
import SuperAdvisor.MarketData.StorageRules
import SuperAdvisor.MarketData.StoredFiles
import SuperAdvisor.MarketData.SymbolMatches
import SuperAdvisor.MarketData.System
import SuperAdvisor.MarketData.TickDelivery
import SuperAdvisor.MarketData.UsableObservations
import SuperAdvisor.Persistence.AgentMemory
import SuperAdvisor.Persistence.AppendFailures
import SuperAdvisor.Persistence.BackupRuns
import SuperAdvisor.Persistence.Backups
import SuperAdvisor.Persistence.ConcurrentAppends
import SuperAdvisor.Persistence.EvidenceArchive
import SuperAdvisor.Persistence.HashChains
import SuperAdvisor.Persistence.LogLines
import SuperAdvisor.Persistence.MemoryIsolation
import SuperAdvisor.Persistence.OutcomeLedger
import SuperAdvisor.Persistence.RedactedExport
import SuperAdvisor.Persistence.SkillCandidates
import SuperAdvisor.Persistence.SkillRecords
import SuperAdvisor.Persistence.SkillReleases
import SuperAdvisor.Persistence.StoredLogs
import SuperAdvisor.Persistence.Tampering
import SuperAdvisor.Registry.AgentRecords
import SuperAdvisor.Registry.MisnamedAgent
import SuperAdvisor.Registry.Readiness
import SuperAdvisor.Registry.RegistryFile
import SuperAdvisor.Registry.ReloadedRegistry
import SuperAdvisor.Registry.Snapshot
import SuperAdvisor.Registry.UncaughtErrors
import SuperAdvisor.Registry.Validation
import SuperAdvisor.Registry.WrittenProjects
import SuperAdvisor.Registry.WrittenRegistry
import SuperAdvisor.Research.Experiment
import SuperAdvisor.Research.ExperimentRecords
import SuperAdvisor.Research.ExperimentRuns
import SuperAdvisor.Research.IndependentReview
import SuperAdvisor.Research.RepeatedIds
import SuperAdvisor.Scanning.Detectors
import SuperAdvisor.Scanning.HistoryReports
import SuperAdvisor.Scanning.ModuleImports
import SuperAdvisor.Scanning.ProjectFiles
import SuperAdvisor.Scanning.ReachableModules
import SuperAdvisor.Scanning.ScanRoots
import SuperAdvisor.Scanning.ScanVerdict
import SuperAdvisor.Scanning.SecurityScan
import SuperAdvisor.Scheduler.BoundedRetry
import SuperAdvisor.Scheduler.DeadLetters
import SuperAdvisor.Scheduler.EnqueueRaces
import SuperAdvisor.Scheduler.FailedStatements
import SuperAdvisor.Scheduler.JobQueue
import SuperAdvisor.Scheduler.Leases
import SuperAdvisor.Scheduler.PriorityDrain
import SuperAdvisor.Scheduler.RowEffect
import SuperAdvisor.Scheduler.SavedProgress
import SuperAdvisor.Scheduler.StaleWorkers
import SuperAdvisor.Scheduler.TerminalStates
import SuperAdvisor.Settings.Environment
import SuperAdvisor.Settings.Loading
import SuperAdvisor.Settings.PolicyVerdicts
import SuperAdvisor.Signals.SignalPipeline
import SuperAdvisor.Skills.InstructionFilter
import SuperAdvisor.Storage.WriterRaces
import SuperAdvisor.Telegram.AlertCooldown
import SuperAdvisor.Telegram.AlertKeys
import SuperAdvisor.Telegram.MarketAlerts
import SuperAdvisor.Topology.Routing
import SuperAdvisor.WorkOrders.CodeWorkOrder
import SuperAdvisor.WorkOrders.WorkChecks
import SuperAdvisor.Foundation.Checks
import SuperAdvisor.Foundation.Placeholders
import SuperAdvisor.Foundation.SingleWriter
import SuperAdvisor.Foundation.Stacks
import SuperAdvisor.MainAgent.ManagerRouting
import SuperAdvisor.Runtime.Heartbeat
import SuperAdvisor.Runtime.Shutdown
import SuperAdvisor.Runtime.ShutdownCallbacks
import SuperAdvisor.Runtime.Watchdog
import SuperAdvisor.Settings.AcceptedConfig
import SuperAdvisor.Settings.DeniedTools
import SuperAdvisor.Settings.Templates
import SuperAdvisor.Skills.SkillCatalog
import SuperAdvisor.Storage.Migrations
import SuperAdvisor.Events.SentEvents
