import RS2ServerFix.Bootstrap.Resolver
import RS2ServerFix.Bootstrap.ResolverRules
import RS2ServerFix.Bootstrap.ResolverRuns
import RS2ServerFix.Bootstrap.ResolverSound
import RS2ServerFix.Bootstrap.ResolverWorld
import RS2ServerFix.Console.Accounting
import RS2ServerFix.Console.Notice
import RS2ServerFix.Console.Spacing
import RS2ServerFix.Console.Worker
import RS2ServerFix.Control.Config
import RS2ServerFix.Control.Console
import RS2ServerFix.Control.Latch
import RS2ServerFix.Control.LatchRelease
import RS2ServerFix.Control.LatchRules
import RS2ServerFix.Control.LatchRuns
import RS2ServerFix.Control.Request
import RS2ServerFix.Image.Looking
import RS2ServerFix.Image.Memory
import RS2ServerFix.Image.ReadScope
import RS2ServerFix.Image.Startup
import RS2ServerFix.LeechRecovery.Attribution
import RS2ServerFix.LeechRecovery.Faults
import RS2ServerFix.LeechRecovery.FinishLedger
import RS2ServerFix.LeechRecovery.FinishSteps
import RS2ServerFix.LeechRecovery.Helper
import RS2ServerFix.LeechRecovery.Invariant
import RS2ServerFix.LeechRecovery.Metadata
import RS2ServerFix.LeechRecovery.MetadataSteps
import RS2ServerFix.LeechRecovery.Moves
import RS2ServerFix.LeechRecovery.Nested
import RS2ServerFix.LeechRecovery.Owner
import RS2ServerFix.LeechRecovery.PhaseSteps
import RS2ServerFix.LeechRecovery.RecipeRuns
import RS2ServerFix.LeechRecovery.RecipeSteps
import RS2ServerFix.LeechRecovery.Recipes
import RS2ServerFix.LeechRecovery.RecordSteps
import RS2ServerFix.LeechRecovery.Records
import RS2ServerFix.LeechRecovery.RequestSteps
import RS2ServerFix.LeechRecovery.Rules
import RS2ServerFix.LeechRecovery.Runs
import RS2ServerFix.LeechRecovery.Service
import RS2ServerFix.LeechRecovery.Steps
import RS2ServerFix.LeechRecovery.Timing
import RS2ServerFix.LeechRecovery.TimingRuns
import RS2ServerFix.LeechRecovery.Value
import RS2ServerFix.LeechRecovery.Visit
import RS2ServerFix.LeechRecovery.VisitSteps
import RS2ServerFix.Lib.Act
import RS2ServerFix.Lib.Ask
import RS2ServerFix.Lib.Circular
import RS2ServerFix.Lib.Crew
import RS2ServerFix.Lib.Custody
import RS2ServerFix.Lib.Guarded
import RS2ServerFix.Lib.Handover
import RS2ServerFix.Lib.Interference
import RS2ServerFix.Lib.JsonString
import RS2ServerFix.Lib.JsonText
import RS2ServerFix.Lib.Latch
import RS2ServerFix.Lib.Ledger
import RS2ServerFix.Lib.Noted
import RS2ServerFix.Lib.Pool
import RS2ServerFix.Lib.RateWindow
import RS2ServerFix.Lib.Scan
import RS2ServerFix.Lib.Seqlock
import RS2ServerFix.Lib.Serve
import RS2ServerFix.Lib.Settings
import RS2ServerFix.Lib.Slots
import RS2ServerFix.Lib.Words
import RS2ServerFix.Lib.World
import RS2ServerFix.Marker.Format
import RS2ServerFix.Marker.Rules
import RS2ServerFix.Marker.Write
import RS2ServerFix.NativeLog.ChunkInvariance
import RS2ServerFix.NativeLog.Escape
import RS2ServerFix.NativeLog.FirstReceipt
import RS2ServerFix.NativeLog.FrameRoundTrip
import RS2ServerFix.NativeLog.Framing
import RS2ServerFix.NativeLog.Grammar
import RS2ServerFix.NativeLog.LoggedLines
import RS2ServerFix.NativeLog.Pipeline
import RS2ServerFix.NativeLog.PipelineInvariant
import RS2ServerFix.NativeLog.PipelineOrder
import RS2ServerFix.NativeLog.PipelineRuns
import RS2ServerFix.NativeLog.PipelineTexts
import RS2ServerFix.NativeLog.ReceiptLines
import RS2ServerFix.NativeLog.ReceiptScans
import RS2ServerFix.NativeLog.Receipts
import RS2ServerFix.NativeLog.ReceiptsSound
import RS2ServerFix.NativeLog.RecoveryDetail
import RS2ServerFix.NativeLog.Submission
import RS2ServerFix.NativeLog.SubmissionOrder
import RS2ServerFix.NativeLog.SubmissionWindow
import RS2ServerFix.NativeLog.Worker
import RS2ServerFix.NativeLog.WorkerReceipts
import RS2ServerFix.NativeLog.WorkerRules
import RS2ServerFix.NativeReading.Observe
import RS2ServerFix.NativeReading.Owned
import RS2ServerFix.NativeReading.Pools
import RS2ServerFix.NativeReading.Reader
import RS2ServerFix.NativeReading.Rules
import RS2ServerFix.NativeReading.Steps
import RS2ServerFix.Observer.Config
import RS2ServerFix.Observer.Install
import RS2ServerFix.Observer.InstallRules
import RS2ServerFix.Observer.InstallRuns
import RS2ServerFix.Observer.InstallThreads
import RS2ServerFix.Observer.Log
import RS2ServerFix.Observer.LogRounds
import RS2ServerFix.Observer.LogRules
import RS2ServerFix.Observer.LogRuns
import RS2ServerFix.Observer.LogSound
import RS2ServerFix.Observer.LogThread
import RS2ServerFix.Observer.LogView
import RS2ServerFix.Observer.LogWorld
import RS2ServerFix.PeReader.Headers
import RS2ServerFix.PeReader.Mapping
import RS2ServerFix.PeReader.Tables
import RS2ServerFix.Recon.Patch
import RS2ServerFix.Recon.PatchRuns
import RS2ServerFix.Reporting.BootstrapJson
import RS2ServerFix.Reporting.Canonical
import RS2ServerFix.Reporting.Config
import RS2ServerFix.Reporting.DurationRuns
import RS2ServerFix.Reporting.Durations
import RS2ServerFix.Reporting.Format
import RS2ServerFix.Reporting.FormatFacts
import RS2ServerFix.Reporting.FormatJson
import RS2ServerFix.Reporting.Producer
import RS2ServerFix.Reporting.ProducerRuns
import RS2ServerFix.Reporting.Records
import RS2ServerFix.Reporting.RingRules
import RS2ServerFix.Reporting.RingRuns
import RS2ServerFix.Reporting.RingSteps
import RS2ServerFix.Reporting.State
import RS2ServerFix.Reporting.Status
import RS2ServerFix.Reporting.Types
import RS2ServerFix.Reporting.UtcTime
import RS2ServerFix.Snapshot.RecoveryRuns
import RS2ServerFix.Snapshot.RecoverySnapshots
import RS2ServerFix.Snapshot.RecoveryStatus
import RS2ServerFix.Snapshot.RecoveryStores
import RS2ServerFix.Task.Access
import RS2ServerFix.Task.Binding
import RS2ServerFix.Task.BindingEffects
import RS2ServerFix.Task.BindingRuns
import RS2ServerFix.Task.BoundReading
import RS2ServerFix.Task.InstallRetry
import RS2ServerFix.Task.Reading
