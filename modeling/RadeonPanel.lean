import RadeonPanel.Base.Runs
import RadeonPanel.Base.Exclusive
import RadeonPanel.Base.Brackets
import RadeonPanel.Base.History
import RadeonPanel.Base.Changes
import RadeonPanel.Base.Lease
import RadeonPanel.Base.Tickets
import RadeonPanel.Base.Keyed
import RadeonPanel.Base.EventChannel
import RadeonPanel.Base.SharedFlag
import RadeonPanel.Ubertrace.Types
import RadeonPanel.Ubertrace.Orchestrator
import RadeonPanel.Ubertrace.Calls
import RadeonPanel.Ubertrace.Polling
import RadeonPanel.Ubertrace.System
import RadeonPanel.Ubertrace.Footprint
import RadeonPanel.Ubertrace.Locking
import RadeonPanel.Ubertrace.Ownership
import RadeonPanel.Ubertrace.Deadlock
import RadeonPanel.Ubertrace.Abort
import RadeonPanel.Ubertrace.Connection
import RadeonPanel.Ubertrace.Factory
import RadeonPanel.Ubertrace.Outcome
import RadeonPanel.Ubertrace.OneShot
import RadeonPanel.Ubertrace.Hooks
import RadeonPanel.Ubertrace.Preliminary
import RadeonPanel.Ubertrace.Client
import RadeonPanel.Ubertrace.AutoCapture
import RadeonPanel.Ubertrace.Placement
import RadeonPanel.Ubertrace.Reporting
import RadeonPanel.Connections.Types
import RadeonPanel.Connections.Manager
import RadeonPanel.Connections.SupportedSet
import RadeonPanel.CaptureApi.CaptureContext
import RadeonPanel.CaptureApi.DetailedStages
import RadeonPanel.CaptureApi.ClientManager
import RadeonPanel.DeviceClocks.Gpu
import RadeonPanel.DeviceClocks.ForcePeak
import RadeonPanel.Rmv.Client
import RadeonPanel.FileWriting.RdfWriter
import RadeonPanel.FileWriting.Dump
import RadeonPanel.TraceSource.Types
import RadeonPanel.TraceSource.Status
import RadeonPanel.TraceSource.System
import RadeonPanel.TraceSource.Consistency
import RadeonPanel.TraceSource.Bookkeeping
import RadeonPanel.TraceSource.Events
import RadeonPanel.TraceSource.StatusChain
import RadeonPanel.CaptureApi.Clocks
import RadeonPanel.Base.KeyedValues
import RadeonPanel.Overlay.Manager
import RadeonPanel.TraceSource.Overlay
import RadeonPanel.Rgp.LegacyClient
import RadeonPanel.Rgp.LegacyTimer
import RadeonPanel.Rgp.LegacyAbort
import RadeonPanel.Ubertrace.ClientEvents
import RadeonPanel.CaptureApi.MemoryStreams
import RadeonPanel.CaptureApi.StreamRelease
import RadeonPanel.Userdata.JsonMapper
import RadeonPanel.Userdata.Properties
import RadeonPanel.Userdata.Userdata
import RadeonPanel.Userdata.RoundTrip
import RadeonPanel.Userdata.Parsing
import RadeonPanel.Base.Bytes
import RadeonPanel.Spm.DerivedSpmDb
import RadeonPanel.Spm.Readback
import RadeonPanel.Spm.ChunkRoundTrip
import RadeonPanel.Spm.Append
import RadeonPanel.Spm.AppendOutcome
import RadeonPanel.Cli.Completion
import RadeonPanel.Cli.AutoCapture
import RadeonPanel.Cli.ManualCapture
import RadeonPanel.Cli.CommandLine
import RadeonPanel.Cli.ProfilingParams
import RadeonPanel.Rgp.SpmCapture
import RadeonPanel.Rgp.SpmCompletion
import RadeonPanel.Frontend.ApplicationModel
import RadeonPanel.Frontend.LiveConnections
import RadeonPanel.Frontend.ConnectionInvariants
import RadeonPanel.Base.Settings
import RadeonPanel.Base.Separators
import RadeonPanel.Frontend.BlocklistModel
import RadeonPanel.Frontend.BlocklistPersistence
import RadeonPanel.Frontend.PresetModel
import RadeonPanel.Frontend.PresetLoading
import RadeonPanel.Spm.RawSpm
import RadeonPanel.Spm.SampleAddressing
import RadeonPanel.Base.Memory
import RadeonPanel.Spm.RawLoaders
import RadeonPanel.Spm.LoaderAgreement
import RadeonPanel.Spm.RdfLoaderAgreement
import RadeonPanel.Spm.RdfReadback
import RadeonPanel.Base.Numerals
import RadeonPanel.Spm.DerivedCalculation
import RadeonPanel.Spm.DerivedQueries
import RadeonPanel.Spm.DerivedRows
import RadeonPanel.Spm.FailedCalculation
import RadeonPanel.Userdata.BaseViewModel
import RadeonPanel.Raytracing.ViewModels
import RadeonPanel.Raytracing.BufferSize
import RadeonPanel.Raytracing.MarkerAutoCapture
import RadeonPanel.Profiling.ViewModel
import RadeonPanel.Profiling.CaptureTarget
import RadeonPanel.Ubertrace.Disabling
import RadeonPanel.Ubertrace.FailedRequest
import RadeonPanel.Modules.SetEnabled
import RadeonPanel.Modules.DelayedCapture
import RadeonPanel.TraceSource.Configs
import RadeonPanel.TraceSource.AbortProcessing
import RadeonPanel.Profiling.UserdataViewModel
import RadeonPanel.Profiling.ConfigFollows
import RadeonPanel.CaptureApi.EnableFeature
import RadeonPanel.Base.Allocations
import RadeonPanel.CaptureApi.SystemInfo
import RadeonPanel.CrashAnalysis.Summaries
import RadeonPanel.CrashAnalysis.UserdataViewModel
import RadeonPanel.Modules.Resetting
import RadeonPanel.Base.Globs
import RadeonPanel.CaptureApi.MatchesWildcard
import RadeonPanel.CaptureApi.ApiBlocklist
import RadeonPanel.Base.Files
import RadeonPanel.CaptureApi.MemoryFile
import RadeonPanel.FileWriting.SourceWriters
import RadeonPanel.FileWriting.Listeners
import RadeonPanel.FileWriting.PostProcessing
import RadeonPanel.FileWriting.Progress
import RadeonPanel.Base.Ranks
import RadeonPanel.TraceSource.CancellableTimer
import RadeonPanel.Base.Logged
import RadeonPanel.CrashAnalysis.ChunkCopy
import RadeonPanel.Spm.ChunkSizes
import RadeonPanel.Base.Chains
import RadeonPanel.Spm.ChunkLookup
import RadeonPanel.Base.PathStore
import RadeonPanel.Spm.LegacyLoad
import RadeonPanel.Spm.HardwareCounters
import RadeonPanel.Rgp.LegacyConfig
import RadeonPanel.Rgp.FrameController
import RadeonPanel.Json.Mappings
import RadeonPanel.Json.Paths
import RadeonPanel.Json.RoundTrip
import RadeonPanel.Profiling.RgpFileValidator
import RadeonPanel.Raytracing.RraTraceValidator
import RadeonPanel.Spm.RdfSampleCover
import RadeonPanel.Spm.RdfFailedLoad
import RadeonPanel.Spm.ComponentHistory
import RadeonPanel.Base.Postfix
import RadeonPanel.Base.Argv
import RadeonPanel.Base.Rows
import RadeonPanel.Cli.AutoCaptureArgument
import RadeonPanel.Cli.QuoteArg
import RadeonPanel.Spm.ComponentFormula
import RadeonPanel.Spm.CounterAvailability
import RadeonPanel.TraceSource.AsicInfo
import RadeonPanel.CrashAnalysis.HardwareSupport
import RadeonPanel.Rgp.SpmSupport
import RadeonPanel.Rgp.ActiveGpu
import RadeonPanel.FileWriting.AdditionalChunks
import RadeonPanel.Frontend.ListModels
import RadeonPanel.TraceSource.StandardTimer
import RadeonPanel.Base.Semaphores
import RadeonPanel.Base.Substrings
import RadeonPanel.Base.OrderedSets
import RadeonPanel.Frontend.PresetFiles
import RadeonPanel.Frontend.PresetCalls
import RadeonPanel.Modules.NamedMutex
import RadeonPanel.Modules.NamedMutexCalls
import RadeonPanel.Modules.SpinBoxInput
import RadeonPanel.Modules.OutputPath
import RadeonPanel.Modules.RecentTraces
import RadeonPanel.Frontend.LogFilters
import RadeonPanel.Overlay.Queues
import RadeonPanel.Overlay.Joining
import RadeonPanel.Overlay.Shown
import RadeonPanel.CaptureApi.Dipper
import RadeonPanel.CaptureApi.Dependencies
import RadeonPanel.Modules.SingleInstance
import RadeonPanel.Ubertrace.ConfigText
import RadeonPanel.Frontend.ApplicationSettings
import RadeonPanel.Frontend.ApplicationPersistence
import RadeonPanel.Base.Trimming
import RadeonPanel.Cli.ManualCommands
import RadeonPanel.Cli.ManualLanguage
import RadeonPanel.Cli.ManualSession
import RadeonPanel.Rgp.CaptureClocks
