import LanguageBroker.Activation
import LanguageBroker.Activation.Choice
import LanguageBroker.Backend
import LanguageBroker.Broker
import LanguageBroker.Broker.Activating
import LanguageBroker.Broker.Agent
import LanguageBroker.Broker.Running
import LanguageBroker.Clock
import LanguageBroker.Connection
import LanguageBroker.Debouncer
import LanguageBroker.Delivery
import LanguageBroker.DocumentFilter
import LanguageBroker.Editor.Agent
import LanguageBroker.Editor.Capabilities
import LanguageBroker.Editor.Duty
import LanguageBroker.Editor.Message
import LanguageBroker.Editor.Session
import LanguageBroker.EnvFile
import LanguageBroker.EnvFile.Assignment
import LanguageBroker.Environment
import LanguageBroker.Errand
import LanguageBroker.Error
import LanguageBroker.FileTree
import LanguageBroker.Frame
import LanguageBroker.Host
import LanguageBroker.Inbox
import LanguageBroker.InterpreterSearch
import LanguageBroker.Json
import LanguageBroker.Json.Double
import LanguageBroker.Json.Reader
import LanguageBroker.Manager
import LanguageBroker.Method
import LanguageBroker.Middleware
import LanguageBroker.Middleware.Chain
import LanguageBroker.Middleware.Configuration
import LanguageBroker.Middleware.Findings
import LanguageBroker.Middleware.Passage
import LanguageBroker.Options
import LanguageBroker.Path
import LanguageBroker.Platform
import LanguageBroker.ProgramSearch
import LanguageBroker.Proofs.ActivationCache
import LanguageBroker.Proofs.ActivationLog
import LanguageBroker.Proofs.ActivationReport
import LanguageBroker.Proofs.ActivationTries
import LanguageBroker.Proofs.AnsweredBursts
import LanguageBroker.Proofs.AugmentedAnswers
import LanguageBroker.Proofs.BrokerCourse
import LanguageBroker.Proofs.BrokerEnd
import LanguageBroker.Proofs.BrokerErrands
import LanguageBroker.Proofs.BrokerJobs
import LanguageBroker.Proofs.BrokerManagers
import LanguageBroker.Proofs.BrokerMoves
import LanguageBroker.Proofs.BrokerPosts
import LanguageBroker.Proofs.BrokerStep
import LanguageBroker.Proofs.BrokerToil
import LanguageBroker.Proofs.BrokerTurns
import LanguageBroker.Proofs.CallDelivery
import LanguageBroker.Proofs.CallReports
import LanguageBroker.Proofs.CancelledRequests
import LanguageBroker.Proofs.CaptureBudget
import LanguageBroker.Proofs.CarriedErrands
import LanguageBroker.Proofs.ClaimedDocuments
import LanguageBroker.Proofs.ClosedTable
import LanguageBroker.Proofs.CompactText
import LanguageBroker.Proofs.Conversations
import LanguageBroker.Proofs.CurrentOptions
import LanguageBroker.Proofs.CutStreams
import LanguageBroker.Proofs.DebouncedRuns
import LanguageBroker.Proofs.DeepestFolders
import LanguageBroker.Proofs.Dialogue
import LanguageBroker.Proofs.Disposal
import LanguageBroker.Proofs.EncodedText
import LanguageBroker.Proofs.EnvironmentFiles
import LanguageBroker.Proofs.ErrandTurns
import LanguageBroker.Proofs.EvictedManagers
import LanguageBroker.Proofs.Farewell
import LanguageBroker.Proofs.FileUris
import LanguageBroker.Proofs.FirstStart
import LanguageBroker.Proofs.ForwardedFindings
import LanguageBroker.Proofs.FramedMessages
import LanguageBroker.Proofs.GatheredChanges
import LanguageBroker.Proofs.InterpreterSweeps
import LanguageBroker.Proofs.JobLine
import LanguageBroker.Proofs.JobProgress
import LanguageBroker.Proofs.JobStep
import LanguageBroker.Proofs.KeyedLists
import LanguageBroker.Proofs.LoneJobs
import LanguageBroker.Proofs.ManagerMoves
import LanguageBroker.Proofs.ManagerPhases
import LanguageBroker.Proofs.ManagerShifts
import LanguageBroker.Proofs.MannedSessions
import LanguageBroker.Proofs.MessageGrammar
import LanguageBroker.Proofs.NestedChains
import LanguageBroker.Proofs.NoticedChanges
import LanguageBroker.Proofs.NotificationOrder
import LanguageBroker.Proofs.NotificationStandings
import LanguageBroker.Proofs.NumberText
import LanguageBroker.Proofs.OneServer
import LanguageBroker.Proofs.OrderedNotifications
import LanguageBroker.Proofs.OverlaidEnvironments
import LanguageBroker.Proofs.OverlookedServer
import LanguageBroker.Proofs.PathComponents
import LanguageBroker.Proofs.PolledSessions
import LanguageBroker.Proofs.RememberedCalls
import LanguageBroker.Proofs.RequestOutcomes
import LanguageBroker.Proofs.RespectedJobs
import LanguageBroker.Proofs.RestartBursts
import LanguageBroker.Proofs.RestingManagers
import LanguageBroker.Proofs.ScopeServers
import LanguageBroker.Proofs.ServedCalls
import LanguageBroker.Proofs.ServerAccounts
import LanguageBroker.Proofs.ServerFolders
import LanguageBroker.Proofs.ServerKeeping
import LanguageBroker.Proofs.ServerOwners
import LanguageBroker.Proofs.ServerRecord
import LanguageBroker.Proofs.ServerRequests
import LanguageBroker.Proofs.SettingsSections
import LanguageBroker.Proofs.SettledShapes
import LanguageBroker.Proofs.SharedActivation
import LanguageBroker.Proofs.SimpleLead
import LanguageBroker.Proofs.SimpleServer
import LanguageBroker.Proofs.SimpleStarts
import LanguageBroker.Proofs.SparedServer
import LanguageBroker.Proofs.StaleScopes
import LanguageBroker.Proofs.SweepCustody
import LanguageBroker.Proofs.TelemetryApart
import LanguageBroker.Proofs.TendedServers
import LanguageBroker.Proofs.WatchedOptions
import LanguageBroker.Proofs.WatchedSweeps
import LanguageBroker.Protocol.Abilities
import LanguageBroker.Protocol.Calls
import LanguageBroker.Protocol.Complaint
import LanguageBroker.Protocol.Items
import LanguageBroker.Protocol.Places
import LanguageBroker.Protocol.Shape
import LanguageBroker.Provider
import LanguageBroker.Rpc
import LanguageBroker.Scenario.Addon
import LanguageBroker.Scenario.Brokering
import LanguageBroker.Scenario.Connecting
import LanguageBroker.Scenario.Conversing
import LanguageBroker.Scenario.Debouncing
import LanguageBroker.Scenario.Editing
import LanguageBroker.Scenario.Files
import LanguageBroker.Scenario.Intercepting
import LanguageBroker.Scenario.Managing
import LanguageBroker.Scenario.Peer
import LanguageBroker.Scenario.Providing
import LanguageBroker.Scenario.Reading
import LanguageBroker.Scenario.Report
import LanguageBroker.Scenario.Script
import LanguageBroker.Scenario.Selecting
import LanguageBroker.Scenario.Steps
import LanguageBroker.Scenario.Writing
import LanguageBroker.Schedule
import LanguageBroker.Scope
import LanguageBroker.Server
import LanguageBroker.Server.Command
import LanguageBroker.Server.Greeting
import LanguageBroker.Settings
import LanguageBroker.Site
import LanguageBroker.Telemetry
import LanguageBroker.Telemetry.CaptureWindow
import LanguageBroker.Telemetry.Sink
import LanguageBroker.Text.Alphanumeric
import LanguageBroker.Text.Blank
import LanguageBroker.Text.CodeTable
import LanguageBroker.Text.CombiningClass
import LanguageBroker.Text.Composite
import LanguageBroker.Text.Composition
import LanguageBroker.Text.Direction
import LanguageBroker.Text.Invisible
import LanguageBroker.Text.Joining
import LanguageBroker.Text.Mark
import LanguageBroker.Text.Quoted
import LanguageBroker.Text.Utf8
import LanguageBroker.Uri
import LanguageBroker.Uri.Address
import LanguageBroker.Uri.Domain
import LanguageBroker.Uri.Domain.Mapping
import LanguageBroker.Uri.Escape
import LanguageBroker.Uri.Fault
import LanguageBroker.Uri.Host
import LanguageBroker.Uri.Parser
import LanguageBroker.Uri.Punycode
import LanguageBroker.Uri.Scheme
import LanguageBroker.Uri.Segments
import LanguageBroker.Wire
import LanguageBroker.Workspace
