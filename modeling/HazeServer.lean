import HazeServer.Main
import HazeServer.Json.Reader
import HazeServer.Json.Writer
import HazeServer.Plugin.Set
import HazeServer.Proofs.Table
import HazeServer.Proofs.Session.Views
import HazeServer.Rule.Uppercase
import HazeServer.Session.Run
import HazeServer.Wire
import HazeServer.Proofs.Session.Turn
import HazeServer.Proofs.Session.Wiring
import HazeServer.Proofs.Session.Move
import HazeServer.Proofs.Session.Step
import HazeServer.Proofs.Session.Progress
import HazeServer.Proofs.Session.Tasks
import HazeServer.Proofs.Session.Publishing
import HazeServer.Proofs.Session.Upkeep
import HazeServer.Proofs.Diagnostic
import HazeServer.Proofs.Document.Store
import HazeServer.Proofs.Document.Version
import HazeServer.Proofs.Document.History
import HazeServer.Proofs.Revalidation
import HazeServer.Proofs.Session.Saying
import HazeServer.Proofs.PullFreshness
import HazeServer.Proofs.PushFreshness
import HazeServer.Proofs.Settings
import HazeServer.Proofs.FailOpen
import HazeServer.Proofs.Session.Entries
import HazeServer.Proofs.Retry
import HazeServer.Proofs.Session.Bystanders
import HazeServer.Proofs.SingleFlight
import HazeServer.Proofs.Session.Reconfiguration
import HazeServer.Proofs.SettingsFreshness
import HazeServer.Proofs.PushPullAgreement
import HazeServer.Proofs.Session.Parts
import HazeServer.Proofs.DocumentIsolation
import HazeServer.Proofs.Handshake
import HazeServer.Proofs.OpenSettings
import HazeServer.Proofs.Text.Offset
import HazeServer.Proofs.Document.Splice
import HazeServer.Proofs.Document.Convergence
import HazeServer.Proofs.ProblemLimit
import HazeServer.Proofs.AnnouncedEncoding
import HazeServer.Proofs.PluginIsolation
import HazeServer.Proofs.Negotiation
import HazeServer.Proofs.LazyValidation
import HazeServer.Proofs.CatalogResolution
import HazeServer.Proofs.HookBroadcast
import HazeServer.Proofs.SettingsReading
import HazeServer.Proofs.CommandLine
import HazeServer.Proofs.StartupLevel
import HazeServer.Proofs.PushTable
