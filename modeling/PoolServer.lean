import PoolServer.Command.Basic
import PoolServer.Command.Failure
import PoolServer.Command.Help
import PoolServer.Command.Param
import PoolServer.Command.Parse
import PoolServer.Command.Similar
import PoolServer.Disk.Exec
import PoolServer.Disk.Layout
import PoolServer.Disk.Node
import PoolServer.Disk.Walk
import PoolServer.Http.Reading
import PoolServer.Http.Request
import PoolServer.Http.Response
import PoolServer.Http.Status
import PoolServer.Journal.Basic
import PoolServer.Journal.Monitor
import PoolServer.Journal.Shared
import PoolServer.Listener
import PoolServer.Lock.Basic
import PoolServer.Lock.Monitor
import PoolServer.Lock.Session
import PoolServer.Main
import PoolServer.Os.Error
import PoolServer.Pool.Basic
import PoolServer.Pool.Monitor
import PoolServer.Proofs.BodyDiscard
import PoolServer.Proofs.ErrorCounting
import PoolServer.Proofs.HeadReading
import PoolServer.Proofs.HeadRoundTrip
import PoolServer.Proofs.LockAccounting
import PoolServer.Proofs.LockPreference
import PoolServer.Proofs.LockWakeups
import PoolServer.Proofs.LogCalls
import PoolServer.Proofs.LogLinearizable
import PoolServer.Proofs.LogTasks
import PoolServer.Proofs.PoolDrain
import PoolServer.Proofs.PoolRoles
import PoolServer.Proofs.PoolSchedule
import PoolServer.Proofs.PublicConfinement
import PoolServer.Proofs.QueueClose
import PoolServer.Proofs.QueueFifo
import PoolServer.Proofs.QueueWakeups
import PoolServer.Proofs.ReportWords
import PoolServer.Proofs.ResponseFraming
import PoolServer.Proofs.ServedVisible
import PoolServer.Proofs.SiteStages
import PoolServer.Proofs.StampedAnswer
import PoolServer.Proofs.TimevalText
import PoolServer.Proofs.Utf8RoundTrip
import PoolServer.Queue.Basic
import PoolServer.Queue.Monitor
import PoolServer.Queue.Session
import PoolServer.Settings.Basic
import PoolServer.Settings.Command
import PoolServer.Shell.Arith
import PoolServer.Shell.Builtin
import PoolServer.Shell.Expand
import PoolServer.Shell.Fields
import PoolServer.Shell.Glob
import PoolServer.Shell.Host
import PoolServer.Shell.Lexer
import PoolServer.Shell.Parser
import PoolServer.Shell.Printf
import PoolServer.Shell.Run
import PoolServer.Shell.State
import PoolServer.Shell.Syntax
import PoolServer.Shell.Test
import PoolServer.Site.Handle
import PoolServer.Site.Host
import PoolServer.Site.Monitor
import PoolServer.Site.Plan
import PoolServer.Startup
import PoolServer.Steps
import PoolServer.Text.Blank
import PoolServer.Text.Decimal
import PoolServer.Text.Double
import PoolServer.Text.Html
import PoolServer.Text.Pattern
import PoolServer.Text.Split
import PoolServer.Text.Utf8
import PoolServer.Text.Whole
import PoolServer.Time.Duration
import PoolServer.Trace.Event
import PoolServer.Trace.Filter
import PoolServer.Wire.Inbound
import PoolServer.Worker.Checked
import PoolServer.Worker.Counters
import PoolServer.Worker.Report
import PoolServer.Worker.Stamp
