import TaskScheduling.Clock
import TaskScheduling.CommandLine.Arguments
import TaskScheduling.CommandLine.Help
import TaskScheduling.CommandLine.Options
import TaskScheduling.CommandLine.Program
import TaskScheduling.CommandLine.Surroundings
import TaskScheduling.CommandLine.UsageError
import TaskScheduling.CommandLine.Workload
import TaskScheduling.Config.JsonForm
import TaskScheduling.Config.Location
import TaskScheduling.Config.Settings
import TaskScheduling.Config.Storage
import TaskScheduling.Config.TomlForm
import TaskScheduling.Dispatch.Dispatcher
import TaskScheduling.Dispatch.Execution
import TaskScheduling.Dispatch.Scheduler
import TaskScheduling.Dispatch.Shutdown
import TaskScheduling.Dispatch.Submission
import TaskScheduling.Error
import TaskScheduling.Failure.Basic
import TaskScheduling.Failure.Router
import TaskScheduling.Fault
import TaskScheduling.Files.Path
import TaskScheduling.Files.Store
import TaskScheduling.Files.Tree
import TaskScheduling.Json.Basic
import TaskScheduling.Json.Reader
import TaskScheduling.Json.Writer
import TaskScheduling.Logging.Console
import TaskScheduling.Logging.Level
import TaskScheduling.Main
import TaskScheduling.Pool.Basic
import TaskScheduling.Pool.ThreadFactory
import TaskScheduling.Pool.WorkerPhase
import TaskScheduling.Priority
import TaskScheduling.Proofs.Backlog.Accounted
import TaskScheduling.Proofs.Backlog.Due
import TaskScheduling.Proofs.Backlog.Kept
import TaskScheduling.Proofs.Backlog.Queues
import TaskScheduling.Proofs.Backlog.Tidy
import TaskScheduling.Proofs.Backlog.Turn
import TaskScheduling.Queue.Backlog
import TaskScheduling.Queue.Cancellation
import TaskScheduling.Queue.Clearance
import TaskScheduling.Queue.Completion
import TaskScheduling.Queue.Ring
import TaskScheduling.Queue.Set
import TaskScheduling.Simulation.Commands
import TaskScheduling.Simulation.Machine
import TaskScheduling.Simulation.PoolWorld
import TaskScheduling.Simulation.Reply
import TaskScheduling.Simulation.Script
import TaskScheduling.Simulation.Stress
import TaskScheduling.Simulation.Turn
import TaskScheduling.Simulation.World
import TaskScheduling.Task.Basic
import TaskScheduling.Task.Id
import TaskScheduling.Task.Table
import TaskScheduling.Text.Inspect
import TaskScheduling.Text.Lines
import TaskScheduling.Text.Printable
import TaskScheduling.Text.Quoted
import TaskScheduling.Text.Terminal
import TaskScheduling.Tick.Pass
import TaskScheduling.Tick.Scheduler
import TaskScheduling.Time
import TaskScheduling.Toml.Document
import TaskScheduling.Toml.Format
import TaskScheduling.Toml.Reader
import TaskScheduling.Toml.Scalar
import TaskScheduling.Toml.Text
import TaskScheduling.Toml.Tree
import TaskScheduling.Toml.Writer
import TaskScheduling.Proofs.Tick.Session
import TaskScheduling.Proofs.Tick.Bookkeeping
import TaskScheduling.Proofs.Tick.ClockHolds
import TaskScheduling.Proofs.Tick.Precedence
import TaskScheduling.Proofs.Backlog.RunTimes
import TaskScheduling.Proofs.Dispatch.Parking
import TaskScheduling.Proofs.Dispatch.Crew
import TaskScheduling.Proofs.Dispatch.Custody
import TaskScheduling.Proofs.Dispatch.Hands
import TaskScheduling.Proofs.Dispatch.Whereabouts
import TaskScheduling.Proofs.Dispatch.Conservation
import TaskScheduling.Proofs.Pool.Accounting
import TaskScheduling.Proofs.Dispatch.Signals
import TaskScheduling.Proofs.Dispatch.PoolUse
import TaskScheduling.Proofs.Dispatch.Turns
import TaskScheduling.Proofs.Dispatch.Waiting
import TaskScheduling.Proofs.Dispatch.Queueing
import TaskScheduling.Proofs.Dispatch.Draining
import TaskScheduling.Proofs.Dispatch.UnderWay
import TaskScheduling.Proofs.Dispatch.Stranding
import TaskScheduling.Proofs.Dispatch.Phases
import TaskScheduling.Proofs.Tick.Runs
import TaskScheduling.Proofs.Tick.Undisturbed
import TaskScheduling.Proofs.Tick.Recurrence
import TaskScheduling.Proofs.Backlog.Contest
import TaskScheduling.Proofs.Backlog.Fairness
import TaskScheduling.Proofs.Backlog.Verdict
import TaskScheduling.Proofs.Dispatch.Contending
import TaskScheduling.Proofs.Dispatch.Rejection
import TaskScheduling.Proofs.Dispatch.Removal
import TaskScheduling.Proofs.Backlog.Effects
import TaskScheduling.Proofs.Dispatch.Iteration
import TaskScheduling.Proofs.Dispatch.WholeCalls
import TaskScheduling.Proofs.Dispatch.Ledger
import TaskScheduling.Proofs.Dispatch.Serial
import TaskScheduling.Proofs.Dispatch.Statistics
import TaskScheduling.Proofs.Dispatch.Tightening
import TaskScheduling.Proofs.Dispatch.HandOff
import TaskScheduling.Proofs.Backlog.Shedding
import TaskScheduling.Proofs.Backlog.Selection
import TaskScheduling.Proofs.Backlog.HighWork
import TaskScheduling.Proofs.Tick.Courses
import TaskScheduling.Proofs.Tick.Isolation
import TaskScheduling.Proofs.Tick.Callers
import TaskScheduling.Proofs.Tick.Waits
import TaskScheduling.Proofs.Tick.Resumption
import TaskScheduling.Proofs.Tick.Wakeups
import TaskScheduling.Proofs.Tick.Serving
import TaskScheduling.Proofs.Backlog.Singly
import TaskScheduling.Proofs.Dispatch.Overtaking
import TaskScheduling.Proofs.Tick.Snapshots
import TaskScheduling.Proofs.Dispatch.Bystanders
import TaskScheduling.Proofs.Dispatch.Surviving
import TaskScheduling.Proofs.Clock.Readings
import TaskScheduling.Proofs.Pool.Shrinking
import TaskScheduling.Proofs.Toml.Quoting
import TaskScheduling.Proofs.Toml.Numerals
import TaskScheduling.Proofs.Toml.Documents
import TaskScheduling.Proofs.Files.Writing
import TaskScheduling.Proofs.Config.Reloading
import TaskScheduling.Proofs.Backlog.Without
import TaskScheduling.Proofs.Dispatch.Erasure
import TaskScheduling.Proofs.Dispatch.Withdrawal
import TaskScheduling.Proofs.Dispatch.AllOrNothing
import TaskScheduling.Proofs.Backlog.Queries
import TaskScheduling.Proofs.Backlog.Loops
