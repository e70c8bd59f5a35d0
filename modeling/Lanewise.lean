import Lanewise.Dashboard.Server
import Lanewise.Main
import Lanewise.Problem
import Lanewise.Proofs.Device.Interleaving
import Lanewise.Proofs.Executor.HostDevice
import Lanewise.Proofs.Machine.MemorySafety
import Lanewise.Proofs.Zstd.Stored
import Lanewise.Remote.Transcript
import Lanewise.Rpc.Server
import Lanewise.Proofs.Image.Format
import Lanewise.Proofs.Run.Keys
import Lanewise.Proofs.Registry.Contents
import Lanewise.Proofs.Run.History
import Lanewise.Proofs.Executor.Cache
import Lanewise.Proofs.Machine.Cells
import Lanewise.Proofs.Machine.Calls
import Lanewise.Proofs.Program.Walk
import Lanewise.Proofs.Machine.ControlFlow
import Lanewise.Proofs.Assembly.Items
import Lanewise.Proofs.Assembly.Layout
import Lanewise.Proofs.Text.Numerals
import Lanewise.Proofs.Text.Lines
import Lanewise.Proofs.Assembly.Transcript
import Lanewise.Proofs.Remote.Transfer
import Lanewise.Proofs.Device.Histories
import Lanewise.Proofs.Remote.Interchange
import Lanewise.Proofs.Remote.Messages
import Lanewise.Proofs.Machine.Lockstep
import Lanewise.Proofs.Registry.Catalogue
import Lanewise.Proofs.LaneEngine.Commit
import Lanewise.Proofs.Executor.Recorded
import Lanewise.Proofs.Machine.Budget
import Lanewise.Proofs.Remote.Tables
import Lanewise.Proofs.Remote.Health
import Lanewise.Proofs.Machine.Failure
import Lanewise.Proofs.Machine.Tracing
import Lanewise.Proofs.Machine.Room
import Lanewise.Proofs.Run.Listing
import Lanewise.Proofs.Device.GroupSize
import Lanewise.Proofs.Dashboard.Paging
import Lanewise.Proofs.Executor.Grouping
import Lanewise.Proofs.Run.Pruning
import Lanewise.Proofs.Machine.Capacities
import Lanewise.Proofs.Machine.ViewRuns
import Lanewise.Proofs.Bench.VectorLoop
import Lanewise.Proofs.LaneEngine.Elementwise
import Lanewise.Proofs.Device.Answers
import Lanewise.Proofs.Rpc.ProgramData
import Lanewise.Proofs.Program.Listing
import Lanewise.Proofs.Rpc.Batch
import Lanewise.Proofs.Bench.Summary
import Lanewise.Proofs.Remote.Relay
import Lanewise.Proofs.Rpc.Blanks
import Lanewise.Proofs.Cli.StepLimit
import Lanewise.Proofs.Meter
import Lanewise.Proofs.Machine.Fetching
import Lanewise.Proofs.Run.KeyOrder
import Lanewise.Proofs.Remote.RoundRobin
import Lanewise.Proofs.Run.Encoding
