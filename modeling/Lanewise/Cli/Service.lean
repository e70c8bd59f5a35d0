import Lanewise.Cli.Address
import Lanewise.Cli.Basic

/-!
# Commands on devices and servers

Listing the devices, measuring them, and the checks that servers make before they listen.

## Main definitions

* `Cli.platformsCommand`: the list of devices.
* `Cli.benchCommand`: benchmarks of the built-in workloads.
* `Cli.serveCommand`, `Cli.deviceCommand`: what stands in the way of a server.
-/

namespace Lanewise.Cli

variable {m : Type → Type} [Monad m]

/-- Lists the devices of a configuration. -/
def platformsCommand (w : World m) (c : Config) : m Report :=
  pure (.ofExcept do
    let all ← platforms c w.fuel (c.device.endpoints.getD [])
    return s!"{all.names.length} platform(s) detected" ::
      all.names.zipIdx.map fun (name, i) => s!"Platform: {i}\t" ++ name)

/-! ### Benchmarks -/

/-- The flags of benchmarks. -/
def benchFlags : List Flag :=
  [⟨"iterations", .int⟩, ⟨"size", .int⟩, ⟨"group", .int⟩, ⟨"platform", .int⟩]

/-- What a benchmark is run with. -/
structure BenchPlan where
  iterations : Int
  size : Int
  group : Int

/-- The number of cells for three vectors, in 64 bits. -/
def BenchPlan.heapSize (p : BenchPlan) : Int :=
  (Int64.ofInt (3 * p.size)).toInt

/-- A benchmark in a list of benchmarks: its name and how it is measured. -/
abbrev Workload (m : Type → Type) := Platform → m (Except String Bench.Result × Platform)

/-- The wording of the failure of a benchmark. -/
def benchFailure (e : Bench.Error Bench.Failure) : String :=
  e.message Bench.Failure.message

/-- Adds vectors on a machine of its own. -/
def onMachine (w : World m) (p : BenchPlan) : Workload m := fun device => do
  let answer ← Bench.measureMachine w.watch {} "sequential add" p.iterations w.fuel
    (Bench.vectorAddLoop p.size) 0 p.heapSize
  return (answer.mapError benchFailure, device)

/-- Adds vectors as a kernel of one lane. -/
def asKernel (w : World m) (p : BenchPlan) (placement : Placement) : Workload m := fun device => do
  match Bench.SoloKernel.prepare device {} (Bench.vectorAddLoop p.size) 0 p.heapSize
      placement.number with
  | (.error e, device) => return (.error e.message, device)
  | (.ok k, device) =>
    let (answer, k, device) ← k.measure device w.watch {}
      ("device sequential add (" ++ placement.name ++ ")") p.iterations
    return (answer.mapError benchFailure, (k.close device).2)

/-- Combines vectors over lanes. -/
def overLanes (w : World m) (p : BenchPlan) (name : String) (program : Program)
    (placement : Placement) : Workload m := fun device => do
  match Bench.prepareLanes device {} program p.size placement.number with
  | (.error e, device) => return (.error e.message, device)
  | (.ok engine, device) =>
    let (answer, engine) ← Bench.measureLanes engine w.watch {}
      (name ++ " (" ++ placement.name ++ ")") p.iterations p.size p.group
    return (answer.mapError benchFailure, engine.close.2.device.getD device)

/-- The built-in workloads. -/
def workloads (w : World m) (p : BenchPlan) : List (Workload m) :=
  [onMachine w p] ++ Placement.all.map (asKernel w p) ++
    Placement.all.map (overLanes w p "lanes add" Bench.vectorAddLanes) ++
    [overLanes w p "lanes mul" Bench.vectorMulLanes .separate]

/-- Runs benchmarks one after another up to the first that fails. -/
def runWorkloads (w : World m) : Platform → List String → List (Workload m) → m Report
  | _, lines, [] => pure { lines }
  | device, lines, workload :: rest => do
    match ← workload device with
    | (.error why, _) => return { lines, failure := some why }
    | (.ok r, device) => runWorkloads w device (lines ++ [r.textWith w.timeText]) rest

/-- Measures the built-in workloads. -/
def benchCommand (w : World m) (c : Config) (g : Given) : m Report :=
  let p : BenchPlan :=
    { iterations := g.int "iterations" Bench.defaultIterations, size := g.int "size" 1024
      group := g.int "group" 0 }
  match selectDevice c w.fuel (g.int "platform" c.device.platform) "" with
  | .error why => pure (.fail why)
  | .ok device =>
    runWorkloads w device
      [s!"Vector length {p.size}, {p.iterations} iterations, platform " ++ device.name]
        (workloads w p)

/-! ### Servers -/

/-- Says that this program does not listen by itself. -/
def notListening (address : String) : String :=
  "listen " ++ address ++ ": not available"

/-- The flags of the server of remote procedure calls. -/
def serveFlags : List Flag :=
  [⟨"addr", .text⟩, ⟨"data-dir", .text⟩, ⟨"retain", .uint64⟩, ⟨"dashboard", .switch⟩,
    ⟨"dashboard-port", .int⟩]

/-- The directories on the way to a path, from the outermost on. -/
def pathPrefixes (path : String) : List String :=
  let parts := path.splitOn "/"
  (List.range parts.length).map (fun i => "/".intercalate (parts.take (i + 1))) |>.filter (· ≠ "")

/-- The first of some paths that is a file. -/
def firstFile (w : World m) : List String → m (Option String)
  | [] => pure none
  | p :: ps => do
    if (← w.read p).isSome then return some p else firstFile w ps

/-- What stands in the way of the server of remote procedure calls. -/
def serveCommand (w : World m) (c : Config) (g : Given) : m Report := do
  let dataDir := g.text "data-dir" c.dataDir
  let address := g.text "addr" c.rpc.address
  if dataDir = "" then
    return .fail "mkdir : no such file or directory"
  if let some file ← firstFile w (pathPrefixes dataDir) then
    return .fail ("mkdir " ++ file ++ ": not a directory")
  return .ofExcept do
    let _ ← selectDevice c w.fuel c.device.platform ""
    (checkAddress address).mapError AddressError.message
    throw (notListening address)

/-- The flags of the device server. -/
def deviceFlags : List Flag :=
  [⟨"addr", .text⟩]

/-- What stands in the way of the device server. -/
def deviceCommand (c : Config) (g : Given) : Report :=
  let address := g.text "addr" c.serverAddress
  match checkAddress address with
  | .error e => .fail ("listen " ++ address ++ ": " ++ e.message)
  | .ok _ => .fail (notListening address)

end Lanewise.Cli
