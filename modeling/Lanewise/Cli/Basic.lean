import Lanewise.Bench.Measure
import Lanewise.Cli.Flag
import Lanewise.Config.File
import Lanewise.Executor.Basic
import Lanewise.Platform

/-!
# What commands work with

A command reads and writes files and may use a stopwatch. What it has to say is collected, so that
it can be printed, or compared, when the command is done.

## Main definitions

* `Cli.World`: what a command needs from outside.
* `Cli.Report`: what a command leaves.
* `Cli.processor`, `Cli.executorConfig`: what a processor and an executor take from a configuration.
* `Cli.platforms`: the devices that a configuration names.
-/

namespace Lanewise.Cli

/-- What a command needs from outside. -/
structure World (m : Type → Type) where
  /-- The home of the user; empty if there is none. -/
  home : String
  /-- The contents of a file, if there is one. -/
  read : String → m (Option ByteArray)
  /-- Writes a file; false if its directory does not exist. -/
  write : String → ByteArray → m Bool
  compressor : Image.Compressor := .stored
  watch : Bench.Stopwatch m
  /-- How lengths of time are written. -/
  timeText : Duration → String
  /-- The largest number of steps of a machine. -/
  fuel : Nat

/-- What a command leaves: lines of output, and its complaint if it fails. -/
structure Report where
  lines : List String := []
  failure : Option String := none
deriving Inhabited

/-- A command that fails at once. -/
def Report.fail (why : String) : Report :=
  { failure := some why }

/-- A report from an outcome. -/
def Report.ofExcept : Except String (List String) → Report
  | .ok lines => { lines }
  | .error why => .fail why

/-- Says that the number of words behind the flags is wrong. -/
def wrongNumber : String :=
  "wrong number of arguments"

/-- The version of the program. -/
def version : String := "0.1.0"

/-! ### Devices -/

/-- The processor of this computer. -/
def processor (c : Config) (fuel : Nat) : Cpu :=
  { defaultGroup := c.device.groupSize, maxGroup := c.device.maxGroupSize, fuel }

/-- What an executor uses where a request leaves something open. -/
def executorConfig (c : Config) : ExecutorConfig :=
  { stackSize := c.machine.stackSize, heapSize := c.machine.heapSize
    maxSteps := c.machine.maxSteps, placement := c.placement.number
    groupSize := c.device.groupSize }

/-- A client of a server that does not answer. -/
def distantClient (c : Config) (fuel : Nat) (endpoint : String) : Remote.Client Cpu :=
  { endpoint, server := { device := processor c fuel, serving := false } }

/-- The devices: the processor of this computer, and the servers at the endpoints if there are
any. -/
def platforms (c : Config) (fuel : Nat) (endpoints : List String) :
    Except String (Platforms Platform) :=
  let own : Platforms Platform := (Platforms.register {} Cpu.name (.cpu (processor c fuel))).1
  if endpoints.isEmpty then .ok own
  else if endpoints.contains "" then .error "device endpoint is required"
  else
    let pool := endpoints.foldl (fun p e => p.add (distantClient c fuel e)) {}
    .ok (own.register Remote.Pool.name (.pool pool)).1

/-- The device with a number among those of the configuration, or of the endpoints that have been
given instead with commas between them. -/
def selectDevice (c : Config) (fuel : Nat) (index : Int) (remote : String) :
    Except String Platform := do
  let endpoints := if remote = "" then c.device.endpoints.getD [] else remote.splitOn ","
  let all ← platforms c fuel endpoints
  match all.select index with
  | .ok (_, d) => return d
  | .error e => throw e.message

/-- The placement with a name. -/
def placementNumber (name : String) : Except String Int :=
  (Placement.parse name).map Placement.number

end Lanewise.Cli
