import Lanewise.Device.Placement
import Lanewise.Json.Members
import Lanewise.Machine.Basic
import Lanewise.Text.Path

/-!
# Configurations

A configuration consists of settings, some of them in groups. Every setting has a name, a default,
and one of five types; a table of all settings is what readers and writers of configurations go by.

## Main definitions

* `Config`: a configuration.
* `Config.initial`: the configuration in which nothing has been set.
* `Config.Setting`, `Config.settings`: the settings.
* `Config.check`: the first value that is out of its range.
-/

namespace Lanewise

/-- Capacities of machines. -/
structure MachineSettings where
  stackSize : Int := defaultStackSize
  heapSize : Int := defaultHeapSize
  /-- The greatest number of steps; zero means that there is none. -/
  maxSteps : UInt64 := 0
deriving DecidableEq, Repr, Inhabited

/-- The device and how it is used. -/
structure DeviceSettings where
  platform : Int := 0
  placement : String := "private"
  /-- The number of groups that run at a time; zero leaves it to the device. It is checked, but
  `Cpu` runs one group at a time whatever it is. -/
  workers : Int := 0
  groupSize : Int := 64
  maxGroupSize : Int := 1024
  /-- The addresses of servers, if they have been set. -/
  endpoints : Option (List String) := none
deriving DecidableEq, Repr, Inhabited

/-- The server of remote procedure calls. -/
structure RpcSettings where
  address : String := "127.0.0.1:8899"
  crossOrigin : Bool := true
  logRequests : Bool := false
  maxRequestSize : Int := 10 * 1024 * 1024
deriving DecidableEq, Repr, Inhabited

/-- The dashboard. -/
structure DashboardSettings where
  enabled : Bool := false
  host : String := "127.0.0.1"
  port : Int := 8080
deriving DecidableEq, Repr, Inhabited

/-- A configuration. -/
structure Config where
  dataDir : String
  logLevel : String := "info"
  logFile : String := ""
  machine : MachineSettings := {}
  device : DeviceSettings := {}
  rpc : RpcSettings := {}
  /-- The address of the device server. -/
  serverAddress : String := ":7070"
  /-- How many runs are kept; zero keeps all. -/
  retain : UInt64 := 10000
  dashboard : DashboardSettings := {}
deriving DecidableEq, Repr, Inhabited

namespace Config

/-- The configuration in which nothing has been set, for a user with the given home. -/
def initial (home : String) : Config :=
  { dataDir := if home = "" then ".lanevm" else Path.join home ".lanevm" }

/-! ### Settings -/

/-- Where a setting is kept: how it is read and how it is changed. -/
inductive Slot
  | text (get : Config → String) (set : Config → String → Config)
  | int (get : Config → Int) (set : Config → Int → Config)
  | uint64 (get : Config → UInt64) (set : Config → UInt64 → Config)
  | flag (get : Config → Bool) (set : Config → Bool → Config)
  | texts (get : Config → Option (List String)) (set : Config → Option (List String) → Config)

/-- A setting; one that belongs to no group has the empty group. -/
structure Setting where
  group : String := ""
  name : String
  slot : Slot

/-- The settings of machines. -/
def machineSettings : List Setting :=
  [⟨"vm", "stack_size", .int (·.machine.stackSize) fun c v =>
      { c with machine := { c.machine with stackSize := v } }⟩,
    ⟨"vm", "heap_size", .int (·.machine.heapSize) fun c v =>
      { c with machine := { c.machine with heapSize := v } }⟩,
    ⟨"vm", "max_steps", .uint64 (·.machine.maxSteps) fun c v =>
      { c with machine := { c.machine with maxSteps := v } }⟩]

/-- The settings of the device. -/
def deviceSettings : List Setting :=
  [⟨"device", "platform", .int (·.device.platform) fun c v =>
      { c with device := { c.device with platform := v } }⟩,
    ⟨"device", "placement", .text (·.device.placement) fun c v =>
      { c with device := { c.device with placement := v } }⟩,
    ⟨"device", "workers", .int (·.device.workers) fun c v =>
      { c with device := { c.device with workers := v } }⟩,
    ⟨"device", "group_size", .int (·.device.groupSize) fun c v =>
      { c with device := { c.device with groupSize := v } }⟩,
    ⟨"device", "max_group_size", .int (·.device.maxGroupSize) fun c v =>
      { c with device := { c.device with maxGroupSize := v } }⟩,
    ⟨"device", "endpoints", .texts (·.device.endpoints) fun c v =>
      { c with device := { c.device with endpoints := v } }⟩]

/-- The settings of the servers. -/
def serverSettings : List Setting :=
  [⟨"rpc", "addr", .text (·.rpc.address) fun c v => { c with rpc := { c.rpc with address := v } }⟩,
    ⟨"rpc", "enable_cors", .flag (·.rpc.crossOrigin) fun c v =>
      { c with rpc := { c.rpc with crossOrigin := v } }⟩,
    ⟨"rpc", "log_requests", .flag (·.rpc.logRequests) fun c v =>
      { c with rpc := { c.rpc with logRequests := v } }⟩,
    ⟨"rpc", "max_request_size", .int (·.rpc.maxRequestSize) fun c v =>
      { c with rpc := { c.rpc with maxRequestSize := v } }⟩,
    ⟨"device_server", "addr", .text (·.serverAddress) fun c v => { c with serverAddress := v }⟩,
    ⟨"runs", "retain", .uint64 (·.retain) fun c v => { c with retain := v }⟩,
    ⟨"dashboard", "enabled", .flag (·.dashboard.enabled) fun c v =>
      { c with dashboard := { c.dashboard with enabled := v } }⟩,
    ⟨"dashboard", "bind_address", .text (·.dashboard.host) fun c v =>
      { c with dashboard := { c.dashboard with host := v } }⟩,
    ⟨"dashboard", "port", .int (·.dashboard.port) fun c v =>
      { c with dashboard := { c.dashboard with port := v } }⟩]

/-- All settings, in the order in which they are written. -/
def settings : List Setting :=
  [⟨"", "data_dir", .text (·.dataDir) fun c v => { c with dataDir := v }⟩,
    ⟨"", "log_level", .text (·.logLevel) fun c v => { c with logLevel := v }⟩,
    ⟨"", "log_file", .text (·.logFile) fun c v => { c with logFile := v }⟩] ++
    machineSettings ++ deviceSettings ++ serverSettings

/-- The groups, in the order in which they are written. -/
def groups : List String :=
  ["vm", "device", "rpc", "device_server", "runs", "dashboard"]

/-- The settings of a group. -/
def settingsOf (group : String) : List Setting :=
  settings.filter (·.group == group)

/-! ### Ranges -/

/-- Why a configuration is not valid. -/
inductive Invalid
  | stackSize (n : Int)
  | heapSize (n : Int)
  | placement (name : String)
  | platform (n : Int)
  | workers (n : Int)
  | groupSizes (size greatest : Int)
  | groupSizeExceeds (size greatest : Int)
  | port (n : Int)
  | maxRequestSize (n : Int)
  | logLevel (name : String)
deriving DecidableEq, Repr

/-- The wording of what is not valid. -/
def Invalid.message : Invalid → String
  | stackSize n => s!"invalid config: vm.stack_size {n}"
  | heapSize n => s!"invalid config: vm.heap_size {n}"
  | placement name => "invalid config: device.placement: " ++ Placement.unknown name
  | platform n => s!"invalid config: device.platform {n}"
  | workers n => s!"invalid config: device.workers {n}"
  | groupSizes a b => s!"invalid config: device group sizes {a}/{b}"
  | groupSizeExceeds a b => s!"invalid config: device.group_size {a} exceeds max_group_size {b}"
  | port n => s!"invalid config: dashboard.port {n}"
  | maxRequestSize n => s!"invalid config: rpc.max_request_size {n}"
  | logLevel name => "invalid config: log_level " ++ Text.quote name

/-- The names of levels, in lower case. -/
def logLevels : List String :=
  ["debug", "info", "warn", "warning", "error"]

/-- The first value that is out of its range. -/
def check (c : Config) : Except Invalid Unit := do
  if c.machine.stackSize ≤ 0 ∨ maxStackSize < c.machine.stackSize then
    throw (.stackSize c.machine.stackSize)
  if c.machine.heapSize ≤ 0 ∨ maxHeapSize < c.machine.heapSize then
    throw (.heapSize c.machine.heapSize)
  if (Placement.ofName? c.device.placement).isNone then
    throw (.placement c.device.placement)
  if c.device.platform < 0 then
    throw (.platform c.device.platform)
  if c.device.workers < 0 then
    throw (.workers c.device.workers)
  if c.device.groupSize < 0 ∨ c.device.maxGroupSize < 0 then
    throw (.groupSizes c.device.groupSize c.device.maxGroupSize)
  if 0 < c.device.maxGroupSize ∧ c.device.maxGroupSize < c.device.groupSize then
    throw (.groupSizeExceeds c.device.groupSize c.device.maxGroupSize)
  if c.dashboard.port < 0 ∨ 65535 < c.dashboard.port then
    throw (.port c.dashboard.port)
  if c.rpc.maxRequestSize ≤ 0 then
    throw (.maxRequestSize c.rpc.maxRequestSize)
  if !logLevels.contains (Text.lower c.logLevel) then
    throw (.logLevel c.logLevel)

/-! ### Consequences -/

/-- The placement of stacks. A name that is none counts as the first placement. -/
def placement (c : Config) : Placement :=
  (Placement.ofName? c.device.placement).getD .shared

/-- Where programs are kept. -/
def programsDir (c : Config) : String :=
  Path.join c.dataDir "programs"

/-- Where runs are kept. -/
def runsPath (c : Config) : String :=
  Path.join c.dataDir "runs.db"

/-- The value of a setting as JSON. -/
def Setting.json (s : Setting) (c : Config) : String × Json :=
  (s.name, match s.slot with
    | .text get _ => .string (get c)
    | .int get _ => .ofInt (get c)
    | .uint64 get _ => .ofNat (get c).toNat
    | .flag get _ => .bool (get c)
    | .texts get _ => .ofStrings ((get c).getD []))

/-- A configuration as JSON, with what follows from it. -/
def json (c : Config) : Json :=
  .object ((settingsOf "").map (·.json c) ++
    (groups.map fun g => (g, .object ((settingsOf g).map (·.json c)))) ++
    [("placement_value", .ofInt c.placement.number), ("programs_dir", .string c.programsDir),
      ("runs_path", .string c.runsPath)])

end Config

end Lanewise
