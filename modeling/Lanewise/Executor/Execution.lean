import Lanewise.Device.Launch
import Lanewise.Run.Record

/-!
# Results of executions

A run that got as far as the engine has a result, whether it succeeded or not. The result lists what
was printed, the heaps and the trace, or the faults.

## Main definitions

* `Execution`: the result of a run.
* `Execution.record`: the record of a run.
-/

namespace Lanewise

/-- One fault of a run. -/
structure FaultInfo where
  lane : Word
  ip : Int
  mnemonic : String
  kind : String
  message : String
deriving DecidableEq, Repr, Inhabited

/-- The description of a fault. -/
def FaultInfo.ofFault (f : Fault) : FaultInfo :=
  { lane := f.lane, ip := f.ip, mnemonic := f.mnemonic, kind := f.kindName, message := f.message }

/-- The result of a run. -/
structure Execution where
  /-- The identifier of the stored record; empty if none was stored. -/
  runId : String := ""
  program : ProgramId
  mode : Run.Mode
  /-- Whether every lane halted. -/
  success : Bool := false
  error : String := ""
  faults : List FaultInfo := []
  /-- What each lane printed; a sequential run has one row. -/
  printed : List Run.Row := []
  steps : UInt64 := 0
  /-- How long the run took; zero if a device did not complete it. -/
  elapsed : Duration := 0
  groups : Int := 0
  heaps : List Heap := []
  trace : List String := []
deriving DecidableEq, Repr, Inhabited

namespace Execution

/-- A failed run. -/
def fail (x : Execution) (error : String) (faults : List Fault) : Execution :=
  { x with success := false, error, faults := faults.map .ofFault }

/-- A run that a device refused or that faulted on it. -/
def failDevice (x : Execution) (e : Device.Error) : Execution :=
  match e with
  | .laneFault fs => x.fail e.message fs
  | _ => x.fail e.message []

/-- The status of a run. -/
def status (x : Execution) : Run.Status :=
  if x.success then .ok else if x.faults.isEmpty then .failed else .faulted

/-- The record of a run, with what is known about the device. -/
def record (x : Execution) (r : Run.Record) : Run.Record :=
  { r with
    program := x.program
    mode := x.mode.name
    elapsed := x.elapsed
    steps := x.steps
    printed := x.printed
    error := x.error
    status := x.status.name }

/-! ### JSON -/

private def optional (absent : Bool) (name : String) (v : Json) : List (String × Json) :=
  if absent then [] else [(name, v)]

/-- The JSON form of a fault. -/
def faultJson (f : FaultInfo) : Json :=
  .object ([("lane", .ofInt f.lane.toInt), ("ip", .ofInt f.ip)] ++
    optional f.mnemonic.isEmpty "opcode" (.string f.mnemonic) ++
    [("kind", .string f.kind), ("message", .string f.message)])

/-- The JSON form of a heap. -/
def heapJson (h : Heap) : Json :=
  .array (h.toList.map fun w => .ofInt w.toInt)

/-- The JSON form of a result. -/
def json (x : Execution) : Json :=
  .object (
    optional x.runId.isEmpty "runId" (.string x.runId) ++
    [("program", .string x.program.text), ("mode", .string x.mode.name),
      ("success", .bool x.success)] ++
    optional x.error.isEmpty "error" (.string x.error) ++
    optional x.faults.isEmpty "faults" (.array (x.faults.map faultJson)) ++
    optional x.printed.isEmpty "printed" (.array (x.printed.map Run.Row.json)) ++
    [("steps", .ofNat x.steps.toNat), ("elapsedNs", .ofInt x.elapsed.toInt)] ++
    optional (x.groups == 0) "groups" (.ofInt x.groups) ++
    optional x.heaps.isEmpty "heaps" (.array (x.heaps.map heapJson)) ++
    optional x.trace.isEmpty "trace" (.array (x.trace.map .string)))

end Execution

end Lanewise
