import Lanewise.Executor.Basic
import Lanewise.Json.Fields
import Lanewise.Rpc.Error
import Lanewise.Rpc.ProgramData

/-!
# Parameters of remote procedure calls

Parameters are given by position. Trailing ones may be missing, and `null` stands for the zero value
of a parameter.

## Main definitions

* `Rpc.positional`: the parameters of a call.
* `Rpc.param`: one parameter.
* `Rpc.putOptions`, `Rpc.sequentialOptions`, `Rpc.laneOptions`, `Rpc.runsOptions`: parameters that
  are objects.
-/

namespace Lanewise.Rpc

/-- The parameters of a call, of which at least `required` and at most `accepted` have to be
given. -/
def positional (params : Json) (required accepted : Nat) : Except Error (List Json) := do
  let items ← match params with
    | .null => pure []
    | .array xs => pure xs
    | _ => throw (.invalidParams "params must be an array")
  if items.length < required then
    throw (.invalidParams s!"expected at least {required} params, got {items.length}")
  if accepted < items.length then
    throw (.invalidParams s!"expected at most {accepted} params, got {items.length}")
  return items

/-- The parameter at a position, or its zero value. -/
def param {α : Type} (items : List Json) (i : Nat) (k : Json.Kind α) : Except Error α :=
  match items[i]? with
  | none | some .null => .ok k.zero
  | some j =>
    match k.read j with
    | .ok a => .ok a
    | .error e => .error (.invalidParams (s!"param {i}: " ++ e.message))

/-! ### Parameters that are objects -/

/-- A kind of object with given fields. -/
def options {ρ : Type} (name : String) (zero : ρ) (fields : List (Json.Field ρ)) : Json.Kind ρ :=
  .record "rpc" name zero fields

/-- How a program is given and stored. -/
structure PutOptions where
  encoding : String := ""
  compress : Bool := false

/-- The options of a stored program. -/
def putOptions : Json.Kind PutOptions :=
  options "PutProgramConfig" {} [
    .of "encoding" (.text "rpc.Encoding") (·.encoding) fun o v => { o with encoding := v },
    .of "compress" .truth (·.compress) fun o v => { o with compress := v }]

/-- Whether the image of a program is asked for. -/
def withImage : Json.Kind Bool :=
  options "GetProgramConfig" false [.of "withImage" .truth id fun _ v => v]

/-- What is asked of a sequential run. -/
structure SequentialOptions where
  stackSize : Int := 0
  heapSize : Int := 0
  heap : List Word := []
  initHeap : Bool := false
  trace : Bool := false
  maxSteps : UInt64 := 0
  onDevice : Bool := false
  placement : String := ""

/-- The options of a sequential run. -/
def sequentialOptions : Json.Kind SequentialOptions :=
  options "RunProgramConfig" {} [
    .of "stackSize" .int (·.stackSize) fun o v => { o with stackSize := v },
    .of "heapSize" .int (·.heapSize) fun o v => { o with heapSize := v },
    .of "heap" (.list .word) (·.heap) fun o v => { o with heap := v },
    .of "initHeap" .truth (·.initHeap) fun o v => { o with initHeap := v },
    .of "trace" .truth (·.trace) fun o v => { o with trace := v },
    .of "maxSteps" .uint64 (·.maxSteps) fun o v => { o with maxSteps := v },
    .of "device" .truth (·.onDevice) fun o v => { o with onDevice := v },
    .of "placement" .text (·.placement) fun o v => { o with placement := v }]

/-- A sequential run with given options. -/
def SequentialOptions.request (o : SequentialOptions) (program : ProgramId)
    (placement : Option Int) : SequentialRequest :=
  { program, stackSize := o.stackSize, heapSize := o.heapSize, heap := o.heap.toArray,
    initHeap := o.initHeap, trace := o.trace, maxSteps := o.maxSteps, onDevice := o.onDevice,
    placement }

/-- What is asked of a run over lanes. -/
structure LaneOptions where
  lanes : Int := 0
  groupSize : Int := 0
  stackSize : Int := 0
  heapSize : Int := 0
  heapCount : Int := 0
  heaps : List (List Word) := []
  initHeaps : Bool := false
  placement : String := ""
  trace : Bool := false
  maxSteps : UInt64 := 0

/-- The options of a run over lanes. -/
def laneOptions : Json.Kind LaneOptions :=
  options "RunLanesConfig" {} [
    .of "lanes" .int (·.lanes) fun o v => { o with lanes := v },
    .of "groupSize" .int (·.groupSize) fun o v => { o with groupSize := v },
    .of "stackSize" .int (·.stackSize) fun o v => { o with stackSize := v },
    .of "heapSize" .int (·.heapSize) fun o v => { o with heapSize := v },
    .of "heapCount" .int (·.heapCount) fun o v => { o with heapCount := v },
    .of "heaps" (.list (.list .word)) (·.heaps) fun o v => { o with heaps := v },
    .of "initHeaps" .truth (·.initHeaps) fun o v => { o with initHeaps := v },
    .of "placement" .text (·.placement) fun o v => { o with placement := v },
    .of "trace" .truth (·.trace) fun o v => { o with trace := v },
    .of "maxSteps" .uint64 (·.maxSteps) fun o v => { o with maxSteps := v }]

/-- A run over lanes with given options. -/
def LaneOptions.request (o : LaneOptions) (program : ProgramId) (placement : Option Int) :
    LaneRequest :=
  { program, lanes := o.lanes, groupSize := o.groupSize, stackSize := o.stackSize,
    heapSize := o.heapSize, heapCount := o.heapCount, heaps := o.heaps.map List.toArray,
    initHeaps := o.initHeaps, trace := o.trace, maxSteps := o.maxSteps, placement }

/-- Which runs are asked for. -/
structure RunsOptions where
  program : String := ""
  limit : Int := 0
  before : UInt64 := 0

/-- The options of a list of runs. -/
def runsOptions : Json.Kind RunsOptions :=
  options "GetRunsConfig" {} [
    .of "program" .text (·.program) fun o v => { o with program := v },
    .of "limit" .int (·.limit) fun o v => { o with limit := v },
    .of "before" .uint64 (·.before) fun o v => { o with before := v }]

end Lanewise.Rpc
