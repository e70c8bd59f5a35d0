import Lanewise.Executor.Execution
import Lanewise.LaneEngine
import Lanewise.Machine.Run
import Lanewise.Registry.Basic
import Lanewise.Run.Store

/-!
# The executor

The executor runs stored programs: on the machine of the host, as a kernel of one lane on its
device, or over many lanes on its device. Every run that reaches an engine is recorded. Programs
that have been loaded are kept in a cache, which is emptied when it is full.

## Main definitions

* `Executor`: the executor with its registry, its device, its journal and its cache.
* `Executor.deploy`, `Executor.load`: programs.
* `Executor.runSequential`, `Executor.runLanes`: runs.
-/

namespace Lanewise

/-- What an executor uses where a request leaves something open. -/
structure ExecutorConfig where
  stackSize : Int := defaultStackSize
  heapSize : Int := defaultHeapSize
  maxSteps : UInt64 := 0
  placement : Int := Placement.separate.number
  groupSize : Int := 0
  /-- The greatest number of cached programs; none are cached unless it is positive. -/
  cacheSize : Int := 256
deriving DecidableEq, Repr, Inhabited

/-- Runs stored programs. -/
structure Executor (σ : Type) where
  config : ExecutorConfig := {}
  registry : Registry
  device : Option σ
  journal : Option Run.Journal
  /-- The largest number of steps of a run on the host. -/
  fuel : Nat
  /-- How long each run takes that is timed. -/
  watch : Nat → Duration := fun _ => 0
  /-- The number of runs that have been timed. -/
  timed : Nat := 0
  cache : List (ProgramId × Image) := []

/-- A run of one program on a sequential engine. -/
structure SequentialRequest where
  program : ProgramId
  stackSize : Int := 0
  heapSize : Int := 0
  /-- The contents of the front of the heap. -/
  heap : Array Word := #[]
  /-- Whether the cells of the heap hold their indices instead. -/
  initHeap : Bool := false
  trace : Bool := false
  maxSteps : UInt64 := 0
  /-- Whether the run takes place on the device. -/
  onDevice : Bool := false
  placement : Option Int := none
deriving Repr, Inhabited

/-- A run of one program over many lanes. -/
structure LaneRequest where
  program : ProgramId
  lanes : Int := 0
  groupSize : Int := 0
  stackSize : Int := 0
  heapSize : Int := 0
  heapCount : Int := 0
  /-- The contents of the fronts of the heaps. -/
  heaps : List (Array Word) := []
  /-- Whether the heaps have their initial contents instead. -/
  initHeaps : Bool := false
  placement : Option Int := none
  trace : Bool := false
  maxSteps : UInt64 := 0
deriving Repr, Inhabited

namespace Executor

/-- Why there is no result. -/
inductive Error
  | programNotFound (id : ProgramId)
  | loadFailed (id : ProgramId) (e : Registry.Error)
  | noDevice
  | invalidRequest (why : String)
  | cancelled
  | device (e : Device.Error)
  /-- The fuel did not suffice. -/
  | unfinished
deriving DecidableEq, Repr

/-- The wording of an error. -/
def Error.message : Error → String
  | programNotFound id => "program not found: " ++ id.text
  | loadFailed id e => "program load failed: " ++ id.text ++ ": " ++ e.message
  | noDevice => "no lane backend configured"
  | invalidRequest why => "invalid execution request: " ++ why
  | cancelled => Context.cancelledText
  | device e => e.message
  | unfinished => Device.Error.unfinished.message

variable {σ : Type} [Backend σ]

/-! ### Programs -/

/-- Keeps a loaded program in the cache. A full cache is emptied first. -/
def remember (e : Executor σ) (id : ProgramId) (img : Image) : Executor σ :=
  if e.config.cacheSize ≤ 0 then e
  else
    let kept := if e.config.cacheSize ≤ e.cache.length then [] else e.cache
    { e with cache := (id, img) :: kept.filter (·.1 != id) }

/-- Empties the cache. -/
def clearCache (e : Executor σ) : Executor σ :=
  { e with cache := [] }

/-- Stores an image. -/
def deploy (e : Executor σ) (img : Image) : Except Registry.Error ProgramId × Executor σ :=
  match e.registry.put img with
  | .error err => (.error err, e)
  | .ok (id, registry) => (.ok id, { e with registry }.remember id img)

/-- Loads a program from the cache or the registry. -/
def load (e : Executor σ) (id : ProgramId) : Except Error Image × Executor σ :=
  match e.cache.lookup id with
  | some img => (.ok img, e)
  | none =>
    match e.registry.get id with
    | .ok img => (.ok img, e.remember id img)
    | .error .notFound => (.error (.programNotFound id), e)
    | .error err => (.error (.loadFailed id err), e)

/-- The listing of a program. -/
def listing (e : Executor σ) (id : ProgramId) : Except Error String × Executor σ :=
  let (answer, e) := e.load id
  (answer.map fun img => img.program.listing, e)

/-! ### Records -/

/-- Records a run; a run that cannot be recorded still has a result. -/
def record (e : Executor σ) (x : Execution) (r : Run.Record) : Execution × Executor σ :=
  match e.journal with
  | none => (x, e)
  | some j =>
    match j.insert (x.record r) with
    | (.ok stored, j) => ({ x with runId := stored.id }, { e with journal := some j })
    | (.error _, j) => (x, { e with journal := some j })

/-- Writes down how long a run took. -/
def clock (e : Executor σ) (x : Execution) : Execution × Executor σ :=
  ({ x with elapsed := e.watch e.timed }, { e with timed := e.timed + 1 })

/-- Whether an error says that the device could not be used, rather than that the run was bad. -/
def isInfrastructure : Device.Error → Bool
  | .unavailable _ => true
  | _ => false

/-! ### Sequential runs -/

/-- The first of two numbers that is not zero. -/
def orElse (a b : Int) : Int :=
  if a = 0 then b else a

/-- The sizes and the budget of a sequential run. -/
structure Limits where
  stackSize : Int
  heapSize : Int
  maxSteps : UInt64

/-- The limits of a sequential request. -/
def limits (c : ExecutorConfig) (r : SequentialRequest) : Except Error Limits :=
  let heapSize := orElse r.heapSize (orElse c.heapSize defaultHeapSize)
  if heapSize < 0 ∨ maxHeapSize < heapSize then .error (.invalidRequest s!"heap size {heapSize}")
  else if heapSize < r.heap.size then
    .error (.invalidRequest s!"{r.heap.size} heap values for {heapSize} cells")
  else
    .ok { stackSize := orElse r.stackSize c.stackSize, heapSize
          maxSteps := if r.maxSteps = 0 then c.maxSteps else r.maxSteps }

/-- Runs a program on the machine of the host. -/
def onHost (e : Executor σ) (img : Image) (r : SequentialRequest) (l : Limits) :
    Except Error Execution × Executor σ :=
  match Machine.create img.program img.entry
      { stackSize := l.stackSize, heapSize := l.heapSize, maxSteps := l.maxSteps,
        tracing := r.trace } with
  | .error err => (.error (.invalidRequest err.message), e)
  | .ok m =>
    let m := if r.initHeap then m.initHeap else m.setHeap r.heap
    let (m, outcome) := m.run e.fuel
    let x : Execution :=
      { program := r.program, mode := .sequential, steps := m.steps, heaps := m.heaps.toList
        trace := m.trace.toList.map TraceRecord.text }
    let finish (x : Execution) :=
      let (x, e) := e.clock x
      let (x, e) := e.record x {}
      (.ok x, e)
    match outcome with
    | .halted result =>
      finish { x with success := true, printed := [Run.Row.ofPrinted result.printed] }
    | .faulted f => finish (x.fail f.message [f])
    | .notRunnable => finish (x.fail Machine.Error.notRunnable.message [])
    | .unfinished => (.error .unfinished, e)

/-- The heap at the start of a run on the device. -/
def initialHeap (r : SequentialRequest) (size : Nat) : Heap :=
  if r.initHeap then Heap.iota size else (Heap.zeros size).overlay r.heap

/-- Runs a program as a kernel of one lane on the device. -/
def onDevice (e : Executor σ) (ctx : Context) (img : Image) (r : SequentialRequest) (l : Limits) :
    Except Error Execution × Executor σ :=
  match e.device with
  | none => (.error .noDevice, e)
  | some device =>
    let placement := r.placement.getD e.config.placement
    let x : Execution := { program := r.program, mode := .sequential }
    let about : Run.Record :=
      { platform := Backend.name device, placement := Placement.nameOf placement, lanes := 1
        groupSize := 1 }
    match Backend.prepare device ctx
        { program := some img.program, entry := img.entry, mode := .sequential,
          stackSize := l.stackSize, heaps := [l.heapSize], placement, trace := r.trace,
          maxSteps := l.maxSteps } with
    | (.error err, device) =>
      let e := { e with device := some device }
      if isInfrastructure err then (.error (.device err), e)
      else let (x, e) := e.record (x.failDevice err) about; (.ok x, e)
    | (.ok h, device) =>
      let (answer, device) := Backend.execute device ctx h
        { heaps := #[initialHeap r l.heapSize.toNat], lanes := 1, groupSize := 1 }
      let (_, device) := Backend.release device h
      let e := { e with device := some device }
      match answer with
      | .error .unfinished => (.error .unfinished, e)
      | .error err =>
        if isInfrastructure err then (.error (.device err), e)
        else let (x, e) := e.record (x.failDevice err) about; (.ok x, e)
      | .ok c =>
        let (x, e) := e.clock
          { x with
            success := true, steps := c.steps, groups := c.groups, trace := c.trace.toList
            heaps := c.heaps.toList, printed := (c.printed.toList.take 1).map Run.Row.ofPrinted }
        let (x, e) := e.record x about
        (.ok x, e)

/-- Runs a stored program on a sequential engine. -/
def runSequential (e : Executor σ) (ctx : Context) (r : SequentialRequest) :
    Except Error Execution × Executor σ :=
  match e.load r.program with
  | (.error err, e) => (.error err, e)
  | (.ok img, e) =>
    if ctx.cancelled then (.error .cancelled, e)
    else match limits e.config r with
      | .error err => (.error err, e)
      | .ok l => if r.onDevice then e.onDevice ctx img r l else e.onHost img r l

/-! ### Runs over lanes -/

/-- The layout of the lane engine for a request. -/
def laneConfig (c : ExecutorConfig) (r : LaneRequest) : Except Error LaneConfig :=
  let longest := r.heaps.foldl (fun n h => max n h.size) 0
  let heapSize := orElse (orElse r.heapSize longest) c.heapSize
  let heapCount := orElse r.heapCount r.heaps.length
  if heapCount ≠ 0 ∧ heapCount < r.heaps.length then
    .error (.invalidRequest s!"{r.heaps.length} heaps for a set of {heapCount}")
  else
    .ok { stackSize := orElse r.stackSize c.stackSize, heapCount, heapSize
          placement := r.placement.getD c.placement, trace := r.trace
          maxSteps := if r.maxSteps = 0 then c.maxSteps else r.maxSteps }

/-- Sets the first heaps of an engine to given contents. -/
def setHeaps (engine : LaneEngine σ) : (selector : Nat) → List (Array Word) →
    Except LaneEngine.Error (LaneEngine σ)
  | _, [] => .ok engine
  | i, values :: rest =>
    match engine.setHeap i values with
    | .ok engine => setHeaps engine (i + 1) rest
    | .error err => .error err

/-- The group size of a request; a configured size that does not divide the number of lanes is left
to the device. -/
def groupSizeFor (c : ExecutorConfig) (r : LaneRequest) : Int :=
  if r.groupSize ≠ 0 then r.groupSize
  else if 0 < c.groupSize ∧ r.lanes.tmod c.groupSize ≠ 0 then 0
  else c.groupSize

/-- Runs a lane engine that has its heaps, releases it, and records the run. -/
def finishLanes (e : Executor σ) (ctx : Context) (r : LaneRequest) (c : LaneConfig)
    (engine : LaneEngine σ) (platform : String) : Except Error Execution × Executor σ :=
  let groupSize := groupSizeFor e.config r
  let (answer, engine) := engine.run ctx r.lanes groupSize
  let heaps := engine.heaps.toList
  let (_, engine) := engine.close
  let e := { e with device := engine.device }
  let x : Execution := { program := r.program, mode := .lanes }
  let about : Run.Record :=
    { platform, placement := Placement.nameOf c.placement, lanes := .ofInt r.lanes
      groupSize := .ofInt groupSize }
  match answer with
  | .ok done =>
    let (x, e) := e.clock
      { x with
        success := true, steps := done.steps, groups := done.groups, trace := done.trace.toList
        heaps, printed := done.printed.toList.map Run.Row.ofPrinted }
    let (x, e) := e.record x about
    (.ok x, e)
  | .error (.device .unfinished) => (.error .unfinished, e)
  | .error (.device err) =>
    if isInfrastructure err then (.error (.device err), e)
    else let (x, e) := e.record (x.failDevice err) about; (.ok x, e)
  | .error err => let (x, e) := e.record (x.fail err.message []) about; (.ok x, e)

/-- Runs a stored program over many lanes on the device. -/
def runLanes (e : Executor σ) (ctx : Context) (r : LaneRequest) :
    Except Error Execution × Executor σ :=
  match e.device with
  | none => (.error .noDevice, e)
  | some device =>
    match e.load r.program with
    | (.error err, e) => (.error err, e)
    | (.ok img, e) =>
      match laneConfig e.config r with
      | .error err => (.error err, e)
      | .ok c =>
        match LaneEngine.create img.program img.entry c (some device) with
        | .error err => (.error (.invalidRequest err.message), e)
        | .ok engine =>
          match if r.initHeaps then .ok engine.initHeaps else setHeaps engine 0 r.heaps with
          | .error err => (.error (.invalidRequest err.message), e)
          | .ok engine => e.finishLanes ctx r c engine (Backend.name device)

end Executor

end Lanewise
