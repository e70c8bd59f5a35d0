import Lanewise.Device.Backend
import Lanewise.Machine.Basic

/-!
# The lane engine

A lane engine owns a set of heaps and runs one program over many lanes on a device. A launch lends
the heaps themselves to the device, which does not write to them. If every lane halted and the heaps
that come back have the expected sizes, these are copied over the heaps of the engine, one after
another. A heap that came back may be a part of a heap that was lent, and then it shows what has
been copied there before its turn comes.

## Main definitions

* `LaneEngine`: the engine with its heaps and its device.
* `LaneEngine.create`, `LaneEngine.initHeaps`, `LaneEngine.setHeap`, `LaneEngine.heap`: heaps.
* `LaneEngine.prepare`, `LaneEngine.run`, `LaneEngine.close`: use of the device.
-/

namespace Lanewise

/-- The number of heaps of an engine that leaves it open: two inputs and an output. -/
def defaultHeapCount : Nat := 3

/-- The heap that takes results. -/
def outputHeap : Nat := 2

/-- What a lane engine is asked for. -/
structure LaneConfig where
  /-- Stack cells of a lane; zero selects the default. -/
  stackSize : Int := 0
  /-- The number of heaps; zero selects the default. -/
  heapCount : Int := 0
  /-- Cells of a heap; zero selects the default. -/
  heapSize : Int := 0
  placement : Int := 0
  trace : Bool := false
  /-- The budget of steps of a lane; zero means none. -/
  maxSteps : UInt64 := 0
deriving DecidableEq, Repr, Inhabited

/-- A program with the heaps it runs on, and the device that runs it. -/
structure LaneEngine (σ : Type) where
  program : Program
  entry : Int
  stackSize : Int
  placement : Int
  trace : Bool
  maxSteps : UInt64
  heaps : Array Heap
  device : Option σ
  /-- The handle of the program on the device, once it has been prepared. -/
  handle : Option Handle := none
deriving Inhabited

namespace LaneEngine

/-- Why an engine refuses. -/
inductive Error
  | program (e : Program.Error)
  | layout (heaps cells : Int)
  | noDevice
  | selector (n : Int)
  | values (given cells : Nat)
  | device (e : Device.Error)
deriving DecidableEq, Repr

/-- The wording of an error. -/
def Error.message : Error → String
  | program e => e.message
  | layout n m => s!"invalid engine configuration: {n} heaps of {m} cells"
  | noDevice => "lane engine has no backend"
  | selector n => s!"heap selector out of range: {n}"
  | values n m => s!"heap index out of range: {n} values for {m} cells"
  | device e => e.message

variable {σ : Type} [Backend σ]

/-- A number, or a default in place of zero. -/
def orDefault (n : Int) (default : Nat) : Int :=
  if n = 0 then default else n

/-- An engine whose heaps are all zero. -/
def create (program : Program) (entry : Int) (c : LaneConfig) (device : Option σ) :
    Except Error (LaneEngine σ) := do
  match program.checkEntry entry with
  | .error e => throw (.program e)
  | .ok () => pure ()
  let count := orDefault c.heapCount defaultHeapCount
  let size := orDefault c.heapSize defaultHeapSize
  if count < 0 ∨ maxHeapCount < count ∨ size < 0 ∨ maxHeapSize < size ∨
      maxHeapCells < count * size then
    throw (.layout count size)
  return {
    program, entry, stackSize := orDefault c.stackSize defaultStackSize, placement := c.placement,
    trace := c.trace, maxSteps := c.maxSteps,
    heaps := Array.replicate count.toNat (Heap.zeros size.toNat), device }

/-! ### Heaps -/

/-- Every cell of an input heap holds its index, and every cell of the output heap holds one. -/
def initHeaps (e : LaneEngine σ) : LaneEngine σ :=
  { e with heaps := e.heaps.mapIdx fun i h =>
      if i = outputHeap then Heap.fill h.size 1 else Heap.iota h.size }

/-- The heap with a given number. -/
def heap (e : LaneEngine σ) (selector : Int) : Except Error Heap :=
  match selector, e.heaps[selector.toNat]? with
  | .ofNat _, some h => .ok h
  | _, _ => .error (.selector selector)

/-- Replaces the contents of a heap by the given values, with zeros after them. -/
def setHeap (e : LaneEngine σ) (selector : Int) (values : Array Word) :
    Except Error (LaneEngine σ) :=
  match e.heap selector with
  | .error err => .error err
  | .ok h =>
    if h.size < values.size then .error (.values values.size h.size)
    else
      .ok { e with
        heaps := e.heaps.setIfInBounds selector.toNat ((Heap.zeros h.size).overlay values) }

/-! ### Runs -/

/-- The kernel of the engine. -/
def kernel (e : LaneEngine σ) : Kernel :=
  { program := some e.program, entry := e.entry, stackSize := e.stackSize
    heaps := e.heaps.toList.map fun h => (h.size : Int)
    placement := e.placement, trace := e.trace, maxSteps := e.maxSteps }

/-- Prepares the program on the device, unless that has been done. -/
def prepare (e : LaneEngine σ) (ctx : Context) : Except Error Handle × LaneEngine σ :=
  match e.handle, e.device with
  | some h, _ => (.ok h, e)
  | none, none => (.error .noDevice, e)
  | none, some device =>
    match Backend.prepare device ctx e.kernel with
    | (.error err, device) => (.error (.device err), { e with device := some device })
    | (.ok h, device) => (.ok h, { e with device := some device, handle := some h })

/-- Why returned heaps do not fit the heaps of the engine, if they do not. -/
def misfit? (have_ got : List Heap) : Option Device.Error :=
  if got.length ≠ have_.length then
    some (.launchFailure s!"backend returned {got.length} heaps, want {have_.length}")
  else
    let pairs := (got.zip have_).mapIdx fun i (g, h) => (i, g.size, h.size)
    match pairs.find? fun (_, g, h) => g ≠ h with
    | some (i, g, h) =>
      some (.launchFailure s!"backend returned heap {i} with {g} cells, want {h}")
    | none => none

/-- What a returned heap shows. A heap that is a part of one of the engine shows the cells that are
there now. -/
def shown (part : Option (Nat × Nat)) (h : Heap) (heaps : Array Heap) : Heap :=
  match part with
  | none => h
  | some (j, first) => (heaps.getD j #[]).extract first (first + h.size)

/-- Copies heaps over those of an engine, from the given number on. -/
def commit (part : Nat → Option (Nat × Nat)) : (i : Nat) → List Heap → Array Heap → Array Heap
  | _, [], heaps => heaps
  | i, h :: rest, heaps =>
    commit part (i + 1) rest (heaps.setIfInBounds i (shown (part i) h heaps))

/-- Runs the program over a number of lanes. The heaps change only if the run succeeds. -/
def run (e : LaneEngine σ) (ctx : Context) (lanes groupSize : Int) :
    Except Error Completion × LaneEngine σ :=
  match e.prepare ctx with
  | (.error err, e) => (.error err, e)
  | (.ok h, e) =>
    match e.device with
    | none => (.error .noDevice, e)
    | some device =>
      let launch : Launch := { heaps := e.heaps, lanes, groupSize }
      match Backend.execute device ctx h launch with
      | (.error err, device) => (.error (.device err), { e with device := some device })
      | (.ok c, after) =>
        let e := { e with device := some after }
        match misfit? e.heaps.toList c.heaps.toList with
        | some err => (.error (.device err), e)
        | none =>
          let part := (Backend.sharing device ctx h launch c).part
          (.ok c, { e with heaps := commit part 0 c.heaps.toList e.heaps })

/-- Releases the program on the device, if it was prepared. -/
def close (e : LaneEngine σ) : Except Error Unit × LaneEngine σ :=
  match e.handle, e.device with
  | some h, some device =>
    match Backend.release device h with
    | (.ok (), device) => (.ok (), { e with device := some device, handle := none })
    | (.error err, device) =>
      (.error (.device err), { e with device := some device, handle := none })
  | _, _ => (.ok (), { e with handle := none })

end LaneEngine

end Lanewise
