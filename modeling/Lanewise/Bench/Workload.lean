import Lanewise.LaneEngine
import Lanewise.Machine.Run

/-!
# Built-in workloads

Programs on vectors, and the three ways to run a program for a benchmark: on a machine of its own,
as a prepared kernel of one lane, and on the lane engine.

## Main definitions

* `Bench.vectorAddLoop`, `Bench.vectorAddLanes`, `Bench.vectorMulLanes`: the programs.
* `Bench.runMachine`, `Bench.SoloKernel`, `Bench.runLanes`: one run each.
-/

namespace Lanewise.Bench

/-! ### Programs -/

/-- A sequential program that adds the second and the third `size` cells of the heap into the first
`size` cells. -/
def vectorAddLoop (size : Int) : Program :=
  let n : Word := Int32.ofInt size
  ⟨#[Opcode.iconst.code, 0,
    Opcode.dup.code,
    Opcode.iconst.code, n,
    Opcode.ieq.code,
    Opcode.brt.code, 23,
    Opcode.dup.code,
    Opcode.dup.code,
    Opcode.gloadIndexed.code, n,
    Opcode.load.code, 1,
    Opcode.gloadIndexed.code, 2 * n,
    Opcode.iadd.code,
    Opcode.gstoreIndexed.code, 0,
    Opcode.iconst1.code,
    Opcode.iadd.code,
    Opcode.br.code, 2,
    Opcode.pop.code,
    Opcode.halt.code]⟩

/-- A lane program that combines the cells of the two input heaps that have the number of the lane
into the output heap. -/
def laneBinary (op : Opcode) : Program :=
  ⟨#[Opcode.threadId.code,
    Opcode.dup.code,
    Opcode.parallelGloadIndexed.code, 0,
    Opcode.threadId.code,
    Opcode.parallelGloadIndexed.code, 1,
    op.code,
    Opcode.parallelGstoreIndexed.code, 2,
    Opcode.halt.code]⟩

/-- A lane program that adds two vectors. -/
def vectorAddLanes : Program :=
  laneBinary .iadd

/-- A lane program that multiplies two vectors. -/
def vectorMulLanes : Program :=
  laneBinary .imul

/-! ### Runs -/

/-- Why a run fails. -/
inductive Failure
  | machine (e : Machine.Error)
  | fault (f : Fault)
  | device (e : Device.Error)
  | engine (e : LaneEngine.Error)
  | unfinished
deriving Repr

/-- The wording of a failure. -/
def Failure.message : Failure → String
  | machine e => e.message
  | fault f => f.message
  | device e => e.message
  | engine e => e.message
  | unfinished => Device.Error.unfinished.message

/-- Runs a program on a machine of its own, over a heap whose cells hold their indices. -/
def runMachine (fuel : Nat) (program : Program) (entry heapSize : Int) :
    Except Failure Machine.Result :=
  match Machine.create program entry { stackSize := defaultStackSize, heapSize } with
  | .error e => .error (.machine e)
  | .ok m =>
    match (m.initHeap.run fuel).2 with
    | .halted r => .ok r
    | .faulted f => .error (.fault f)
    | .notRunnable => .error (.machine .notRunnable)
    | .unfinished => .error .unfinished

/-- A sequential program that has been prepared as a kernel of one lane. -/
structure SoloKernel where
  handle : Handle
  heapSize : Int
  /-- The heap that the last run left. -/
  heap : Heap := #[]
deriving Inhabited

namespace SoloKernel

variable {σ : Type} [Backend σ]

/-- Prepares a program. -/
def prepare (device : σ) (ctx : Context) (program : Program) (entry heapSize placement : Int) :
    Except Device.Error SoloKernel × σ :=
  let (answer, device) := Backend.prepare device ctx
    { program := some program, entry, mode := .sequential, stackSize := defaultStackSize,
      heaps := [heapSize], placement }
  (answer.map fun handle => { handle, heapSize }, device)

/-- Runs the program over a heap whose cells hold their indices. -/
def run (k : SoloKernel) (device : σ) (ctx : Context) : Except Device.Error SoloKernel × σ :=
  let (answer, device) := Backend.execute device ctx k.handle
    { heaps := #[Heap.iota k.heapSize.toNat], lanes := 1 }
  (answer.map fun c => { k with heap := c.heaps.getD 0 #[] }, device)

/-- Releases the program. -/
def close (k : SoloKernel) (device : σ) : Except Device.Error Unit × σ :=
  Backend.release device k.handle

end SoloKernel

/-- A lane engine with heaps of the given size on which the program has been prepared. -/
def prepareLanes {σ : Type} [Backend σ] (device : σ) (ctx : Context) (program : Program)
    (size placement : Int) : Except LaneEngine.Error (LaneEngine σ) × σ :=
  match LaneEngine.create program 0 { heapSize := size, placement } (some device) with
  | .error e => (.error e, device)
  | .ok engine =>
    match engine.prepare ctx with
    | (.error e, engine) => (.error e, engine.device.getD device)
    | (.ok _, engine) => (.ok engine, device)

/-- Sets the heaps of an engine to their initial contents and runs it. -/
def runLanes {σ : Type} [Backend σ] (engine : LaneEngine σ) (ctx : Context)
    (lanes groupSize : Int) :
    Except LaneEngine.Error Completion × LaneEngine σ :=
  engine.initHeaps.run ctx lanes groupSize

end Lanewise.Bench
