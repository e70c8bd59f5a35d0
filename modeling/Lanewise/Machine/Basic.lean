import Lanewise.Fault
import Lanewise.Heap
import Lanewise.Instruction
import Lanewise.Meter

/-!
# Machines

A machine executes one program from an entry until it halts or faults. It has a value stack of
fixed capacity and a set of heaps: one heap of its own when it runs alone, a shared set of heaps and
a lane number when it is one of many lanes. The engine decides which opcodes it accepts.

## Main definitions

* `Engine`, `Phase`, `Machine`: the state of a machine.
* `Machine.create`: a machine at its entry.
* `Machine.configure`, `Machine.initHeap`: changes before a run.
-/

namespace Lanewise

/-! ### Capacities -/

/-- The capacity of a value stack when none is asked for. -/
def defaultStackSize : Nat := 100

/-- The capacity of a heap when none is asked for. -/
def defaultHeapSize : Nat := 100

/-- The largest capacity of a value stack. -/
def maxStackSize : Nat := 0x100000

/-- The largest capacity of a heap. -/
def maxHeapSize : Nat := 0x1000000

/-! ### State -/

/-- The two engines. -/
inductive Engine
  | sequential
  | lane
deriving DecidableEq, Repr, Inhabited

/-- An engine as a set of engines. -/
def Engine.modes : Engine → Modes
  | sequential => .sequential
  | lane => .lane

/-- Where a machine stands in its life. -/
inductive Phase
  | ready
  | running
  | halted
  | faulted
deriving DecidableEq, Repr, Inhabited

/-- The name of a phase. -/
def Phase.name : Phase → String
  | ready => "ready"
  | running => "running"
  | halted => "halted"
  | faulted => "faulted"

/-- The phase with a given number. -/
def Phase.ofNumber? (n : Int) : Option Phase :=
  if n = 0 then some .ready
  else if n = 1 then some .running
  else if n = 2 then some .halted
  else if n = 3 then some .faulted
  else none

/-- The name of a phase number; a number that is no phase is shown as it is. -/
def Phase.nameOf (n : Int) : String :=
  match ofNumber? n with
  | some p => p.name
  | none => s!"state({n})"

/-- An instruction as it stood before it was executed, with the live cells of the stack. -/
structure TraceRecord where
  lane : Word
  /-- The position of the instruction. -/
  ip : Int
  mnemonic : String
  args : List Word
  stack : Array Word
deriving DecidableEq, Repr, Inhabited

/-- The line that a trace shows for a record. -/
def TraceRecord.text (r : TraceRecord) : String :=
  let lane := if r.lane = Fault.noLane then "" else "lane " ++ r.lane.text ++ ": "
  lane ++ Instruction.textOf r.mnemonic r.args ++ " [" ++ Word.joined r.stack.toList ++ "]"

/-- The state of a machine. -/
structure Machine where
  code : Program
  engine : Engine
  /-- The number that the machine reports as its lane. -/
  lane : Word
  /-- The position of the next instruction. Branches may take it outside the program. -/
  ip : Int
  /-- The storage of the value stack. -/
  stack : Array Word
  /-- The number of live cells, which are the first cells of the storage. -/
  height : Nat
  /-- The frame: the cell that holds the return address of the active subroutine. -/
  fp : Nat
  /-- The number of active subroutines. -/
  depth : Nat
  heaps : Array Heap
  meter : Meter
  phase : Phase
  /-- What was emitted, in order. -/
  printed : Array Word
  tracing : Bool
  trace : Array TraceRecord
deriving Repr, Inhabited

namespace Machine

/-- The index of the top of the stack, minus one when the stack is empty. -/
def sp (m : Machine) : Int :=
  (m.height : Int) - 1

/-- The live cells of the stack, bottom first. -/
def live (m : Machine) : Array Word :=
  m.stack.extract 0 m.height

/-- The number of executed instructions. -/
def steps (m : Machine) : UInt64 :=
  m.meter.consumed

/-! ### Creation -/

/-- A lane: its number and the heaps it shares. -/
structure Binding where
  id : Word
  heaps : Array Heap
deriving Repr, Inhabited

/-- What a machine is made from. Sizes of zero select the default. -/
structure Options where
  stackSize : Int := 0
  heapSize : Int := 0
  /-- Storage for the stack that replaces a fresh one. -/
  stack : Option (Array Word) := none
  /-- A heap that replaces a fresh one. -/
  heap : Option Heap := none
  /-- The lane, for a machine that is one of many. -/
  lane : Option Binding := none
  tracing : Bool := false
  /-- The budget of steps; zero means none. -/
  maxSteps : UInt64 := 0
deriving Repr, Inhabited

/-- Why capacities or heaps are refused. -/
inductive ConfigError
  | emptyStack
  | stackSize (n : Int)
  | laneWithoutHeaps
  | emptyHeap
  | heapSize (n : Int)
deriving DecidableEq, Repr

/-- The wording of a refusal. -/
def ConfigError.message : ConfigError → String
  | emptyStack => "invalid engine configuration: empty stack storage"
  | stackSize n => s!"invalid engine configuration: stack size {n}"
  | laneWithoutHeaps => "invalid engine configuration: lane without heaps"
  | emptyHeap => "invalid engine configuration: empty heap storage"
  | heapSize n => s!"invalid engine configuration: heap size {n}"

/-- Why a machine cannot be made or used. -/
inductive Error
  | program (e : Program.Error)
  | config (e : ConfigError)
  | notRunnable
deriving DecidableEq, Repr

/-- The wording of an error. -/
def Error.message : Error → String
  | program e => e.message
  | config e => e.message
  | notRunnable => "engine is not runnable"

/-- The stack storage that the options ask for. -/
def stackOf (o : Options) : Except ConfigError (Array Word) :=
  match o.stack with
  | some cells => if cells.isEmpty then .error .emptyStack else .ok cells
  | none =>
    let n := if o.stackSize = 0 then (defaultStackSize : Int) else o.stackSize
    if 0 ≤ n ∧ n ≤ maxStackSize then .ok (Array.replicate n.toNat 0) else .error (.stackSize n)

/-- The engine, lane number and heaps that the options ask for. -/
def heapsOf (o : Options) : Except ConfigError (Engine × Word × Array Heap) :=
  match o.lane with
  | some b => if b.heaps.isEmpty then .error .laneWithoutHeaps else .ok (.lane, b.id, b.heaps)
  | none =>
    match o.heap with
    | some h => if h.isEmpty then .error .emptyHeap else .ok (.sequential, Fault.noLane, #[h])
    | none =>
      let n := if o.heapSize = 0 then (defaultHeapSize : Int) else o.heapSize
      if 0 ≤ n ∧ n ≤ maxHeapSize then .ok (.sequential, Fault.noLane, #[Heap.zeros n.toNat])
      else .error (.heapSize n)

/-- A machine at its entry. -/
def create (code : Program) (entry : Int) (o : Options) : Except Error Machine :=
  match code.checkEntry entry with
  | .error e => .error (.program e)
  | .ok () =>
    match stackOf o with
    | .error e => .error (.config e)
    | .ok stack =>
      match heapsOf o with
      | .error e => .error (.config e)
      | .ok (engine, lane, heaps) =>
        .ok { code, engine, lane, ip := entry, stack, height := 0, fp := 0, depth := 0, heaps,
              meter := .ofLimit o.maxSteps, phase := .ready, printed := #[], tracing := o.tracing,
              trace := #[] }

/-! ### Changes before a run -/

/-- Replaces the stack and, for a machine that runs alone, its heap. The stack is replaced even
when the heap size is refused. -/
def configure (m : Machine) (stackSize heapSize : Int) : Machine × Except Error Unit :=
  if m.phase ≠ .ready then (m, .error .notRunnable)
  else if stackSize ≤ 0 ∨ (maxStackSize : Int) < stackSize then
    (m, .error (.config (.stackSize stackSize)))
  else
    let m := { m with stack := Array.replicate stackSize.toNat 0 }
    match m.engine with
    | .lane => (m, .ok ())
    | .sequential =>
      if heapSize ≤ 0 ∨ (maxHeapSize : Int) < heapSize then
        (m, .error (.config (.heapSize heapSize)))
      else ({ m with heaps := m.heaps.setIfInBounds 0 (Heap.zeros heapSize.toNat) }, .ok ())

/-- Every cell of the heap of a machine that runs alone holds its own index. -/
def initHeap (m : Machine) : Machine :=
  match m.engine with
  | .lane => m
  | .sequential => { m with heaps := m.heaps.modify 0 fun h => Heap.iota h.size }

/-- Puts values at the front of the first heap. -/
def setHeap (m : Machine) (values : Array Word) : Machine :=
  { m with heaps := m.heaps.modify 0 fun h => h.overlay values }

end Machine

end Lanewise
