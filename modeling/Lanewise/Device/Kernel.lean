import Lanewise.Device.Placement
import Lanewise.Image
import Lanewise.Machine.Basic

/-!
# Kernels

A kernel is a program, given as a text, an image or words, with the layout of the memory it runs
with. Compiling a kernel settles its program and checks it and the layout. A kernel for the
sequential engine has a single heap and runs as a single lane.

## Main definitions

* `Kernel`, `Compiled`: kernels before and after compilation.
* `Kernel.compile`: compilation.
-/

namespace Lanewise

/-- The largest number of heaps. -/
def maxHeapCount : Nat := 64

/-- The largest number of cells of all heaps together. -/
def maxHeapCells : Nat := 0x4000000

/-- A program reference and the layout it runs with. -/
structure Kernel where
  source : String := ""
  binary : ByteArray := .empty
  program : Option Program := none
  entry : Int := 0
  /-- Stack cells of a lane; zero selects the default. -/
  stackSize : Int := 0
  /-- The number of cells of each heap. -/
  heaps : List Int := []
  placement : Int := 0
  trace : Bool := false
  /-- The budget of steps of a lane; zero means none. -/
  maxSteps : UInt64 := 0
  /-- The engine; no engine selects the lane engine. -/
  mode : Modes := ⟨0⟩
deriving Inhabited

/-- The number of cells of all heaps of a kernel together. -/
def Kernel.heapCells (k : Kernel) : Int :=
  k.heaps.foldl (· + ·) 0

/-- Whether a kernel is for the sequential engine. -/
def Kernel.sequential (k : Kernel) : Bool :=
  k.mode = .sequential

/-- A kernel that can be launched. -/
structure Compiled where
  program : Program
  entry : Nat
  engine : Engine
  stackSize : Nat
  heaps : List Nat
  placement : Placement
  trace : Bool
  maxSteps : UInt64
deriving DecidableEq, Repr, Inhabited

/-- A compiled kernel as a kernel whose program is given by its words. -/
def Compiled.kernel (c : Compiled) : Kernel :=
  { program := some c.program, entry := c.entry, stackSize := c.stackSize,
    heaps := c.heaps.map Int.ofNat, placement := c.placement.number, trace := c.trace,
    maxSteps := c.maxSteps, mode := c.engine.modes }

namespace Kernel

/-- Why a kernel does not compile. -/
inductive Error
  | assembly (e : Assembly.Error)
  | image (e : Image.Error)
  | references (got : Nat)
  | program (e : Program.Error)
  | mode (m : Modes)
  | refused (e : Program.Refusal)
  | stackSize (n : Int)
  | noHeaps
  | heapCount (n : Nat)
  | sequentialHeaps (n : Nat)
  | heapCapacity (index : Nat) (n : Int)
  | heapCells (n : Int)
  | placement (n : Int)
deriving DecidableEq, Repr

/-- The wording of an error. -/
def Error.message : Error → String
  | assembly e => e.message
  | image e => e.message
  | references n => s!"kernel needs exactly one of source, binary or program (got {n})"
  | program e => e.message
  | mode m => "kernel mode " ++ m.name
  | refused e => e.message
  | stackSize n => s!"stack size {n}"
  | noHeaps => "kernel declares no heaps"
  | heapCount n => s!"kernel declares {n} heaps"
  | sequentialHeaps n => s!"sequential kernel declares {n} heaps"
  | heapCapacity i n => s!"heap {i} capacity {n}"
  | heapCells n => s!"{n} heap cells exceed " ++ toString maxHeapCells
  | placement n => s!"placement {n}"

/-- The program and entry that a kernel refers to. Exactly one reference has to be given. -/
def resolve (k : Kernel) : Except Error (Program × Int) := do
  let words := k.program.map fun p => (p, k.entry)
  let source ←
    if k.source.isEmpty then pure none
    else match assemble k.source.toUTF8.toList with
      | .ok x => pure (some (x.program, (x.entry : Int)))
      | .error e => throw (.assembly e)
  let binary ←
    if k.binary.isEmpty then pure none
    else match Image.load k.binary with
      | .ok img => pure (some (img.program, img.entry))
      | .error e => throw (.image e)
  match [words, source, binary].filterMap (·) with
  | [r] => return r
  | rs => throw (.references rs.length)

/-- The engine that a kernel asks for. -/
def engine (k : Kernel) : Except Error Engine :=
  if k.mode = ⟨0⟩ ∨ k.mode = .lane then .ok .lane
  else if k.mode = .sequential then .ok .sequential
  else .error (.mode k.mode)

/-- Checks that every heap has an admissible number of cells. -/
def checkHeaps : (index : Nat) → List Int → Except Error Unit
  | _, [] => .ok ()
  | i, c :: rest =>
    if 0 < c ∧ c ≤ maxHeapSize then checkHeaps (i + 1) rest else .error (.heapCapacity i c)

/-- Compiles a kernel. -/
def compile (k : Kernel) : Except Error Compiled := do
  let (program, entry) ← k.resolve
  match program.checkEntry entry with
  | .error e => throw (.program e)
  | .ok () => pure ()
  let engine ← k.engine
  match program.verify engine.modes with
  | .error e => throw (.refused e)
  | .ok () => pure ()
  let stackSize := if k.stackSize = 0 then (defaultStackSize : Int) else k.stackSize
  if stackSize < 0 ∨ (maxStackSize : Int) < stackSize then throw (.stackSize stackSize)
  if k.heaps.isEmpty then throw .noHeaps
  if maxHeapCount < k.heaps.length then throw (.heapCount k.heaps.length)
  if engine = .sequential ∧ k.heaps.length ≠ 1 then throw (.sequentialHeaps k.heaps.length)
  checkHeaps 0 k.heaps
  if (maxHeapCells : Int) < k.heapCells then throw (.heapCells k.heapCells)
  match Placement.ofNumber? k.placement with
  | none => throw (.placement k.placement)
  | some placement =>
    return { program, entry := entry.toNat, engine, stackSize := stackSize.toNat,
             heaps := k.heaps.map Int.toNat, placement, trace := k.trace, maxSteps := k.maxSteps }

end Kernel

end Lanewise
