import Lanewise.Device.Kernel
import Lanewise.Fault

/-!
# Launches

A launch runs a kernel over a number of lanes, with given contents of the heaps. The lanes are
divided into groups of equal size. A launch that leaves the group size open gets the default of the
device if that divides the number of lanes, and otherwise the largest group that the device can
take.

## Main definitions

* `Launch`, `Completion`: what a launch takes and gives.
* `Launch.validate`: whether a launch fits a kernel, and its group size.
* `Device.Error`: why a device refuses or fails.
-/

namespace Lanewise

/-- The largest number of lanes of a launch. -/
def maxLanes : Nat := 0x100000

/-- The largest number of stack cells of all lanes of a launch together. -/
def maxStackCells : Nat := 0x4000000

/-- One execution request. -/
structure Launch where
  heaps : Array Heap
  lanes : Int
  /-- The group size; zero leaves it open. -/
  groupSize : Int := 0
deriving Repr, Inhabited

/-- What a launch that succeeded has to show. -/
structure Completion where
  heaps : Array Heap
  /-- What each lane emitted. -/
  printed : Array (Array Word) := #[]
  /-- The number of instructions of all lanes together. -/
  steps : UInt64 := 0
  groups : Int := 0
  trace : Array String := #[]
deriving DecidableEq, Repr, Inhabited

namespace Launch

/-- Why a launch does not fit a kernel. -/
inductive Error
  | lanes (n : Int)
  | sequentialLanes (n : Int)
  | stackCells (lanes stack : Int)
  | heapCount (supplied expected : Nat)
  | heapSize (index supplied : Nat) (expected : Int)
  | groupSize (n : Int)
  | groupTooLarge (n limit : Int)
  | notDivisible (lanes group : Int)
deriving DecidableEq, Repr

/-- The wording of an error. -/
def Error.message : Error → String
  | lanes n => s!"lane count {n}"
  | sequentialLanes n => s!"sequential kernel launched over {n} lanes"
  | stackCells n s => s!"{n} lanes of {s} stack cells exceed " ++ toString maxStackCells
  | heapCount a b => s!"{a} heaps supplied, kernel has {b}"
  | heapSize i a b => s!"heap {i} has {a} cells, kernel expects {b}"
  | groupSize n => s!"group size {n}"
  | groupTooLarge n m => s!"group size {n} exceeds device maximum {m}"
  | notDivisible n g => s!"{n} lanes not divisible by group size {g}"

/-- The largest divisor of `n` that is at most the given limit, at least one. -/
def largestDivisor (n : Int) : (limit : Nat) → Int
  | 0 => 1
  | d + 1 =>
    if d = 0 then 1 else if n % (d + 1 : Nat) = 0 then (d + 1 : Nat) else largestDivisor n d

/-- Checks that every heap has the number of cells that the kernel expects. -/
def checkHeaps : (index : Nat) → List Nat → List Int → Except Error Unit
  | i, h :: hs, c :: cs =>
    if (h : Int) = c then checkHeaps (i + 1) hs cs else .error (.heapSize i h c)
  | _, _, _ => .ok ()

/-- The group size of a launch that leaves it open. -/
def openGroup (lanes default limit : Int) : Int :=
  if 0 < default ∧ default ≤ lanes ∧ lanes % default = 0 then default
  else if 0 < limit ∧ limit < lanes then largestDivisor lanes limit.toNat
  else lanes

/-- The group size of a launch with the given heap sizes on a device with a default group size and
a limit, which is none when it is not positive. The number of stack cells is a 64-bit product. -/
def groupFor (sequential : Bool) (stackSize : Int) (capacities : List Int) (heapSizes : List Nat)
    (lanes groupSize default limit : Int) : Except Error Int := do
  if lanes ≤ 0 ∨ (maxLanes : Int) < lanes then throw (.lanes lanes)
  if sequential ∧ lanes ≠ 1 then throw (.sequentialLanes lanes)
  let stack := if stackSize = 0 then (defaultStackSize : Int) else stackSize
  if (maxStackCells : Int) < (Int64.ofInt stack * Int64.ofInt lanes).toInt then
    throw (.stackCells lanes stack)
  if heapSizes.length ≠ capacities.length then
    throw (.heapCount heapSizes.length capacities.length)
  checkHeaps 0 heapSizes capacities
  if groupSize < 0 then throw (.groupSize groupSize)
  if groupSize = 0 then return openGroup lanes default limit
  if 0 < limit ∧ limit < groupSize then throw (.groupTooLarge groupSize limit)
  if lanes % groupSize ≠ 0 then throw (.notDivisible lanes groupSize)
  return groupSize

/-- The group size of a launch of a kernel. -/
def validate (l : Launch) (k : Kernel) (default limit : Int) : Except Error Int :=
  groupFor k.sequential k.stackSize k.heaps (l.heaps.toList.map Array.size) l.lanes l.groupSize
    default limit

end Launch

namespace Device

/-- Why a device refuses or fails. Apart from lane faults there is only a text, since a remote
device tells no more. -/
inductive Error
  | unavailable (why : String)
  | compileFailure (why : String)
  | launchFailure (why : String)
  /-- The lanes that faulted. -/
  | laneFault (faults : List Fault)
  /-- The pool of devices has been closed. -/
  | poolClosed
  /-- No device can be chosen, since the number of the turn is negative. -/
  | badTurn (turn : Int)
  /-- A lane needs more steps than the fuel allows. -/
  | unfinished
deriving DecidableEq, Repr, Inhabited

/-- The text of faulted lanes. -/
def laneFaultText : List Fault → String
  | [f] => "lane fault: " ++ f.message
  | fs =>
    "lane fault: " ++ toString fs.length ++ " lanes: " ++ "; ".intercalate (fs.map Fault.message)

/-- The wording of an error. -/
def Error.message : Error → String
  | unavailable why => "backend unavailable: " ++ why
  | compileFailure why => "kernel compile failure: " ++ why
  | launchFailure why => "launch failure: " ++ why
  | laneFault fs => laneFaultText fs
  | poolClosed => "pool is closed"
  | badTurn turn => s!"no endpoint has the number {turn}"
  | unfinished => "launch unfinished"

end Device

end Lanewise
