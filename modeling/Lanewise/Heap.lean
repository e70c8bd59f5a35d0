import Lanewise.Word

/-!
# Heaps

A heap is an array of cells of fixed length. Every access names a cell by an integer, which need
not be the index of one.

## Main definitions

* `Heap`, `Heap.load?`, `Heap.store?`: checked access.
* `Heap.zeros`, `Heap.iota`, `Heap.fill`: initial contents.
-/

namespace Lanewise

/-- An array of cells. -/
abbrev Heap := Array Word

namespace Heap

/-- A heap of zeros. -/
def zeros (n : Nat) : Heap :=
  Array.replicate n 0

/-- Whether an integer is the index of a cell. -/
def holds (h : Heap) (i : Int) : Bool :=
  0 ≤ i && i < h.size

/-- The value of a cell. -/
def load? (h : Heap) (i : Int) : Option Word :=
  if h.holds i then h[i.toNat]? else none

/-- The heap with a cell replaced. -/
def store? (h : Heap) (i : Int) (v : Word) : Option Heap :=
  if h.holds i then some (h.setIfInBounds i.toNat v) else none

/-- Every cell holds its own index. -/
def iota (n : Nat) : Heap :=
  Array.ofFn fun i : Fin n => Int32.ofNat i.val

/-- Every cell holds the same value. -/
def fill (n : Nat) (v : Word) : Heap :=
  Array.replicate n v

/-- What a refused access says: the index and the number of cells. -/
def indexNote (h : Heap) (i : Int) : String :=
  "index " ++ toString i ++ ", capacity " ++ toString h.size

/-- The given values from the front of a heap on, as far as both reach. -/
def overlay (h : Heap) (values : Array Word) : Heap :=
  h.mapIdx fun i old => values.getD i old

end Heap

end Lanewise
