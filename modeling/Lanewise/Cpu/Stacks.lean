import Lanewise.Device.Placement
import Lanewise.Heap

/-!
# Storage for lane stacks

Each lane works on a stretch of cells of its own. Under the shared placement the stretches of all
lanes lie side by side in one slab, under the grouped placement those of a group do; under the
separate placement each lane has a fresh stretch.

## Main definitions

* `Stacks`, `Stacks.enterGroup`, `Stacks.take`, `Stacks.put`.
-/

namespace Lanewise

/-- The storage of a launch. -/
structure Stacks where
  placement : Placement
  /-- Cells of a lane. -/
  size : Nat
  /-- Lanes of a group. -/
  group : Nat
  /-- The cells of all lanes, or of the current group; unused under the separate placement. -/
  slab : Array Word
deriving Repr, Inhabited

namespace Stacks

/-- The storage at the start of a launch. -/
def create (placement : Placement) (size lanes group : Nat) : Stacks :=
  { placement, size, group
    slab := if placement = .shared then Array.replicate (size * lanes) 0 else #[] }

/-- The storage at the start of a group. -/
def enterGroup (s : Stacks) : Stacks :=
  if s.placement = .grouped then { s with slab := Array.replicate (s.size * s.group) 0 } else s

/-- Where the stretch of a lane begins: `lane` counts from the start of the launch, `inGroup` from
the start of the group. -/
def offset (s : Stacks) (lane inGroup : Nat) : Nat :=
  match s.placement with
  | .shared => lane * s.size
  | .grouped => inGroup * s.size
  | .separate => 0

/-- The cells of a lane. -/
def take (s : Stacks) (lane inGroup : Nat) : Array Word :=
  match s.placement with
  | .separate => Array.replicate s.size 0
  | _ => s.slab.extract (s.offset lane inGroup) (s.offset lane inGroup + s.size)

/-- The storage after a lane has worked on its cells. -/
def put (s : Stacks) (lane inGroup : Nat) (cells : Array Word) : Stacks :=
  match s.placement with
  | .separate => s
  | _ =>
    let start := s.offset lane inGroup
    { s with slab := cells.size.fold (fun i _ slab =>
        slab.setIfInBounds (start + i) (cells.getD i 0)) s.slab }

end Stacks

end Lanewise
