import Lanewise.Device.Launch

/-!
# Devices

A device prepares kernels and executes launches of prepared kernels. Calls may change the state of
the device. A caller whose context is cancelled is refused.

## Main definitions

* `Context`: whether the caller still waits.
* `Handle`: the name of a prepared kernel.
* `Sharing`: which heaps of a completion are parts of heaps of the launch.
* `Backend`: the operations of a device.
* `Platforms`: the devices that a process can use.
-/

namespace Lanewise

/-- Whether the caller still waits for an answer. -/
structure Context where
  cancelled : Bool := false
deriving DecidableEq, Repr, Inhabited

/-- What a cancelled caller is told. -/
def Context.cancelledText : String := "context canceled"

/-- The name of a prepared kernel on a device. -/
structure Handle where
  id : String
  backend : String := ""
deriving DecidableEq, Repr, Inhabited

/-- The text of the handle with a given number. Different numbers have different texts. -/
def Handle.idOf (n : Nat) : String :=
  "00000000-0000-4000-8000-" ++ Numeral.padded 12 n

/-- How heaps that a device returns lie in memory. A launch lends the device the heaps themselves,
so a heap that comes back can be a part of one of them. -/
structure Sharing (lent returned : Array Heap) where
  /-- The number of the heap that a returned heap is a part of, and the cell where the part begins;
  none for a heap of its own. -/
  part : Nat → Option (Nat × Nat)
  /-- A part shows the cells that it consists of. -/
  shows (i j first : Nat) (h : Heap) (hreturned : returned[i]? = some h)
    (hpart : part i = some (j, first)) :
    ∃ cells, lent[j]? = some cells ∧ cells.extract first (first + h.size) = h

/-- All heaps that are returned are heaps of their own. -/
def Sharing.apart (lent returned : Array Heap) : Sharing lent returned where
  part _ := none
  shows _ _ _ _ _ hpart := by cases hpart

/-- The operations of a device with states in `σ`. -/
class Backend (σ : Type) where
  /-- The name of the platform. -/
  name : σ → String
  /-- Compiles a kernel for launches. -/
  prepare : σ → Context → Kernel → Except Device.Error Handle × σ
  /-- Runs one launch of a prepared kernel. -/
  execute : σ → Context → Handle → Launch → Except Device.Error Completion × σ
  /-- Forgets a prepared kernel. -/
  release : σ → Handle → Except Device.Error Unit × σ
  /-- Where the heaps of a completion lie. Devices return heaps of their own, unless they say so. -/
  sharing : σ → Context → Handle → (l : Launch) → (c : Completion) → Sharing l.heaps c.heaps :=
    fun _ _ _ l c => .apart l.heaps c.heaps

/-! ### Platforms -/

/-- Devices with their names, in the order in which they were registered. -/
structure Platforms (α : Type) where
  members : Array (String × α) := #[]
deriving Inhabited

namespace Platforms

variable {α : Type}

/-- Appends a device and returns its number. -/
def register (p : Platforms α) (name : String) (device : α) : Platforms α × Nat :=
  (⟨p.members.push (name, device)⟩, p.members.size)

/-- The device with a given number. -/
def select (p : Platforms α) (index : Int) : Except Device.Error (String × α) :=
  if p.members.isEmpty then .error (.unavailable "no platforms registered")
  else if index < 0 then .error (.unavailable (outOfRange index))
  else match p.members[index.toNat]? with
    | some m => .ok m
    | none => .error (.unavailable (outOfRange index))
where
  /-- What is said about a number that no device has. -/
  outOfRange (index : Int) : String :=
    s!"platform index {index} (have " ++ toString p.members.size ++ ")"

/-- The first device with a given name, and its number. -/
def lookup (p : Platforms α) (name : String) : Except Device.Error (Nat × α) :=
  match p.members.findIdx? (·.1 == name) with
  | some i =>
    match p.members[i]? with
    | some m => .ok (i, m.2)
    | none => .error (missing name)
  | none => .error (missing name)
where
  /-- What is said about a name that no device has. -/
  missing (name : String) : Device.Error :=
    .unavailable ("no platform named " ++ Text.quote name)

/-- The names of the devices in order. -/
def names (p : Platforms α) : List String :=
  p.members.toList.map (·.1)

end Platforms

end Lanewise
