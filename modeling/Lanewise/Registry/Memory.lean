import Lanewise.Registry.Error

/-!
# Program registries in memory

## Main definitions

* `Registry.Memory`: encoded images by program. An image that is stored under an identifier stays
  until it is removed; a later image with the same identifier does not replace it.
-/

namespace Lanewise.Registry

/-- Encoded images by program, in the order of storing. -/
structure Memory where
  programs : List (ProgramId × ByteArray) := []
  closed : Bool := false
  compressor : Image.Compressor := .stored
deriving Inhabited

namespace Memory

/-- Whether one identifier comes before another or is the same. -/
def idLe (a b : ProgramId) : Bool :=
  !decide (b.bytes < a.bytes)

/-- Stores an image unless there is one. -/
def put (m : Memory) (img : Image) : Except Error (ProgramId × Memory) :=
  match img.encode m.compressor img.compressed with
  | .error e => .error (.image e)
  | .ok data =>
    if m.closed then .error .closed
    else if (m.programs.lookup img.id).isSome then .ok (img.id, m)
    else .ok (img.id, { m with programs := m.programs ++ [(img.id, data)] })

/-- The image of a program. -/
def get (m : Memory) (id : ProgramId) : Except Error Image :=
  if m.closed then .error .closed
  else match m.programs.lookup id with
    | none => .error .notFound
    | some data =>
      match Image.load data with
      | .ok img => .ok img
      | .error e => .error (.image e)

/-- Whether a program is stored. -/
def has (m : Memory) (id : ProgramId) : Except Error Bool :=
  if m.closed then .error .closed else .ok (m.programs.lookup id).isSome

/-- Removes a program, if it is stored. -/
def delete (m : Memory) (id : ProgramId) : Except Error Memory :=
  if m.closed then .error .closed
  else .ok { m with programs := m.programs.filter (·.1 != id) }

/-- The entry of a stored program. -/
def describe (e : ProgramId × ByteArray) : Except Error Entry :=
  match Image.load e.2 with
  | .ok img => .ok (.ofImage e.1 img e.2.size)
  | .error e => .error (.image e)

/-- Every stored program, by identifier. -/
def list (m : Memory) : Except Error (List Entry) :=
  if m.closed then .error .closed
  else (m.programs.mergeSort fun a b => idLe a.1 b.1).mapM describe

/-- The number of stored programs. -/
def count (m : Memory) : Except Error UInt64 :=
  if m.closed then .error .closed else .ok (UInt64.ofNat m.programs.length)

/-- Closes the registry and forgets its programs. -/
def close (m : Memory) : Memory :=
  { m with programs := [], closed := true }

end Memory

end Lanewise.Registry
