import Lanewise.Json.Basic
import Lanewise.Registry.Keyed
import Lanewise.Registry.Memory

/-!
# Program registries

A registry keeps programs under their identifiers. Since the identifier is a digest of the words, a
stored program never changes.

## Main definitions

* `Registry`: a registry in memory or in a key-value store, with its operations.
-/

namespace Lanewise

/-- A program registry. -/
inductive Registry
  | memory (m : Registry.Memory)
  | keyed (r : Registry.Keyed)
deriving Inhabited

namespace Registry

/-- What compresses the images of a registry. -/
def compressor : Registry → Image.Compressor
  | memory m => m.compressor
  | keyed k => k.compressor

/-- Stores an image unless there is one with its identifier. -/
def put (r : Registry) (img : Image) : Except Error (ProgramId × Registry) :=
  match r with
  | memory m => (m.put img).map fun (id, m) => (id, memory m)
  | keyed k => (k.put img).map fun (id, k) => (id, keyed k)

/-- The image of a program. -/
def get (r : Registry) (id : ProgramId) : Except Error Image :=
  match r with
  | memory m => m.get id
  | keyed k => k.get id

/-- Whether a program is stored. -/
def has (r : Registry) (id : ProgramId) : Except Error Bool :=
  match r with
  | memory m => m.has id
  | keyed k => k.has id

/-- Removes a program, if it is stored. -/
def delete (r : Registry) (id : ProgramId) : Except Error Registry :=
  match r with
  | memory m => (m.delete id).map memory
  | keyed k => (k.delete id).map keyed

/-- Every stored program, by identifier. -/
def list (r : Registry) : Except Error (List Entry) :=
  match r with
  | memory m => m.list
  | keyed k => k.list

/-- The number of stored programs. -/
def count (r : Registry) : Except Error UInt64 :=
  match r with
  | memory m => m.count
  | keyed k => k.count

/-- Closes the registry. -/
def close (r : Registry) : Except Error Registry :=
  match r with
  | memory m => .ok (memory m.close)
  | keyed k => k.close.map keyed

/-- Opens the registry again. -/
def reopen (r : Registry) : Registry :=
  match r with
  | memory m => memory { compressor := m.compressor }
  | keyed k => keyed k.reopen

/-- Gives free space back, where there is any. -/
def collect (r : Registry) : Except Error Unit :=
  match r with
  | memory _ => .ok ()
  | keyed k => k.collect

/-- The JSON form of an entry. -/
def Entry.json (e : Entry) : Json :=
  .object [("id", .string e.id.text), ("words", .ofNat e.words), ("entry", .ofInt e.entry),
    ("size", .ofNat e.size), ("compressed", .bool e.compressed)]

end Registry

end Lanewise
