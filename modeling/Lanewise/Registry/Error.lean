import Lanewise.Image

/-!
# Refusals of program registries

## Main definitions

* `Registry.Error`: why a registry refuses.
* `Registry.Entry`: a stored program without its words.
-/

namespace Lanewise.Registry

/-- Why a registry refuses. -/
inductive Error
  | notFound
  | closed
  /-- A stored image cannot be read. -/
  | corrupted (id : ProgramId) (e : Image.Error)
  | image (e : Image.Error)
  /-- There is no file whose free space could be given back. -/
  | noFile
deriving DecidableEq, Repr

/-- The wording of an error. -/
def Error.message : Error → String
  | notFound => "program not found"
  | closed => "database closed"
  | corrupted id e => "stored program corrupted: " ++ id.text ++ ": " ++ e.message
  | image e => e.message
  | noFile => "Cannot run value log GC when DB is opened in InMemory mode"

/-- A stored program without its words. -/
structure Entry where
  id : ProgramId
  words : Nat
  entry : Int
  /-- The number of stored bytes. -/
  size : Nat
  compressed : Bool
deriving DecidableEq, Repr, Inhabited

/-- The entry of a stored image. -/
def Entry.ofImage (id : ProgramId) (img : Image) (size : Nat) : Entry :=
  { id, words := img.program.size, entry := img.entry, size, compressed := img.compressed }

end Lanewise.Registry
