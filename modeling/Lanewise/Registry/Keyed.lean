import Lanewise.Registry.Error
import Lanewise.Store.Bucket

/-!
# Program registries in a key-value store

Images are kept under a mark and the identifier of the program, and the number of programs under a
key of its own. The number is also kept in memory.

## Main definitions

* `Registry.Keyed`: the store and the number of programs.
-/

namespace Lanewise.Registry

/-- Encoded images in a key-value store. -/
structure Keyed where
  data : Bucket ByteArray := {}
  /-- The number of programs, as it is kept in memory. -/
  counted : UInt64 := 0
  /-- Whether the contents live in a file. -/
  onDisk : Bool := true
  closed : Bool := false
  compressor : Image.Compressor := .stored
deriving Inhabited

namespace Keyed

/-- The mark in front of the keys of programs. -/
def programMark : Key := [1]

/-- The key of a program. -/
def programKey (id : ProgramId) : Key :=
  programMark ++ id.bytes

/-- The key of the number of programs. -/
def countKey : Key :=
  2 :: "count".toUTF8.toList

/-- The eight bytes of a number, the least significant first. -/
def countBytes (n : UInt64) : ByteArray :=
  ⟨#[n.toUInt8, (n >>> 8).toUInt8, (n >>> 16).toUInt8, (n >>> 24).toUInt8, (n >>> 32).toUInt8,
    (n >>> 40).toUInt8, (n >>> 48).toUInt8, (n >>> 56).toUInt8]⟩

/-- The number with given bytes. -/
def countOf (b : ByteArray) : UInt64 :=
  (b.toList.take 8).reverse.foldl (fun n b => n * 256 + b.toUInt64) 0

/-- Stores an image unless there is one. -/
def put (r : Keyed) (img : Image) : Except Error (ProgramId × Keyed) :=
  if r.closed then .error .closed
  else match img.encode r.compressor img.compressed with
    | .error e => .error (.image e)
    | .ok data =>
      if r.data.contains (programKey img.id) then .ok (img.id, r)
      else
        let counted := r.counted + 1
        .ok (img.id, { r with
          data := (r.data.put (programKey img.id) data).put countKey (countBytes counted)
          counted })

/-- The image of stored bytes. -/
def load (id : ProgramId) (data : ByteArray) : Except Error Image :=
  match Image.load data with
  | .ok img => .ok img
  | .error e => .error (.corrupted id e)

/-- The image of a program. -/
def get (r : Keyed) (id : ProgramId) : Except Error Image :=
  if r.closed then .error .closed
  else match r.data.get? (programKey id) with
    | none => .error .notFound
    | some data => load id data

/-- Whether a program is stored. -/
def has (r : Keyed) (id : ProgramId) : Except Error Bool :=
  if r.closed then .error .closed else .ok (r.data.contains (programKey id))

/-- Removes a program, if it is stored. -/
def delete (r : Keyed) (id : ProgramId) : Except Error Keyed :=
  if r.closed then .error .closed
  else if r.data.contains (programKey id) then
    let counted := r.counted - 1
    .ok { r with
      data := (r.data.erase (programKey id)).put countKey (countBytes counted)
      counted }
  else .ok r

/-- The entry of a stored program. A key of another length is passed over. -/
def describe? (e : Key × ByteArray) : Except Error (Option Entry) :=
  match ProgramId.ofBytes? (e.1.drop 1) with
  | none => .ok none
  | some id => (load id e.2).map fun img => some (.ofImage id img e.2.size)

/-- Every stored program, by identifier. -/
def list (r : Keyed) : Except Error (List Entry) :=
  if r.closed then .error .closed
  else ((r.data.startingWith programMark).mapM describe?).map fun es => es.filterMap (·)

/-- The number of stored programs. -/
def count (r : Keyed) : Except Error UInt64 :=
  if r.closed then .error .closed else .ok r.counted

/-- Gives free space back to the file system. -/
def collect (r : Keyed) : Except Error Unit :=
  if r.closed then .error .closed else if r.onDisk then .ok () else .error .noFile

/-- Closes the registry. -/
def close (r : Keyed) : Except Error Keyed :=
  if r.closed then .error .closed else .ok { r with closed := true }

/-- Opens the registry again. What lives in a file is still there, and the number of programs is
read from it. -/
def reopen (r : Keyed) : Keyed :=
  if r.onDisk then
    { r with counted := (r.data.get? countKey).elim 0 countOf, closed := false }
  else { onDisk := false, compressor := r.compressor }

end Keyed

end Lanewise.Registry
