import Lanewise.Digest.Blake3
import Lanewise.Text.Base58
import Lanewise.Text.Hex

/-!
# Program identifiers

A program is named by the digest of its encoded words, written in base 58.

## Main definitions

* `ProgramId`, `ProgramId.text`, `ProgramId.parse`: identifiers and their text form.
-/

namespace Lanewise

/-- The 32 bytes that name a program. -/
structure ProgramId where
  bytes : List UInt8
  length_bytes : bytes.length = 32 := by decide
deriving DecidableEq, Repr

namespace ProgramId

/-- The identifier of which all bytes are zero; it stands for "no program". -/
def zero : ProgramId := ⟨List.replicate 32 0, by decide⟩

instance : Inhabited ProgramId := ⟨zero⟩

/-- The identifier with the given bytes, if there are exactly 32. -/
def ofBytes? (bs : List UInt8) : Option ProgramId :=
  if h : bs.length = 32 then some ⟨bs, h⟩ else none

/-- The identifier made of the first 32 of the given bytes, with zeros where they end early. -/
def ofFront (bs : List UInt8) : ProgramId :=
  ⟨(bs ++ List.replicate 32 0).take 32, by simp⟩

/-- The identifier of encoded words. -/
def ofData (data : ByteArray) : ProgramId :=
  ofFront (Blake3.digest data).toList

/-- Whether every byte is zero. -/
def isZero (id : ProgramId) : Bool :=
  id == zero

/-- The base 58 text. -/
def text (id : ProgramId) : String :=
  Base58.encode id.bytes

/-- The hexadecimal text. -/
def hex (id : ProgramId) : String :=
  Hex.encode ⟨id.bytes.toArray⟩

/-- Why a text names no program. -/
inductive Error
  | base58 (e : Base58.Error)
  | length
deriving DecidableEq, Repr

/-- The wording of a refusal. -/
def Error.message : Error → String
  | base58 e => "base58 decode: " ++ e.message
  | length => "invalid program id: must be 32 bytes"

/-- The identifier with the given bytes. -/
def ofBytes (bs : List UInt8) : Except Error ProgramId :=
  match ofBytes? bs with
  | some id => .ok id
  | none => .error .length

/-- The identifier with a given text. -/
def parse (s : String) : Except Error ProgramId :=
  match Base58.decode s with
  | .error e => .error (.base58 e)
  | .ok bs => ofBytes bs

end ProgramId

end Lanewise
