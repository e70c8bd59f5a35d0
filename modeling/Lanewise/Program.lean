import Lanewise.Opcode
import Lanewise.ProgramId

/-!
# Programs

A program is a flat sequence of words. It is stored as the little-endian bytes of its words and
named by their digest.

## Main definitions

* `Program`, `Program.encode`, `Program.decode`: programs and their bytes.
* `Program.id`: the content address.
* `Program.checkEntry`: whether execution may start at a position.
-/

namespace Lanewise

/-- A sequence of words. -/
structure Program where
  words : Array Word
deriving DecidableEq, Repr, Inhabited

namespace Program

/-- Why a program cannot be used. -/
inductive Error
  /-- There are no words. -/
  | empty
  /-- The entry lies outside the program. -/
  | entry (entry : Int) (size : Nat)
  /-- The bytes are not whole words. -/
  | encoding (bytes : Nat)
deriving DecidableEq, Repr

/-- The wording of an error. -/
def Error.message : Error → String
  | empty => "empty program"
  | entry e n => s!"entry index out of range: {e} (program has {n} words)"
  | encoding n => s!"invalid program encoding: {n} bytes is not a multiple of 4"

/-- The number of words. -/
def size (p : Program) : Nat :=
  p.words.size

/-- The word at a position, if it lies inside the program. -/
def at? (p : Program) (i : Int) : Option Word :=
  if 0 ≤ i then p.words[i.toNat]? else none

/-- The little-endian bytes of the words. -/
def encode (p : Program) : ByteArray :=
  p.words.foldl Word.pushBytes ByteArray.empty

/-- The words whose bytes are given, after those already read. -/
def wordsFrom : Array Word → List UInt8 → Array Word
  | acc, b₀ :: b₁ :: b₂ :: b₃ :: rest => wordsFrom (acc.push (Word.ofBytes b₀ b₁ b₂ b₃)) rest
  | acc, _ => acc

/-- The program with the given bytes. -/
def decode (data : ByteArray) : Except Error Program :=
  if data.size % 4 = 0 then .ok ⟨wordsFrom #[] data.toList⟩ else .error (.encoding data.size)

/-- The content address of a program. -/
def id (p : Program) : ProgramId :=
  ProgramId.ofData p.encode

/-- Execution may start at any word of the program. -/
def checkEntry (p : Program) (entry : Int) : Except Error Unit :=
  if p.size = 0 then .error .empty
  else if 0 ≤ entry ∧ entry < p.size then .ok ()
  else .error (.entry entry p.size)

end Program

end Lanewise
