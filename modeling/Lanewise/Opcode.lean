import Lanewise.Word

/-!
# The instruction set

An instruction is an opcode word followed by its operands. There are two engines, the sequential
machine and the lane machine; most opcodes belong to both, the scalar heap opcodes only to the
first, and the lane opcodes only to the second. Binary operations take the top of the stack as
their left operand.

The numbering is fixed: stored images and remote devices depend on it.

## Main definitions

* `Modes`: sets of engines.
* `Opcode`, with `Opcode.code`, `Opcode.mnemonic`, `Opcode.operands` and `Opcode.modes`.
* `Opcode.ofWord?`, `Opcode.ofMnemonic?`: the opcode of a word or of a name.
-/

namespace Lanewise

/-- A set of engines, one bit each. -/
structure Modes where
  bits : UInt8
deriving DecidableEq, Repr, Inhabited

namespace Modes

/-- The sequential machine alone. -/
def sequential : Modes := ⟨1⟩

/-- The lane machine alone. -/
def lane : Modes := ⟨2⟩

/-- Both engines. -/
def any : Modes := ⟨3⟩

/-- Whether two sets have an engine in common. -/
def meets (a b : Modes) : Bool :=
  a.bits &&& b.bits != 0

/-- The name of a set of engines. -/
def name (m : Modes) : String :=
  if m = sequential then "sequential"
  else if m = lane then "lane"
  else if m = any then "any"
  else "mode(" ++ toString m.bits.toNat ++ ")"

end Modes

/-- The operations of the machine. -/
inductive Opcode
  /-- Push the sum of the two topmost values. -/
  | iadd
  /-- Push the top minus the next value. -/
  | isub
  /-- Push the product of the two topmost values. -/
  | imul
  /-- Push one if the top is less than the next value, else zero. -/
  | ilt
  /-- Push one if the two topmost values are equal, else zero. -/
  | ieq
  /-- Continue at the operand. -/
  | br
  /-- Pop, and continue at the operand if the value is one. -/
  | brt
  /-- Pop, and continue at the operand if the value is zero. -/
  | brf
  /-- Push the operand. -/
  | iconst
  /-- Push the local at an offset from the frame. -/
  | load
  /-- Push a cell of the scalar heap. -/
  | gload
  /-- Pop into the local at an offset from the frame. -/
  | store
  /-- Pop into a cell of the scalar heap. -/
  | gstore
  /-- Pop and emit. -/
  | print
  /-- Drop the top. -/
  | pop
  /-- Stop. -/
  | halt
  /-- Enter a subroutine with a number of arguments. -/
  | call
  /-- Leave a subroutine with the top as its value. -/
  | ret
  /-- Push a copy of the top. -/
  | dup
  /-- Push the top divided by the next value, toward zero. -/
  | idiv
  /-- Double the top. -/
  | lshift
  /-- Halve the top toward minus infinity. -/
  | rshift
  /-- Push one. -/
  | iconst1
  /-- Pop an offset and push the scalar heap cell that far from the operand. -/
  | gloadIndexed
  /-- Pop a value and an offset and store into the scalar heap cell that far from the operand. -/
  | gstoreIndexed
  /-- Push the number of the lane. -/
  | threadId
  /-- Pop an index and push that cell of the heap that the operand selects. -/
  | parallelGloadIndexed
  /-- Pop a value and an index and store into that cell of the heap that the operand selects. -/
  | parallelGstoreIndexed
deriving DecidableEq, Repr, Inhabited

namespace Opcode

/-- Every opcode, in the order of the numbering, which starts at one. -/
def all : Array Opcode := #[
  iadd, isub, imul, ilt, ieq, br, brt, brf, iconst, load, gload, store, gstore, print, pop, halt,
  call, ret, dup, idiv, lshift, rshift, iconst1, gloadIndexed, gstoreIndexed, threadId,
  parallelGloadIndexed, parallelGstoreIndexed]

/-- The word that stands for an opcode. -/
def code (op : Opcode) : Word :=
  Int32.ofNat (op.ctorIdx + 1)

/-- The opcode that a word stands for. -/
def ofWord? (w : Word) : Option Opcode :=
  if 1 ≤ w.toInt then all[w.toInt.toNat - 1]? else none

/-- The name of an opcode in program texts. -/
def mnemonic : Opcode → String
  | iadd => "IADD"
  | isub => "ISUB"
  | imul => "IMUL"
  | ilt => "ILT"
  | ieq => "IEQ"
  | br => "BR"
  | brt => "BRT"
  | brf => "BRF"
  | iconst => "ICONST"
  | load => "LOAD"
  | gload => "GLOAD"
  | store => "STORE"
  | gstore => "GSTORE"
  | print => "PRINT"
  | pop => "POP"
  | halt => "HALT"
  | call => "CALL"
  | ret => "RET"
  | dup => "DUP"
  | idiv => "IDIV"
  | lshift => "LSHIFT"
  | rshift => "RSHIFT"
  | iconst1 => "ICONST1"
  | gloadIndexed => "GLOAD_INDEXED"
  | gstoreIndexed => "GSTORE_INDEXED"
  | threadId => "THREAD_ID"
  | parallelGloadIndexed => "PARALLEL_GLOAD_INDEXED"
  | parallelGstoreIndexed => "PARALLEL_GSTORE_INDEXED"

/-- The number of operand words that follow an opcode. -/
def operands : Opcode → Nat
  | br | brt | brf | iconst | load | gload | store | gstore | gloadIndexed | gstoreIndexed
  | parallelGloadIndexed | parallelGstoreIndexed => 1
  | call => 2
  | _ => 0

/-- The engines that accept an opcode. -/
def modes : Opcode → Modes
  | gload | gstore | gloadIndexed | gstoreIndexed => .sequential
  | threadId | parallelGloadIndexed | parallelGstoreIndexed => .lane
  | _ => .any

/-- The length of an instruction in words. -/
def size (op : Opcode) : Nat :=
  1 + op.operands

/-- The upper case form of a letter, as far as it can be a letter of a mnemonic. Besides the ASCII
letters these are the dotless i and the long s. -/
def upperLetter (c : Char) : Char :=
  if 'a' ≤ c ∧ c ≤ 'z' then Char.ofNat (c.toNat - 32)
  else if c.toNat = 0x131 then 'I'
  else if c.toNat = 0x17F then 'S'
  else c

/-- The opcode with a given name; the case of letters does not matter. -/
def ofMnemonic? (name : List Char) : Option Opcode :=
  let upper := String.ofList (name.map upperLetter)
  all.find? (·.mnemonic == upper)

/-- The name under which a word is shown as an opcode. -/
def nameOf (w : Word) : String :=
  match ofWord? w with
  | some op => op.mnemonic
  | none => "OP(" ++ w.text ++ ")"

end Opcode

end Lanewise
