import Lanewise.Device.Launch
import Lanewise.Image
import Lanewise.Json.Members

/-!
# Values as JSON

How the values of the library look to a tool that shows them, and how a tool describes a kernel.

## Main definitions

* `Opcode.json`, `Executable.json`, `Image.json`, `Fault.json`, `ProgramId.json`.
* `Completion.members`: what a launch leaves besides its heaps.
* `Kernel.ofJson`: the kernel with a given description.
-/

namespace Lanewise

/-- An opcode with the engines that know it. -/
def Opcode.json (op : Opcode) : Json :=
  .object
    [("op", .ofWord op.code), ("mnemonic", .string op.mnemonic), ("operands", .ofNat op.operands),
    ("modes", .ofNat op.modes.bits.toNat), ("mode_name", .string op.modes.name),
    ("size", .ofNat op.size)]

/-- An instruction with its place. -/
def Instruction.json (i : Instruction) : Json :=
  .object [("ip", .ofNat i.ip), ("op", .ofWord i.op.code), ("mnemonic", .string i.op.mnemonic),
    ("args", .array (i.args.map .ofWord)), ("next", .ofNat i.next), ("text", .string i.text)]

/-- A program with its entry. -/
def Executable.json (x : Executable) : Json :=
  .object [("words", .ofWords x.program.words), ("entry", .ofNat x.entry),
    ("id", .string x.program.id.text), ("len", .ofNat x.program.size)]

/-- An identifier in its two spellings. -/
def ProgramId.json (id : ProgramId) : Json :=
  .object [("id", .string id.text), ("hex", .string id.hex), ("zero", .bool id.isZero),
    ("bytes", .ofNat 32)]

/-- An image. -/
def Image.json (img : Image) : Json :=
  .object [("words", .ofWords img.program.words), ("entry", .ofInt img.entry),
    ("id", .string img.id.text), ("len", .ofNat img.program.size),
    ("compressed", .bool img.compressed)]

/-- A fault. -/
def Fault.json (f : Fault) : Json :=
  .object [("op", .ofWord f.opcode), ("mnemonic", .string f.mnemonic), ("ip", .ofInt f.ip),
    ("lane", .ofWord f.lane), ("detail", .string f.detail), ("kind", .string f.kindName)]

/-- What a launch leaves besides its heaps. -/
def Completion.members (c : Completion) : List (String × Json) :=
  [("printed", .ofHeaps c.printed), ("steps", .ofNat c.steps.toNat), ("groups", .ofInt c.groups),
    ("trace", .ofStrings c.trace.toList)]

/-- The kernel with a given description. -/
def Kernel.ofJson (j : Json) : Kernel :=
  { source := j.stringAt "source", binary := j.bytesAt "binary"
    program := (j.get? "words").map fun w => ⟨w.toWords⟩
    entry := j.intAt "entry", stackSize := j.intAt "stack_size", heaps := j.intsAt "heaps"
    placement := j.intAt "placement", trace := j.boolAt "trace", maxSteps := j.uint64At "max_steps"
    mode := ⟨UInt8.ofNat (j.natAt "mode")⟩ }

end Lanewise
