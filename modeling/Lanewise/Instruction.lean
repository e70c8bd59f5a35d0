import Lanewise.Program
import Lanewise.Text.Numeral

/-!
# Instructions

An instruction is read from a program at a position. A program is *accepted* for a set of engines
when reading from position zero, each instruction right after the previous one, meets only whole
instructions of those engines up to the end of the program.

## Main definitions

* `Instruction`, `Instruction.decode`: the instruction at a position.
* `Program.verify`: whether a program is accepted.
* `Program.listing`: one line for each instruction, and for each word that begins none.
-/

namespace Lanewise

/-- An instruction at its place in a program. -/
structure Instruction where
  ip : Nat
  op : Opcode
  args : List Word
deriving DecidableEq, Repr, Inhabited

namespace Instruction

/-- The number of words. -/
def size (i : Instruction) : Nat :=
  1 + i.args.length

/-- The position right after the instruction. -/
def next (i : Instruction) : Nat :=
  i.ip + i.size

/-- A mnemonic and operands, with a blank in front of each operand. -/
def textOf (mnemonic : String) (args : List Word) : String :=
  args.foldl (fun s a => s ++ " " ++ a.text) mnemonic

/-- The text of an instruction. -/
def text (i : Instruction) : String :=
  textOf i.op.mnemonic i.args

/-- Why no instruction can be read. -/
inductive Error
  | ipOutOfRange (ip : Int)
  | unknownOpcode (word : Word) (ip : Nat)
  | truncated (op : Opcode) (ip : Nat)
deriving DecidableEq, Repr

/-- The wording of an error. -/
def Error.message : Error → String
  | ipOutOfRange ip => s!"instruction pointer out of range: {ip}"
  | unknownOpcode w ip => "unknown opcode: " ++ w.text ++ s!" at ip {ip}"
  | truncated op ip =>
    "truncated instruction: " ++ op.mnemonic ++ s!" at ip {ip} needs " ++ toString op.operands ++
      " operands"

/-- The words that follow a position, as far as they exist, at most `n`. -/
def operandsAt (p : Program) (ip n : Nat) : List Word :=
  (p.words.extract (ip + 1) (ip + 1 + n)).toList

/-- The instruction at a position. -/
def decode (p : Program) (ip : Int) : Except Error Instruction :=
  match p.at? ip with
  | none => .error (.ipOutOfRange ip)
  | some w =>
    match Opcode.ofWord? w with
    | none => .error (.unknownOpcode w ip.toNat)
    | some op =>
      let args := operandsAt p ip.toNat op.operands
      if args.length = op.operands then .ok ⟨ip.toNat, op, args⟩
      else .error (.truncated op ip.toNat)

end Instruction

namespace Program

/-- Why a program is not accepted. -/
inductive Refusal
  | empty
  | instruction (e : Instruction.Error)
  | notAllowed (op : Opcode) (ip : Nat) (modes : Modes)
deriving DecidableEq, Repr

/-- The wording of a refusal. -/
def Refusal.message : Refusal → String
  | empty => Error.message .empty
  | instruction e => e.message
  | notAllowed op ip modes =>
    "opcode not allowed in this mode: " ++ op.mnemonic ++ s!" at ip {ip} (" ++ modes.name ++ ")"

/-- Checks the instructions from a position on. -/
def verifyFrom (p : Program) (modes : Modes) (ip : Nat) : Except Refusal Unit :=
  if ip < p.size then
    match Instruction.decode p ip with
    | .error e => .error (.instruction e)
    | .ok i =>
      if i.op.modes.meets modes then verifyFrom p modes (ip + i.size)
      else .error (.notAllowed i.op ip modes)
  else .ok ()
termination_by p.size - ip
decreasing_by simp only [Instruction.size]; omega

/-- Whether a program is accepted for a set of engines. -/
def verify (p : Program) (modes : Modes) : Except Refusal Unit :=
  if p.size = 0 then .error .empty else verifyFrom p modes 0

/-- A line of a listing: an instruction, or a word that begins none. -/
inductive Line
  | instruction (i : Instruction)
  | word (ip : Nat) (w : Word)
deriving DecidableEq, Repr

/-- The text of a line: its position in at least four digits, then what stands there. -/
def Line.text : Line → String
  | instruction i => Numeral.padded 4 i.ip ++ " " ++ i.text
  | word ip w => Numeral.padded 4 ip ++ " .word " ++ w.text

/-- The lines from a position on, after those already listed. -/
def linesFrom (p : Program) (acc : Array Line) (ip : Nat) : Array Line :=
  if h : ip < p.words.size then
    match Instruction.decode p ip with
    | .error _ => linesFrom p (acc.push (.word ip p.words[ip])) (ip + 1)
    | .ok i => linesFrom p (acc.push (.instruction i)) (ip + i.size)
  else acc
termination_by p.words.size - ip
decreasing_by
  · omega
  · simp only [Instruction.size]; omega

/-- The lines of a program. -/
def lines (p : Program) : Array Line :=
  p.linesFrom #[] 0

/-- The listing of a program, one line each. -/
def listing (p : Program) : String :=
  p.lines.foldl (fun s l => s ++ l.text ++ "\n") ""

end Program

end Lanewise
