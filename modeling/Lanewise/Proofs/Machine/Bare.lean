import Lanewise.Machine.Run
import Mathlib.Tactic.Simps.Basic

/-!
# Machines with bare registers

A bare machine does what a machine does, with nothing to keep its registers in range. They are
signed integers, and the stack and the heaps are reached by plain indexing: where an integer is no
index, there is no answer at all. An instruction is looked up by the word that stands in the
program, and a word without an instruction has no answer either. The tests in front of an access are
those that the instructions make, in the order in which they make them.

## Main definitions

* `Bare`, `Bare.ofMachine`: bare machines, and the one that stands for a machine.
* `Bare.index?`, `Bare.update?`, `Bare.front?`: plain indexing.
* `Bare.exec`, `Bare.step`, `Bare.run`: execution, without an answer if some index is out of range.
-/

namespace Lanewise

/-- The state of a machine whose registers are plain integers. -/
structure Bare where
  code : Program
  engine : Engine
  lane : Word
  ip : Int
  stack : Array Word
  /-- The index of the top of the stack, minus one when the stack is empty. -/
  sp : Int
  fp : Int
  depth : Int
  heaps : Array Heap
  meter : Meter
  phase : Phase
  printed : Array Word
  tracing : Bool
  trace : Array TraceRecord

namespace Bare

open Machine (Outcome Fetched)

/-- The bare machine that stands for a machine. -/
@[simps]
def ofMachine (m : Machine) : Bare :=
  { code := m.code, engine := m.engine, lane := m.lane, ip := m.ip, stack := m.stack, sp := m.sp,
    fp := m.fp, depth := m.depth, heaps := m.heaps, meter := m.meter, phase := m.phase,
    printed := m.printed, tracing := m.tracing, trace := m.trace }

/-- What executing an instruction leads to. -/
inductive Effect
  | next (m : Bare)
  | halt (m : Bare)
  | fail (m : Bare) (kind : Fault.Kind) (note : String)

/-- What a step leads to. -/
inductive Step
  | next (m : Bare)
  | halt (m : Bare)
  | fault (m : Bare) (f : Fault)

/-! ### Plain indexing -/

/-- The element at an index. -/
def index? {α : Type} (a : Array α) (i : Int) : Option α :=
  if 0 ≤ i ∧ i < a.size then a[i.toNat]? else none

/-- The array with the element at an index replaced. -/
def update? {α : Type} (a : Array α) (i : Int) (v : α) : Option (Array α) :=
  if 0 ≤ i ∧ i < a.size then some (a.setIfInBounds i.toNat v) else none

/-- The first `n` elements. -/
def front? {α : Type} (a : Array α) (n : Int) : Option (Array α) :=
  if 0 ≤ n ∧ n ≤ a.size then some (a.extract 0 n.toNat) else none

/-! ### The value stack -/

/-- Pushes a value. -/
def push (m : Bare) (v : Word) : Option Effect :=
  if m.stack.size ≤ m.sp + 1 then some (.fail m .stackOverflow "")
  else do
    let stack ← update? m.stack (m.sp + 1) v
    return .next { m with stack, sp := m.sp + 1 }

/-- Takes the top off and goes on with it. -/
def popThen (m : Bare) (k : Bare → Word → Option Effect) : Option Effect :=
  if m.sp < 0 then some (.fail m .stackUnderflow "")
  else do
    let v ← index? m.stack m.sp
    k { m with sp := m.sp - 1 } v

/-- Takes the two topmost values off, top first, and goes on with them. -/
def pop2Then (m : Bare) (k : Bare → Word → Word → Option Effect) : Option Effect :=
  if m.sp < 1 then some (.fail m .stackUnderflow "")
  else do
    let a ← index? m.stack m.sp
    let b ← index? m.stack (m.sp - 1)
    k { m with sp := m.sp - 2 } a b

/-- Replaces the top by a function of it. -/
def mapTop (m : Bare) (f : Word → Word) : Option Effect :=
  if m.sp < 0 then some (.fail m .stackUnderflow "")
  else do
    let v ← index? m.stack m.sp
    let stack ← update? m.stack m.sp (f v)
    return .next { m with stack }

/-- A binary operation on the two topmost values. -/
def binary (m : Bare) (f : Word → Word → Word) : Option Effect :=
  m.pop2Then fun m a b => m.push (f a b)

/-- Goes on with the index of the live cell at an offset from the frame. -/
def localThen (m : Bare) (offset : Word) (k : Int → Option Effect) : Option Effect :=
  if m.fp + offset.toInt < 0 ∨ m.sp < m.fp + offset.toInt then
    some (.fail m .stackIndexOutOfRange
      ("fp " ++ toString m.fp ++ " + offset " ++ offset.text ++ ", sp " ++ toString m.sp))
  else k (m.fp + offset.toInt)

/-! ### Heaps -/

/-- Pushes a cell of a heap. -/
def loadCell (m : Bare) (heap i : Int) : Option Effect := do
  let h ← index? m.heaps heap
  if i < 0 ∨ h.size ≤ i then return .fail m .heapIndexOutOfRange (Heap.indexNote h i)
  else
    let v ← index? h i
    m.push v

/-- Replaces a cell of a heap. -/
def storeCell (m : Bare) (heap i : Int) (v : Word) : Option Effect := do
  let h ← index? m.heaps heap
  if i < 0 ∨ h.size ≤ i then return .fail m .heapIndexOutOfRange (Heap.indexNote h i)
  else
    let h ← update? h i v
    let heaps ← update? m.heaps heap h
    return .next { m with heaps }

/-- Goes on with the heap that an operand selects. -/
def selectThen (m : Bare) (selector : Word) (k : Int → Option Effect) : Option Effect :=
  if selector.toInt < 0 ∨ m.heaps.size ≤ selector.toInt then
    some (.fail m .heapSelectorOutOfRange
      ("selector " ++ selector.text ++ ", " ++ toString m.heaps.size ++ " heaps"))
  else k selector.toInt

/-! ### Subroutines -/

/-- Enters a subroutine. -/
def call (m : Bare) (target numArgs : Word) : Option Effect :=
  if numArgs.toInt < 0 ∨ m.sp + 1 < numArgs.toInt then
    some (.fail m .malformedCallFrame
      ("CALL with " ++ numArgs.text ++ " args, " ++ toString (m.sp + 1) ++ " cells on stack"))
  else if m.stack.size ≤ m.sp + 3 then some (.fail m .stackOverflow "")
  else do
    let stack ← update? m.stack (m.sp + 1) numArgs
    let stack ← update? stack (m.sp + 2) (Int32.ofInt m.fp)
    let stack ← update? stack (m.sp + 3) (Int32.ofInt m.ip)
    return .next { m with
      stack, sp := m.sp + 3, fp := m.sp + 3, ip := target.toInt, depth := m.depth + 1 }

/-- Leaves a subroutine with the value `v`, which is off the stack already. -/
def leave (m : Bare) (v : Word) : Option Effect :=
  if m.fp < 2 ∨ m.sp < m.fp then
    some (.fail m .malformedCallFrame ("fp " ++ toString m.fp ++ ", sp " ++ toString m.sp))
  else do
    let returnIp ← index? m.stack m.fp
    let callerFp ← index? m.stack (m.fp - 1)
    let numArgs ← index? m.stack (m.fp - 2)
    let m := { m with sp := m.fp - 3 }
    if numArgs.toInt < 0 ∨ m.sp - numArgs.toInt < -1 then
      return .fail m .malformedCallFrame (numArgs.text ++ " args with sp " ++ toString m.sp)
    else if callerFp.toInt < 0 ∨ m.fp < callerFp.toInt then
      return .fail m .malformedCallFrame ("saved fp " ++ callerFp.text)
    else if returnIp.toInt < 0 ∨ m.code.size < returnIp.toInt then
      return .fail m .malformedCallFrame ("return address " ++ returnIp.text)
    else
      let sp := m.sp - numArgs.toInt + 1
      let stack ← update? m.stack sp v
      return .next { m with
        stack, sp, fp := callerFp.toInt, ip := returnIp.toInt, depth := m.depth - 1 }

/-- Leaves a subroutine with the top as its value. -/
def ret (m : Bare) : Option Effect :=
  if m.depth = 0 then some (.fail m .malformedCallFrame "RET without active CALL")
  else m.popThen leave

/-! ### Instructions -/

/-- The effect of an instruction with its first two operands. -/
def execOp (m : Bare) (op : Opcode) (arg arg₂ : Word) : Option Effect :=
  match op with
  | .iadd => m.binary (· + ·)
  | .isub => m.binary (· - ·)
  | .imul => m.binary (· * ·)
  | .ilt => m.binary fun a b => Machine.truth (a < b)
  | .ieq => m.binary fun a b => Machine.truth (a == b)
  | .idiv => m.pop2Then fun m a b =>
    if b = 0 then some (.fail m .divisionByZero "") else m.push (a / b)
  | .br => some (.next { m with ip := arg.toInt })
  | .brt => m.popThen fun m v => some (.next (if v = 1 then { m with ip := arg.toInt } else m))
  | .brf => m.popThen fun m v => some (.next (if v = 0 then { m with ip := arg.toInt } else m))
  | .iconst => m.push arg
  | .iconst1 => m.push 1
  | .dup =>
    if m.sp < 0 then some (.fail m .stackUnderflow "")
    else do
      let v ← index? m.stack m.sp
      m.push v
  | .pop => m.popThen fun m _ => some (.next m)
  | .lshift => m.mapTop (· <<< 1)
  | .rshift => m.mapTop (· >>> 1)
  | .load => m.localThen arg fun i => do
    let v ← index? m.stack i
    m.push v
  | .store => m.popThen fun m v => m.localThen arg fun i => do
    let stack ← update? m.stack i v
    return .next { m with stack }
  | .gload => m.loadCell 0 arg.toInt
  | .gstore => m.popThen fun m v => m.storeCell 0 arg.toInt v
  | .gloadIndexed => m.popThen fun m offset => m.loadCell 0 (arg.toInt + offset.toInt)
  | .gstoreIndexed => m.pop2Then fun m v offset => m.storeCell 0 (arg.toInt + offset.toInt) v
  | .threadId => m.push m.lane
  | .parallelGloadIndexed => m.selectThen arg fun heap =>
    m.popThen fun m i => m.loadCell heap i.toInt
  | .parallelGstoreIndexed => m.selectThen arg fun heap =>
    m.pop2Then fun m v i => m.storeCell heap i.toInt v
  | .print => m.popThen fun m v => some (.next { m with printed := m.printed.push v })
  | .halt => some (.halt m)
  | .call => m.call arg arg₂
  | .ret => m.ret

/-- The effect of the instruction that a word of the program stands for. -/
def exec (m : Bare) (word arg arg₂ : Word) : Option Effect := do
  let op ← Opcode.ofWord? word
  m.execOp op arg arg₂

/-! ### Steps and runs -/

/-- Reads the instruction at the current position, which involves neither the stack nor a heap. -/
def fetch (m : Bare) : Fetched :=
  Machine.fetch { (default : Machine) with
    code := m.code, engine := m.engine, lane := m.lane, ip := m.ip }

/-- Appends to the trace, if there is one. -/
def record (m : Bare) (mnemonic : String) (args : List Word) : Option Bare :=
  if m.tracing then do
    let live ← front? m.stack (m.sp + 1)
    return { m with
      trace := m.trace.push { lane := m.lane, ip := m.ip, mnemonic, args, stack := live } }
  else some m

/-- The fault of an instruction that was read but could not be executed. -/
def faultAt (m : Bare) (i : Instruction) (kind : Fault.Kind) (note : String) : Fault :=
  { reason := .kind kind, note, opcode := i.op.code, mnemonic := i.op.mnemonic, ip := i.ip,
    lane := m.lane }

/-- Executes an instruction that is paid for. -/
def perform (m : Bare) (i : Instruction) : Option Step := do
  let word ← m.code.at? m.ip
  let m ← m.record i.op.mnemonic i.args
  match ← exec { m with ip := i.next } word (i.args.getD 0 0) (i.args.getD 1 0) with
  | .next m => return .next m
  | .halt m => return .halt m
  | .fail m kind note => return .fault m (m.faultAt i kind note)

/-- One step. -/
def step (m : Bare) : Option Step :=
  match m.fetch with
  | .refused f none => some (.fault m f)
  | .refused f (some (mnemonic, args)) => do return .fault (← m.record mnemonic args) f
  | .ready i =>
    match m.meter.consume 1 with
    | (meter, false) => some (.fault { m with meter } (m.faultAt i .stepLimitExceeded ""))
    | (meter, true) => perform { m with meter } i

/-- Steps until the machine halts, faults or has no fuel left. -/
def advance : (fuel : Nat) → Bare → Option (Bare × Outcome)
  | 0, m => some (m, .unfinished)
  | fuel + 1, m => do
    match ← m.step with
    | .next m => advance fuel m
    | .halt m => return ({ m with phase := .halted }, .halted ⟨m.printed, m.meter.consumed⟩)
    | .fault m f => return ({ m with phase := .faulted }, .faulted f)

/-- Runs a machine that has not run yet. -/
def run (fuel : Nat) (m : Bare) : Option (Bare × Outcome) :=
  if m.phase = .ready then advance fuel { m with phase := .running } else some (m, .notRunnable)

end Bare

end Lanewise
