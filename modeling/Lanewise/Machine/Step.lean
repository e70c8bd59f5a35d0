import Lanewise.Machine.Basic

/-!
# One step of a machine

A step reads the instruction at the current position, pays for it, and executes it. An instruction
that is unknown, incomplete or not accepted by the engine is not paid for. A step that fails may
have taken operands off the stack already, but leaves the heaps, the output and the frame as they
were.

A subroutine call pushes three cells on top of the arguments: their number, the caller's frame and
the return address. The frame of the subroutine is the cell of the return address.

## Main definitions

* `Machine.fetch`: the next instruction, or why there is none.
* `Machine.exec`: the effect of an instruction.
* `Machine.step`: one step.
-/

namespace Lanewise.Machine

/-- What executing an instruction leads to. -/
inductive Effect
  | next (m : Machine)
  | halt (m : Machine)
  | fail (m : Machine) (kind : Fault.Kind) (note : String)
deriving Repr, Inhabited

/-- What a step leads to. -/
inductive Step
  | next (m : Machine)
  | halt (m : Machine)
  | fault (m : Machine) (f : Fault)
deriving Repr, Inhabited

/-! ### The value stack -/

/-- Pushes a value. -/
def push (m : Machine) (v : Word) : Effect :=
  if m.height < m.stack.size then
    .next { m with stack := m.stack.setIfInBounds m.height v, height := m.height + 1 }
  else .fail m .stackOverflow ""

/-- Takes the top off and goes on with it. -/
@[inline] def popThen (m : Machine) (k : Machine → Word → Effect) : Effect :=
  if m.height = 0 then .fail m .stackUnderflow ""
  else
    let v := m.stack.getD (m.height - 1) 0
    k { m with height := m.height - 1 } v

/-- Takes the two topmost values off, top first, and goes on with them. -/
@[inline] def pop2Then (m : Machine) (k : Machine → Word → Word → Effect) : Effect :=
  if m.height < 2 then .fail m .stackUnderflow ""
  else
    let a := m.stack.getD (m.height - 1) 0
    let b := m.stack.getD (m.height - 2) 0
    k { m with height := m.height - 2 } a b

/-- Replaces the top by a function of it. -/
@[inline] def mapTop (m : Machine) (f : Word → Word) : Effect :=
  if m.height = 0 then .fail m .stackUnderflow ""
  else .next { m with stack := m.stack.modify (m.height - 1) f }

/-- The live cell at an offset from the frame. -/
def localIndex? (m : Machine) (offset : Word) : Option Nat :=
  let i := (m.fp : Int) + offset.toInt
  if 0 ≤ i ∧ i < m.height then some i.toNat else none

/-- What is said about an offset that leads to no live cell. -/
def localNote (m : Machine) (offset : Word) : String :=
  "fp " ++ toString m.fp ++ " + offset " ++ offset.text ++ ", sp " ++ toString m.sp

/-! ### Heaps -/

/-- Pushes a cell of a heap. -/
def loadCell (m : Machine) (heap : Nat) (i : Int) : Effect :=
  let h := m.heaps.getD heap #[]
  match h.load? i with
  | some v => m.push v
  | none => .fail m .heapIndexOutOfRange (h.indexNote i)

/-- Replaces a cell of a heap. -/
def storeCell (m : Machine) (heap : Nat) (i : Int) (v : Word) : Effect :=
  if (m.heaps.getD heap #[]).holds i then
    .next { m with heaps := m.heaps.modify heap fun h => h.setIfInBounds i.toNat v }
  else .fail m .heapIndexOutOfRange ((m.heaps.getD heap #[]).indexNote i)

/-- Goes on with the heap that an operand selects. -/
@[inline] def selectThen (m : Machine) (selector : Word) (k : Nat → Effect) : Effect :=
  if 0 ≤ selector.toInt ∧ selector.toInt < m.heaps.size then k selector.toInt.toNat
  else
    .fail m .heapSelectorOutOfRange
      ("selector " ++ selector.text ++ ", " ++ toString m.heaps.size ++ " heaps")

/-! ### Subroutines -/

/-- Enters a subroutine. -/
def call (m : Machine) (target numArgs : Word) : Effect :=
  if numArgs.toInt < 0 ∨ (m.height : Int) < numArgs.toInt then
    .fail m .malformedCallFrame
      ("CALL with " ++ numArgs.text ++ " args, " ++ toString m.height ++ " cells on stack")
  else if m.stack.size < m.height + 3 then
    .fail m .stackOverflow ""
  else
    let h := m.height
    let stack := ((m.stack.setIfInBounds h numArgs).setIfInBounds (h + 1)
      (Int32.ofNat m.fp)).setIfInBounds (h + 2) (Int32.ofInt m.ip)
    .next { m with stack, height := h + 3, fp := h + 2, ip := target.toInt, depth := m.depth + 1 }

/-- Leaves a subroutine with the value `v`, which is off the stack already. -/
def leave (m : Machine) (v : Word) : Effect :=
  if m.fp < 2 ∨ m.height ≤ m.fp then
    .fail m .malformedCallFrame ("fp " ++ toString m.fp ++ ", sp " ++ toString m.sp)
  else
    let returnIp := m.stack.getD m.fp 0
    let callerFp := m.stack.getD (m.fp - 1) 0
    let numArgs := m.stack.getD (m.fp - 2) 0
    let m := { m with height := m.fp - 2 }
    if numArgs.toInt < 0 ∨ (m.height : Int) < numArgs.toInt then
      .fail m .malformedCallFrame (numArgs.text ++ " args with sp " ++ toString m.sp)
    else if callerFp.toInt < 0 ∨ (m.fp : Int) < callerFp.toInt then
      .fail m .malformedCallFrame ("saved fp " ++ callerFp.text)
    else if returnIp.toInt < 0 ∨ (m.code.size : Int) < returnIp.toInt then
      .fail m .malformedCallFrame ("return address " ++ returnIp.text)
    else
      let h := m.height - numArgs.toInt.toNat
      .next { m with
        stack := m.stack.setIfInBounds h v
        height := h + 1
        fp := callerFp.toInt.toNat
        ip := returnIp.toInt
        depth := m.depth - 1 }

/-- Leaves a subroutine with the top as its value. -/
def ret (m : Machine) : Effect :=
  if m.depth = 0 then .fail m .malformedCallFrame "RET without active CALL"
  else m.popThen leave

/-! ### Instructions -/

/-- The word that stands for a truth value. -/
def truth (b : Bool) : Word :=
  if b then 1 else 0

/-- A binary operation on the two topmost values. -/
@[inline] def binary (m : Machine) (f : Word → Word → Word) : Effect :=
  m.pop2Then fun m a b => m.push (f a b)

/-- The effect of an instruction with its first two operands, zero where there are none. The
position is already that of the next instruction. -/
def exec (m : Machine) (op : Opcode) (arg arg₂ : Word) : Effect :=
  match op with
  | .iadd => m.binary (· + ·)
  | .isub => m.binary (· - ·)
  | .imul => m.binary (· * ·)
  | .ilt => m.binary fun a b => truth (a < b)
  | .ieq => m.binary fun a b => truth (a == b)
  | .idiv => m.pop2Then fun m a b => if b = 0 then .fail m .divisionByZero "" else m.push (a / b)
  | .br => .next { m with ip := arg.toInt }
  | .brt => m.popThen fun m v => .next (if v = 1 then { m with ip := arg.toInt } else m)
  | .brf => m.popThen fun m v => .next (if v = 0 then { m with ip := arg.toInt } else m)
  | .iconst => m.push arg
  | .iconst1 => m.push 1
  | .dup =>
    if m.height = 0 then .fail m .stackUnderflow "" else m.push (m.stack.getD (m.height - 1) 0)
  | .pop => m.popThen fun m _ => .next m
  | .lshift => m.mapTop (· <<< 1)
  | .rshift => m.mapTop (· >>> 1)
  | .load =>
    match m.localIndex? arg with
    | some i => m.push (m.stack.getD i 0)
    | none => .fail m .stackIndexOutOfRange (m.localNote arg)
  | .store => m.popThen fun m v =>
    match m.localIndex? arg with
    | some i => .next { m with stack := m.stack.setIfInBounds i v }
    | none => .fail m .stackIndexOutOfRange (m.localNote arg)
  | .gload => m.loadCell 0 arg.toInt
  | .gstore => m.popThen fun m v => m.storeCell 0 arg.toInt v
  | .gloadIndexed => m.popThen fun m offset => m.loadCell 0 (arg.toInt + offset.toInt)
  | .gstoreIndexed => m.pop2Then fun m v offset => m.storeCell 0 (arg.toInt + offset.toInt) v
  | .threadId => m.push m.lane
  | .parallelGloadIndexed => m.selectThen arg fun heap =>
    m.popThen fun m i => m.loadCell heap i.toInt
  | .parallelGstoreIndexed => m.selectThen arg fun heap =>
    m.pop2Then fun m v i => m.storeCell heap i.toInt v
  | .print => m.popThen fun m v => .next { m with printed := m.printed.push v }
  | .halt => .halt m
  | .call => m.call arg arg₂
  | .ret => m.ret

/-! ### Steps -/

/-- The next instruction, or why there is none and what a trace shows in its place. -/
inductive Fetched
  | ready (i : Instruction)
  | refused (f : Fault) (shown : Option (String × List Word))
deriving Repr, Inhabited

/-- Reads the instruction at the current position. -/
def fetch (m : Machine) : Fetched :=
  match m.code.at? m.ip with
  | none =>
    .refused { reason := .kind .ipOutOfRange, ip := m.ip, lane := m.lane,
               detail := "ran past end of program" } none
  | some w =>
    match Opcode.ofWord? w with
    | none =>
      .refused { reason := .kind .unknownOpcode, opcode := w, ip := m.ip, lane := m.lane,
                 detail := "word " ++ w.text } (some (Opcode.nameOf w, []))
    | some op =>
      let args := Instruction.operandsAt m.code m.ip.toNat op.operands
      if args.length ≠ op.operands then
        .refused
          { reason := .kind .truncatedInstruction, opcode := op.code, mnemonic := op.mnemonic,
            ip := m.ip, lane := m.lane } (some (op.mnemonic, args))
      else if !op.modes.meets m.engine.modes then
        .refused { reason := .kind .opcodeNotAllowed, opcode := op.code, mnemonic := op.mnemonic,
                   ip := m.ip, lane := m.lane, detail := m.engine.modes.name ++ " mode" }
          (some (op.mnemonic, args))
      else .ready ⟨m.ip.toNat, op, args⟩

/-- Appends to the trace, if there is one. -/
def record (m : Machine) (mnemonic : String) (args : List Word) : Machine :=
  if m.tracing then
    { m with trace := m.trace.push { lane := m.lane, ip := m.ip, mnemonic, args, stack := m.live } }
  else m

/-- The fault of an instruction that was read but could not be executed. -/
def faultAt (m : Machine) (i : Instruction) (kind : Fault.Kind) (note : String) : Fault :=
  { reason := .kind kind, note, opcode := i.op.code, mnemonic := i.op.mnemonic, ip := i.ip,
    lane := m.lane }

/-- Executes an instruction that is paid for. -/
def perform (m : Machine) (i : Instruction) : Step :=
  let m := m.record i.op.mnemonic i.args
  match exec { m with ip := i.next } i.op (i.args.getD 0 0) (i.args.getD 1 0) with
  | .next m => .next m
  | .halt m => .halt m
  | .fail m kind note => .fault m (m.faultAt i kind note)

/-- One step. -/
def step (m : Machine) : Step :=
  match m.fetch with
  | .refused f none => .fault m f
  | .refused f (some (mnemonic, args)) => .fault (m.record mnemonic args) f
  | .ready i =>
    match m.meter.consume 1 with
    | (meter, false) => .fault { m with meter } (m.faultAt i .stepLimitExceeded "")
    | (meter, true) => perform { m with meter } i

end Lanewise.Machine
