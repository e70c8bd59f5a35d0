import Lanewise.Proofs.Machine.Bounds
import Lanewise.Proofs.Machine.Fetching

/-!
# The cells that an instruction touches

An instruction takes cells off the stack, overwrites at most one of those below in place, and pushes
its results. All other live cells stay as they are. Only `CALL` and `RET` change the frame and the
number of active subroutines.

## Main definitions

* `Machine.Executes`: the instruction that a machine reads and pays for.
* `Machine.StepCase`: the ways in which a step can go.
* `Machine.Touches`: the live cells that an instruction takes off or overwrites.
* `Machine.Returnable`, `Machine.returned`: where `RET` succeeds, and what it leaves there.

## Main results

* `Machine.exec_beside`: what an instruction other than `CALL` and `RET` leaves.
* `Machine.call_eq_next`, `Machine.ret_eq_next_iff`: what `CALL` and `RET` leave.
* `Machine.Executes.spares`: a step leaves the cells alone that it does not touch.
-/

namespace Lanewise.Machine

variable {m m' : Machine} {i : Instruction}

/-! ### Steps that execute an instruction -/

/-- A machine reads an instruction and can pay for it. -/
structure Executes (m : Machine) (i : Instruction) : Prop where
  fetch_eq : m.fetch = .ready i
  paid : (m.meter.consume 1).2 = true

/-- The machine that has read and paid for an instruction, and is about to execute it. -/
def charged (m : Machine) (i : Instruction) : Machine :=
  { Machine.record { m with meter := (m.meter.consume 1).1 } i.op.mnemonic i.args with
    ip := i.next }

@[simp] theorem charged_code : (m.charged i).code = m.code := by
  unfold charged record
  split <;> rfl

@[simp] theorem charged_ip : (m.charged i).ip = i.next := rfl

@[simp] theorem charged_stack : (m.charged i).stack = m.stack := by
  unfold charged record
  split <;> rfl

@[simp] theorem charged_height : (m.charged i).height = m.height := by
  unfold charged record
  split <;> rfl

@[simp] theorem charged_fp : (m.charged i).fp = m.fp := by
  unfold charged record
  split <;> rfl

@[simp] theorem charged_depth : (m.charged i).depth = m.depth := by
  unfold charged record
  split <;> rfl

theorem Executes.inj {i' : Instruction} (h : m.Executes i) (h' : m.Executes i') : i = i' :=
  Fetched.ready.inj (h.fetch_eq.symm.trans h'.fetch_eq)

theorem Executes.step_eq (h : m.Executes i) :
    m.step = match (m.charged i).exec i.op (i.args.getD 0 0) (i.args.getD 1 0) with
      | .next m' => .next m'
      | .halt m' => .halt m'
      | .fail m' kind note => .fault m' (m'.faultAt i kind note) := by
  have hpaid : m.meter.consume 1 = ((m.meter.consume 1).1, true) := by rw [← h.paid]
  rw [step, h.fetch_eq]
  dsimp only
  rw [hpaid]
  rfl

/-- The ways in which a step can go. -/
inductive StepCase (m : Machine) : Prop
  /-- There is no word at the position of the machine. -/
  | ended (f : Fault) (hfetch : m.fetch = .refused f none) (hstep : m.step = .fault m f)
  /-- The word begins no instruction of the engine. -/
  | refused (f : Fault) (line : String × List Word) (hfetch : m.fetch = .refused f (some line))
      (hstep : m.step = .fault (m.record line.1 line.2) f)
  /-- Nothing is left of the budget. -/
  | unpaid (i : Instruction) (hfetch : m.fetch = .ready i) (hpaid : (m.meter.consume 1).2 = false)
      (hstep : m.step =
        .fault { m with meter := (m.meter.consume 1).1 } (m.faultAt i .stepLimitExceeded ""))
  | executed (i : Instruction) (hexec : m.Executes i)

theorem stepCase (m : Machine) : StepCase m := by
  cases hfetch : m.fetch with
  | refused f shown =>
    cases shown with
    | none => exact .ended f hfetch (by rw [step, hfetch])
    | some line => exact .refused f line hfetch (by rw [step, hfetch])
  | ready i =>
    cases hpaid : (m.meter.consume 1).2 with
    | true => exact .executed i ⟨hfetch, hpaid⟩
    | false =>
      have hmeter : m.meter.consume 1 = ((m.meter.consume 1).1, false) := by rw [← hpaid]
      refine .unpaid i hfetch hpaid ?_
      rw [step, hfetch]
      dsimp only
      rw [hmeter]

/-- An instruction is read if it stands at the position of a machine and belongs to its engine. -/
theorem fetch_of_decode (h : (Instruction.decode m.code m.ip).toOption = some i)
    (hmode : i.op.modes.meets m.engine.modes = true) : m.fetch = .ready i := by
  cases hdecode : Instruction.decode m.code m.ip with
  | error e =>
    rw [hdecode] at h
    cases h
  | ok j =>
    rw [hdecode] at h
    obtain rfl := Option.some.inj h
    exact fetch_eq_ready_iff.2 ⟨hdecode, hmode⟩

/-- An instruction is executed if it stands at the position of a machine, belongs to its engine and
is within its budget. -/
theorem executes_of_decode (h : (Instruction.decode m.code m.ip).toOption = some i)
    (hmode : i.op.modes.meets m.engine.modes = true) (hpaid : (m.meter.consume 1).2 = true) :
    m.Executes i :=
  ⟨fetch_of_decode h hmode, hpaid⟩

/-- A step that goes on has executed an instruction. -/
theorem executes_of_step (h : m.step = .next m') : ∃ i, m.Executes i := by
  unfold step at h
  split at h
  · cases h
  · cases h
  · next i hfetch =>
    split at h
    · cases h
    · next hpaid => exact ⟨i, hfetch, by rw [hpaid]⟩

theorem Executes.exec_eq (h : m.Executes i) (hstep : m.step = .next m') :
    (m.charged i).exec i.op (i.args.getD 0 0) (i.args.getD 1 0) = .next m' := by
  rw [h.step_eq] at hstep
  split at hstep
  · next heq => rw [heq, Step.next.inj hstep]
  · cases hstep
  · cases hstep

/-- The position after an instruction lies in the program, or right behind it. -/
theorem Executes.next_le (h : m.Executes i) : i.next ≤ m.code.size := by
  have hfetch := h.fetch_eq
  unfold fetch at hfetch
  split at hfetch
  · cases hfetch
  · next w hat =>
    split at hfetch
    · cases hfetch
    · next op hop =>
      dsimp only at hfetch
      split at hfetch
      · cases hfetch
      · next hlength =>
        split at hfetch
        · cases hfetch
        · cases hfetch
          have hip : m.ip.toNat < m.code.words.size := by
            unfold Program.at? at hat
            split at hat
            · exact (Array.getElem?_eq_some_iff.1 hat).1
            · cases hat
          simp only [Instruction.operandsAt, Array.length_toList, Array.size_extract] at hlength
          simp only [Instruction.next, Instruction.size, Instruction.operandsAt,
            Array.length_toList, Array.size_extract, Program.size]
          omega

/-! ### Cells -/

/-- The number of cells that an instruction takes off the stack. -/
def pops (m : Machine) : Opcode → Nat
  | .iadd | .isub | .imul | .ilt | .ieq | .idiv | .gstoreIndexed | .parallelGstoreIndexed => 2
  | .brt | .brf | .pop | .store | .gstore | .gloadIndexed | .parallelGloadIndexed | .print => 1
  | .ret => m.height - (m.fp - 2 - (m.stack.getD (m.fp - 2) 0).toInt.toNat)
  | _ => 0

/-- The cell that an instruction overwrites in place, if there is one. -/
def overwritten? (m : Machine) (op : Opcode) (arg : Word) : Option Nat :=
  match op with
  | .lshift | .rshift => some (m.height - 1)
  | .store => localIndex? { m with height := m.height - 1 } arg
  | _ => none

/-- An instruction takes a live cell off the stack or overwrites it. -/
def Touches (m : Machine) (i : Instruction) (cell : Nat) : Prop :=
  (m.height ≤ cell + m.pops i.op ∧ cell < m.height) ∨
    m.overwritten? i.op (i.args.getD 0 0) = some cell

/-- A machine in the same frame as `m₀` that has at least the cells of `m₀` below a bound, one of
which may have been overwritten. -/
structure Beside (m₀ : Machine) (bound : Nat) (spoilt : Option Nat) (m : Machine) : Prop where
  fp_eq : m.fp = m₀.fp
  depth_eq : m.depth = m₀.depth
  bound_le : bound ≤ m.height
  cell_eq : ∀ cell < bound, spoilt ≠ some cell → m.stack[cell]? = m₀.stack[cell]?

section

variable {m₀ : Machine} {bound : Nat} {spoilt : Option Nat}

theorem Beside.refl (h : bound ≤ m.height) : Beside m bound spoilt m :=
  ⟨rfl, rfl, h, fun _ _ _ => rfl⟩

theorem Beside.shrink (h : Beside m₀ bound spoilt m) {height : Nat} (hbound : bound ≤ height) :
    Beside m₀ bound spoilt { m with height } :=
  { h with bound_le := hbound }

theorem push_beside (h : Beside m₀ bound spoilt m) (v : Word) :
    Beside m₀ bound spoilt (m.push v).machine := by
  have hbound := h.bound_le
  unfold push
  split
  · refine { h with bound_le := Nat.le_succ_of_le hbound, cell_eq := fun cell hcell hne => ?_ }
    rw [← h.cell_eq cell hcell hne]
    exact Array.getElem?_setIfInBounds_ne (by omega)
  · exact h

theorem popThen_beside (h : Beside m₀ bound spoilt m) (hbound : bound ≤ m.height - 1)
    {k : Machine → Word → Effect}
    (hk : ∀ v, Beside m₀ bound spoilt { m with height := m.height - 1 } →
      Beside m₀ bound spoilt (k { m with height := m.height - 1 } v).machine) :
    Beside m₀ bound spoilt (m.popThen k).machine := by
  unfold popThen
  split
  · exact h
  · exact hk _ (h.shrink hbound)

theorem pop2Then_beside (h : Beside m₀ bound spoilt m) (hbound : bound ≤ m.height - 2)
    {k : Machine → Word → Word → Effect}
    (hk : ∀ m' a b, Beside m₀ bound spoilt m' → Beside m₀ bound spoilt (k m' a b).machine) :
    Beside m₀ bound spoilt (m.pop2Then k).machine := by
  unfold pop2Then
  split
  · exact h
  · exact hk _ _ _ (h.shrink hbound)

theorem mapTop_beside (h : Beside m₀ bound (some (m.height - 1)) m) (f : Word → Word) :
    Beside m₀ bound (some (m.height - 1)) (m.mapTop f).machine := by
  unfold mapTop
  split
  · exact h
  · refine { h with cell_eq := fun cell hcell hne => ?_ }
    rw [← h.cell_eq cell hcell hne]
    exact (Array.getElem?_modify ..).trans (if_neg fun heq => hne (congrArg some heq))

theorem loadCell_beside (h : Beside m₀ bound spoilt m) (heap : Nat) (index : Int) :
    Beside m₀ bound spoilt (m.loadCell heap index).machine := by
  unfold loadCell
  dsimp only
  split
  · exact push_beside h _
  · exact h

theorem storeCell_beside (h : Beside m₀ bound spoilt m) (heap : Nat) (index : Int) (v : Word) :
    Beside m₀ bound spoilt (m.storeCell heap index v).machine := by
  unfold storeCell
  split
  · exact { h with }
  · exact h

theorem selectThen_beside (h : Beside m₀ bound spoilt m) (selector : Word) {k : Nat → Effect}
    (hk : ∀ heap, Beside m₀ bound spoilt (k heap).machine) :
    Beside m₀ bound spoilt (m.selectThen selector k).machine := by
  unfold selectThen
  split
  · exact hk _
  · exact h

end

/-- What an instruction other than `CALL` and `RET` leaves. -/
theorem exec_beside {op : Opcode} (hcall : op ≠ .call) (hret : op ≠ .ret) (arg arg₂ : Word) :
    Beside m (m.height - m.pops op) (m.overwritten? op arg) (m.exec op arg arg₂).machine := by
  have hrfl : Beside m (m.height - m.pops op) (m.overwritten? op arg) m := .refl (Nat.sub_le ..)
  unfold exec
  cases op with
  | iadd | isub | imul | ilt | ieq =>
    exact pop2Then_beside hrfl (Nat.le_refl _) fun _ _ _ h => push_beside h _
  | idiv =>
    refine pop2Then_beside hrfl (Nat.le_refl _) fun m' a b h => ?_
    split
    · exact h
    · exact push_beside h _
  | br => exact { hrfl with }
  | brt | brf =>
    refine popThen_beside hrfl (Nat.le_refl _) fun v h => ?_
    dsimp only [Effect.machine]
    split
    · exact { h with }
    · exact h
  | iconst | iconst1 | threadId => exact push_beside hrfl _
  | dup =>
    dsimp only
    split
    · exact hrfl
    · exact push_beside hrfl _
  | pop => exact popThen_beside hrfl (Nat.le_refl _) fun _ h => h
  | lshift | rshift => exact mapTop_beside hrfl _
  | load =>
    dsimp only
    split
    · exact push_beside hrfl _
    · exact hrfl
  | store =>
    refine popThen_beside hrfl (Nat.le_refl _) fun v h => ?_
    split
    · next cell hcell =>
      refine { h with cell_eq := fun cell' hcell' hne => ?_ }
      rw [← h.cell_eq cell' hcell' hne]
      refine Array.getElem?_setIfInBounds_ne fun heq => hne ?_
      rw [overwritten?, hcell, heq]
    · exact h
  | gload => exact loadCell_beside hrfl _ _
  | gstore => exact popThen_beside hrfl (Nat.le_refl _) fun _ h => storeCell_beside h _ _ _
  | gloadIndexed => exact popThen_beside hrfl (Nat.le_refl _) fun _ h => loadCell_beside h _ _
  | gstoreIndexed =>
    exact pop2Then_beside hrfl (Nat.le_refl _) fun _ _ _ h => storeCell_beside h _ _ _
  | parallelGloadIndexed =>
    exact selectThen_beside hrfl _ fun _ => popThen_beside hrfl (Nat.le_refl _) fun _ h =>
      loadCell_beside h _ _
  | parallelGstoreIndexed =>
    exact selectThen_beside hrfl _ fun _ => pop2Then_beside hrfl (Nat.le_refl _) fun _ _ _ h =>
      storeCell_beside h _ _ _
  | print => exact popThen_beside hrfl (Nat.le_refl _) fun _ h => { h with }
  | halt => exact hrfl
  | call => exact absurd rfl hcall
  | ret => exact absurd rfl hret

/-! ### Subroutines -/

/-- What `CALL` leaves. -/
theorem call_eq_next {target numArgs : Word} (h : m.call target numArgs = .next m') :
    0 ≤ numArgs.toInt ∧ numArgs.toInt ≤ m.height ∧ m.height + 3 ≤ m.stack.size ∧
      m' = { m with
        stack := ((m.stack.setIfInBounds m.height numArgs).setIfInBounds (m.height + 1)
          (Int32.ofNat m.fp)).setIfInBounds (m.height + 2) (Int32.ofInt m.ip)
        height := m.height + 3, fp := m.height + 2, ip := target.toInt, depth := m.depth + 1 } := by
  unfold call at h
  split at h
  · cases h
  · split at h
    · cases h
    · cases h
      exact ⟨by omega, by omega, by omega, rfl⟩

/-- The frame points at a record that a call can have left, and there is a value above it. -/
structure Returnable (m : Machine) : Prop where
  depth_ne : m.depth ≠ 0
  fp_ge : 2 ≤ m.fp
  above : m.fp + 1 < m.height
  args_ge : 0 ≤ (m.stack.getD (m.fp - 2) 0).toInt
  args_le : (m.stack.getD (m.fp - 2) 0).toInt ≤ (m.fp - 2 : Nat)
  caller_ge : 0 ≤ (m.stack.getD (m.fp - 1) 0).toInt
  caller_le : (m.stack.getD (m.fp - 1) 0).toInt ≤ m.fp
  return_ge : 0 ≤ (m.stack.getD m.fp 0).toInt
  return_le : (m.stack.getD m.fp 0).toInt ≤ m.code.size

/-- The machine in the frame of the caller, with the top in place of the arguments and the
record. -/
def returned (m : Machine) : Machine :=
  let base := m.fp - 2 - (m.stack.getD (m.fp - 2) 0).toInt.toNat
  { m with
    stack := m.stack.setIfInBounds base (m.stack.getD (m.height - 1) 0)
    height := base + 1
    fp := (m.stack.getD (m.fp - 1) 0).toInt.toNat
    ip := (m.stack.getD m.fp 0).toInt
    depth := m.depth - 1 }

/-- Where `RET` succeeds, and what it leaves. -/
theorem ret_eq_next_iff : m.ret = .next m' ↔ m.Returnable ∧ m' = m.returned := by
  constructor
  · intro h
    unfold ret popThen leave at h
    split at h
    · cases h
    · next hdepth =>
      split at h
      · cases h
      · dsimp only at h
        split at h
        · cases h
        · split at h
          · cases h
          · split at h
            · cases h
            · split at h
              · cases h
              · cases h
                exact ⟨⟨hdepth, by omega, by omega, by omega, by omega, by omega, by omega,
                  by omega, by omega⟩, rfl⟩
  · rintro ⟨⟨hdepth, hfp, habove, hargs₀, hargs₁, hcaller₀, hcaller₁, hreturn₀, hreturn₁⟩, rfl⟩
    unfold ret popThen leave
    rw [if_neg hdepth, if_neg (by omega)]
    dsimp only
    rw [if_neg (by omega), if_neg (by omega), if_neg (by omega), if_neg (by omega)]
    rfl

/-- `RET` with nothing above the record. -/
theorem ret_of_bare (hheight : m.height = m.fp + 1) :
    ∃ m' note, m.ret = .fail m' .malformedCallFrame note := by
  unfold ret popThen leave
  split
  · exact ⟨_, _, rfl⟩
  · rw [if_neg (by omega)]
    dsimp only
    rw [if_pos (by omega)]
    exact ⟨_, _, rfl⟩

/-! ### Steps -/

theorem pops_charged (op : Opcode) : (m.charged i).pops op = m.pops op := by
  cases op <;> simp only [pops, charged_height, charged_fp, charged_stack]

theorem overwritten?_charged (op : Opcode) (arg : Word) :
    (m.charged i).overwritten? op arg = m.overwritten? op arg := by
  cases op <;> simp only [overwritten?, localIndex?, charged_height, charged_fp]

/-- What a step leaves that executes an instruction other than `CALL` and `RET`. -/
theorem Executes.beside (h : m.Executes i) (hstep : m.step = .next m') (hcall : i.op ≠ .call)
    (hret : i.op ≠ .ret) :
    Beside m (m.height - m.pops i.op) (m.overwritten? i.op (i.args.getD 0 0)) m' := by
  have hbeside := exec_beside (m := m.charged i) hcall hret (i.args.getD 0 0) (i.args.getD 1 0)
  rw [h.exec_eq hstep, pops_charged, overwritten?_charged, charged_height] at hbeside
  exact ⟨hbeside.fp_eq.trans charged_fp, hbeside.depth_eq.trans charged_depth, hbeside.bound_le,
    fun cell hcell hne => (hbeside.cell_eq cell hcell hne).trans (by rw [charged_stack])⟩

/-- What a step leaves that executes `CALL`. -/
theorem Executes.call_next (h : m.Executes i) (hop : i.op = .call) (hstep : m.step = .next m') :
    0 ≤ (i.args.getD 1 0).toInt ∧ (i.args.getD 1 0).toInt ≤ m.height ∧
      m'.height = m.height + 3 ∧ m'.fp = m.height + 2 ∧ m'.depth = m.depth + 1 ∧
      (∀ cell < m.height, m'.stack[cell]? = m.stack[cell]?) ∧
      m'.stack[m.height]? = some (i.args.getD 1 0) ∧
      m'.stack[m.height + 1]? = some (Int32.ofNat m.fp) ∧
      m'.stack[m.height + 2]? = some (Int32.ofInt i.next) := by
  have hexec := h.exec_eq hstep
  rw [hop] at hexec
  obtain ⟨hargs₀, hargs₁, hroom, rfl⟩ := call_eq_next hexec
  rw [charged_height] at hargs₁ hroom
  rw [charged_stack] at hroom
  simp only [charged_height, charged_depth, charged_stack, charged_fp, charged_ip]
  refine ⟨hargs₀, hargs₁, trivial, trivial, trivial, fun cell hcell => ?_, ?_, ?_, ?_⟩
  · rw [Array.getElem?_setIfInBounds_ne (by omega), Array.getElem?_setIfInBounds_ne (by omega),
      Array.getElem?_setIfInBounds_ne (by omega)]
  · rw [Array.getElem?_setIfInBounds_ne (by omega), Array.getElem?_setIfInBounds_ne (by omega),
      Array.getElem?_setIfInBounds_self_of_lt (by omega)]
  · rw [Array.getElem?_setIfInBounds_ne (by omega),
      Array.getElem?_setIfInBounds_self_of_lt (by rw [Array.size_setIfInBounds]; omega)]
  · rw [Array.getElem?_setIfInBounds_self_of_lt
      (by rw [Array.size_setIfInBounds, Array.size_setIfInBounds]; omega)]

/-- What a step leaves that executes `RET`. -/
theorem Executes.ret_next (h : m.Executes i) (hop : i.op = .ret) (hstep : m.step = .next m') :
    m.depth ≠ 0 ∧ m'.depth = m.depth - 1 ∧
      m'.fp = (m.stack.getD (m.fp - 1) 0).toInt.toNat ∧
      m'.height = m.height - m.pops .ret + 1 ∧
      ∀ cell < m.height - m.pops .ret, m'.stack[cell]? = m.stack[cell]? := by
  have hexec := h.exec_eq hstep
  rw [hop] at hexec
  obtain ⟨hreturnable, rfl⟩ := ret_eq_next_iff.1 hexec
  have hdepth := hreturnable.depth_ne
  have hfp := hreturnable.fp_ge
  have habove := hreturnable.above
  simp only [returned, charged_height, charged_depth, charged_stack, charged_fp]
    at hdepth hfp habove ⊢
  have hpops : m.height - m.pops .ret =
      m.fp - 2 - (m.stack.getD (m.fp - 2) 0).toInt.toNat := by
    rw [pops]
    omega
  refine ⟨hdepth, trivial, trivial, by rw [hpops], fun cell hcell => ?_⟩
  rw [hpops] at hcell
  exact Array.getElem?_setIfInBounds_ne (by omega)

/-- A step leaves the live cells alone that it does not touch. -/
theorem Executes.spares (h : m.Executes i) (hstep : m.step = .next m') {cell : Nat}
    (hlive : cell < m.height) (hcell : ¬m.Touches i cell) :
    cell < m'.height ∧ m'.stack[cell]? = m.stack[cell]? := by
  simp only [Touches, not_or, not_and, Nat.not_lt] at hcell
  obtain ⟨hkept, hne⟩ := hcell
  have hbelow : cell < m.height - m.pops i.op := by
    have : ¬m.height ≤ cell + m.pops i.op := fun hle => by
      have := hkept hle
      omega
    omega
  by_cases hcall : i.op = .call
  · obtain ⟨-, -, hheight, -, -, hcells, -⟩ := h.call_next hcall hstep
    exact ⟨by omega, hcells cell hlive⟩
  · by_cases hret : i.op = .ret
    · obtain ⟨-, -, -, hheight, hcells⟩ := h.ret_next hret hstep
      rw [hret] at hbelow
      exact ⟨by omega, hcells cell hbelow⟩
    · have hbeside := h.beside hstep hcall hret
      have hbound := hbeside.bound_le
      exact ⟨by omega, hbeside.cell_eq cell hbelow hne⟩

end Lanewise.Machine
