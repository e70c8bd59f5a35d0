import Lanewise.Proofs.Machine.Bare
import Lanewise.Proofs.Machine.Bounds

/-!
# Memory safety

A bounded machine and the bare machine that stands for it run in step: the bare machine always has
an answer, so no program can make it index outside an array or execute a word that is no
instruction.

## Main results

* `Bare.execOp_ofMachine`, `Bare.step_ofMachine`, `Bare.run_ofMachine`: bare machines follow
  machines.
* `Machine.Prepared.eq_initial`: what a machine that has not run is made of.
* `Machine.Prepared.run_memory_safe`: whatever the program, every state of every run is in bounds.
-/

namespace Lanewise

/-- The top of the stack is the last of the live cells. -/
theorem Machine.sp_add_one (m : Machine) : m.sp + 1 = m.height :=
  Int.sub_add_cancel _ _

namespace Bare

open Machine (Bounded Keeps)

/-- The effect on the bare machine. -/
def Effect.ofMachine : Machine.Effect → Effect
  | .next m => .next (.ofMachine m)
  | .halt m => .halt (.ofMachine m)
  | .fail m kind note => .fail (.ofMachine m) kind note

/-- The step of the bare machine. -/
def Step.ofMachine : Machine.Step → Step
  | .next m => .next (.ofMachine m)
  | .halt m => .halt (.ofMachine m)
  | .fault m f => .fault (.ofMachine m) f

/-! ### Indices in range -/

theorem index?_of_lt {α : Type} {a : Array α} {i : Int} {n : Nat} (hi : i = n) (hn : n < a.size)
    (d : α) : index? a i = some (a.getD n d) := by
  subst hi
  simp [index?, hn]

theorem update?_of_lt {α : Type} {a : Array α} {i : Int} {n : Nat} (hi : i = n) (hn : n < a.size)
    (v : α) : update? a i v = some (a.setIfInBounds n v) := by
  subst hi
  simp [update?, hn]

theorem front?_of_le {α : Type} {a : Array α} {i : Int} {n : Nat} (hi : i = n) (hn : n ≤ a.size) :
    front? a i = some (a.extract 0 n) := by
  subst hi
  simp [front?, hn]

theorem modify_eq_setIfInBounds {α : Type} {a : Array α} {i : Nat} (hi : i < a.size) (f : α → α)
    (d : α) : a.modify i f = a.setIfInBounds i (f (a.getD i d)) := by
  apply Array.ext (by simp)
  intro j hj _
  rw [Array.getElem_modify, Array.getElem_setIfInBounds (by simpa using hj)]
  split
  · next h => subst h; simp
  · rfl

/-! ### Instructions -/

section Effects

variable {m₀ m : Machine}

theorem push_ofMachine (m : Machine) (v : Word) :
    push (ofMachine m) v = some (.ofMachine (m.push v)) := by
  have hsp := m.sp_add_one
  unfold push Machine.push
  simp only [ofMachine_stack, ofMachine_sp, hsp, Int.ofNat_le]
  by_cases hlt : m.height < m.stack.size
  · rw [if_neg (by omega), if_pos hlt, update?_of_lt rfl hlt]
    simp [Effect.ofMachine, ofMachine, Machine.sp]
  · rw [if_pos (by omega), if_neg hlt]
    rfl

theorem popThen_ofMachine (h : Keeps m₀ m) {k : Machine → Word → Machine.Effect}
    {k' : Bare → Word → Option Effect}
    (hk : ∀ m' v, Keeps m₀ m' → m'.depth = m.depth →
      k' (ofMachine m') v = some (.ofMachine (k m' v))) :
    popThen (ofMachine m) k' = some (.ofMachine (m.popThen k)) := by
  have hle := h.height_le
  unfold popThen Machine.popThen
  simp only [ofMachine_stack, ofMachine_sp, Machine.sp]
  by_cases hz : m.height = 0
  · rw [if_pos (by omega), if_pos hz]
    rfl
  · have hcast : ((m.height - 1 : Nat) : Int) = m.height - 1 := by omega
    have htop : m.height - 1 < m.stack.size := by omega
    rw [if_neg (by omega), if_neg hz, index?_of_lt hcast.symm htop 0]
    have hnext := hk _ (m.stack.getD (m.height - 1) 0)
      (h.shrink m.stack (m.height - 1) rfl (by omega)) rfl
    simpa only [ofMachine, Machine.sp, hcast, Option.bind_eq_bind, Option.bind_some] using hnext

theorem pop2Then_ofMachine (h : Keeps m₀ m) {k : Machine → Word → Word → Machine.Effect}
    {k' : Bare → Word → Word → Option Effect}
    (hk : ∀ m' a b, Keeps m₀ m' → k' (ofMachine m') a b = some (.ofMachine (k m' a b))) :
    pop2Then (ofMachine m) k' = some (.ofMachine (m.pop2Then k)) := by
  have hle := h.height_le
  unfold pop2Then Machine.pop2Then
  simp only [ofMachine_stack, ofMachine_sp, Machine.sp]
  by_cases hlow : m.height < 2
  · rw [if_pos (by omega), if_pos hlow]
    rfl
  · have htop : ((m.height - 1 : Nat) : Int) = m.height - 1 := by omega
    have hnext : ((m.height - 2 : Nat) : Int) = m.height - 1 - 1 := by omega
    have hcast : ((m.height - 2 : Nat) : Int) - 1 = m.height - 1 - 2 := by omega
    rw [if_neg (by omega), if_neg hlow,
      index?_of_lt htop.symm (show m.height - 1 < m.stack.size by omega) 0]
    simp only [Option.bind_eq_bind, Option.bind_some,
      index?_of_lt hnext.symm (show m.height - 2 < m.stack.size by omega) 0]
    have hrest := hk _ (m.stack.getD (m.height - 1) 0) (m.stack.getD (m.height - 2) 0)
      (h.shrink m.stack (m.height - 2) rfl (by omega))
    simpa only [ofMachine, Machine.sp, hcast] using hrest

theorem binary_ofMachine (h : Keeps m₀ m) (f : Word → Word → Word) :
    binary (ofMachine m) f = some (.ofMachine (m.binary f)) :=
  pop2Then_ofMachine h fun m' _ _ _ => push_ofMachine m' _

theorem mapTop_ofMachine (h : Keeps m₀ m) (f : Word → Word) :
    mapTop (ofMachine m) f = some (.ofMachine (m.mapTop f)) := by
  have hle := h.height_le
  unfold mapTop Machine.mapTop
  simp only [ofMachine_stack, ofMachine_sp, Machine.sp]
  by_cases hz : m.height = 0
  · rw [if_pos (by omega), if_pos hz]
    rfl
  · have hcast : (m.height : Int) - 1 = (m.height - 1 : Nat) := by omega
    have hlt : m.height - 1 < m.stack.size := by omega
    rw [if_neg (by omega), if_neg hz, index?_of_lt hcast hlt 0]
    simp only [Option.bind_eq_bind, Option.bind_some, update?_of_lt hcast hlt]
    rw [modify_eq_setIfInBounds hlt f 0]
    rfl

theorem loadCell_ofMachine (m : Machine) {heap : Nat} (hheap : heap < m.heaps.size) (i : Int) :
    loadCell (ofMachine m) heap i = some (.ofMachine (m.loadCell heap i)) := by
  unfold loadCell Machine.loadCell
  rw [ofMachine_heaps, index?_of_lt rfl hheap #[]]
  generalize m.heaps.getD heap #[] = h
  by_cases hi : 0 ≤ i ∧ i < h.size
  · have hcast : i = (i.toNat : Int) := (Int.toNat_of_nonneg hi.1).symm
    have hlt : i.toNat < h.size := by omega
    have hload : h.load? i = some (h.getD i.toNat 0) := by simp [Heap.load?, Heap.holds, hi, hlt]
    have hin : ¬(i < 0 ∨ (h.size : Int) ≤ i) := by omega
    simp only [Option.bind_eq_bind, Option.bind_some, if_neg hin, index?_of_lt hcast hlt 0, hload]
    exact push_ofMachine m _
  · have hload : h.load? i = none := by simp [Heap.load?, Heap.holds, hi]
    have hout : i < 0 ∨ (h.size : Int) ≤ i := by omega
    simp only [Option.bind_eq_bind, Option.bind_some, if_pos hout, hload]
    rfl

theorem storeCell_ofMachine (m : Machine) {heap : Nat} (hheap : heap < m.heaps.size) (i : Int)
    (v : Word) : storeCell (ofMachine m) heap i v = some (.ofMachine (m.storeCell heap i v)) := by
  unfold storeCell Machine.storeCell
  rw [ofMachine_heaps, index?_of_lt rfl hheap #[], modify_eq_setIfInBounds hheap _ #[]]
  generalize m.heaps.getD heap #[] = h
  by_cases hi : 0 ≤ i ∧ i < h.size
  · have hcast : i = (i.toNat : Int) := (Int.toNat_of_nonneg hi.1).symm
    have hlt : i.toNat < h.size := by omega
    have hholds : h.holds i = true := by simp [Heap.holds, hi]
    have hin : ¬(i < 0 ∨ (h.size : Int) ≤ i) := by omega
    simp only [Option.bind_eq_bind, Option.bind_some, if_neg hin, if_pos hholds,
      update?_of_lt hcast hlt, update?_of_lt rfl hheap]
    rfl
  · have hholds : ¬h.holds i = true := by simp [Heap.holds, hi]
    have hout : i < 0 ∨ (h.size : Int) ≤ i := by omega
    simp only [Option.bind_eq_bind, Option.bind_some, if_pos hout, if_neg hholds]
    rfl

theorem selectThen_ofMachine (m : Machine) (selector : Word) {k : Nat → Machine.Effect}
    {k' : Int → Option Effect}
    (hk : ∀ heap : Nat, heap < m.heaps.size → k' heap = some (.ofMachine (k heap))) :
    selectThen (ofMachine m) selector k' = some (.ofMachine (m.selectThen selector k)) := by
  unfold selectThen Machine.selectThen
  rw [ofMachine_heaps]
  by_cases hin : 0 ≤ selector.toInt ∧ selector.toInt < m.heaps.size
  · have hcast : selector.toInt = (selector.toInt.toNat : Int) := (Int.toNat_of_nonneg hin.1).symm
    rw [if_neg (by omega), if_pos hin, hcast]
    simpa only [Int.toNat_natCast] using hk _ (by omega)
  · rw [if_pos (by omega), if_neg hin]
    rfl

theorem localThen_ofMachine (m : Machine) (offset : Word) {k : Nat → Machine.Effect}
    {k' : Int → Option Effect}
    (hk : ∀ i : Nat, i < m.height → k' i = some (.ofMachine (k i))) :
    localThen (ofMachine m) offset k' = some (.ofMachine
      (match m.localIndex? offset with
        | some i => k i
        | none => .fail m .stackIndexOutOfRange (m.localNote offset))) := by
  have hsp := m.sp_add_one
  unfold localThen Machine.localIndex?
  simp only [ofMachine_fp, ofMachine_sp]
  by_cases hin : 0 ≤ (m.fp : Int) + offset.toInt ∧ (m.fp : Int) + offset.toInt < m.height
  · have hcast := Int.toNat_of_nonneg hin.1
    rw [if_neg (by omega), if_pos hin, ← hcast]
    simpa only [Int.toNat_natCast] using hk _ (by omega)
  · rw [if_pos (by omega), if_neg hin]
    rfl

theorem call_ofMachine (m : Machine) (target numArgs : Word) :
    call (ofMachine m) target numArgs = some (.ofMachine (m.call target numArgs)) := by
  have hsp := m.sp_add_one
  unfold call Machine.call
  simp only [ofMachine_sp, ofMachine_stack, ofMachine_fp, ofMachine_ip, hsp]
  by_cases hargs : numArgs.toInt < 0 ∨ (m.height : Int) < numArgs.toInt
  · rw [if_pos hargs, if_pos hargs]
    rfl
  · rw [if_neg hargs, if_neg hargs]
    by_cases hfull : m.stack.size < m.height + 3
    · rw [if_pos (by omega), if_pos hfull]
      rfl
    · have hframe : m.sp + 2 = (m.height + 1 : Nat) := by omega
      have hreturn : m.sp + 3 = (m.height + 2 : Nat) := by omega
      rw [if_neg (by omega), if_neg hfull, update?_of_lt rfl (by omega)]
      simp only [Option.bind_eq_bind, Option.bind_some]
      rw [update?_of_lt hframe (by simp only [Array.size_setIfInBounds]; omega), Option.bind_some,
        update?_of_lt hreturn (by simp only [Array.size_setIfInBounds]; omega), Option.bind_some,
        Int32.ofInt_eq_ofNat, hreturn]
      have htop : ((m.height + 2 : Nat) : Int) = (m.height + 3 : Nat) - 1 := by omega
      simp only [Effect.ofMachine, ofMachine, Machine.sp, htop]
      rfl

theorem leave_ofMachine (h : Keeps m₀ m) (hdepth : m.depth ≠ 0) (v : Word) :
    leave (ofMachine m) v = some (.ofMachine (m.leave v)) := by
  have hfp := h.fp_lt
  have hsp := m.sp_add_one
  unfold leave Machine.leave
  simp only [ofMachine_sp, ofMachine_stack, ofMachine_fp, ofMachine_code]
  by_cases hframe : m.fp < 2 ∨ m.height ≤ m.fp
  · rw [if_pos (by omega), if_pos hframe]
    rfl
  · have hcaller : (m.fp : Int) - 1 = (m.fp - 1 : Nat) := by omega
    have hcount : (m.fp : Int) - 2 = (m.fp - 2 : Nat) := by omega
    have hbelow : (m.fp : Int) - 3 = Machine.sp { m with height := m.fp - 2 } := by
      simp only [Machine.sp]; omega
    rw [if_neg (by omega), if_neg hframe, index?_of_lt rfl hfp 0,
      index?_of_lt hcaller (show m.fp - 1 < m.stack.size by omega) 0,
      index?_of_lt hcount (show m.fp - 2 < m.stack.size by omega) 0]
    simp only [Option.bind_eq_bind, Option.bind_some, hbelow]
    generalize m.stack.getD m.fp 0 = returnIp
    generalize m.stack.getD (m.fp - 1) 0 = callerFp
    generalize m.stack.getD (m.fp - 2) 0 = numArgs
    by_cases hargs : numArgs.toInt < 0 ∨ ((m.fp - 2 : Nat) : Int) < numArgs.toInt
    · rw [if_pos (by simp only [Machine.sp]; omega), if_pos hargs]
      rfl
    · rw [if_neg (by simp only [Machine.sp]; omega), if_neg hargs]
      by_cases hsaved : callerFp.toInt < 0 ∨ (m.fp : Int) < callerFp.toInt
      · rw [if_pos hsaved, if_pos hsaved]
        rfl
      · rw [if_neg hsaved, if_neg hsaved]
        by_cases hip : returnIp.toInt < 0 ∨ (m.code.size : Int) < returnIp.toInt
        · rw [if_pos hip, if_pos hip]
          rfl
        · have htop : Machine.sp { m with height := m.fp - 2 } - numArgs.toInt + 1 =
              (m.fp - 2 - numArgs.toInt.toNat : Nat) := by
            simp only [Machine.sp]; omega
          rw [if_neg hip, if_neg hip, htop, update?_of_lt rfl (by omega)]
          have hdown : (m.depth : Int) - 1 = (m.depth - 1 : Nat) := by omega
          have hfpCast := Int.toNat_of_nonneg (show 0 ≤ callerFp.toInt by omega)
          have hcell (n : Nat) : ((n + 1 : Nat) : Int) - 1 = n := by omega
          simp only [Option.bind_some, Effect.ofMachine, ofMachine, Machine.sp, hcell, hfpCast,
            hdown]
          rfl

theorem ret_ofMachine (h : Keeps m₀ m) : ret (ofMachine m) = some (.ofMachine m.ret) := by
  unfold ret Machine.ret
  rw [ofMachine_depth]
  by_cases hz : m.depth = 0
  · rw [if_pos (by omega), if_pos hz]
    rfl
  · rw [if_neg (by omega), if_neg hz]
    exact popThen_ofMachine h fun _ v h' hd => leave_ofMachine h' (hd ▸ hz) v

/-- Every instruction finds each cell that it addresses. -/
theorem execOp_ofMachine (h : Keeps m₀ m) (hheaps : 0 < m₀.heaps.size) (op : Opcode)
    (arg arg₂ : Word) :
    execOp (ofMachine m) op arg arg₂ = some (.ofMachine (m.exec op arg arg₂)) := by
  have hzero {m' : Machine} (h' : Keeps m₀ m') : 0 < m'.heaps.size := h'.heaps_size ▸ hheaps
  unfold execOp Machine.exec
  cases op with
  | iadd | isub | imul | ilt | ieq => exact binary_ofMachine h _
  | idiv =>
    refine pop2Then_ofMachine h fun m' a b _ => ?_
    split
    · rfl
    · exact push_ofMachine m' _
  | br | halt => rfl
  | brt | brf =>
    refine popThen_ofMachine h fun m' v _ _ => ?_
    split <;> rfl
  | iconst | iconst1 | threadId => exact push_ofMachine m _
  | dup =>
    dsimp only
    by_cases hz : m.height = 0
    · rw [if_pos (by simp only [ofMachine_sp, Machine.sp]; omega), if_pos hz]
      rfl
    · have hle := h.height_le
      have htop : (ofMachine m).sp = (m.height - 1 : Nat) := by
        simp only [ofMachine_sp, Machine.sp]; omega
      rw [if_neg (by omega), if_neg hz, ofMachine_stack,
        index?_of_lt htop (show m.height - 1 < m.stack.size by omega) 0]
      exact push_ofMachine m _
  | pop | print => exact popThen_ofMachine h fun _ _ _ _ => rfl
  | lshift | rshift => exact mapTop_ofMachine h _
  | load =>
    refine localThen_ofMachine m arg fun i hi => ?_
    have hlt : i < m.stack.size := Nat.lt_of_lt_of_le hi h.height_le
    rw [ofMachine_stack, index?_of_lt rfl hlt 0]
    exact push_ofMachine m _
  | store =>
    refine popThen_ofMachine h fun m' v h' _ => localThen_ofMachine m' arg fun i hi => ?_
    have hlt : i < m'.stack.size := Nat.lt_of_lt_of_le hi h'.height_le
    rw [ofMachine_stack, update?_of_lt rfl hlt]
    rfl
  | gload => exact loadCell_ofMachine m (hzero h) _
  | gstore => exact popThen_ofMachine h fun m' _ h' _ => storeCell_ofMachine m' (hzero h') _ _
  | gloadIndexed => exact popThen_ofMachine h fun m' _ h' _ => loadCell_ofMachine m' (hzero h') _
  | gstoreIndexed =>
    exact pop2Then_ofMachine h fun m' _ _ h' => storeCell_ofMachine m' (hzero h') _ _
  | parallelGloadIndexed =>
    refine selectThen_ofMachine m arg fun heap hlt => popThen_ofMachine h fun m' _ h' _ => ?_
    exact loadCell_ofMachine m' (by rw [h'.heaps_size, ← h.heaps_size]; exact hlt) _
  | parallelGstoreIndexed =>
    refine selectThen_ofMachine m arg fun heap hlt => pop2Then_ofMachine h fun m' _ _ h' => ?_
    exact storeCell_ofMachine m' (by rw [h'.heaps_size, ← h.heaps_size]; exact hlt) _ _
  | call => exact call_ofMachine m arg arg₂
  | ret => exact ret_ofMachine h

end Effects

/-! ### Steps and runs -/

theorem record_ofMachine {m : Machine} (h : m.Bounded) (mnemonic : String) (args : List Word) :
    record (ofMachine m) mnemonic args = some (ofMachine (m.record mnemonic args)) := by
  have hlive : (ofMachine m).sp + 1 = m.height := by simp only [ofMachine_sp, Machine.sp]; omega
  unfold record Machine.record
  rw [hlive, ofMachine_tracing, ofMachine_stack, front?_of_le rfl h.height_le]
  split <;> rfl

theorem fetch_ofMachine (m : Machine) : fetch (ofMachine m) = m.fetch :=
  rfl

/-- An instruction that can be read stands in the program as the word that names it. -/
theorem word_of_fetch {m : Machine} {i : Instruction} (h : m.fetch = .ready i) :
    ∃ word, m.code.at? m.ip = some word ∧ Opcode.ofWord? word = some i.op := by
  unfold Machine.fetch at h
  split at h
  · cases h
  · next w hw =>
    split at h
    · cases h
    · next op hop =>
      dsimp only at h
      split at h
      · cases h
      · split at h
        · cases h
        · cases h
          exact ⟨w, hw, hop⟩

theorem perform_ofMachine {m : Machine} (h : m.Bounded) (hheaps : 0 < m.heaps.size)
    {i : Instruction} {word : Word} (hword : m.code.at? m.ip = some word)
    (hop : Opcode.ofWord? word = some i.op) :
    perform (ofMachine m) i = some (.ofMachine (m.perform i)) := by
  have hr := Machine.record_keeps h.keeps i.op.mnemonic i.args
  unfold perform Machine.perform
  rw [ofMachine_code, ofMachine_ip, hword, record_ofMachine h]
  generalize m.record i.op.mnemonic i.args = m' at hr ⊢
  have hnext : Keeps m { m' with ip := i.next } := { hr with }
  have hexec := execOp_ofMachine hnext hheaps i.op (i.args.getD 0 0) (i.args.getD 1 0)
  simp only [Option.bind_eq_bind, Option.bind_some, exec, hop]
  change Option.bind (execOp (ofMachine { m' with ip := i.next }) _ _ _) _ = _
  rw [hexec, Option.bind_some]
  cases Machine.exec { m' with ip := i.next } i.op (i.args.getD 0 0) (i.args.getD 1 0) <;> rfl

/-- A bounded machine takes the same step on bare registers. -/
theorem step_ofMachine {m : Machine} (h : m.Bounded) (hheaps : 0 < m.heaps.size) :
    step (ofMachine m) = some (.ofMachine m.step) := by
  unfold step Machine.step
  rw [fetch_ofMachine]
  cases hf : m.fetch with
  | refused f shown =>
    cases shown with
    | none => rfl
    | some shown =>
      dsimp only
      rw [record_ofMachine h]
      rfl
  | ready i =>
    obtain ⟨word, hword, hop⟩ := word_of_fetch hf
    dsimp only
    rw [ofMachine_meter]
    cases hm : m.meter.consume 1 with
    | mk meter paid =>
      cases paid with
      | false => rfl
      | true =>
        have hb : Bounded { m with meter } := { h with }
        exact perform_ofMachine hb hheaps hword hop

theorem advance_ofMachine (fuel : Nat) {m : Machine} (h : m.Bounded) (hheaps : 0 < m.heaps.size) :
    advance fuel (ofMachine m) = some (ofMachine (m.advance fuel).1, (m.advance fuel).2) := by
  induction fuel generalizing m with
  | zero => rfl
  | succ fuel ih =>
    have hk := Machine.step_keeps h.keeps
    unfold advance Machine.advance
    rw [step_ofMachine h hheaps]
    cases hs : m.step with
    | next m' =>
      rw [hs] at hk
      exact ih hk.toBounded (hk.heaps_size ▸ hheaps)
    | halt m' => rfl
    | fault m' f => rfl

/-- A run on bare registers always has an answer, and it is the run of the machine. -/
theorem run_ofMachine (fuel : Nat) {m : Machine} (h : m.Bounded) (hheaps : 0 < m.heaps.size) :
    run fuel (ofMachine m) = some (ofMachine (m.run fuel).1, (m.run fuel).2) := by
  unfold run Machine.run
  rw [ofMachine_phase]
  split
  · have hb : Bounded { m with phase := .running } := { h with }
    exact advance_ofMachine fuel hb hheaps
  · rfl

end Bare

namespace Machine

/-! ### Machines before a run -/

/-- A machine that has been made, and perhaps changed, but has not run. -/
inductive Prepared : Machine → Prop
  | create {code : Program} {entry : Int} {o : Options} {m : Machine}
      (h : Machine.create code entry o = .ok m) : Prepared m
  | configure {m : Machine} (h : Prepared m) (stackSize heapSize : Int) :
      Prepared (m.configure stackSize heapSize).1
  | initHeap {m : Machine} (h : Prepared m) : Prepared m.initHeap
  | setHeap {m : Machine} (h : Prepared m) (values : Array Word) : Prepared (m.setHeap values)
  | trace {m : Machine} (h : Prepared m) (tracing : Bool) : Prepared { m with tracing }

theorem stackOf_pos {o : Options} {stack : Array Word} (h : stackOf o = .ok stack) :
    0 < stack.size := by
  unfold stackOf at h
  split at h
  · next cells _ =>
    split at h
    · cases h
    · next hne =>
      cases h
      simpa [Array.size_pos_iff] using hne
  · dsimp only at h
    have hne : (if o.stackSize = 0 then (defaultStackSize : Int) else o.stackSize) ≠ 0 := by
      split
      · decide
      · assumption
    generalize (if o.stackSize = 0 then (defaultStackSize : Int) else o.stackSize) = n at h hne
    by_cases hn : 0 ≤ n ∧ n ≤ maxStackSize
    · rw [if_pos hn] at h
      cases h
      rw [Array.size_replicate]
      omega
    · rw [if_neg hn] at h
      cases h

theorem stackOf_given {o : Options} {cells : Array Word} (ho : o.stack = some cells)
    (hcells : 0 < cells.size) : stackOf o = .ok cells := by
  unfold stackOf
  rw [ho]
  exact if_neg (mt Array.isEmpty_iff_size_eq_zero.1 (Nat.ne_of_gt hcells))

theorem heapsOf_alone {o : Options} {engine : Engine} {lane : Word} {heaps : Array Heap}
    (hlane : o.lane = none) (h : heapsOf o = .ok (engine, lane, heaps)) :
    ∃ own : Heap, 0 < own.size ∧ engine = .sequential ∧ lane = Fault.noLane ∧ heaps = #[own] := by
  unfold heapsOf at h
  rw [hlane] at h
  dsimp only at h
  split at h
  · next own _ =>
    split at h
    · cases h
    · next hne =>
      cases h
      exact ⟨own, by simpa [Array.size_pos_iff] using hne, rfl, rfl, rfl⟩
  · have hne : (if o.heapSize = 0 then (defaultHeapSize : Int) else o.heapSize) ≠ 0 := by
      split
      · decide
      · assumption
    generalize (if o.heapSize = 0 then (defaultHeapSize : Int) else o.heapSize) = n at h hne
    split at h
    · cases h
      refine ⟨_, ?_, rfl, rfl, rfl⟩
      rw [Heap.zeros, Array.size_replicate]
      omega
    · cases h

theorem heapsOf_pos {o : Options} {engine : Engine} {lane : Word} {heaps : Array Heap}
    (h : heapsOf o = .ok (engine, lane, heaps)) : 0 < heaps.size := by
  cases hlane : o.lane with
  | none =>
    obtain ⟨own, -, -, -, rfl⟩ := heapsOf_alone hlane h
    exact Nat.one_pos
  | some b =>
    unfold heapsOf at h
    rw [hlane] at h
    dsimp only at h
    split at h
    · cases h
    · next hne =>
      cases h
      simpa [Array.size_pos_iff] using hne

/-- The machine that is made from a program, an entry, options, and memory. -/
def initial (code : Program) (entry : Int) (o : Options) (stack : Array Word) (engine : Engine)
    (lane : Word) (heaps : Array Heap) : Machine :=
  { code, engine, lane, ip := entry, stack, height := 0, fp := 0, depth := 0, heaps
    meter := .ofLimit o.maxSteps, phase := .ready, printed := #[]
    tracing := o.tracing, trace := #[] }

theorem create_eq_ok_iff {code : Program} {entry : Int} {o : Options} {m : Machine} :
    Machine.create code entry o = .ok m ↔ code.checkEntry entry = .ok () ∧
      ∃ stack engine lane heaps, stackOf o = .ok stack ∧ heapsOf o = .ok (engine, lane, heaps) ∧
        m = initial code entry o stack engine lane heaps := by
  constructor
  · intro h
    unfold Machine.create at h
    cases hentry : code.checkEntry entry with
    | error e =>
      rw [hentry] at h
      cases h
    | ok =>
      rw [hentry] at h
      dsimp only at h
      cases hstack : stackOf o with
      | error e =>
        rw [hstack] at h
        cases h
      | ok stack =>
        rw [hstack] at h
        dsimp only at h
        cases hheaps : heapsOf o with
        | error e =>
          rw [hheaps] at h
          cases h
        | ok made =>
          obtain ⟨engine, lane, heaps⟩ := made
          rw [hheaps] at h
          exact ⟨rfl, stack, engine, lane, heaps, rfl, rfl, (Except.ok.inj h).symm⟩
  · rintro ⟨hentry, stack, engine, lane, heaps, hstack, hheaps, rfl⟩
    rw [Machine.create, hentry, hstack, hheaps]
    rfl

section Create

variable {code : Program} {entry : Int} {stack : Array Word}
  (hentry : code.checkEntry entry = .ok ()) (hstack : 0 < stack.size) (tracing : Bool)
  (maxSteps : UInt64)
include hentry hstack

/-- A machine of a lane on given memory. -/
theorem create_lane {heaps : Array Heap} (hheaps : 0 < heaps.size) (id : Word) :
    Machine.create code entry
        { stack := some stack, lane := some ⟨id, heaps⟩, tracing, maxSteps } =
      .ok (initial code entry { tracing, maxSteps } stack .lane id heaps) := by
  have hgiven : heapsOf { stack := some stack, lane := some ⟨id, heaps⟩, tracing, maxSteps } =
      .ok (.lane, id, heaps) :=
    if_neg (mt Array.isEmpty_iff_size_eq_zero.1 (Nat.ne_of_gt hheaps))
  exact create_eq_ok_iff.2 ⟨hentry, stack, .lane, id, heaps, stackOf_given rfl hstack, hgiven, rfl⟩

/-- A machine that runs alone on given memory. -/
theorem create_alone {heap : Heap} (hheap : 0 < heap.size) :
    Machine.create code entry { stack := some stack, heap := some heap, tracing, maxSteps } =
      .ok (initial code entry { tracing, maxSteps } stack .sequential Fault.noLane #[heap]) := by
  have hgiven : heapsOf { stack := some stack, heap := some heap, tracing, maxSteps } =
      .ok (.sequential, Fault.noLane, #[heap]) :=
    if_neg (mt Array.isEmpty_iff_size_eq_zero.1 (Nat.ne_of_gt hheap))
  exact create_eq_ok_iff.2
    ⟨hentry, stack, .sequential, Fault.noLane, #[heap], stackOf_given rfl hstack, hgiven, rfl⟩

end Create

/-- A machine that has not run is made from some memory. -/
theorem Prepared.eq_initial {m : Machine} (h : Prepared m) :
    ∃ code entry o stack engine lane heaps, 0 < stack.size ∧ 0 < heaps.size ∧
      m = initial code entry o stack engine lane heaps := by
  induction h with
  | @create code entry o m h =>
    obtain ⟨-, stack, engine, lane, heaps, hstack, hheaps, rfl⟩ := create_eq_ok_iff.1 h
    exact ⟨code, entry, o, stack, engine, lane, heaps, stackOf_pos hstack, heapsOf_pos hheaps, rfl⟩
  | configure h stackSize heapSize ih =>
    unfold Machine.configure
    split
    · exact ih
    · split
      · exact ih
      · obtain ⟨code, entry, o, stack, engine, lane, heaps, -, hheaps, rfl⟩ := ih
        have hpos : 0 < (Array.replicate stackSize.toNat (0 : Word)).size := by
          rw [Array.size_replicate]
          omega
        cases engine with
        | lane => exact ⟨code, entry, o, _, .lane, lane, heaps, hpos, hheaps, rfl⟩
        | sequential =>
          dsimp only [initial]
          split
          · exact ⟨code, entry, o, _, .sequential, lane, heaps, hpos, hheaps, rfl⟩
          · exact ⟨code, entry, o, _, .sequential, lane, _, hpos, by rwa [Array.size_setIfInBounds],
              rfl⟩
  | initHeap h ih =>
    obtain ⟨code, entry, o, stack, engine, lane, heaps, hstack, hheaps, rfl⟩ := ih
    cases engine with
    | lane => exact ⟨code, entry, o, stack, .lane, lane, heaps, hstack, hheaps, rfl⟩
    | sequential =>
      exact ⟨code, entry, o, stack, .sequential, lane, _, hstack, by rwa [Array.size_modify], rfl⟩
  | setHeap h values ih =>
    obtain ⟨code, entry, o, stack, engine, lane, heaps, hstack, hheaps, rfl⟩ := ih
    exact ⟨code, entry, o, stack, engine, lane, _, hstack, by rwa [Array.size_modify], rfl⟩
  | trace h tracing ih =>
    obtain ⟨code, entry, o, stack, engine, lane, heaps, hstack, hheaps, rfl⟩ := ih
    exact ⟨code, entry, { o with tracing }, stack, engine, lane, heaps, hstack, hheaps, rfl⟩

/-- What a run starts from: an empty stack with some capacity, and at least one heap. -/
theorem Prepared.start {m : Machine} (h : Prepared m) :
    m.height = 0 ∧ m.fp = 0 ∧ 0 < m.stack.size ∧ 0 < m.heaps.size := by
  obtain ⟨_, _, _, _, _, _, _, hstack, hheaps, rfl⟩ := h.eq_initial
  exact ⟨rfl, rfl, hstack, hheaps⟩

/-- A machine that has not run has printed, recorded and counted nothing. -/
theorem Prepared.unrun {m : Machine} (h : Prepared m) :
    m.phase = .ready ∧ m.printed = #[] ∧ m.trace = #[] ∧ m.meter = .ofLimit m.meter.limit := by
  obtain ⟨_, _, _, _, _, _, _, -, -, rfl⟩ := h.eq_initial
  exact ⟨rfl, rfl, rfl, rfl⟩

theorem Prepared.bounded {m : Machine} (h : Prepared m) : m.Bounded := by
  obtain ⟨hheight, hfp, hstack, -⟩ := h.start
  exact ⟨by omega, by omega⟩

/-- A program cannot drive its machine out of bounds. On bare registers every run has an answer, so
each plain index of it names a cell and each word that it executes is an instruction; in every state
of the run the registers point into the stack, and the capacities are those of the start. -/
theorem Prepared.run_memory_safe {m₀ : Machine} (h : Prepared m₀) (fuel : Nat) :
    ∃ b : Bare, Bare.run fuel (.ofMachine m₀) = some (b, (m₀.run fuel).2) ∧
      b = .ofMachine (m₀.run fuel).1 ∧
      -1 ≤ b.sp ∧ b.sp < b.stack.size ∧ 0 ≤ b.fp ∧ b.fp < b.stack.size ∧ 0 ≤ b.depth ∧
      b.stack.size = m₀.stack.size ∧ b.heaps.size = m₀.heaps.size ∧
      b.heaps.map Array.size = m₀.heaps.map Array.size := by
  obtain ⟨-, -, -, hheaps⟩ := h.start
  have hk := run_keeps h.bounded fuel
  have hle := hk.height_le
  have hfp := hk.fp_lt
  refine ⟨_, Bare.run_ofMachine fuel h.bounded hheaps, rfl, ?_, ?_, ?_, ?_, ?_, hk.stack_size,
    hk.heaps_size, hk.heap_sizes⟩ <;>
  simp only [Bare.ofMachine_sp, Bare.ofMachine_fp, Bare.ofMachine_depth, Bare.ofMachine_stack,
    Machine.sp] <;> omega

/-- A subroutine that replaces the saved frame of its caller by `50` and then returns. -/
def forgedFrame : Program :=
  ⟨#[17, 4, 0, 16, 9, 50, 12, -1, 9, 7, 18]⟩

/-- The forged frame is refused by the instruction that reads it back. -/
theorem forgedFrame_memory_safe :
    ∃ m₀, Machine.create forgedFrame 0 { stackSize := 8 } = .ok m₀ ∧
      (m₀.run 10).2 = .faulted
        { reason := .kind .malformedCallFrame, note := "saved fp 50", opcode := 18,
          mnemonic := "RET", ip := 10 } ∧
      ∃ b : Bare, Bare.run 10 (.ofMachine m₀) = some (b, (m₀.run 10).2) ∧
        b = .ofMachine (m₀.run 10).1 ∧
        -1 ≤ b.sp ∧ b.sp < b.stack.size ∧ 0 ≤ b.fp ∧ b.fp < b.stack.size ∧ 0 ≤ b.depth ∧
        b.stack.size = m₀.stack.size ∧ b.heaps.size = m₀.heaps.size ∧
        b.heaps.map Array.size = m₀.heaps.map Array.size :=
  have hcreate : Machine.create forgedFrame 0 { stackSize := 8 } = .ok _ := rfl
  ⟨_, hcreate, by decide +kernel, (Prepared.create hcreate).run_memory_safe 10⟩

end Machine

end Lanewise
