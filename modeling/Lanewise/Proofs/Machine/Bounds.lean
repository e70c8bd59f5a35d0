import Lanewise.Machine.Run

/-!
# Bounds of the registers

The registers of a machine point into its stack whatever the program does. The bounds follow from
the checks that the instructions make themselves: leaving a subroutine reads the frame back from
cells that the program may have overwritten, and refuses what does not fit. Capacities never change.

## Main definitions

* `Machine.Bounded`: the registers point into the stack.
* `Machine.Keeps`: a machine that has the capacities of another one and is bounded.

## Main results

* `Machine.exec_keeps`, `Machine.step_keeps`: an instruction and a step keep bounds and capacities.
* `Machine.run_keeps`: so does a run.
-/

namespace Lanewise.Machine

/-- The live cells and the frame lie in the storage of the stack. -/
structure Bounded (m : Machine) : Prop where
  height_le : m.height ≤ m.stack.size
  fp_lt : m.fp < m.stack.size

/-- A bounded machine with the program, the lane and the capacities of `m₀`. -/
structure Keeps (m₀ m : Machine) : Prop extends Bounded m where
  code_eq : m.code = m₀.code
  engine_eq : m.engine = m₀.engine
  lane_eq : m.lane = m₀.lane
  tracing_eq : m.tracing = m₀.tracing
  stack_size : m.stack.size = m₀.stack.size
  heap_sizes : m.heaps.map Array.size = m₀.heaps.map Array.size

/-- The machine that an effect leaves. -/
def Effect.machine : Effect → Machine
  | next m => m
  | halt m => m
  | fail m _ _ => m

/-- The machine that a step leaves. -/
def Step.machine : Step → Machine
  | next m => m
  | halt m => m
  | fault m _ => m

theorem Bounded.keeps {m : Machine} (h : m.Bounded) : Keeps m m :=
  ⟨h, rfl, rfl, rfl, rfl, rfl, rfl⟩

/-- The number of heaps is one of the capacities. -/
theorem Keeps.heaps_size {m₀ m : Machine} (h : Keeps m₀ m) : m.heaps.size = m₀.heaps.size := by
  simpa only [Array.size_map] using congrArg Array.size h.heap_sizes

/-- Fewer live cells, and stack storage of the same size. -/
theorem Keeps.shrink {m₀ m : Machine} (h : Keeps m₀ m) (stack : Array Word) (height : Nat)
    (hs : stack.size = m.stack.size) (hh : height ≤ m.stack.size) :
    Keeps m₀ { m with stack, height } :=
  { h with
    height_le := hs ▸ hh
    fp_lt := hs ▸ h.fp_lt
    stack_size := hs.trans h.stack_size }

/-! ### Instructions -/

section Effects

variable {m₀ m : Machine}

theorem push_keeps (h : Keeps m₀ m) (v : Word) : Keeps m₀ (m.push v).machine := by
  unfold push
  split
  · next hlt => exact h.shrink _ _ (by simp) (by omega)
  · exact h

theorem popThen_keeps (h : Keeps m₀ m) {k : Machine → Word → Effect}
    (hk : ∀ m' v, Keeps m₀ m' → Keeps m₀ (k m' v).machine) : Keeps m₀ (m.popThen k).machine := by
  unfold popThen
  split
  · exact h
  · have := h.height_le
    exact hk _ _ (h.shrink _ _ rfl (by omega))

theorem pop2Then_keeps (h : Keeps m₀ m) {k : Machine → Word → Word → Effect}
    (hk : ∀ m' a b, Keeps m₀ m' → Keeps m₀ (k m' a b).machine) :
    Keeps m₀ (m.pop2Then k).machine := by
  unfold pop2Then
  split
  · exact h
  · have := h.height_le
    exact hk _ _ _ (h.shrink _ _ rfl (by omega))

theorem binary_keeps (h : Keeps m₀ m) (f : Word → Word → Word) :
    Keeps m₀ (m.binary f).machine :=
  pop2Then_keeps h fun _ _ _ h' => push_keeps h' _

theorem mapTop_keeps (h : Keeps m₀ m) (f : Word → Word) : Keeps m₀ (m.mapTop f).machine := by
  unfold mapTop
  split
  · exact h
  · exact h.shrink _ _ (by simp) h.height_le

theorem loadCell_keeps (h : Keeps m₀ m) (heap : Nat) (i : Int) :
    Keeps m₀ (m.loadCell heap i).machine := by
  unfold loadCell
  dsimp only
  split
  · exact push_keeps h _
  · exact h

theorem storeCell_keeps (h : Keeps m₀ m) (heap : Nat) (i : Int) (v : Word) :
    Keeps m₀ (m.storeCell heap i v).machine := by
  unfold storeCell
  split
  · refine { h with heap_sizes := ?_ }
    rw [← h.heap_sizes]
    apply Array.ext
    · simp [Effect.machine]
    · intro j hj _
      simp only [Effect.machine, Array.getElem_map, Array.getElem_modify]
      split <;> simp
  · exact h

theorem selectThen_keeps (h : Keeps m₀ m) (selector : Word) {k : Nat → Effect}
    (hk : ∀ heap, Keeps m₀ (k heap).machine) : Keeps m₀ (m.selectThen selector k).machine := by
  unfold selectThen
  split
  · exact hk _
  · exact h

theorem call_keeps (h : Keeps m₀ m) (target numArgs : Word) :
    Keeps m₀ (m.call target numArgs).machine := by
  unfold call
  split
  · exact h
  · split
    · exact h
    · exact
        { h with
          height_le := by simp only [Effect.machine, Array.size_setIfInBounds]; omega
          fp_lt := by simp only [Effect.machine, Array.size_setIfInBounds]; omega
          stack_size := by simpa [Effect.machine] using h.stack_size }

/-- The frame of the caller is accepted only if it is not above the frame that is left. -/
theorem leave_keeps (h : Keeps m₀ m) (v : Word) : Keeps m₀ (m.leave v).machine := by
  have hfp := h.fp_lt
  have hfail : Keeps m₀ { m with height := m.fp - 2 } := h.shrink _ _ rfl (by omega)
  unfold leave
  split
  · exact h
  · dsimp only
    split
    · exact hfail
    · split
      · exact hfail
      · split
        · exact hfail
        · exact
            { h with
              height_le := by simp only [Effect.machine, Array.size_setIfInBounds]; omega
              fp_lt := by simp only [Effect.machine, Array.size_setIfInBounds]; omega
              stack_size := by simpa [Effect.machine] using h.stack_size }

theorem ret_keeps (h : Keeps m₀ m) : Keeps m₀ m.ret.machine := by
  unfold ret
  split
  · exact h
  · exact popThen_keeps h fun _ v h' => leave_keeps h' v

end Effects

/-- An instruction keeps bounds and capacities, whatever its operands are. -/
theorem exec_keeps {m₀ m : Machine} (h : Keeps m₀ m) (op : Opcode) (arg arg₂ : Word) :
    Keeps m₀ (m.exec op arg arg₂).machine := by
  unfold exec
  cases op with
  | iadd | isub | imul | ilt | ieq => exact binary_keeps h _
  | idiv =>
    refine pop2Then_keeps h fun m' a b h' => ?_
    split
    · exact h'
    · exact push_keeps h' _
  | br => exact { h with }
  | brt | brf =>
    refine popThen_keeps h fun m' v h' => ?_
    dsimp only [Effect.machine]
    split
    · exact { h' with }
    · exact h'
  | iconst | iconst1 | threadId => exact push_keeps h _
  | dup =>
    dsimp only
    split
    · exact h
    · exact push_keeps h _
  | pop => exact popThen_keeps h fun _ _ h' => h'
  | lshift | rshift => exact mapTop_keeps h _
  | load =>
    dsimp only
    split
    · exact push_keeps h _
    · exact h
  | store =>
    refine popThen_keeps h fun m' v h' => ?_
    split
    · exact h'.shrink _ _ (by simp) h'.height_le
    · exact h'
  | gload => exact loadCell_keeps h _ _
  | gstore => exact popThen_keeps h fun _ _ h' => storeCell_keeps h' _ _ _
  | gloadIndexed => exact popThen_keeps h fun _ _ h' => loadCell_keeps h' _ _
  | gstoreIndexed => exact pop2Then_keeps h fun _ _ _ h' => storeCell_keeps h' _ _ _
  | parallelGloadIndexed =>
    exact selectThen_keeps h _ fun _ => popThen_keeps h fun _ _ h' => loadCell_keeps h' _ _
  | parallelGstoreIndexed =>
    exact selectThen_keeps h _ fun _ => pop2Then_keeps h fun _ _ _ h' => storeCell_keeps h' _ _ _
  | print => exact popThen_keeps h fun _ _ h' => { h' with }
  | halt => exact h
  | call => exact call_keeps h _ _
  | ret => exact ret_keeps h

/-! ### Steps and runs -/

theorem record_keeps {m₀ m : Machine} (h : Keeps m₀ m) (mnemonic : String) (args : List Word) :
    Keeps m₀ (m.record mnemonic args) := by
  unfold record
  split
  · exact { h with }
  · exact h

theorem perform_machine (m : Machine) (i : Instruction) :
    (m.perform i).machine =
      ({ m.record i.op.mnemonic i.args with ip := i.next }.exec i.op (i.args.getD 0 0)
        (i.args.getD 1 0)).machine := by
  unfold perform
  dsimp only
  split <;> simp only [Step.machine, Effect.machine, *]

theorem perform_keeps {m₀ m : Machine} (h : Keeps m₀ m) (i : Instruction) :
    Keeps m₀ (m.perform i).machine := by
  rw [perform_machine]
  apply exec_keeps
  exact { record_keeps h i.op.mnemonic i.args with }

/-- A step keeps bounds and capacities. -/
theorem step_keeps {m₀ m : Machine} (h : Keeps m₀ m) : Keeps m₀ m.step.machine := by
  unfold step
  split
  · exact h
  · exact record_keeps h _ _
  · split
    · exact { h with }
    · apply perform_keeps
      exact { h with }

/-- What every step keeps, a run keeps. -/
theorem advance_induction {P : Machine → Prop} (hstep : ∀ m, P m → P m.step.machine)
    (hphase : ∀ m phase, P m → P { m with phase }) (fuel : Nat) (m : Machine) (hm : P m) :
    P (m.advance fuel).1 := by
  induction fuel generalizing m with
  | zero => exact hm
  | succ fuel ih =>
    have hs := hstep m hm
    unfold advance
    cases h : m.step with
    | next m' => exact ih m' (by rwa [h] at hs)
    | halt m' => exact hphase m' _ (by rwa [h] at hs)
    | fault m' f => exact hphase m' _ (by rwa [h] at hs)

/-- Every state of a run keeps the bounds and the capacities of the machine that was started. -/
theorem run_keeps {m₀ : Machine} (h : m₀.Bounded) (fuel : Nat) : Keeps m₀ (m₀.run fuel).1 := by
  unfold run
  split
  · exact advance_induction (fun m hm => step_keeps hm) (fun m phase hm => { hm with }) fuel _
      { h.keeps with }
  · exact h.keeps

end Lanewise.Machine
