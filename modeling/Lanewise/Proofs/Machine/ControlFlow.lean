import Lanewise.Proofs.Machine.Cells
import Lanewise.Proofs.Machine.MemorySafety
import Lanewise.Proofs.Program.Walk

/-!
# Control flow of accepted programs

Accepting a program is a matter of one walk from its start. If all branches and calls of the program
lead to positions of this walk, and it has no `RET`, then no run ever leaves them: an instruction
continues behind itself or at its operand. Such a run reads whole instructions of its engine only,
and can run out of the program only at its very end.

## Main definitions

* `Opcode.jumps`: the opcodes that may continue at their operand.
* `Program.Closed`: programs whose branches and calls lead to positions of the walk.
* `Machine.Effect.Leads`: effects after which the position has a property.

## Main results

* `Machine.exec_leads`: where an instruction continues.
* `Machine.step_leads`: a step stays on the positions of the walk.
* `Machine.Prepared.run_on_boundaries`: so does a run.
-/

namespace Lanewise

/-- The opcodes that may continue at their operand. -/
def Opcode.jumps : Opcode → Bool
  | br | brt | brf | call => true
  | _ => false

/-- The kinds of faults of positions at which no instruction can be read. -/
def Fault.Kind.ofReading : Kind → Bool
  | unknownOpcode | opcodeNotAllowed | truncatedInstruction | ipOutOfRange => true
  | _ => false

/-- A program that is accepted, has no `RET`, and whose branches and calls lead to positions at
which its walk finds an instruction, or to its end. -/
structure Program.Closed (p : Program) (modes : Modes) : Prop where
  accepted : p.verify modes = .ok ()
  targets : ∀ i ∈ p.walk, i.op.jumps = true → p.Landing (i.args.getD 0 0).toInt
  no_return : ∀ i ∈ p.walk, i.op ≠ .ret

namespace Machine

/-! ### Instructions -/

/-- After the effect the position has a property, and a failure has nothing to do with reading. -/
def Effect.Leads (P : Int → Prop) : Effect → Prop
  | next m => P m.ip
  | halt m => P m.ip
  | fail m kind _ => P m.ip ∧ kind.ofReading = false

section

variable {P : Int → Prop} {m : Machine}

theorem push_leads (h : P m.ip) (v : Word) : (m.push v).Leads P := by
  unfold push
  split
  · exact h
  · exact ⟨h, rfl⟩

theorem popThen_leads (h : P m.ip) {k : Machine → Word → Effect}
    (hk : ∀ m' v, P m'.ip → (k m' v).Leads P) : (m.popThen k).Leads P := by
  unfold popThen
  split
  · exact ⟨h, rfl⟩
  · exact hk _ _ h

theorem pop2Then_leads (h : P m.ip) {k : Machine → Word → Word → Effect}
    (hk : ∀ m' a b, P m'.ip → (k m' a b).Leads P) : (m.pop2Then k).Leads P := by
  unfold pop2Then
  split
  · exact ⟨h, rfl⟩
  · exact hk _ _ _ h

theorem mapTop_leads (h : P m.ip) (f : Word → Word) : (m.mapTop f).Leads P := by
  unfold mapTop
  split
  · exact ⟨h, rfl⟩
  · exact h

theorem loadCell_leads (h : P m.ip) (heap : Nat) (i : Int) : (m.loadCell heap i).Leads P := by
  unfold loadCell
  dsimp only
  split
  · exact push_leads h _
  · exact ⟨h, rfl⟩

theorem storeCell_leads (h : P m.ip) (heap : Nat) (i : Int) (v : Word) :
    (m.storeCell heap i v).Leads P := by
  unfold storeCell
  split
  · exact h
  · exact ⟨h, rfl⟩

theorem selectThen_leads (h : P m.ip) (selector : Word) {k : Nat → Effect}
    (hk : ∀ heap, (k heap).Leads P) : (m.selectThen selector k).Leads P := by
  unfold selectThen
  split
  · exact hk _
  · exact ⟨h, rfl⟩

theorem call_leads (h : P m.ip) {target : Word} (htarget : P target.toInt) (numArgs : Word) :
    (m.call target numArgs).Leads P := by
  unfold call
  split
  · exact ⟨h, rfl⟩
  · split
    · exact ⟨h, rfl⟩
    · exact htarget

end

/-- An instruction other than `RET` continues behind itself or, if it is one that jumps, at its
first operand. -/
theorem exec_leads {P : Int → Prop} {m : Machine} {op : Opcode} {arg : Word} (hip : P m.ip)
    (hjump : op.jumps = true → P arg.toInt) (hret : op ≠ .ret) (arg₂ : Word) :
    (m.exec op arg arg₂).Leads P := by
  unfold exec
  cases op with
  | iadd | isub | imul | ilt | ieq => exact pop2Then_leads hip fun _ _ _ h => push_leads h _
  | idiv =>
    refine pop2Then_leads hip fun m' a b h => ?_
    split
    · exact ⟨h, rfl⟩
    · exact push_leads h _
  | br => exact hjump rfl
  | brt | brf =>
    refine popThen_leads hip fun m' v h => ?_
    dsimp only [Effect.Leads]
    split
    · exact hjump rfl
    · exact h
  | iconst | iconst1 | threadId => exact push_leads hip _
  | dup =>
    dsimp only
    split
    · exact ⟨hip, rfl⟩
    · exact push_leads hip _
  | pop => exact popThen_leads hip fun _ _ h => h
  | lshift | rshift => exact mapTop_leads hip _
  | load =>
    dsimp only
    split
    · exact push_leads hip _
    · exact ⟨hip, rfl⟩
  | store =>
    refine popThen_leads hip fun m' v h => ?_
    split
    · exact h
    · exact ⟨h, rfl⟩
  | gload => exact loadCell_leads hip _ _
  | gstore => exact popThen_leads hip fun _ _ h => storeCell_leads h _ _ _
  | gloadIndexed => exact popThen_leads hip fun _ _ h => loadCell_leads h _ _
  | gstoreIndexed => exact pop2Then_leads hip fun _ _ _ h => storeCell_leads h _ _ _
  | parallelGloadIndexed =>
    exact selectThen_leads hip _ fun _ => popThen_leads hip fun _ _ h => loadCell_leads h _ _
  | parallelGstoreIndexed =>
    exact selectThen_leads hip _ fun _ => pop2Then_leads hip fun _ _ _ h => storeCell_leads h _ _ _
  | print => exact popThen_leads hip fun _ _ h => h
  | halt => exact hip
  | call => exact call_leads hip (hjump rfl) _
  | ret => exact absurd rfl hret

/-! ### Steps -/

/-- A fault that is not about reading, or the fault of a machine that has reached the end of a
program. -/
def Confined (p : Program) (m : Machine) (f : Fault) : Prop :=
  (∃ kind, f.reason = .kind kind ∧ kind.ofReading = false) ∨
    (f.reason = .kind .ipOutOfRange ∧ m.ip = p.size ∧ f.ip = p.size)

/-- After the step the position is one of the walk through a program, or its end. -/
def Step.Leads (p : Program) : Step → Prop
  | next m => p.Landing m.ip
  | halt m => p.Landing m.ip
  | fault m f => p.Landing m.ip ∧ Confined p m f

variable {m₀ m : Machine} {i : Instruction}

/-- At the end of a program there is no instruction. -/
theorem step_at_end (hip : m.ip = m.code.size) :
    ∃ f, m.step = .fault m f ∧ f.reason = .kind .ipOutOfRange ∧ f.ip = m.ip := by
  have hat : m.code.at? m.ip = none := by
    rw [hip, Program.at?_natCast, List.getElem?_eq_none_iff, Array.length_toList]
    exact Nat.le_refl _
  unfold step fetch
  rw [hat]
  exact ⟨_, rfl, rfl, rfl⟩

/-- A step that executes an instruction of a closed program. -/
theorem Executes.leads (h : m.Executes i) (hclosed : m.code.Closed m.engine.modes)
    (hi : i ∈ m.code.walk) : m.step.Leads m.code := by
  have hnext : m.code.Landing (m.charged i).ip := Program.landing_next hclosed.accepted hi
  have hexec := exec_leads hnext (hclosed.targets i hi) (hclosed.no_return i hi) (i.args.getD 1 0)
  rw [h.step_eq]
  cases heffect : (m.charged i).exec i.op (i.args.getD 0 0) (i.args.getD 1 0) with
  | next m' =>
    rw [heffect] at hexec
    exact hexec
  | halt m' =>
    rw [heffect] at hexec
    exact hexec
  | fail m' kind note =>
    rw [heffect] at hexec
    exact ⟨hexec.1, .inl ⟨kind, rfl, hexec.2⟩⟩

/-- A step of a closed program stays on the positions of its walk. -/
theorem step_leads (hclosed : m.code.Closed m.engine.modes) (hip : m.code.Landing m.ip) :
    m.step.Leads m.code := by
  rcases hip with ⟨i, hi, hip⟩ | hend
  · have hdecode : (Instruction.decode m.code m.ip).toOption = some i := by
      rw [← hip, Program.decode_of_mem_walkFrom hi]
      rfl
    have hmeets := (Program.verify_eq_ok_iff.1 hclosed.accepted).2.2 i hi
    have hfetch := fetch_of_decode hdecode hmeets
    cases hpaid : (m.meter.consume 1).2 with
    | true => exact Executes.leads ⟨hfetch, hpaid⟩ hclosed hi
    | false =>
      -- The instruction is read but not paid for.
      have hmeter : m.meter.consume 1 = ((m.meter.consume 1).1, false) := by rw [← hpaid]
      unfold step
      rw [hfetch]
      dsimp only
      rw [hmeter]
      exact ⟨.inl ⟨i, hi, hip⟩, .inl ⟨_, rfl, rfl⟩⟩
  · obtain ⟨f, hstep, hreason, hf⟩ := step_at_end hend
    rw [hstep]
    exact ⟨.inr hend, .inr ⟨hreason, hend, hf.trans hend⟩⟩

/-! ### Runs -/

theorem advance_leads (hk : Keeps m₀ m) (hclosed : m₀.code.Closed m₀.engine.modes)
    (hip : m₀.code.Landing m.ip) (fuel : Nat) :
    m₀.code.Landing (m.advance fuel).1.ip ∧
      ∀ f, (m.advance fuel).2 = .faulted f → Confined m₀.code (m.advance fuel).1 f := by
  induction fuel generalizing m with
  | zero => exact ⟨hip, fun f h => by cases h⟩
  | succ fuel ih =>
    have hk' := step_keeps hk
    have hstep := step_leads (m := m) (by rwa [hk.code_eq, hk.engine_eq]) (by rwa [hk.code_eq])
    rw [hk.code_eq] at hstep
    unfold advance
    cases hs : m.step with
    | next m' =>
      rw [hs] at hstep hk'
      exact ih hk' hstep
    | halt m' =>
      rw [hs] at hstep
      exact ⟨hstep, fun f h => by cases h⟩
    | fault m' f' =>
      rw [hs] at hstep
      refine ⟨hstep.1, fun f h => ?_⟩
      cases h
      exact hstep.2

/-- A run of a closed program that starts at a position of its walk stays on these positions up to
the end of the program. It never faults with an unknown opcode, a truncated instruction or an opcode
of another engine, and it faults with a position out of range only by reaching the end of the
program. -/
theorem Prepared.run_on_boundaries (h : Prepared m₀) (hclosed : m₀.code.Closed m₀.engine.modes)
    (hentry : m₀.code.Boundary m₀.ip) (fuel : Nat) :
    m₀.code.Landing (m₀.run fuel).1.ip ∧
      ∀ f, (m₀.run fuel).2 = .faulted f →
        f.reason ≠ .kind .unknownOpcode ∧ f.reason ≠ .kind .truncatedInstruction ∧
        f.reason ≠ .kind .opcodeNotAllowed ∧
        (f.reason = .kind .ipOutOfRange →
          (m₀.run fuel).1.ip = m₀.code.size ∧ f.ip = m₀.code.size) := by
  have hrun : m₀.code.Landing (m₀.run fuel).1.ip ∧
      ∀ f, (m₀.run fuel).2 = .faulted f → Confined m₀.code (m₀.run fuel).1 f := by
    unfold run
    split
    · have hk : Keeps m₀ { m₀ with phase := .running } := { h.bounded.keeps with }
      exact advance_leads hk hclosed (.inl hentry) fuel
    · exact ⟨.inl hentry, fun f hf => by cases hf⟩
  refine ⟨hrun.1, fun f hf => ?_⟩
  rcases hrun.2 f hf with ⟨kind, hreason, hkind⟩ | ⟨hreason, hip, hfip⟩
  · rw [hreason]
    cases kind <;> cases hkind <;> simp
  · rw [hreason]
    simpa using ⟨hip, hfip⟩

/-- A program that calls a subroutine, which branches to the end of the program. -/
def runningOff : Program :=
  ⟨#[17, 4, 0, 16, 23, 7, 7]⟩

theorem runningOff_walk :
    runningOff.walk = [⟨0, .call, [4, 0]⟩, ⟨3, .halt, []⟩, ⟨4, .iconst1, []⟩, ⟨5, .brt, [7]⟩] :=
  Program.walkFrom_eq (.cons rfl rfl (.cons rfl rfl (.cons rfl rfl (.cons rfl rfl (.nil 7))))) rfl

theorem runningOff_closed : runningOff.Closed .sequential := by
  refine ⟨Program.verify_eq_ok_iff.2 ?_, ?_, ?_⟩
  · rw [runningOff_walk]
    decide
  · simp only [Program.Landing, Program.Boundary, runningOff_walk]
    decide
  · rw [runningOff_walk]
    decide

/-- The program ends behind its last instruction, and that is where its run ends. -/
theorem runningOff_on_boundaries :
    ∃ m₀, Machine.create runningOff 0 { stackSize := 8 } = .ok m₀ ∧
      (m₀.run 4).2 = .faulted
        { reason := .kind .ipOutOfRange, ip := 7, detail := "ran past end of program" } ∧
      m₀.code.Landing (m₀.run 4).1.ip ∧ (m₀.run 4).1.ip = m₀.code.size := by
  have hcreate : Machine.create runningOff 0 { stackSize := 8 } = .ok _ := rfl
  have hentry : runningOff.Boundary 0 := by
    simp only [Program.Boundary, runningOff_walk]
    decide
  obtain ⟨hip, hfaults⟩ := (Prepared.create hcreate).run_on_boundaries runningOff_closed hentry 4
  refine ⟨_, hcreate, by decide +kernel, hip, ?_⟩
  obtain ⟨-, -, -, hend⟩ := hfaults
    { reason := .kind .ipOutOfRange, ip := 7, detail := "ran past end of program" }
    (by decide +kernel)
  exact (hend rfl).1

end Machine

end Lanewise
