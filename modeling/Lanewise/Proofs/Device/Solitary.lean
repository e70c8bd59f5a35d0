import Lanewise.Cpu.Basic
import Lanewise.Proofs.Device.LaneStacks
import Lanewise.Proofs.Machine.MemorySafety

/-!
# Sequential launches

A sequential kernel runs as a single lane of the device. Its launch is the run of a machine that
runs alone on the only heap of the launch, with zeros on its stack, wherever the stacks live.

## Main definitions

* `Machine.solitary`: a fresh machine that runs alone.
* `Cpu.answerOf`: the answer of a launch whose only lane has run.

## Main results

* `Cpu.launch_sequential`: a launch of one sequential lane is the run of this machine.
-/

namespace Lanewise

open Machine (Outcome)

/-- A fresh machine that runs alone on a given heap. -/
def Machine.solitary (code : Program) (entry : Int) (stackSize : Nat) (heap : Heap)
    (maxSteps : UInt64) (tracing : Bool) : Machine :=
  { code, engine := .sequential, lane := Fault.noLane, ip := entry
    stack := Array.replicate stackSize 0, height := 0, fp := 0, depth := 0, heaps := #[heap]
    meter := .ofLimit maxSteps, phase := .ready, printed := #[], tracing, trace := #[] }

namespace Cpu

variable {k : Compiled} {heap : Heap}

/-- The only lane of a launch gets a stack of zeros, wherever the stacks live. -/
theorem take_single (placement : Placement) (size : Nat) :
    (Stacks.create placement size 1 1).enterGroup.take 0 0 = Array.replicate size 0 := by
  have hready := Stacks.create_ready placement size 1 1
  have htake := (Stacks.enterGroup_ready hready.shared).take_eq Nat.one_pos
    ((Stacks.enterGroup_group _).symm ▸ Nat.one_pos)
  rwa [Stacks.enterGroup_size] at htake

theorem laneMachine_sequential (hengine : k.engine = .sequential)
    (hentry : k.program.checkEntry k.entry = .ok ()) (hstack : 0 < k.stackSize)
    (hheap : 0 < heap.size) :
    laneMachine k (Array.replicate k.stackSize 0) #[heap] 0 =
      .ok (.solitary k.program k.entry k.stackSize heap k.maxSteps k.trace) := by
  have hcells : 0 < (Array.replicate k.stackSize (0 : Word)).size := by
    rw [Array.size_replicate]
    exact hstack
  unfold laneMachine
  rw [hengine]
  exact Machine.create_alone hentry hcells k.trace k.maxSteps hheap

/-- One group of one lane. -/
theorem runGroups_single (fuel : Nat) (p : Progress) :
    runGroups k fuel 1 1 0 p = runLane k fuel 0 0 { p with storage := p.storage.enterGroup } := by
  have hgroup : ∀ p, runGroup k fuel 0 1 0 p = runLane k fuel 0 0 p := by
    intro p
    rw [runGroup]
    cases runLane k fuel 0 0 p <;> rfl
  rw [runGroups, Nat.zero_mul, hgroup]
  cases runLane k fuel 0 0 { p with storage := p.storage.enterGroup } <;> rfl

/-- The answer of a launch whose only lane has run. -/
def answerOf : Machine × Outcome → Except Device.Error Completion
  | (m, .halted result) =>
    .ok { heaps := m.heaps, printed := #[result.printed], steps := m.steps, groups := 1
          trace := m.trace.map TraceRecord.text }
  | (_, .faulted f) => .error (.laneFault [f])
  | (_, .notRunnable) => .error (.launchFailure ("lane 0: " ++ Machine.Error.notRunnable.message))
  | (_, .unfinished) => .error .unfinished

/-- A launch of one sequential lane is the run of a machine that runs alone. -/
theorem launch_sequential (hengine : k.engine = .sequential)
    (hentry : k.program.checkEntry k.entry = .ok ()) (hstack : 0 < k.stackSize)
    (hheap : 0 < heap.size) (fuel : Nat) :
    launch k fuel #[heap] 1 1 =
      answerOf
        ((Machine.solitary k.program k.entry k.stackSize heap k.maxSteps k.trace).run fuel) := by
  have hmachine := laneMachine_sequential hengine hentry hstack hheap
  unfold launch
  rw [Nat.div_self Nat.one_pos, runGroups_single]
  unfold runLane
  simp only [take_single, hmachine]
  cases (Machine.solitary k.program k.entry k.stackSize heap k.maxSteps k.trace).run fuel with
  | mk m o =>
    cases o with
    | halted result => simp [answerOf, bind, Except.bind, pure, Except.pure]
    | faulted f => simp [answerOf, bind, Except.bind, throw, throwThe, MonadExceptOf.throw]
    | notRunnable => rfl
    | unfinished => rfl

end Cpu

end Lanewise
