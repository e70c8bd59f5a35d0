import Lanewise.Proofs.Device.Solitary
import Lanewise.Proofs.Executor.Reachable
import Lanewise.Proofs.Machine.Runs

/-!
# The host and the device

A sequential run takes place on the machine of the host or as a kernel of one lane on the device.
The two go different ways: the host makes a machine with a heap of its own, and the device compiles
a kernel, validates a launch, and takes the stack out of its slab. Both arrive at the same machine,
so they have the same to report.

## Main definitions

* `Executor.startOf`: the machine of a sequential run.
* `Executor.Reports`: an answer that reports a run.
* `Execution.Agrees`: results that say the same about the program.

## Main results

* `Executor.onHost_reports`, `Executor.onDevice_reports`: both ways report the run of this machine.
* `Executor.runSequential_host_eq_device`: they give the same answer.
-/

namespace Lanewise

open Machine (Outcome)

/-- Results that say the same about the program: a run that halted shows the same output, steps,
heaps and trace, and a run that faulted shows the same fault, which belongs to no lane. -/
structure Execution.Agrees (x y : Execution) : Prop where
  success_eq : x.success = y.success
  printed_eq : x.success = true → x.printed = y.printed
  steps_eq : x.success = true → x.steps = y.steps
  heaps_eq : x.success = true → x.heaps = y.heaps
  trace_eq : x.success = true → x.trace = y.trace
  fault_eq : x.success = false → ∃ f, x.faults = [f] ∧ y.faults = [f] ∧ f.lane = Fault.noLane

namespace Executor

/-- The number of stack cells of a sequential run. -/
def Limits.stackCells (l : Limits) : Int :=
  if l.stackSize = 0 then (defaultStackSize : Int) else l.stackSize

/-- The machine of a sequential run. -/
def startOf (img : Image) (r : SequentialRequest) (l : Limits) : Machine :=
  .solitary img.program img.entry l.stackCells.toNat (initialHeap r l.heapSize.toNat) l.maxSteps
    r.trace

/-- An answer that reports how a run ended. -/
inductive Reports (run : Machine × Outcome) : Except Error Execution → Prop
  | unfinished (h : run.2 = .unfinished) : Reports run (.error .unfinished)
  | halted {x : Execution} {result : Machine.Result} (h : run.2 = .halted result)
      (hsuccess : x.success = true) (hprinted : x.printed = [Run.Row.ofPrinted result.printed])
      (hsteps : x.steps = run.1.steps) (hheaps : x.heaps = run.1.heaps.toList)
      (htrace : x.trace = run.1.trace.toList.map TraceRecord.text) : Reports run (.ok x)
  | faulted {x : Execution} {f : Fault} (h : run.2 = .faulted f) (hsuccess : x.success = false)
      (hfaults : x.faults = [.ofFault f]) : Reports run (.ok x)

theorem Reports.unfinished_iff {run : Machine × Outcome} {answer : Except Error Execution}
    (h : Reports run answer) : answer = .error .unfinished ↔ run.2 = .unfinished := by
  cases h with
  | unfinished h => simp [h]
  | halted h => simp [h]
  | faulted h => simp [h]

/-- Answers that report the same run agree. -/
theorem Reports.agrees {run : Machine × Outcome} {a b : Except Error Execution}
    (ha : Reports run a) (hb : Reports run b) (hfin : run.2 ≠ .unfinished)
    (hlane : ∀ f, run.2 = .faulted f → f.lane = Fault.noLane) :
    ∃ x y, a = .ok x ∧ b = .ok y ∧ x.Agrees y := by
  cases ha with
  | unfinished h => exact absurd h hfin
  | @halted x result h hsuccess hprinted hsteps hheaps htrace =>
    cases hb with
    | unfinished h' => exact absurd h' hfin
    | @halted y result' h' hsuccess' hprinted' hsteps' hheaps' htrace' =>
      obtain rfl := Outcome.halted.inj (h.symm.trans h')
      refine ⟨x, y, rfl, rfl, ?_⟩
      exact
        { success_eq := hsuccess.trans hsuccess'.symm
          printed_eq := fun _ => hprinted.trans hprinted'.symm
          steps_eq := fun _ => hsteps.trans hsteps'.symm
          heaps_eq := fun _ => hheaps.trans hheaps'.symm
          trace_eq := fun _ => htrace.trans htrace'.symm
          fault_eq := fun hfailed => absurd (hsuccess.symm.trans hfailed) Bool.noConfusion }
    | faulted h' => exact Outcome.noConfusion (h.symm.trans h')
  | @faulted x f h hsuccess hfaults =>
    have hfailed : x.success ≠ true := by rw [hsuccess]; exact Bool.noConfusion
    cases hb with
    | unfinished h' => exact absurd h' hfin
    | halted h' => exact Outcome.noConfusion (h.symm.trans h')
    | @faulted y f' h' hsuccess' hfaults' =>
      obtain rfl := Outcome.faulted.inj (h.symm.trans h')
      refine ⟨x, y, rfl, rfl, ?_⟩
      exact
        { success_eq := hsuccess.trans hsuccess'.symm
          printed_eq := fun hs => absurd hs hfailed
          steps_eq := fun hs => absurd hs hfailed
          heaps_eq := fun hs => absurd hs hfailed
          trace_eq := fun hs => absurd hs hfailed
          fault_eq := fun _ => ⟨_, hfaults, hfaults', hlane f h⟩ }

/-! ### The two ways -/

/-- Limits that both engines accept. -/
structure Limits.Fit (l : Limits) : Prop where
  stack_nonneg : 0 ≤ l.stackSize
  stack_le : l.stackSize ≤ maxStackSize
  heap_pos : 0 < l.heapSize
  heap_le : l.heapSize ≤ maxHeapSize

theorem Limits.Fit.stackCells_pos {l : Limits} (h : l.Fit) : 0 < l.stackCells := by
  have := h.stack_nonneg
  unfold Limits.stackCells
  split
  · decide
  · omega

theorem Limits.Fit.stackCells_le {l : Limits} (h : l.Fit) : l.stackCells ≤ maxStackSize := by
  unfold Limits.stackCells
  split
  · decide
  · exact h.stack_le

/-- The limits of a request that is not refused. A heap is never empty, since a size of zero selects
the default. -/
theorem limits_eq_ok {c : ExecutorConfig} {r : SequentialRequest} {l : Limits}
    (h : limits c r = .ok l) :
    l.stackSize = orElse r.stackSize c.stackSize ∧ 0 < l.heapSize ∧ l.heapSize ≤ maxHeapSize := by
  have hne : orElse r.heapSize (orElse c.heapSize defaultHeapSize) ≠ 0 := by
    unfold orElse
    split
    · split
      · decide
      · assumption
    · assumption
  simp only [limits] at h
  rw [guard_eq_ok_iff, guard_eq_ok_iff] at h
  obtain ⟨hrange, -, h⟩ := h
  obtain rfl := Except.ok.inj h
  exact ⟨rfl, by dsimp only; omega, by dsimp only; omega⟩

theorem initialHeap_size (r : SequentialRequest) (n : Nat) : (initialHeap r n).size = n := by
  unfold initialHeap
  split
  · exact Array.size_ofFn
  · simp [Heap.overlay, Heap.zeros]

variable {img : Image} {r : SequentialRequest} {l : Limits}

/-- The host makes the machine of the run and fills its heap afterwards. -/
theorem create_startOf (himg : img.EntryOk) (hfit : l.Fit) :
    ∃ m, Machine.create img.program img.entry
        { stackSize := l.stackSize, heapSize := l.heapSize, maxSteps := l.maxSteps,
          tracing := r.trace } = .ok m ∧
      (if r.initHeap then m.initHeap else m.setHeap r.heap) = startOf img r l := by
  have hstack : 0 ≤ l.stackCells ∧ l.stackCells ≤ maxStackSize :=
    ⟨Int.le_of_lt hfit.stackCells_pos, hfit.stackCells_le⟩
  have hheap : ¬l.heapSize = 0 := Int.ne_of_gt hfit.heap_pos
  have hrange : 0 ≤ l.heapSize ∧ l.heapSize ≤ maxHeapSize :=
    ⟨Int.le_of_lt hfit.heap_pos, hfit.heap_le⟩
  refine ⟨.solitary img.program img.entry l.stackCells.toNat (Heap.zeros l.heapSize.toNat)
    l.maxSteps r.trace, ?_, ?_⟩
  · simp only [Image.EntryOk] at himg
    simp only [Limits.stackCells] at hstack
    simp only [Machine.create, himg, Machine.stackOf, Machine.heapsOf, if_pos hstack, if_neg hheap,
      if_pos hrange]
    rfl
  · have hsize : (Heap.zeros l.heapSize.toNat).size = l.heapSize.toNat := Array.size_replicate
    unfold startOf initialHeap
    split
    · simp [Machine.initHeap, Machine.solitary, hsize]
    · simp [Machine.setHeap, Machine.solitary]

theorem onHost_reports (e : Executor Cpu) (himg : img.EntryOk) (hfit : l.Fit) :
    Reports ((startOf img r l).run e.fuel) (e.onHost img r l).1 := by
  obtain ⟨m, hcreate, hstart⟩ := create_startOf (r := r) himg hfit
  unfold onHost
  simp only [hcreate, hstart]
  have hready := Machine.run_ne_notRunnable (m := startOf img r l) rfl e.fuel
  cases hrun : (startOf img r l).run e.fuel with
  | mk m' o =>
    rw [hrun] at hready
    cases o with
    | halted result =>
      dsimp only
      obtain ⟨runId, journal, hrecord⟩ := (e.clock _).2.record_eq _ _
      rw [hrecord]
      exact .halted rfl rfl rfl rfl rfl rfl
    | faulted f =>
      dsimp only
      obtain ⟨runId, journal, hrecord⟩ := (e.clock _).2.record_eq _ _
      rw [hrecord]
      exact .faulted rfl rfl rfl
    | notRunnable => exact absurd rfl hready
    | unfinished => exact .unfinished rfl

/-- The kernel of one lane that the device is asked for. -/
def kernelOf (img : Image) (r : SequentialRequest) (l : Limits) (placement : Int) : Kernel :=
  { program := some img.program, entry := img.entry, mode := .sequential
    stackSize := l.stackSize, heaps := [l.heapSize], placement, trace := r.trace
    maxSteps := l.maxSteps }

/-- The kernel as the device keeps it. -/
def compiledOf (img : Image) (r : SequentialRequest) (l : Limits) (placement : Placement) :
    Compiled :=
  { program := img.program, entry := img.entry.toNat, engine := .sequential
    stackSize := l.stackCells.toNat, heaps := [l.heapSize.toNat], placement, trace := r.trace
    maxSteps := l.maxSteps }

theorem kernelOf_compile (himg : img.EntryOk) (hfit : l.Fit)
    (hverify : img.program.verify .sequential = .ok ()) {n : Int} {placement : Placement}
    (hplacement : Placement.ofNumber? n = some placement) :
    (kernelOf img r l n).compile = .ok (compiledOf img r l placement) := by
  have hcells : (kernelOf img r l n).heapCells ≤ maxHeapCells := by
    have hle : (maxHeapSize : Int) ≤ maxHeapCells := by decide
    have heq : (kernelOf img r l n).heapCells = l.heapSize := Int.zero_add _
    exact heq ▸ Int.le_trans hfit.heap_le hle
  refine (Kernel.compile_eq_ok_iff _ _).2
    ⟨img.program, img.entry, .sequential, placement, ?_, rfl⟩
  exact
    { resolve_eq := rfl
      entry_ok := himg
      engine_eq := rfl
      verify_ok := hverify
      stack_nonneg := Int.le_of_lt hfit.stackCells_pos
      stack_le := hfit.stackCells_le
      heaps_ne := List.cons_ne_nil _ _
      heaps_le := show 1 ≤ maxHeapCount by decide
      single_heap := fun _ => rfl
      capacities := fun c hc => by
        obtain rfl := List.mem_singleton.1 hc
        exact ⟨hfit.heap_pos, hfit.heap_le⟩
      cells_le := hcells
      placement_eq := hplacement }

/-- One lane in a group of one fits every device. -/
theorem compiledOf_validate (img : Image) (r : SequentialRequest) (hfit : l.Fit)
    (placement : Placement) {heap : Heap} (hheap : heap.size = l.heapSize.toNat)
    (default limit : Int) :
    ({ heaps := #[heap], lanes := 1, groupSize := 1 } : Launch).validate
      (compiledOf img r l placement).kernel default limit = .ok 1 := by
  have hpos := hfit.stackCells_pos
  have hle := hfit.stackCells_le
  have hcells : (compiledOf img r l placement).kernel.stackSize = l.stackCells :=
    Int.toNat_of_nonneg (Int.le_of_lt hpos)
  unfold Launch.validate
  refine (Launch.groupFor_eq_ok_iff _ _ _ _ _ _ _ _ _).2 ?_
  dsimp only
  exact
    { lanes_pos := by decide
      lanes_le := by decide
      single_lane := fun _ => rfl
      cells_le := by
        simp only [maxStackSize] at hle
        rw [hcells, if_neg (Int.ne_of_gt hpos), ← Int64.ofInt_mul, Int.mul_one,
          Int64.toInt_ofInt_of_le (by omega) (by omega)]
        simp only [maxStackCells]
        omega
      heap_sizes := by simp [compiledOf, Compiled.kernel, hheap]
      size_nonneg := by decide
      group_eq := rfl
      size_le := fun _ hl => hl
      size_dvd := fun _ => rfl }

/-- The launch of this kernel is the run of the machine. -/
theorem compiledOf_launch (himg : img.EntryOk) (hfit : l.Fit) (placement : Placement) (fuel : Nat) :
    Cpu.launch (compiledOf img r l placement) fuel #[initialHeap r l.heapSize.toNat] 1 1 =
      Cpu.answerOf ((startOf img r l).run fuel) := by
  have hentry : ((img.entry.toNat : Nat) : Int) = img.entry :=
    Int.toNat_of_nonneg (Program.checkEntry_eq_ok_iff.1 himg).1
  have hchecked : (compiledOf img r l placement).program.checkEntry
      (compiledOf img r l placement).entry = .ok () := by
    simp only [compiledOf, hentry]
    exact himg
  have hcells : 0 < (compiledOf img r l placement).stackSize := by
    have := hfit.stackCells_pos
    simp only [compiledOf]
    omega
  have hheap : 0 < (initialHeap r l.heapSize.toNat).size := by
    have := hfit.heap_pos
    rw [initialHeap_size]
    omega
  rw [Cpu.launch_sequential rfl hchecked hcells hheap fuel]
  simp only [compiledOf, startOf, hentry]

/-- The device prepares the kernel under a handle of its own, launches it, and reports the run of
its only lane. -/
theorem onDevice_reports {e : Executor Cpu} (he : e.Sound) {c : Cpu} (hdevice : e.device = some c)
    {ctx : Context} (hctx : ctx.cancelled = false) (himg : img.EntryOk) (hfit : l.Fit)
    (hverify : img.program.verify .sequential = .ok ()) {placement : Placement}
    (hplacement : Placement.ofNumber? (r.placement.getD e.config.placement) = some placement) :
    Reports ((startOf img r l).run c.fuel) (e.onDevice ctx img r l).1 := by
  have hcompile := kernelOf_compile (r := r) himg hfit hverify hplacement
  obtain ⟨handle, c', hprepare, hkernel, hfuel⟩ :=
    (he.numbered c hdevice).kernel?_prepare hctx hcompile
  have hvalidate := compiledOf_validate img r hfit placement
    (initialHeap_size r l.heapSize.toNat) c'.defaultGroup c'.maxGroup
  have hexecute : Backend.execute c' ctx handle
      { heaps := #[initialHeap r l.heapSize.toNat], lanes := 1, groupSize := 1 } =
        (Cpu.answerOf ((startOf img r l).run c.fuel), c') := by
    change (Cpu.execute _ _ _ _, _) = _
    unfold Cpu.execute
    rw [hctx, hkernel, ← compiledOf_launch himg hfit placement]
    simp only [Bool.false_eq_true, if_false, hvalidate, hfuel]
    rfl
  have hprepare' : Backend.prepare c ctx (kernelOf img r l (r.placement.getD e.config.placement)) =
      (.ok handle, c') := hprepare
  have hready := Machine.run_ne_notRunnable (m := startOf img r l) rfl c.fuel
  unfold kernelOf at hprepare'
  unfold onDevice
  rw [hdevice]
  simp only [hprepare', hexecute]
  cases hrun : (startOf img r l).run c.fuel with
  | mk m o =>
    rw [hrun] at hready
    cases o with
    | halted result =>
      dsimp only [Cpu.answerOf]
      obtain ⟨runId, journal, hrecord⟩ :=
        (clock { e with device := some (Backend.release c' handle).2 } _).2.record_eq _ _
      rw [hrecord]
      exact .halted rfl rfl rfl rfl rfl Array.toList_map
    | faulted f =>
      have hbad : ¬isInfrastructure (.laneFault [f]) = true := Bool.noConfusion
      dsimp only [Cpu.answerOf]
      obtain ⟨runId, journal, hrecord⟩ :=
        record_eq { e with device := some (Backend.release c' handle).2 } _ _
      rw [if_neg hbad, hrecord]
      exact .faulted rfl rfl rfl
    | notRunnable => exact absurd rfl hready
    | unfinished => exact .unfinished rfl

/-- A request for a program that is there either has no limits and is refused, or takes one of the
two ways with the image. -/
theorem runSequential_eq {e : Executor Cpu} {ctx : Context} (hctx : ctx.cancelled = false)
    (hload : (e.load r.program).1 = .ok img) :
    (e.runSequential ctx r).1 =
      match limits e.config r with
      | .error err => .error err
      | .ok l =>
        if r.onDevice then ((e.load r.program).2.onDevice ctx img r l).1
        else ((e.load r.program).2.onHost img r l).1 := by
  obtain ⟨cache, hcache⟩ := e.load_eq r.program
  have hpair : e.load r.program = (.ok img, { e with cache }) := Prod.ext hload hcache
  unfold runSequential
  rw [hpair, hctx]
  simp only [Bool.false_eq_true, if_false]
  cases limits e.config r with
  | error err => rfl
  | ok l => exact apply_ite Prod.fst (r.onDevice = true) _ _

/-- Two runs of one machine that both end are the same run. -/
theorem run_eq_run {m : Machine} {a b : Nat} (ha : (m.run a).2 ≠ .unfinished)
    (hb : (m.run b).2 ≠ .unfinished) : m.run a = m.run b := by
  rcases Nat.le_total a b with h | h
  · exact (Machine.run_mono h ha).symm
  · exact Machine.run_mono h hb

/-- A stored program that the sequential engine accepts gives the same answer on the host and on the
device. A request is refused by both in the same words, if its heap is. Otherwise, if the run ends,
both have a result, and the results agree. The amounts of fuel bound the runs on the two sides and
may differ; the side that has more of it ends if the other one does. -/
theorem runSequential_host_eq_device {e : Executor Cpu} (he : Reachable e) {c : Cpu}
    (hdevice : e.device = some c) {ctx : Context} (hctx : ctx.cancelled = false)
    {r : SequentialRequest} {img : Image} (hload : (e.load r.program).1 = .ok img)
    (hverify : img.program.verify .sequential = .ok ())
    (hstack : 0 ≤ orElse r.stackSize e.config.stackSize)
    (hstack' : orElse r.stackSize e.config.stackSize ≤ maxStackSize) {placement : Placement}
    (hplacement : Placement.ofNumber? (r.placement.getD e.config.placement) = some placement) :
    let host := (e.runSequential ctx { r with onDevice := false }).1
    let device := (e.runSequential ctx { r with onDevice := true }).1
    (∀ err, limits e.config r = .error err → host = .error err ∧ device = .error err) ∧
      ∀ l, limits e.config r = .ok l →
        (e.fuel ≤ c.fuel → host ≠ .error .unfinished → device ≠ .error .unfinished) ∧
        (c.fuel ≤ e.fuel → device ≠ .error .unfinished → host ≠ .error .unfinished) ∧
        (host ≠ .error .unfinished → device ≠ .error .unfinished →
          ∃ x y, host = .ok x ∧ device = .ok y ∧ x.Agrees y) := by
  intro host device
  have hhost : host = match limits e.config r with
      | .error err => .error err
      | .ok l => ((e.load r.program).2.onHost img { r with onDevice := false } l).1 :=
    runSequential_eq hctx hload
  have hdev : device = match limits e.config r with
      | .error err => .error err
      | .ok l => ((e.load r.program).2.onDevice ctx img { r with onDevice := true } l).1 :=
    runSequential_eq hctx hload
  refine ⟨fun err hl => ?_, fun l hl => ?_⟩
  · rw [hl] at hhost hdev
    exact ⟨hhost, hdev⟩
  · obtain ⟨hsize, hheap, hheap'⟩ := limits_eq_ok hl
    have hfit : l.Fit := ⟨hsize ▸ hstack, hsize ▸ hstack', hheap, hheap'⟩
    have himg := (he.sound.cached.load r.program).1 img hload
    have hsound := he.sound.load r.program
    rw [hl] at hhost hdev
    obtain ⟨cache, hcache⟩ := e.load_eq r.program
    rw [hcache] at hhost hdev hsound
    have hreport : Reports ((startOf img r l).run e.fuel) host :=
      hhost ▸ onHost_reports (r := { r with onDevice := false }) { e with cache } himg hfit
    have hreport' : Reports ((startOf img r l).run c.fuel) device :=
      hdev ▸ onDevice_reports (r := { r with onDevice := true }) hsound hdevice hctx himg hfit
        hverify hplacement
    have hbounded : (startOf img r l).Bounded := by
      have hcells := hfit.stackCells_pos
      refine ⟨Nat.zero_le _, ?_⟩
      simp only [startOf, Machine.solitary, Array.size_replicate]
      omega
    simp only [ne_eq, hreport.unfinished_iff, hreport'.unfinished_iff]
    refine ⟨fun hle hfin => ?_, fun hle hfin => ?_, fun hfin hfin' => ?_⟩
    · rwa [Machine.run_mono hle hfin]
    · rwa [Machine.run_mono hle hfin]
    · rw [← run_eq_run hfin hfin'] at hreport'
      exact hreport.agrees hreport' hfin fun f hf => Machine.run_faulted_lane hbounded hf

/-- A program that prints the fourth cell of its heap. -/
def fourthCell : Image :=
  { program := ⟨#[11, 3, 14, 16]⟩, entry := 0 }

/-- An executor to which this program has been deployed. -/
def withFourthCell : Executor Cpu :=
  (deploy { registry := .memory {}, device := some { fuel := 9 }, journal := none, fuel := 5 }
    fourthCell).2

/-- A run of this program on a heap of indices. -/
def fourthCellRequest : SequentialRequest :=
  { program := fourthCell.id, initHeap := true, placement := some 1 }

/-- The host and the device both print the index of the cell. -/
theorem fourthCell_host_eq_device :
    ∃ x y,
      (withFourthCell.runSequential {} { fourthCellRequest with onDevice := false }).1 = .ok x ∧
      (withFourthCell.runSequential {} { fourthCellRequest with onDevice := true }).1 = .ok y ∧
      x.Agrees y ∧ x.success = true ∧ y.printed = [.ofPrinted #[3]] := by
  have hreachable : Reachable withFourthCell :=
    .deploy (.start rfl (by rintro _ ⟨⟩; rfl)) fourthCell
  have hverify : fourthCell.program.verify .sequential = .ok () :=
    ok_of_toOption_eq (by decide +kernel)
  have hload : (withFourthCell.load fourthCell.id).1 = .ok fourthCell :=
    ok_of_toOption_eq (by decide +kernel)
  have hhost : (withFourthCell.runSequential {}
      { fourthCellRequest with onDevice := false }).1.toOption.map (·.success) = some true := by
    decide +kernel
  have hdevice : (withFourthCell.runSequential {}
      { fourthCellRequest with onDevice := true }).1.toOption.map (·.printed) =
        some [.ofPrinted #[3]] := by
    decide +kernel
  have hconfig : withFourthCell.config = {} := by decide +kernel
  have hlimits : limits withFourthCell.config fourthCellRequest = .ok ⟨100, 100, 0⟩ := by
    rw [hconfig]
    rfl
  have hcpu : withFourthCell.device = some { fuel := 9 } := deploy_device _ fourthCell
  obtain ⟨-, hall⟩ :=
    runSequential_host_eq_device hreachable hcpu (rfl : ({} : Context).cancelled = _)
    (r := fourthCellRequest) hload hverify (by rw [hconfig]; decide) (by rw [hconfig]; decide)
    (rfl : Placement.ofNumber? 1 = some .grouped)
  obtain ⟨-, -, hagree⟩ := hall _ hlimits
  obtain ⟨x, y, hx, hy, hxy⟩ := hagree (fun h => by rw [h] at hhost; cases hhost)
    fun h => by rw [h] at hdevice; cases hdevice
  rw [hx] at hhost
  rw [hy] at hdevice
  exact ⟨x, y, hx, hy, hxy, Option.some.inj hhost, Option.some.inj hdevice⟩

end Executor

end Lanewise
