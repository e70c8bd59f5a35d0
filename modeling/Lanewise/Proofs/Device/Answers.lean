import Lanewise.Proofs.Device.BareLaunch
import Lanewise.Proofs.Device.LaneOrder
import Lanewise.Proofs.Device.Solitary

/-!
# The answers of launches

A kernel that compiles is checked once, and a launch of it once more. Together the two checks leave
a lane only two ways to end: it halts or it faults. So does the launch, which succeeds or lists the
faults; whatever else can go wrong in it does not.

## Main definitions

* `Compiled.laneRun`: the run of a lane of a launch.
* `Cpu.SafeLaunch`: a launch in which nothing but a fault can go wrong.

## Main results

* `Cpu.launchable_of_accepted`: what the two checks bring to a launch.
* `Cpu.accepted_launch_safe`: accepted launches of compiled kernels are safe.
-/

namespace Lanewise

/-- The run of a lane of a launch. Under the lane engine the lanes run one after another; under the
sequential engine there is only one. -/
def Compiled.laneRun (k : Compiled) (fuel : Nat) (heaps : Array Heap) (lane : Nat) :
    Machine × Machine.Outcome :=
  match k.engine with
  | .lane => k.inOrder fuel heaps lane
  | .sequential =>
    (Machine.solitary k.program k.entry k.stackSize (heaps.getD 0 #[]) k.maxSteps k.trace).run fuel

namespace Cpu

/-- A launch that has nothing but halts and faults to report, with its answer. -/
structure SafeLaunch (k : Compiled) (fuel : Nat) (l : Launch) (group : Nat)
    (answer : Except Device.Error Completion) : Prop where
  /-- If all lanes end, the launch succeeds or lists at least one fault. -/
  ends : (∀ lane < l.lanes.toNat, (k.laneRun fuel l.heaps lane).2 ≠ .unfinished) →
    (∃ done, answer = .ok done) ∨ ∃ f fs, answer = .error (.laneFault (f :: fs))
  /-- Every lane gets its machine, and every machine runs. -/
  machines : ∀ (stack : Array Word) (now : Array Heap) (lane : Nat), stack.size = k.stackSize →
    now.map Array.size = l.heaps.map Array.size →
    ∃ m, laneMachine k stack now lane = .ok m ∧ ∀ fuel, (m.run fuel).2 ≠ .notRunnable
  /-- The stretches of a slab for all lanes and of a slab for a group lie inside it. -/
  stretches : ∀ (s : Stacks) (count i : Nat), s.size = k.stackSize →
    count = l.lanes.toNat ∨ count = group → s.slab.size = s.size * count → i < count →
    ∃ cells, s.stretch? (Int64.ofNat i) = some cells ∧ cells.size = k.stackSize
  /-- Nothing has to be caught. -/
  bare_eq : launch? k fuel l.heaps l.lanes.toNat group = some answer
  /-- The size of a slab for all lanes is exact. -/
  slab_exact : (Int64.ofNat k.stackSize * Int64.ofInt l.lanes).toInt = k.stackSize * l.lanes
  /-- The size of a slab for a group is exact. -/
  group_slab_exact : (Int64.ofNat k.stackSize * Int64.ofNat group).toInt = k.stackSize * group

variable {K : Kernel} {k : Compiled} {l : Launch} {default limit g : Int}

/-- An accepted launch of a compiled kernel has stacks, heaps and groups that fit. -/
theorem launchable_of_accepted (hk : K.compile = .ok k)
    (hl : l.validate k.kernel default limit = .ok g) :
    Launchable k l.heaps l.lanes.toNat g.toNat := by
  obtain ⟨program, entry, engine, placement, ha, rfl⟩ := (Kernel.compile_eq_ok_iff K k).1 hk
  have hv := (Launch.groupFor_eq_ok_iff _ _ _ _ _ _ _ _ _).1 hl
  obtain ⟨-, -, hheaps⟩ := ha.kernel
  have hsizes : (l.heaps.toList.map Array.size).map Int.ofNat = K.heaps :=
    hv.heap_sizes.trans hheaps
  have hcount : l.heaps.size = K.heaps.length := by
    rw [← hsizes, List.length_map, List.length_map, Array.length_toList]
  have hgroup : g ≤ l.lanes := Int.le_of_dvd hv.lanes_pos (Int.dvd_of_emod_eq_zero hv.group_dvd)
  have hstack := ha.stackCells_pos
  have hlanes := hv.lanes_pos
  have hstackLe : K.stackCells.toNat ≤ maxStackSize := by
    have := ha.stack_le
    omega
  have hlanesLe : l.lanes.toNat ≤ maxLanes := by
    have := hv.lanes_le
    omega
  have hmax : maxStackSize * maxLanes < 0x8000000000000000 ∧ maxLanes < 0x8000000000000000 := by
    decide
  constructor
  case entry_ok =>
    change program.checkEntry (entry.toNat : Int) = .ok ()
    rw [ha.entry_toNat]
    exact ha.entry_ok
  case stack_pos =>
    change 0 < K.stackCells.toNat
    omega
  case heaps_pos => exact hcount ▸ List.length_pos_iff.2 ha.heaps_ne
  case cells_pos =>
    intro heap hheap
    have hmem : (heap.size : Int) ∈ K.heaps := by
      rw [← hsizes]
      exact List.mem_map_of_mem (List.mem_map_of_mem (Array.mem_toList_iff.2 hheap))
    have := (ha.capacities _ hmem).1
    omega
  case single_heap => exact fun hengine => hcount.trans (ha.single_heap hengine)
  case group_pos =>
    have := hv.group_pos
    omega
  case group_le => omega
  case lanes_lt => omega
  case cells_lt => exact Nat.lt_of_le_of_lt (Nat.mul_le_mul hstackLe hlanesLe) hmax.1

/-- The launch of a sequential kernel is the run of its only lane. -/
theorem execute_sequential (hk : K.compile = .ok k) (hengine : k.engine = .sequential) {c : Cpu}
    {ctx : Context} (hctx : ctx.cancelled = false) {h : Handle} (hc : c.kernel? h.id = some k)
    (hl : l.validate k.kernel c.defaultGroup c.maxGroup = .ok g) :
    l.lanes = 1 ∧ c.execute ctx h l = answerOf (k.laneRun c.fuel l.heaps 0) := by
  have hfit := launchable_of_accepted hk hl
  have hv := (Launch.groupFor_eq_ok_iff _ _ _ _ _ _ _ _ _).1 hl
  have hsequential : k.kernel.sequential = true := by
    rw [Kernel.sequential, Compiled.kernel, hengine]
    rfl
  have hlanes := hv.single_lane hsequential
  have hgroup : g.toNat = 1 := by
    have := hfit.group_le
    have := hv.group_pos
    omega
  obtain ⟨heap, hheap⟩ := Array.size_eq_one_iff.1 (hfit.single_heap hengine)
  have hcells : 0 < heap.size := hfit.cells_pos heap (by simp [hheap])
  refine ⟨hlanes, ?_⟩
  have hlaunch := launch_sequential hengine hfit.entry_ok hfit.stack_pos hcells c.fuel
  rw [execute_eq_launch hctx hc hl, hlanes, hgroup, hheap, Int.toNat_one, hlaunch, Compiled.laneRun,
    hengine]
  rfl

/-- An accepted launch whose lanes all end succeeds or lists faults. -/
theorem execute_ends (hk : K.compile = .ok k) {c : Cpu} {ctx : Context}
    (hctx : ctx.cancelled = false) {h : Handle} (hc : c.kernel? h.id = some k)
    (hl : l.validate k.kernel c.defaultGroup c.maxGroup = .ok g)
    (hend : ∀ lane < l.lanes.toNat, (k.laneRun c.fuel l.heaps lane).2 ≠ .unfinished) :
    (∃ done, c.execute ctx h l = .ok done) ∨
      ∃ f fs, c.execute ctx h l = .error (.laneFault (f :: fs)) := by
  cases hengine : k.engine with
  | lane =>
    rw [execute_of_accepted hctx hc hl (startable_of_accepted hk hengine hl)]
    simp only [Compiled.laneRun, hengine] at hend
    exact k.laneOrder_ends c.fuel l.heaps hend _
  | sequential =>
    obtain ⟨hlanes, hanswer⟩ := execute_sequential hk hengine hctx hc hl
    have hready : (k.laneRun c.fuel l.heaps 0).2 ≠ .notRunnable := by
      simp only [Compiled.laneRun, hengine]
      exact Machine.run_ne_notRunnable rfl c.fuel
    have hended := hend 0 (by omega)
    rw [hanswer]
    generalize k.laneRun c.fuel l.heaps 0 = ran at hready hended
    obtain ⟨m, outcome⟩ := ran
    cases outcome with
    | halted r => exact .inl ⟨_, rfl⟩
    | faulted f => exact .inr ⟨f, [], rfl⟩
    | notRunnable => exact absurd rfl hready
    | unfinished => exact absurd rfl hended

/-- A compiled kernel compiles to itself, and every launch of it that the device accepts is safe. -/
theorem accepted_launch_safe (hk : K.compile = .ok k) :
    k.kernel.compile = .ok k ∧
      ∀ (c : Cpu) (ctx : Context) (h : Handle) (l : Launch) (g : Int), ctx.cancelled = false →
        c.kernel? h.id = some k → l.validate k.kernel c.defaultGroup c.maxGroup = .ok g →
        SafeLaunch k c.fuel l g.toNat (c.execute ctx h l) := by
  refine ⟨Kernel.compile_kernel hk, fun c ctx h l g hctx hc hl => ?_⟩
  have hfit := launchable_of_accepted hk hl
  have hv := (Launch.groupFor_eq_ok_iff _ _ _ _ _ _ _ _ _).1 hl
  have hlanes := Int.toNat_of_nonneg (Int.le_of_lt hv.lanes_pos)
  have hgroup : k.stackSize * g.toNat ≤ k.stackSize * l.lanes.toNat :=
    Nat.mul_le_mul_left _ hfit.group_le
  have hcells := hfit.cells_lt
  constructor
  case ends => exact execute_ends hk hctx hc hl
  case machines =>
    intro stack now lane hstack hnow
    obtain ⟨m, hm, hprepared, -, -⟩ := hfit.laneMachine_eq_ok hstack hnow lane
    exact ⟨m, hm, Machine.run_ne_notRunnable hprepared.unrun.1⟩
  case stretches =>
    intro s count i hsize hcount hslab hi
    have hle : k.stackSize * count ≤ k.stackSize * l.lanes.toNat := by
      rcases hcount with rfl | rfl
      · exact Nat.le_refl _
      · exact hgroup
    refine ⟨_, Stacks.stretch?_eq hslab (by rw [hsize]; omega) hi, ?_⟩
    have hstop : i * s.size + s.size ≤ s.slab.size := by
      rw [hslab, Nat.mul_comm s.size, ← Nat.succ_mul]
      exact Nat.mul_le_mul_right _ hi
    rw [Array.size_extract, Nat.min_eq_left hstop, Nat.add_sub_cancel_left, hsize]
  case bare_eq =>
    rw [execute_eq_launch hctx hc hl]
    exact hfit.launch?_eq c.fuel
  case slab_exact =>
    rw [← hlanes, Int64.ofInt_eq_ofNat, ← Int64.ofNat_mul, Int64.toInt_ofNat_of_lt hcells]
    exact Int.natCast_mul _ _
  case group_slab_exact =>
    rw [← Int64.ofNat_mul, Int64.toInt_ofNat_of_lt (Nat.lt_of_le_of_lt hgroup hcells)]
    exact Int.natCast_mul _ _

/-- Two lanes of four have no cell of their own, and this is all that goes wrong. -/
theorem ownCell_launch_safe :
    ∃ k : Compiled, ownCell.compile = .ok k ∧ k.kernel.compile = .ok k ∧
      let answer :=
        ({ fuel := 9, kernels := [("own", k)] } : Cpu).execute {} ⟨"own", name⟩ ownCellLaunch
      SafeLaunch k 9 ownCellLaunch 2 answer ∧ ∃ f fs, answer = .error (.laneFault (f :: fs)) := by
  let k := ownCell.compiled ⟨#[26, 26, 28, 0, 16]⟩ 0 .lane .grouped
  let c : Cpu := { fuel := 9, kernels := [("own", k)] }
  have hk : ownCell.compile = .ok k := ok_of_toOption_eq (by decide +kernel)
  have hl : ownCellLaunch.validate k.kernel c.defaultGroup c.maxGroup = .ok 2 := rfl
  obtain ⟨hself, hsafe⟩ := accepted_launch_safe hk
  have hlaunch := hsafe c {} ⟨"own", name⟩ ownCellLaunch 2 rfl rfl hl
  refine ⟨k, hk, hself, hlaunch, ?_⟩
  rcases hlaunch.ends (by decide +kernel) with ⟨done, hdone⟩ | hfaults
  · have hnone : (c.execute {} ⟨"own", name⟩ ownCellLaunch).toOption = none := by decide +kernel
    rw [hdone] at hnone
    cases hnone
  · exact hfaults

end Cpu

end Lanewise
