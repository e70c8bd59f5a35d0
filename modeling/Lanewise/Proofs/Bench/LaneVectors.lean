import Lanewise.Proofs.Bench.VectorLoop
import Lanewise.Proofs.LaneEngine.Processor

/-!
# Elementwise lane programs

A lane of an elementwise program reads the cells with its own number from the two input heaps and
writes the cell with its number of the output heap. A lane whose number is behind the last cell
faults at its first access. So no lane sees what another one has written, and after some lanes, one
after another, the output cells with their numbers have been replaced.

## Main definitions

* `Bench.Elementwise`: the elementwise programs.
* `Bench.Runs`: a compiled kernel that runs such a program.

## Main results

* `Bench.Elementwise.run_within`, `Bench.Elementwise.run_beyond`: the run of one lane.
* `Bench.Elementwise.heapsAt_eq`: the heaps after some lanes.
* `Bench.Elementwise.laneOrder_within`, `Bench.Elementwise.laneOrder_beyond`: the answer of a
  launch.
-/

namespace Lanewise

/-- The machine that a lane starts is one that has not run. -/
theorem Cpu.Startable.prepared {k : Compiled} {heaps : Array Heap} (h : Startable k heaps)
    (lane : Nat) : (k.laneStart heaps lane).Prepared := by
  have hmachine := h.laneMachine_eq lane
  rw [Cpu.laneMachine, h.engine_eq] at hmachine
  exact .create hmachine

namespace Bench

/-! ### The program -/

/-- The elementwise programs, with the opcodes that combine the inputs and what these compute. -/
inductive Elementwise : Program → Opcode → (Word → Word → Word) → Prop
  | add : Elementwise vectorAddLanes .iadd (· + ·)
  | mul : Elementwise vectorMulLanes .imul (· * ·)

/-- The instructions of a lane program. -/
def laneCode (op : Opcode) : List (Opcode × List Word) :=
  [(.threadId, []), (.dup, []), (.parallelGloadIndexed, [0]), (.threadId, []),
    (.parallelGloadIndexed, [1]), (op, []), (.parallelGstoreIndexed, [2]), (.halt, [])]

/-- The instructions of a lane program at their places. -/
def laneListing (op : Opcode) : List Instruction :=
  Program.placeFrom 0 (laneCode op)

variable {program : Program} {op : Opcode} {f : Word → Word → Word}

theorem Elementwise.walk_eq (h : Elementwise program op f) : program.walk = laneListing op := by
  cases h with
  | add | mul =>
    refine Program.walk_eq_placeFrom ?_ rfl
    simp [laneCode, Opcode.operands]

theorem Elementwise.meets (h : Elementwise program op f) :
    ∀ i ∈ program.walk, i.op.modes.meets Engine.lane.modes = true := by
  rw [h.walk_eq]
  cases h with
  | add | mul =>
    simp only [laneListing, laneCode, Program.placeFrom, List.forall_mem_cons]
    decide

theorem Elementwise.comm (h : Elementwise program op f) (a b : Word) : f a b = f b a := by
  cases h with
  | add => exact Int32.add_comm a b
  | mul => exact Int32.mul_comm a b

/-! ### One lane -/

/-- The setting of a lane. -/
def laneSetting (program : Program) (lane : Word) (room : Nat) : Setting :=
  ⟨program, .lane, lane, room⟩

section Blocks

variable {h₀ h₁ h₂ : Heap} {a b : Word} (lane : Word) (room : Nat) (heaps : Array Heap)
  (printed : Array Word)

variable {lane room} in
/-- Steps through some of the instructions. -/
theorem Elementwise.advance (h : Elementwise program op f) {v v' : View} (start stop : Nat)
    (hthrough : View.through lane room ((laneListing op).extract start stop) v = some v') :
    View.advance (laneSetting program lane room) ((laneListing op).extract start stop).length v =
      some v' := by
  refine View.advance_through (s := laneSetting program lane room) (fun i hi => ?_) h.meets hthrough
  rw [laneSetting, h.walk_eq]
  exact List.mem_of_mem_drop (List.mem_of_mem_take hi)

theorem Elementwise.start (h : Elementwise program op f) (hroom : 3 ≤ room) :
    View.advance (laneSetting program lane room) 2 ⟨0, [], heaps, printed⟩ =
      some ⟨2, [lane, lane], heaps, printed⟩ := by
  refine h.advance 0 2 ?_
  have hroom₀ : 0 < room := by omega
  have hroom₁ : 1 < room := by omega
  simp [laneListing, laneCode, Program.placeFrom, View.through, View.exec, View.push,
    Instruction.next, Instruction.size, hroom₀, hroom₁]

/-- A lane that has cells of its own combines the inputs into the output. -/
theorem Elementwise.within (h : Elementwise program op f) (hroom : 3 ≤ room)
    (ha : h₀.load? lane.toInt = some a) (hb : h₁.load? lane.toInt = some b)
    (hholds : h₂.holds lane.toInt = true) :
    View.advance (laneSetting program lane room) 5 ⟨2, [lane, lane], #[h₀, h₁, h₂], printed⟩ =
      some ⟨10, [], #[h₀, h₁, h₂.setIfInBounds lane.toInt.toNat (f a b)], printed⟩ := by
  refine h.advance 2 7 ?_
  rw [h.comm a b]
  have hroom₁ : 1 < room := by omega
  have hroom₂ : 2 < room := by omega
  cases h with
  | add | mul =>
    simp [laneListing, laneCode, Program.placeFrom, View.through, View.exec, View.push,
      View.popThen, View.binary, View.pop2Then, View.selectThen, View.loadCell, View.storeCell,
      Instruction.next, Instruction.size, hroom₁, hroom₂, ha, hb, hholds]

theorem Elementwise.halts (h : Elementwise program op f) :
    View.step (laneSetting program lane room) ⟨10, [], heaps, printed⟩ =
      .halt ⟨11, [], heaps, printed⟩ := by
  have hmem : ⟨10, .halt, []⟩ ∈ program.walk := by
    simp [h.walk_eq, laneListing, laneCode, Program.placeFrom]
  exact View.step_of_mem_walk (s := laneSetting program lane room) hmem (h.meets _ hmem) rfl

/-- A lane that has none fails at its first access. -/
theorem Elementwise.beyond (h : Elementwise program op f) (h₁ h₂ : Heap)
    (hload : h₀.load? lane.toInt = none) :
    View.step (laneSetting program lane room) ⟨2, [lane, lane], #[h₀, h₁, h₂], printed⟩ =
      .fail .heapIndexOutOfRange := by
  have hmem : ⟨2, .parallelGloadIndexed, [0]⟩ ∈ program.walk := by
    simp [h.walk_eq, laneListing, laneCode, Program.placeFrom]
  rw [View.step_of_mem_walk (s := laneSetting program lane room) hmem (h.meets _ hmem) rfl]
  simp [View.exec, View.selectThen, View.popThen, View.loadCell, hload]

end Blocks

/-! ### Lanes of a kernel -/

/-- A compiled kernel that runs a program as lanes from its start, without a step budget. -/
structure Runs (program : Program) (k : Compiled) : Prop where
  program_eq : k.program = program
  entry_eq : k.entry = 0
  engine_eq : k.engine = .lane
  stack_ge : 3 ≤ k.stackSize
  free : k.maxSteps = 0

/-- The numbers below a bound that are not below another one. -/
theorem filter_range_le {a b : Nat} (h : a ≤ b) :
    (List.range b).filter (fun i => decide (a ≤ i)) = List.range' a (b - a) := by
  obtain ⟨n, rfl⟩ := Nat.exists_eq_add_of_le h
  have hbelow : (List.range a).filter (fun i => decide (a ≤ i)) = [] :=
    List.filter_eq_nil_iff.2 fun i hi => by
      rw [decide_eq_true_eq]
      exact Nat.not_le.2 (List.mem_range.1 hi)
  have habove : ((List.range n).map (a + ·)).filter (fun i => decide (a ≤ i)) =
      (List.range n).map (a + ·) :=
    List.filter_eq_self.2 fun i hi => by
      obtain ⟨j, -, rfl⟩ := List.mem_map.1 hi
      exact decide_eq_true (Nat.le_add_right a j)
  rw [List.range_add, List.filter_append, hbelow, habove, Nat.add_sub_cancel_left, List.nil_append,
    List.range'_eq_map_range]

section Lanes

variable {k : Compiled} {h₀ h₁ h₂ : Heap} {fuel lane : Nat}

theorem Elementwise.startable (h : Elementwise program op f) (hk : Runs program k)
    (h₀ h₁ h₂ : Heap) :
    Cpu.Startable k #[h₀, h₁, h₂] where
  engine_eq := hk.engine_eq
  entry_ok := by
    rw [hk.program_eq, hk.entry_eq]
    cases h <;> rfl
  stack_pos := Nat.lt_of_lt_of_le (by decide) hk.stack_ge
  heaps_pos := Nat.succ_pos 2

theorem Elementwise.prepared (h : Elementwise program op f) (hk : Runs program k) (h₀ h₁ h₂ : Heap)
    (lane : Nat) : (k.laneStart #[h₀, h₁, h₂] lane).Prepared :=
  (h.startable hk h₀ h₁ h₂).prepared lane

theorem laneStart_setting (hk : Runs program k) (heaps : Array Heap) (lane : Nat) :
    (k.laneStart heaps lane).setting = laneSetting program (Int32.ofNat lane) k.stackSize := by
  rw [Machine.setting, Compiled.laneStart, hk.program_eq, Array.size_replicate]
  rfl

theorem laneStart_view (hk : Runs program k) (heaps : Array Heap) (lane : Nat) :
    (k.laneStart heaps lane).view = ⟨0, [], heaps, #[]⟩ := by
  rw [Machine.view, Machine.cells_eq_nil rfl, Compiled.laneStart, hk.entry_eq]
  rfl

/-- The run of a lane that has cells of its own. -/
theorem Elementwise.run_within (h : Elementwise program op f) (hk : Runs program k)
    (h₀ h₁ h₂ : Heap) (hfuel : 8 ≤ fuel) (hlane : lane < maxHeapSize) (hsize₀ : lane < h₀.size)
    (hsize₁ : lane < h₁.size) (hsize₂ : lane < h₂.size) :
    ∃ m', (k.laneStart #[h₀, h₁, h₂] lane).run fuel = (m', .halted ⟨#[], 8⟩) ∧ m'.steps = 8 ∧
      m'.heaps = #[h₀, h₁, h₂.setIfInBounds lane (f (h₀.getD lane 0) (h₁.getD lane 0))] := by
  have hbound : lane < 16777216 := hlane
  have htoInt : (Int32.ofNat lane).toInt = lane := Int32.toInt_ofNat_of_lt (by omega)
  have hend := View.advance_trans (k := 5)
    (h.start (Int32.ofNat lane) k.stackSize #[h₀, h₁, h₂] #[] hk.stack_ge)
  rw [h.within _ _ _ hk.stack_ge (by rw [htoInt]; exact Heap.load?_natCast hsize₀)
    (by rw [htoInt]; exact Heap.load?_natCast hsize₁)
    (by rw [htoInt]; exact Heap.holds_natCast.2 hsize₂), htoInt, Int.toNat_natCast,
    ← laneStart_setting hk #[h₀, h₁, h₂], ← laneStart_view hk _ lane] at hend
  have hhalt := h.halts (Int32.ofNat lane) k.stackSize
    #[h₀, h₁, h₂.setIfInBounds lane (f (h₀.getD lane 0) (h₁.getD lane 0))] #[]
  rw [← laneStart_setting hk #[h₀, h₁, h₂]] at hhalt
  obtain ⟨m', hrun, -, hsteps, -, hview⟩ :=
    (h.prepared hk h₀ h₁ h₂ lane).run_halts hk.free hend hhalt hfuel
  exact ⟨m', hrun, hsteps, congrArg View.heaps hview⟩

/-- The run of a lane that has none. -/
theorem Elementwise.run_beyond (h : Elementwise program op f) (hk : Runs program k)
    (h₀ h₁ h₂ : Heap) (hfuel : 3 ≤ fuel) (hlane : lane < maxLanes) (hsize : h₀.size ≤ lane) :
    ∃ m' fault, (k.laneStart #[h₀, h₁, h₂] lane).run fuel = (m', .faulted fault) ∧
      m'.heaps = #[h₀, h₁, h₂] ∧ fault.reason = .kind .heapIndexOutOfRange ∧ fault.ip = 2 := by
  have hbound : lane < 1048576 := hlane
  have htoInt : (Int32.ofNat lane).toInt = lane := Int32.toInt_ofNat_of_lt (by omega)
  have hstart := h.start (Int32.ofNat lane) k.stackSize #[h₀, h₁, h₂] #[] hk.stack_ge
  rw [← laneStart_setting hk #[h₀, h₁, h₂], ← laneStart_view hk _ lane] at hstart
  have hfail := h.beyond (Int32.ofNat lane) k.stackSize #[] h₁ h₂
    (by rw [htoInt]; exact Heap.load?_natCast_of_le hsize)
  rw [← laneStart_setting hk #[h₀, h₁, h₂]] at hfail
  obtain ⟨m', fault, hrun, hheaps, hreason, hip, -⟩ :=
    (h.prepared hk h₀ h₁ h₂ lane).run_faults hk.free hstart hfail hfuel
  exact ⟨m', fault, hrun, hheaps, hreason, hip⟩

/-- The cell that a lane writes. -/
def combineAt (f : Word → Word → Word) (h₀ h₁ : Heap) (i : Nat) : Word :=
  f (h₀.getD i 0) (h₁.getD i 0)

/-- After some lanes, the output cells with their numbers have been replaced. -/
theorem Elementwise.heapsAt_eq (h : Elementwise program op f) (hk : Runs program k)
    (hfuel : 8 ≤ fuel) (hlane : lane ≤ maxLanes) (hsize₁ : h₁.size = h₀.size)
    (hsize₂ : h₂.size = h₀.size) :
    k.heapsAt fuel #[h₀, h₁, h₂] lane = #[h₀, h₁, h₂.replaceBelow lane (combineAt f h₀ h₁)] := by
  induction lane with
  | zero => rw [Compiled.heapsAt, Heap.replaceBelow_zero]
  | succ lane ih =>
    have hbound : lane + 1 ≤ 1048576 := hlane
    rw [Compiled.heapsAt, ih (by omega)]
    by_cases hin : lane < h₀.size
    · obtain ⟨m', hrun, -, hheaps⟩ := h.run_within hk h₀ h₁
        (h₂.replaceBelow lane (combineAt f h₀ h₁)) hfuel
        (Nat.lt_trans (Nat.lt_of_succ_le hlane) (by decide)) hin (by omega)
        (by rw [Heap.size_replaceBelow]; omega)
      rw [hrun, hheaps, Heap.replaceBelow_succ]
      rfl
    · obtain ⟨m', fault, hrun, hheaps, -⟩ := h.run_beyond hk h₀ h₁
        (h₂.replaceBelow lane (combineAt f h₀ h₁)) (by omega : 3 ≤ fuel)
        (Nat.lt_of_succ_le hlane) (Nat.not_lt.1 hin)
      rw [hrun, hheaps, Heap.replaceBelow_succ_of_le (by omega)]

variable {lanes : Nat}

/-- If every lane has cells of its own, each of them halts after eight instructions. -/
theorem Elementwise.inOrder_within (h : Elementwise program op f) (hk : Runs program k)
    (hfuel : 8 ≤ fuel) (hlane : lane < maxLanes) (hsize₁ : h₁.size = h₀.size)
    (hsize₂ : h₂.size = h₀.size) (hin : lane < h₀.size) :
    (k.inOrder fuel #[h₀, h₁, h₂] lane).2 = .halted ⟨#[], 8⟩ ∧
      (k.inOrder fuel #[h₀, h₁, h₂] lane).1.steps = 8 := by
  have hbound : lane < 1048576 := hlane
  obtain ⟨m', hrun, hsteps, -⟩ := h.run_within hk h₀ h₁
    (h₂.replaceBelow lane (combineAt f h₀ h₁)) hfuel (Nat.lt_trans hlane (by decide)) hin
    (by omega) (by rw [Heap.size_replaceBelow]; omega)
  rw [Compiled.inOrder, h.heapsAt_eq hk hfuel (Nat.le_of_lt hlane) hsize₁ hsize₂, hrun]
  exact ⟨rfl, hsteps⟩

theorem Elementwise.inOrder_beyond (h : Elementwise program op f) (hk : Runs program k)
    (hfuel : 8 ≤ fuel) (hlane : lane < maxLanes) (hsize₁ : h₁.size = h₀.size)
    (hsize₂ : h₂.size = h₀.size) (hout : h₀.size ≤ lane) :
    ∃ fault, (k.inOrder fuel #[h₀, h₁, h₂] lane).2 = .faulted fault ∧
      fault.reason = .kind .heapIndexOutOfRange ∧ fault.ip = 2 := by
  obtain ⟨m', fault, hrun, -, hreason, hip⟩ := h.run_beyond hk h₀ h₁
    (h₂.replaceBelow lane (combineAt f h₀ h₁)) (by omega : 3 ≤ fuel) hlane hout
  rw [Compiled.inOrder, h.heapsAt_eq hk hfuel (Nat.le_of_lt hlane) hsize₁ hsize₂, hrun]
  exact ⟨fault, rfl, hreason, hip⟩

/-- A launch over as many lanes as there are cells, or fewer. -/
theorem Elementwise.laneOrder_within (h : Elementwise program op f) (hk : Runs program k)
    (hfuel : 8 ≤ fuel) (hlanes : lanes ≤ maxLanes) (hsize₁ : h₁.size = h₀.size)
    (hsize₂ : h₂.size = h₀.size) (hin : lanes ≤ h₀.size) (groups : Int) :
    ∃ done, k.laneOrder fuel #[h₀, h₁, h₂] lanes groups = .ok done ∧
      done.heaps = k.heapsAt fuel #[h₀, h₁, h₂] lanes ∧ done.steps = UInt64.ofNat (8 * lanes) := by
  have hruns (lane : Nat) (hlane : lane < lanes) :=
    h.inOrder_within hk hfuel (Nat.lt_of_lt_of_le hlane hlanes) hsize₁ hsize₂
      (Nat.lt_of_lt_of_le hlane hin)
  obtain ⟨done, hdone, hheaps, -⟩ := k.laneOrder_eq_ok fuel #[h₀, h₁, h₂]
    (fun lane hlane => ⟨_, (hruns lane hlane).1⟩) groups
  have hsteps (n : Nat) (hn : n ≤ lanes) :
      ((k.runsBefore fuel #[h₀, h₁, h₂] n).map (·.1.steps)).foldl (· + ·) 0 =
        UInt64.ofNat (8 * n) := by
    induction n with
    | zero => rfl
    | succ n ih =>
      rw [Compiled.runsBefore_succ, List.map_append, List.foldl_append, ih (by omega), Nat.mul_succ,
        UInt64.ofNat_add]
      exact congrArg (UInt64.ofNat (8 * n) + ·) (hruns n (by omega)).2
  exact ⟨done, hdone, hheaps, (k.laneOrder_steps fuel _ hdone).trans
    (hsteps lanes (Nat.le_refl lanes))⟩

/-- A launch over more lanes than there are cells. -/
theorem Elementwise.laneOrder_beyond (h : Elementwise program op f) (hk : Runs program k)
    (hfuel : 8 ≤ fuel) (hlanes : lanes ≤ maxLanes) (hsize₁ : h₁.size = h₀.size)
    (hsize₂ : h₂.size = h₀.size) (hout : h₀.size < lanes) (groups : Int) :
    ∃ faults, k.laneOrder fuel #[h₀, h₁, h₂] lanes groups = .error (.laneFault faults) ∧
      faults.map (·.lane.toInt) = (List.range' h₀.size (lanes - h₀.size)).map Int.ofNat ∧
      ∀ fault ∈ faults, fault.reason = .kind .heapIndexOutOfRange ∧ fault.ip = 2 := by
  have hbound : lanes ≤ 1048576 := hlanes
  have hwithin {lane : Nat} (hlane : lane < lanes) (hin : lane < h₀.size) :=
    (h.inOrder_within hk hfuel (Nat.lt_of_lt_of_le hlane hlanes) hsize₁ hsize₂ hin).1
  have hbeyond {lane : Nat} (hlane : lane < lanes) (hle : h₀.size ≤ lane) :=
    h.inOrder_beyond hk hfuel (Nat.lt_of_lt_of_le hlane hlanes) hsize₁ hsize₂ hle
  have hfaults {lane : Nat} (hlane : lane < lanes) :
      k.faultsAt fuel #[h₀, h₁, h₂] lane = decide (h₀.size ≤ lane) := by
    by_cases hin : lane < h₀.size
    · rw [Compiled.faultsAt, hwithin hlane hin, decide_eq_false (Nat.not_le.2 hin)]
      rfl
    · obtain ⟨fault, hfault, -⟩ := hbeyond hlane (Nat.not_lt.1 hin)
      rw [Compiled.faultsAt, hfault, decide_eq_true (Nat.not_lt.1 hin)]
      rfl
  have hend (lane : Nat) (hlane : lane < lanes) :
      (k.inOrder fuel #[h₀, h₁, h₂] lane).2 ≠ .unfinished := by
    by_cases hin : lane < h₀.size
    · rw [hwithin hlane hin]
      exact Machine.Outcome.noConfusion
    · obtain ⟨fault, hfault, -⟩ := hbeyond hlane (Nat.not_lt.1 hin)
      rw [hfault]
      exact Machine.Outcome.noConfusion
  refine ⟨_, k.laneOrder_eq_faults fuel _ hend
    ⟨h₀.size, hout, by rw [hfaults hout]; exact decide_eq_true (Nat.le_refl _)⟩ groups, ?_, ?_⟩
  · rw [Cpu.faults_lanes (Nat.lt_of_lt_of_le (by decide) hk.stack_ge) fuel _ (by omega),
      List.filter_congr fun lane hlane => hfaults (List.mem_range.1 hlane)]
    exact congrArg (List.map Int.ofNat) (filter_range_le (Nat.le_of_lt hout))
  · intro fault hmem
    obtain ⟨x, hx, hfault⟩ := List.mem_filterMap.1 hmem
    obtain ⟨lane, hlane, rfl⟩ := List.mem_map.1 hx
    have hlane := List.mem_range.1 hlane
    by_cases hin : lane < h₀.size
    · rw [hwithin hlane hin] at hfault
      cases hfault
    · obtain ⟨fault', hfault', hreason⟩ := hbeyond hlane (Nat.not_lt.1 hin)
      rw [hfault'] at hfault
      obtain rfl := Option.some.inj hfault
      exact hreason

end Lanes

end Bench

end Lanewise
