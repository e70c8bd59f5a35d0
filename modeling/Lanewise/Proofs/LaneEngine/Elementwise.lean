import Lanewise.Proofs.Bench.LaneVectors

/-!
# Elementwise programs on the lane engine

The lane engine puts its heaps into a launch and takes them back, so an elementwise program leaves
its inputs as they are and combines them in the output, cell by cell. If there are more lanes than
cells, the lanes that have no cells fault, and the engine keeps its heaps. Neither the group size
nor the placement of the stacks shows in this.

A launch is bounded by the number of its lanes and of all their stack cells together, but the kernel
is refused before that if the stack of a single lane is too large.

## Main results

* `Bench.vectorAddLanes_deep`: a stack that is too large for a kernel, though not for a launch.
* `Bench.elementwise_run`: what elementwise programs do on the lane engine.
-/

namespace Lanewise

/-! ### Heaps of an engine -/

theorem Heap.overlay_zeros (values : Array Word) : (zeros values.size).overlay values = values := by
  refine Array.ext_getElem? fun i => ?_
  rw [overlay, Array.getElem?_mapIdx, zeros, Array.getElem?_replicate]
  by_cases hi : i < values.size
  · rw [if_pos hi, Option.map_some, Array.getD_eq_getD_getElem?, Array.getElem?_eq_getElem hi]
    rfl
  · rw [if_neg hi, Option.map_none, Array.getElem?_eq_none (Nat.not_lt.1 hi)]

/-- A heap that is set as a whole. -/
theorem LaneEngine.ask_setHeap {σ : Type} [Backend σ] {e : LaneEngine σ} (selector : Int)
    (old : Heap) {values : Heap} (hold : e.heap selector = .ok old)
    (hsize : values.size = old.size) :
    (e.ask (.setHeap selector values)).2 =
      { e with heaps := e.heaps.setIfInBounds selector.toNat values } := by
  rw [ask, setHeap_eq_ok_iff.2 ⟨old, hold, Nat.le_of_eq hsize, rfl⟩, ← hsize, Heap.overlay_zeros]

namespace Bench

variable {program : Program} {op : Opcode} {f : Word → Word → Word} {e : LaneEngine Cpu} {c : Cpu}
  {h₀ h₁ h₂ : Heap} {placement : Placement} {stackSize heapSize lanes : Nat} {groupSize : Int}

/-! ### Engines with three heaps -/

/-- A lane engine on the processor that has prepared nothing, with a program and three heaps. -/
structure Loaded (program : Program) (stackSize : Nat) (placement : Placement) (h₀ h₁ h₂ : Heap)
    (c : Cpu) (e : LaneEngine Cpu) : Prop where
  program_eq : e.program = program
  entry_eq : e.entry = 0
  stack_eq : e.stackSize = stackSize
  placement_eq : e.placement = placement.number
  free : e.maxSteps = 0
  heaps_eq : e.heaps = #[h₀, h₁, h₂]
  device_eq : e.device = some c
  handle_eq : e.handle = none

theorem Loaded.stackCells_eq (he : Loaded program stackSize placement h₀ h₁ h₂ c e)
    (hstack : 3 ≤ stackSize) : e.kernel.stackCells = stackSize := by
  rw [Kernel.stackCells, show e.kernel.stackSize = stackSize from he.stack_eq]
  exact if_neg (Int.natCast_ne_zero.2 (by omega))

theorem Elementwise.verify_ok (h : Elementwise program op f) : program.verify .lane = .ok () := by
  cases h with
  | add | mul => exact ok_of_toOption_eq (by decide +kernel)

/-- The kernel of an engine with an elementwise program compiles. -/
theorem Elementwise.compile (h : Elementwise program op f)
    (he : Loaded program stackSize placement h₀ h₁ h₂ c e) (hstack : 3 ≤ stackSize)
    (hstackLe : stackSize ≤ maxStackSize) (hsize₀ : h₀.size = heapSize)
    (hsize₁ : h₁.size = heapSize) (hsize₂ : h₂.size = heapSize) (hpos : 1 ≤ heapSize)
    (hle : heapSize ≤ maxHeapSize) :
    ∃ k, e.kernel.compile = .ok k ∧ Runs program k := by
  have hbound : heapSize ≤ 16777216 := hle
  have hcells := he.stackCells_eq hstack
  have hheaps : e.kernel.heaps = [(heapSize : Int), heapSize, heapSize] := by
    rw [LaneEngine.kernel, he.heaps_eq]
    simp [hsize₀, hsize₁, hsize₂]
  have hentry : program.checkEntry 0 = .ok () := by cases h <;> rfl
  refine ⟨_, (Kernel.compile_eq_ok_iff _ _).2 ⟨program, 0, .lane, placement, ?_, rfl⟩, ?_⟩
  · exact
      { resolve_eq := by rw [← he.program_eq, ← he.entry_eq]; rfl
        entry_ok := hentry
        engine_eq := rfl
        verify_ok := h.verify_ok
        stack_nonneg := by omega
        stack_le := by omega
        heaps_ne := by rw [hheaps]; exact List.cons_ne_nil _ _
        heaps_le := by rw [hheaps]; exact Nat.le_of_ble_eq_true rfl
        single_heap := fun hengine => by cases hengine
        capacities := by
          rw [hheaps]
          intro c hc
          simp only [List.mem_cons, List.not_mem_nil, or_false, or_self] at hc
          omega
        cells_le := by
          rw [Kernel.heapCells, hheaps]
          simp only [List.foldl_cons, List.foldl_nil, maxHeapCells]
          omega
        placement_eq := by
          change Placement.ofNumber? e.placement = _
          rw [he.placement_eq]
          cases placement <;> rfl }
  · exact
      { program_eq := rfl
        entry_eq := rfl
        engine_eq := rfl
        stack_ge := by
          change 3 ≤ e.kernel.stackCells.toNat
          omega
        free := he.free }

/-- A new engine whose three heaps have been set. -/
theorem loaded_create (h : Elementwise program op f) (hstack : 3 ≤ stackSize) (hpos : 1 ≤ heapSize)
    (hle : heapSize ≤ maxHeapSize) (hsize₀ : h₀.size = heapSize) (hsize₁ : h₁.size = heapSize)
    (hsize₂ : h₂.size = heapSize) (placement : Placement) (trace : Bool) (c : Cpu) :
    ∃ e₀, LaneEngine.create program 0
        { stackSize, heapCount := 3, heapSize, placement := placement.number, trace } (some c) =
          .ok e₀ ∧
      Loaded program stackSize placement h₀ h₁ h₂ c
        (e₀.after [.setHeap 0 h₀, .setHeap 1 h₁, .setHeap 2 h₂]) := by
  have hentry : program.checkEntry 0 = .ok () := by cases h <;> rfl
  have hsize : LaneEngine.orDefault heapSize defaultHeapSize = heapSize :=
    if_neg (Int.natCast_ne_zero.2 (by omega))
  have hroom : LaneEngine.orDefault stackSize defaultStackSize = stackSize :=
    if_neg (Int.natCast_ne_zero.2 (by omega))
  have hfits : ¬((3 : Int) < 0 ∨ (maxHeapCount : Int) < 3 ∨ (heapSize : Int) < 0 ∨
      (maxHeapSize : Int) < heapSize ∨ (maxHeapCells : Int) < 3 * heapSize) := by
    simp only [maxHeapCount, maxHeapSize, maxHeapCells] at hle ⊢
    omega
  have hcreate : LaneEngine.create program 0
      { stackSize, heapCount := 3, heapSize, placement := placement.number, trace } (some c) = .ok
        { program, entry := 0, stackSize, placement := placement.number, trace, maxSteps := 0
          heaps := Array.replicate 3 (Heap.zeros heapSize), device := some c } := by
    unfold LaneEngine.create
    rw [hentry]
    dsimp only
    rw [hsize, hroom]
    exact if_neg hfits
  have hzeros : (Heap.zeros heapSize).size = heapSize := Array.size_replicate
  refine ⟨_, hcreate, ?_⟩
  rw [LaneEngine.after, List.foldl_cons, List.foldl_cons, List.foldl_cons, List.foldl_nil,
    LaneEngine.ask_setHeap 0 (Heap.zeros heapSize) rfl (hsize₀.trans hzeros.symm),
    LaneEngine.ask_setHeap 1 (Heap.zeros heapSize) rfl (hsize₁.trans hzeros.symm),
    LaneEngine.ask_setHeap 2 (Heap.zeros heapSize) rfl (hsize₂.trans hzeros.symm)]
  exact ⟨rfl, rfl, rfl, rfl, rfl, rfl, rfl, rfl⟩

/-! ### Runs -/

/-- An elementwise program combines two heaps of an engine in the third one, in eight steps for each
lane, if there are as many cells as lanes, or more. Otherwise exactly the lanes that have no cells
fault, each of them at its first access to a heap, and the heaps stay as they were. -/
theorem elementwise_run (h : Elementwise program op f) (hc : c.Numbered) (hfuel : 8 ≤ c.fuel)
    (hstack : 3 ≤ stackSize) (hstackLe : stackSize ≤ maxStackSize) (hlanes : 1 ≤ lanes)
    (hlanesLe : lanes ≤ maxLanes) (hcells : lanes * stackSize ≤ maxStackCells) (hpos : 1 ≤ heapSize)
    (hle : heapSize ≤ maxHeapSize) (hsize₀ : h₀.size = heapSize) (hsize₁ : h₁.size = heapSize)
    (hsize₂ : h₂.size = heapSize) (placement : Placement) (trace : Bool) (hgroup : 0 ≤ groupSize)
    (hlimit : groupSize ≠ 0 → 0 < c.maxGroup → groupSize ≤ c.maxGroup)
    (hdvd : groupSize ≠ 0 → (lanes : Int) % groupSize = 0) :
    ∃ e₀ e, LaneEngine.create program 0
        { stackSize, heapCount := 3, heapSize, placement := placement.number, trace } (some c) =
          .ok e₀ ∧
      e = e₀.after [.setHeap 0 h₀, .setHeap 1 h₁, .setHeap 2 h₂] ∧ e.heaps = #[h₀, h₁, h₂] ∧
      (lanes ≤ heapSize → ∃ done h₂', (e.run {} lanes groupSize).1 = .ok done ∧
        done.steps.toNat = 8 * lanes ∧ (e.run {} lanes groupSize).2.heaps = #[h₀, h₁, h₂'] ∧
        h₂'.size = heapSize ∧ (∀ i < lanes, h₂'[i]? = some (f (h₀.getD i 0) (h₁.getD i 0))) ∧
        ∀ i, lanes ≤ i → h₂'[i]? = h₂[i]?) ∧
      (heapSize < lanes → ∃ faults, (e.run {} lanes groupSize).1 =
        .error (.device (.laneFault faults)) ∧
        faults.map (·.lane.toInt) = (List.range' heapSize (lanes - heapSize)).map Int.ofNat ∧
        (∀ fault ∈ faults, fault.reason = .kind .heapIndexOutOfRange ∧ fault.ip = 2) ∧
        (e.run {} lanes groupSize).2.heaps = #[h₀, h₁, h₂]) := by
  have hbound : lanes ≤ 1048576 := hlanesLe
  obtain ⟨e₀, hcreate, he⟩ := loaded_create h hstack hpos hle hsize₀ hsize₁ hsize₂ placement trace c
  obtain ⟨k, hk, hruns⟩ := h.compile he hstack hstackLe hsize₀ hsize₁ hsize₂ hpos hle
  refine ⟨e₀, _, hcreate, rfl, he.heaps_eq, ?_⟩
  generalize e₀.after [.setHeap 0 h₀, .setHeap 1 h₁, .setHeap 2 h₂] = e at he hk
  have hcellsInt : e.kernel.stackCells * (lanes : Int) ≤ maxStackCells := by
    rw [he.stackCells_eq hstack, Int.mul_comm]
    exact_mod_cast hcells
  have hvalid : ({ heaps := e.heaps, lanes, groupSize } : Launch).validate k.kernel c.defaultGroup
      c.maxGroup = .ok (if groupSize = 0 then Launch.openGroup lanes c.defaultGroup c.maxGroup
        else groupSize) :=
    LaneEngine.validate_eq hk (Int.natCast_pos.2 hlanes) (Int.ofNat_le.2 hlanesLe) hcellsInt hgroup
      hlimit hdvd
  generalize (if groupSize = 0 then
    Launch.openGroup lanes c.defaultGroup c.maxGroup else groupSize) = g
    at hvalid
  have hsize₁' : h₁.size = h₀.size := hsize₁.trans hsize₀.symm
  have hsize₂' : h₂.size = h₀.size := hsize₂.trans hsize₀.symm
  constructor
  · intro hin
    obtain ⟨done, hdone, hheaps, hsteps⟩ := h.laneOrder_within hruns hfuel hlanesLe hsize₁' hsize₂'
      (hsize₀.symm ▸ hin) (lanes / g)
    rw [← he.heaps_eq] at hdone hheaps
    have hok := LaneEngine.run_of_laneOrder he.device_eq he.handle_eq hc hk hruns.engine_eq hvalid
      (by rw [Int.toNat_natCast]; exact hdone) (by rw [Int.toNat_natCast]; exact hheaps)
    rw [he.heaps_eq, h.heapsAt_eq hruns hfuel hlanesLe hsize₁' hsize₂'] at hheaps
    refine ⟨done, _, hok, ?_, ?_, Heap.size_replaceBelow.trans hsize₂,
      fun i hi => Heap.getElem?_replaceBelow_of_lt hi (by omega),
      fun i hi => Heap.getElem?_replaceBelow_of_le hi⟩
    · rw [hsteps, UInt64.toNat_ofNat', Nat.mod_eq_of_lt (by omega)]
    · exact (LaneEngine.run_heaps hok).trans hheaps
  · intro hout
    obtain ⟨faults, hfaults, hlist, hall⟩ := h.laneOrder_beyond hruns hfuel hlanesLe hsize₁' hsize₂'
      (hsize₀.symm ▸ hout) (lanes / g)
    rw [← he.heaps_eq] at hfaults
    obtain ⟨herr, hkept⟩ := LaneEngine.run_of_laneOrder_error he.device_eq he.handle_eq hc hk
      hruns.engine_eq hvalid (by rw [Int.toNat_natCast]; exact hfaults)
    rw [hsize₀] at hlist
    exact ⟨faults, herr, hlist, hall, hkept.trans he.heaps_eq⟩

/-- Two cells and a processor whose groups have at most two lanes: two lanes in one group multiply,
and of four lanes in groups of two the last two fault. -/
theorem vectorMulLanes_two_cells :
    (∃ e₀ e, LaneEngine.create vectorMulLanes 0
        { stackSize := (3 : Nat), heapCount := 3, heapSize := (2 : Nat),
          placement := Placement.number .grouped }
        (some ({ fuel := 8, maxGroup := 2 } : Cpu)) = .ok e₀ ∧
      e = e₀.after [.setHeap 0 #[3, 65536], .setHeap 1 #[-4, 65537], .setHeap 2 #[1, 1]] ∧
      ∃ done h₂', (e.run {} (2 : Nat) 0).1 = .ok done ∧ done.steps.toNat = 16 ∧
        (e.run {} (2 : Nat) 0).2.heaps = #[#[3, 65536], #[-4, 65537], h₂'] ∧ h₂'.size = 2 ∧
        h₂'[0]? = some (-12 : Word) ∧ h₂'[1]? = some (65536 : Word)) ∧
    ∃ e₀ e faults, LaneEngine.create vectorMulLanes 0
        { stackSize := (3 : Nat), heapCount := 3, heapSize := (2 : Nat),
          placement := Placement.number .separate }
        (some ({ fuel := 8, maxGroup := 2 } : Cpu)) = .ok e₀ ∧
      e = e₀.after [.setHeap 0 #[3, 65536], .setHeap 1 #[-4, 65537], .setHeap 2 #[1, 1]] ∧
      (e.run {} (4 : Nat) 2).1 = .error (.device (.laneFault faults)) ∧
      faults.map (·.lane.toInt) = [2, 3] ∧
      (∀ fault ∈ faults, fault.reason = .kind .heapIndexOutOfRange ∧ fault.ip = 2) ∧
      (e.run {} (4 : Nat) 2).2.heaps = #[#[3, 65536], #[-4, 65537], #[1, 1]] := by
  have hc : ({ fuel := 8, maxGroup := 2 } : Cpu).Numbered := fun p hp => by cases hp
  constructor
  · obtain ⟨e₀, e, hcreate, hafter, -, hwithin, -⟩ := elementwise_run .mul hc (by decide)
      (by decide : 3 ≤ 3) (by decide) (by decide : 1 ≤ 2) (by decide) (by decide)
        (by decide : 1 ≤ 2)
      (by decide) (rfl : Array.size (#[3, 65536] : Heap) = 2)
        (rfl : Array.size (#[-4, 65537] : Heap) = 2)
      (rfl : Array.size (#[1, 1] : Heap) = 2) .grouped false (by decide : (0 : Int) ≤ 0) (by decide)
      (by decide)
    obtain ⟨done, h₂', hdone, hsteps, hheaps, hsize, hcells, -⟩ := hwithin (by decide)
    exact ⟨e₀, e, hcreate, hafter, done, h₂', hdone, hsteps, hheaps, hsize, hcells 0 (by decide),
      hcells 1 (by decide)⟩
  · obtain ⟨e₀, e, hcreate, hafter, -, -, hbeyond⟩ := elementwise_run .mul hc (by decide)
      (by decide : 3 ≤ 3) (by decide) (by decide : 1 ≤ 4) (by decide) (by decide)
      (by decide : 1 ≤ 2) (by decide) (rfl : Array.size (#[3, 65536] : Heap) = 2)
      (rfl : Array.size (#[-4, 65537] : Heap) = 2) (rfl : Array.size (#[1, 1] : Heap) = 2)
      .separate false (by decide : (0 : Int) ≤ 2) (by decide) (by decide)
    obtain ⟨faults, hfaults, hlist, hall, hheaps⟩ := hbeyond (by decide)
    exact ⟨e₀, e, faults, hcreate, hafter, hfaults, hlist, hall, hheaps⟩

/-- One lane whose stack has a cell more than the stack of a kernel may have, though far fewer than
all stacks of a launch may have together: the program is not run. -/
theorem vectorAddLanes_deep :
    3 ≤ maxStackSize + 1 ∧ 1 ≤ maxLanes ∧ 1 * (maxStackSize + 1) ≤ maxStackCells ∧
      ∃ e₀ e, LaneEngine.create vectorAddLanes 0
          { stackSize := (maxStackSize + 1 : Nat), heapCount := 3, heapSize := 1 }
          (some ({ fuel := 8 } : Cpu)) = .ok e₀ ∧
        e = e₀.after [.setHeap 0 #[5], .setHeap 1 #[7]] ∧ e.heaps = #[#[5], #[7], #[0]] ∧
        (e.run {} 1 0).1 = .error (.device (.compileFailure "stack size 1048577")) ∧
        (e.run {} 1 0).2.heaps = #[#[5], #[7], #[0]] := by
  let e₀ : LaneEngine Cpu :=
    { program := vectorAddLanes, entry := 0, stackSize := (maxStackSize + 1 : Nat), placement := 0
      trace := false, maxSteps := 0, heaps := Array.replicate 3 #[0], device := some { fuel := 8 } }
  let e := e₀.after [.setHeap 0 #[5], .setHeap 1 #[7]]
  have hrun : (match (e.run {} 1 0).1 with
      | .error err => some err
      | .ok _ => none) = some (.device (.compileFailure "stack size 1048577")) := by decide +kernel
  refine ⟨by decide, by decide, by decide, e₀, e, rfl, rfl, by decide +kernel,
    ?_, by decide +kernel⟩
  split at hrun
  · next err herr => rw [herr, Option.some.inj hrun]
  · cases hrun

end Bench

end Lanewise
