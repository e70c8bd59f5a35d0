import Lanewise.Device.Launch
import Lanewise.Proofs.Program.Walk

/-!
# What devices accept

Compiling a kernel and validating a launch succeed exactly when a list of conditions holds. The
lists are stated once, and all that is known about accepted kernels and launches follows from them.

## Main definitions

* `Kernel.Accepted`: the conditions under which a kernel compiles.
* `Launch.Accepted`: the conditions under which a launch gets a group size.

## Main results

* `Kernel.compile_eq_ok_iff`, `Launch.groupFor_eq_ok_iff`: these are the exact conditions.
* `Kernel.compile_kernel`: a compiled kernel compiles to itself.
* `Launch.Accepted.group_pos`, `Launch.Accepted.group_dvd`: lanes fall into whole groups.
-/

namespace Lanewise

/-- A guard is passed exactly if its condition fails. -/
theorem guard_eq_ok_iff {ε α : Type} {c : Prop} [Decidable c] {e : ε} {x : Except ε α} {a : α} :
    (if c then .error e else x) = .ok a ↔ ¬c ∧ x = .ok a := by
  split
  · next h => simp [h]
  · next h => simp [h]

theorem ok_of_toOption_eq {ε α : Type} {x : Except ε α} {a : α} (h : x.toOption = some a) :
    x = .ok a := by
  cases x with
  | error e => cases h
  | ok b => rw [Option.some.inj h]

namespace Kernel

/-- The number of stack cells of a lane. -/
def stackCells (k : Kernel) : Int :=
  if k.stackSize = 0 then (defaultStackSize : Int) else k.stackSize

/-- A kernel that compiles, with what its references lead to. -/
structure Accepted (k : Kernel) (program : Program) (entry : Int) (engine : Engine)
    (placement : Placement) : Prop where
  resolve_eq : k.resolve = .ok (program, entry)
  entry_ok : program.checkEntry entry = .ok ()
  engine_eq : k.engine = .ok engine
  verify_ok : program.verify engine.modes = .ok ()
  stack_nonneg : 0 ≤ k.stackCells
  stack_le : k.stackCells ≤ maxStackSize
  heaps_ne : k.heaps ≠ []
  heaps_le : k.heaps.length ≤ maxHeapCount
  single_heap : engine = .sequential → k.heaps.length = 1
  capacities : ∀ c ∈ k.heaps, 0 < c ∧ c ≤ maxHeapSize
  cells_le : k.heapCells ≤ maxHeapCells
  placement_eq : Placement.ofNumber? k.placement = some placement

/-- The compiled form of an accepted kernel. -/
def compiled (k : Kernel) (program : Program) (entry : Int) (engine : Engine)
    (placement : Placement) : Compiled :=
  { program, entry := entry.toNat, engine, stackSize := k.stackCells.toNat,
    heaps := k.heaps.map Int.toNat, placement, trace := k.trace, maxSteps := k.maxSteps }

theorem checkHeaps_eq_ok_iff (i : Nat) (heaps : List Int) :
    checkHeaps i heaps = .ok () ↔ ∀ c ∈ heaps, 0 < c ∧ c ≤ maxHeapSize := by
  induction heaps generalizing i with
  | nil => simp [checkHeaps]
  | cons c rest ih =>
    rw [checkHeaps]
    split
    · next h => rw [ih, List.forall_mem_cons, and_iff_right h]
    · next h =>
      constructor
      · intro he
        cases he
      · intro hall
        exact absurd (hall c List.mem_cons_self) h

/-- A kernel compiles exactly if it is accepted. -/
theorem compile_eq_ok_iff (k : Kernel) (c : Compiled) :
    k.compile = .ok c ↔ ∃ program entry engine placement,
      k.Accepted program entry engine placement ∧
        c = k.compiled program entry engine placement := by
  constructor
  · intro h
    simp only [compile, bind, Except.bind, pure, Except.pure, throw, throwThe,
      MonadExceptOf.throw] at h
    cases hr : k.resolve with
    | error e => simp [hr] at h
    | ok r =>
      obtain ⟨program, entry⟩ := r
      simp only [hr] at h
      cases hentry : program.checkEntry entry with
      | error e => simp [hentry] at h
      | ok =>
        cases hengine : k.engine with
        | error e => simp [hentry, hengine] at h
        | ok engine =>
          cases hverify : program.verify engine.modes with
          | error e => simp [hentry, hengine, hverify] at h
          | ok =>
            simp only [hentry, hengine, hverify] at h
            change
              (if k.stackCells < 0 ∨ (maxStackSize : Int) < k.stackCells then _ else _) = _ at h
            rw [guard_eq_ok_iff, guard_eq_ok_iff, guard_eq_ok_iff, guard_eq_ok_iff] at h
            obtain ⟨hstack, hempty, hcount, hsingle, h⟩ := h
            cases hheaps : checkHeaps 0 k.heaps with
            | error e => simp [hheaps] at h
            | ok =>
              simp only [hheaps] at h
              rw [guard_eq_ok_iff] at h
              obtain ⟨hcells, h⟩ := h
              cases hplace : Placement.ofNumber? k.placement with
              | none => simp [hplace] at h
              | some placement =>
                simp only [hplace, Except.ok.injEq] at h
                refine ⟨program, entry, engine, placement, ?_, h.symm⟩
                exact
                  { resolve_eq := hr, entry_ok := hentry, engine_eq := hengine, verify_ok := hverify
                    stack_nonneg := by omega, stack_le := by omega
                    heaps_ne := by simpa using hempty, heaps_le := by omega
                    single_heap := fun he => Decidable.not_not.1 fun hne => hsingle ⟨he, hne⟩
                    capacities := (checkHeaps_eq_ok_iff 0 k.heaps).1 hheaps
                    cells_le := by omega, placement_eq := hplace }
  · rintro ⟨program, entry, engine, placement, h, rfl⟩
    have hstack : ¬(k.stackCells < 0 ∨ (maxStackSize : Int) < k.stackCells) := by
      have := h.stack_nonneg
      have := h.stack_le
      omega
    have hempty : ¬k.heaps.isEmpty = true := by simpa using h.heaps_ne
    have hcount : ¬maxHeapCount < k.heaps.length := Nat.not_lt.2 h.heaps_le
    have hsingle : ¬(engine = .sequential ∧ k.heaps.length ≠ 1) :=
      fun hs => hs.2 (h.single_heap hs.1)
    have hcells : ¬(maxHeapCells : Int) < k.heapCells := Int.not_lt.2 h.cells_le
    simp only [compile, bind, Except.bind, pure, Except.pure, throw, throwThe, MonadExceptOf.throw,
      h.resolve_eq, h.entry_ok, h.engine_eq, h.verify_ok]
    change (if k.stackCells < 0 ∨ (maxStackSize : Int) < k.stackCells then _ else _) = _
    rw [if_neg hstack, if_neg hempty, if_neg hcount, if_neg hsingle,
      (checkHeaps_eq_ok_iff 0 k.heaps).2 h.capacities]
    dsimp only
    rw [if_neg hcells, h.placement_eq]
    rfl

theorem stackCells_ne_zero (k : Kernel) : k.stackCells ≠ 0 := by
  unfold stackCells
  split
  · decide
  · assumption

section

variable {k : Kernel} {program : Program} {entry : Int} {engine : Engine} {placement : Placement}

theorem Accepted.stackCells_pos (h : k.Accepted program entry engine placement) :
    0 < k.stackCells := by
  have := h.stack_nonneg
  have := k.stackCells_ne_zero
  omega

theorem Accepted.entry_toNat (h : k.Accepted program entry engine placement) :
    (entry.toNat : Int) = entry :=
  Int.toNat_of_nonneg (Program.checkEntry_eq_ok_iff.1 h.entry_ok).1

/-- A kernel that was compiled is accepted again, as what it was compiled to. -/
theorem Accepted.kernel (h : k.Accepted program entry engine placement) :
    (k.compiled program entry engine placement).kernel.Accepted program entry engine placement ∧
      (k.compiled program entry engine placement).kernel.stackCells = k.stackCells ∧
      (k.compiled program entry engine placement).kernel.heaps = k.heaps := by
  have hstack : (k.compiled program entry engine placement).kernel.stackCells = k.stackCells := by
    have hsize : (k.stackCells.toNat : Int) = k.stackCells := Int.toNat_of_nonneg h.stack_nonneg
    change (if (k.stackCells.toNat : Int) = 0 then _ else (k.stackCells.toNat : Int)) = k.stackCells
    rw [hsize, if_neg k.stackCells_ne_zero]
  have hheaps : (k.compiled program entry engine placement).kernel.heaps = k.heaps := by
    change (k.heaps.map Int.toNat).map Int.ofNat = k.heaps
    rw [List.map_map]
    refine (List.map_congr_left fun c hc => ?_).trans (List.map_id k.heaps)
    exact Int.toNat_of_nonneg (Int.le_of_lt (h.capacities c hc).1)
  have hcells : (k.compiled program entry engine placement).kernel.heapCells = k.heapCells := by
    rw [heapCells, hheaps, heapCells]
  refine ⟨?_, hstack, hheaps⟩
  exact
    { resolve_eq := by
        change Except.ok (program, (entry.toNat : Int)) = _
        rw [h.entry_toNat]
      entry_ok := h.entry_ok
      engine_eq := by cases engine <;> rfl
      verify_ok := h.verify_ok
      stack_nonneg := hstack ▸ h.stack_nonneg
      stack_le := hstack ▸ h.stack_le
      heaps_ne := hheaps ▸ h.heaps_ne
      heaps_le := hheaps ▸ h.heaps_le
      single_heap := hheaps ▸ h.single_heap
      capacities := hheaps ▸ h.capacities
      cells_le := hcells ▸ h.cells_le
      placement_eq := by cases placement <;> rfl }

/-- Compiling what a kernel was compiled to changes nothing. -/
theorem compile_kernel {c : Compiled} (h : k.compile = .ok c) : c.kernel.compile = .ok c := by
  obtain ⟨program, entry, engine, placement, ha, rfl⟩ := (compile_eq_ok_iff k c).1 h
  obtain ⟨hkernel, hstack, hheaps⟩ := ha.kernel
  have hsame : ∀ k' : Kernel, k'.stackCells = k.stackCells → k'.heaps = k.heaps →
      k'.trace = k.trace → k'.maxSteps = k.maxSteps →
      k.compiled program entry engine placement = k'.compiled program entry engine placement := by
    intro k' hstack hheaps htrace hsteps
    rw [compiled, compiled, hstack, hheaps, htrace, hsteps]
  exact (compile_eq_ok_iff _ _).2
    ⟨program, entry, engine, placement, hkernel, hsame _ hstack hheaps rfl rfl⟩

end

end Kernel

namespace Launch

/-- A launch that gets the group size `g`. -/
structure Accepted (sequential : Bool) (stackSize : Int) (capacities : List Int)
    (heapSizes : List Nat) (lanes groupSize default limit g : Int) : Prop where
  lanes_pos : 0 < lanes
  lanes_le : lanes ≤ maxLanes
  single_lane : sequential = true → lanes = 1
  cells_le :
    (Int64.ofInt (if stackSize = 0 then (defaultStackSize : Int) else stackSize) *
      Int64.ofInt lanes).toInt ≤ maxStackCells
  heap_sizes : heapSizes.map Int.ofNat = capacities
  size_nonneg : 0 ≤ groupSize
  group_eq : g = if groupSize = 0 then openGroup lanes default limit else groupSize
  size_le : groupSize ≠ 0 → 0 < limit → groupSize ≤ limit
  size_dvd : groupSize ≠ 0 → lanes % groupSize = 0

theorem checkHeaps_eq_ok_iff (i : Nat) (sizes : List Nat) (capacities : List Int)
    (hlen : sizes.length = capacities.length) :
    checkHeaps i sizes capacities = .ok () ↔ sizes.map Int.ofNat = capacities := by
  induction sizes generalizing i capacities with
  | nil =>
    obtain rfl : capacities = [] := List.length_eq_zero_iff.1 hlen.symm
    simp [checkHeaps]
  | cons n rest ih =>
    cases capacities with
    | nil => cases hlen
    | cons c cs =>
      rw [checkHeaps, List.map_cons, List.cons.injEq]
      split
      · next h => exact (ih _ _ (Nat.succ.inj hlen)).trans (and_iff_right h).symm
      · next h =>
        constructor
        · intro he
          cases he
        · rintro ⟨hc, -⟩
          exact absurd hc h

/-- A launch gets a group size exactly if it is accepted. -/
theorem groupFor_eq_ok_iff (sequential : Bool) (stackSize : Int) (capacities : List Int)
    (heapSizes : List Nat) (lanes groupSize default limit g : Int) :
    groupFor sequential stackSize capacities heapSizes lanes groupSize default limit = .ok g ↔
      Accepted sequential stackSize capacities heapSizes lanes groupSize default limit g := by
  simp only [groupFor, bind, Except.bind, pure, Except.pure, throw, throwThe, MonadExceptOf.throw]
  rw [guard_eq_ok_iff, guard_eq_ok_iff, guard_eq_ok_iff, guard_eq_ok_iff]
  constructor
  · rintro ⟨hlanes, hsingle, hcells, hlen, h⟩
    have hlen := Decidable.not_not.1 hlen
    cases hheaps : checkHeaps 0 heapSizes capacities with
    | error e => simp [hheaps] at h
    | ok =>
      simp only [hheaps] at h
      rw [guard_eq_ok_iff] at h
      obtain ⟨hsize, h⟩ := h
      have hfit := (checkHeaps_eq_ok_iff 0 heapSizes capacities hlen).1 hheaps
      have hone (hs : sequential = true) : lanes = 1 :=
        Decidable.not_not.1 fun hne => hsingle ⟨hs, hne⟩
      by_cases hopen : groupSize = 0
      · rw [if_pos hopen] at h
        exact
          { lanes_pos := by omega, lanes_le := by omega, single_lane := hone
            cells_le := Int.not_lt.1 hcells, heap_sizes := hfit, size_nonneg := by omega
            group_eq := by rw [if_pos hopen]; exact (Except.ok.inj h).symm
            size_le := fun hne => absurd hopen hne
            size_dvd := fun hne => absurd hopen hne }
      · rw [if_neg hopen, guard_eq_ok_iff, guard_eq_ok_iff] at h
        obtain ⟨hlimit, hdvd, h⟩ := h
        exact
          { lanes_pos := by omega, lanes_le := by omega, single_lane := hone
            cells_le := Int.not_lt.1 hcells, heap_sizes := hfit, size_nonneg := by omega
            group_eq := by rw [if_neg hopen]; exact (Except.ok.inj h).symm
            size_le := fun _ hl => by omega
            size_dvd := fun _ => by omega }
  · intro h
    have hlanes : ¬(lanes ≤ 0 ∨ (maxLanes : Int) < lanes) := by
      have := h.lanes_pos
      have := h.lanes_le
      omega
    have hlen : heapSizes.length = capacities.length := by rw [← h.heap_sizes, List.length_map]
    refine ⟨hlanes, fun hs => hs.2 (h.single_lane hs.1), Int.not_lt.2 h.cells_le,
      Decidable.not_not.2 hlen, ?_⟩
    rw [(checkHeaps_eq_ok_iff 0 _ _ hlen).2 h.heap_sizes]
    dsimp only
    rw [if_neg (Int.not_lt.2 h.size_nonneg), h.group_eq]
    by_cases hopen : groupSize = 0
    · rw [if_pos hopen, if_pos hopen]
    · have hlimit : ¬(0 < limit ∧ limit < groupSize) := fun hl => by
        have := h.size_le hopen hl.1
        omega
      rw [if_neg hopen, if_neg hopen, if_neg hlimit,
        if_neg (Decidable.not_not.2 (h.size_dvd hopen))]

/-- The largest divisor is a positive divisor. -/
theorem largestDivisor_spec (n : Int) (limit : Nat) :
    0 < largestDivisor n limit ∧ n % largestDivisor n limit = 0 := by
  induction limit with
  | zero => simp [largestDivisor]
  | succ d ih =>
    rw [largestDivisor]
    split
    · simp
    · split
      · next h => exact ⟨by omega, h⟩
      · exact ih

theorem openGroup_spec {lanes : Int} (hpos : 0 < lanes) (default limit : Int) :
    0 < openGroup lanes default limit ∧ lanes % openGroup lanes default limit = 0 := by
  unfold openGroup
  split
  · next h => exact ⟨h.1, h.2.2⟩
  · split
    · exact largestDivisor_spec lanes limit.toNat
    · exact ⟨hpos, Int.emod_self⟩

section

variable {sequential : Bool} {stackSize : Int} {capacities : List Int} {heapSizes : List Nat}
  {lanes groupSize default limit g : Int}

theorem Accepted.group_pos
    (h : Accepted sequential stackSize capacities heapSizes lanes groupSize default limit g) :
    0 < g := by
  have hsize := h.size_nonneg
  rw [h.group_eq]
  split
  · exact (openGroup_spec h.lanes_pos default limit).1
  · omega

theorem Accepted.group_dvd
    (h : Accepted sequential stackSize capacities heapSizes lanes groupSize default limit g) :
    lanes % g = 0 := by
  rw [h.group_eq]
  split
  · exact (openGroup_spec h.lanes_pos default limit).2
  · next hne => exact h.size_dvd hne

end

end Launch

end Lanewise
