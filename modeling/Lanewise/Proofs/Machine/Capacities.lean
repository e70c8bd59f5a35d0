import Lanewise.Proofs.Machine.Budget

/-!
# Changes of capacities

The capacities of a machine can be changed as long as it has not run. A change that is refused
because the machine has run, or because of the size of the stack, leaves everything as it was. A
machine that runs alone is asked for the size of its heap as well, and this size is looked at only
when the stack has been replaced already: a change that is refused because of it leaves the machine
with the new stack and the old heap, and a run may overflow where it would have had room before.

## Main definitions

* `Machine.Reachable`: a machine at any point of its life.
* `Machine.Torn`: a change of which one half is made and the other refused.
* `Machine.ConfigureCase`: the ways in which a change can go.

## Main results

* `Machine.Reachable.sound`: a machine that runs alone has one heap all its life.
* `Machine.configure_eq_ok_iff`: which changes are made.
* `Machine.configure_atomic`: all other changes than torn ones are made as a whole or not at all.
-/

namespace Lanewise.Machine

variable {m : Machine} {stackSize heapSize : Int}

/-! ### Machines at any point of their life -/

/-- A machine that has been made, changed and run, in any order. With too little fuel for its run it
is caught while it runs. -/
inductive Reachable : Machine → Prop
  | create {code : Program} {entry : Int} {o : Options} {m : Machine}
      (h : Machine.create code entry o = .ok m) : Reachable m
  | configure {m : Machine} (h : Reachable m) (stackSize heapSize : Int) :
      Reachable (m.configure stackSize heapSize).1
  | initHeap {m : Machine} (h : Reachable m) : Reachable m.initHeap
  | setHeap {m : Machine} (h : Reachable m) (values : Array Word) : Reachable (m.setHeap values)
  | trace {m : Machine} (h : Reachable m) (tracing : Bool) : Reachable { m with tracing }
  | run {m : Machine} (h : Reachable m) (fuel : Nat) : Reachable (m.run fuel).1

/-- The capacity of a stack that can be asked for. -/
def FitsStack (n : Int) : Prop :=
  0 < n ∧ n ≤ maxStackSize

/-- The capacity of a heap that can be asked for. -/
def FitsHeap (n : Int) : Prop :=
  0 < n ∧ n ≤ maxHeapSize

instance (n : Int) : Decidable (FitsStack n) :=
  inferInstanceAs (Decidable (_ ∧ _))

instance (n : Int) : Decidable (FitsHeap n) :=
  inferInstanceAs (Decidable (_ ∧ _))

/-- A change of which the half for the stack is made and the half for the heap is refused. -/
def Torn (m : Machine) (stackSize heapSize : Int) : Prop :=
  m.phase = .ready ∧ m.engine = .sequential ∧ FitsStack stackSize ∧ ¬FitsHeap heapSize

/-- The machine with a new stack of zeros. -/
def withStack (m : Machine) (stackSize : Int) : Machine :=
  { m with stack := Array.replicate stackSize.toNat 0 }

theorem size_withStack (hstack : FitsStack stackSize) :
    ((m.withStack stackSize).stack.size : Int) = stackSize := by
  have hpos := hstack.1
  have hsize : (m.withStack stackSize).stack.size = stackSize.toNat := Array.size_replicate
  rw [hsize, Int.toNat_of_nonneg (Int.le_of_lt hpos)]

/-- The ways in which a change of capacities can go. -/
inductive ConfigureCase (m : Machine) (stackSize heapSize : Int) : Prop
  /-- The machine has run. -/
  | started (hphase : m.phase ≠ .ready)
      (h : m.configure stackSize heapSize = (m, .error .notRunnable))
  | stackRefused (hphase : m.phase = .ready) (hstack : ¬FitsStack stackSize)
      (h : m.configure stackSize heapSize = (m, .error (.config (.stackSize stackSize))))
  | heapRefused (htorn : m.Torn stackSize heapSize)
      (h : m.configure stackSize heapSize =
        (m.withStack stackSize, .error (.config (.heapSize heapSize))))
  | lane (hphase : m.phase = .ready) (hstack : FitsStack stackSize) (hengine : m.engine = .lane)
      (h : m.configure stackSize heapSize = (m.withStack stackSize, .ok ()))
  | sequential (hphase : m.phase = .ready) (hstack : FitsStack stackSize)
      (hengine : m.engine = .sequential) (hheap : FitsHeap heapSize)
      (h : m.configure stackSize heapSize =
        ({ m.withStack stackSize with
            heaps := m.heaps.setIfInBounds 0 (Heap.zeros heapSize.toNat) }, .ok ()))

theorem configureCase (m : Machine) (stackSize heapSize : Int) :
    ConfigureCase m stackSize heapSize := by
  by_cases hphase : m.phase = .ready
  · by_cases hstack : FitsStack stackSize
    · have hrange : ¬(stackSize ≤ 0 ∨ (maxStackSize : Int) < stackSize) := by
        have := hstack.1
        have := hstack.2
        omega
      cases hengine : m.engine with
      | lane =>
        refine .lane hphase hstack hengine ?_
        rw [configure, if_neg (not_not_intro hphase), if_neg hrange]
        simp only [hengine, withStack]
      | sequential =>
        by_cases hheap : FitsHeap heapSize
        · have hrange' : ¬(heapSize ≤ 0 ∨ (maxHeapSize : Int) < heapSize) := by
            have := hheap.1
            have := hheap.2
            omega
          refine .sequential hphase hstack hengine hheap ?_
          rw [configure, if_neg (not_not_intro hphase), if_neg hrange]
          simp only [hengine, if_neg hrange', withStack]
        · have hrange' : heapSize ≤ 0 ∨ (maxHeapSize : Int) < heapSize := by
            simp only [FitsHeap] at hheap
            omega
          refine .heapRefused ⟨hphase, hengine, hstack, hheap⟩ ?_
          rw [configure, if_neg (not_not_intro hphase), if_neg hrange]
          simp only [hengine, if_pos hrange', withStack]
    · have hrange : stackSize ≤ 0 ∨ (maxStackSize : Int) < stackSize := by
        simp only [FitsStack] at hstack
        omega
      refine .stackRefused hphase hstack ?_
      rw [configure, if_neg (not_not_intro hphase), if_pos hrange]
  · refine .started hphase ?_
    rw [configure, if_pos hphase]

/-- A change is made if the machine has not run and the sizes that its engine looks at fit. -/
theorem configure_eq_ok_iff :
    (m.configure stackSize heapSize).2 = .ok () ↔
      m.phase = .ready ∧ FitsStack stackSize ∧ (m.engine = .sequential → FitsHeap heapSize) := by
  cases configureCase m stackSize heapSize with
  | started hphase h =>
    rw [h]
    exact iff_of_false nofun fun hfits => hphase hfits.1
  | stackRefused hphase hstack h =>
    rw [h]
    exact iff_of_false nofun fun hfits => hstack hfits.2.1
  | heapRefused htorn h =>
    rw [h]
    exact iff_of_false nofun fun hfits => htorn.2.2.2 (hfits.2.2 htorn.2.1)
  | lane hphase hstack hengine h =>
    rw [h]
    refine iff_of_true rfl ⟨hphase, hstack, fun hsequential => ?_⟩
    rw [hengine] at hsequential
    cases hsequential
  | sequential hphase hstack hengine hheap h =>
    rw [h]
    exact iff_of_true rfl ⟨hphase, hstack, fun _ => hheap⟩

/-! ### The heap of a machine that runs alone -/

theorem heapsOf_single {o : Options} {lane : Word} {heaps : Array Heap}
    (h : heapsOf o = .ok (.sequential, lane, heaps)) : heaps.size = 1 := by
  cases hlane : o.lane with
  | none =>
    obtain ⟨own, -, -, -, rfl⟩ := heapsOf_alone hlane h
    rfl
  | some b =>
    unfold heapsOf at h
    rw [hlane] at h
    dsimp only at h
    split at h
    · cases h
    · cases h

/-- What a machine is at any point of its life: within its bounds, with one heap if it runs alone,
and fresh as long as it has not run. -/
structure Sound (m : Machine) : Prop extends Bounded m where
  single : m.engine = .sequential → m.heaps.size = 1
  fresh : m.phase = .ready → m.height = 0 ∧ m.fp = 0

theorem Sound.withStack (h : m.Sound) (hphase : m.phase = .ready) (hstack : FitsStack stackSize) :
    (m.withStack stackSize).Sound := by
  obtain ⟨hheight, hfp⟩ := h.fresh hphase
  have hsize := size_withStack (m := m) hstack
  have hpos := hstack.1
  refine { height_le := ?_, fp_lt := ?_, single := h.single, fresh := h.fresh }
  · change m.height ≤ _
    omega
  · change m.fp < _
    omega

/-- The heap of a machine that runs alone is replaced. -/
theorem Sound.setHeap_eq (h : m.Sound) (hengine : m.engine = .sequential) (heap : Heap) :
    m.heaps.setIfInBounds 0 heap = #[heap] := by
  have hsize := h.single hengine
  refine Array.ext (by rw [Array.size_setIfInBounds, hsize]; rfl) fun i hi _ => ?_
  obtain rfl : i = 0 := by
    rw [Array.size_setIfInBounds, hsize] at hi
    omega
  rw [Array.getElem_setIfInBounds_self]
  rfl

theorem Sound.withHeaps (h : m.Sound) {heaps : Array Heap} (hsize : heaps.size = m.heaps.size) :
    Sound { m with heaps } :=
  { h with single := fun hengine => hsize.trans (h.single hengine) }

theorem Sound.create {code : Program} {entry : Int} {o : Options}
    (h : Machine.create code entry o = .ok m) : m.Sound := by
  have hprepared := Prepared.create h
  obtain ⟨hheight, hfp, -, -⟩ := hprepared.start
  refine { hprepared.bounded with single := ?_, fresh := fun _ => ⟨hheight, hfp⟩ }
  obtain ⟨-, stack, engine, lane, heaps, -, hheaps, rfl⟩ := create_eq_ok_iff.1 h
  rintro rfl
  exact heapsOf_single hheaps

theorem Sound.configure (h : m.Sound) (stackSize heapSize : Int) :
    (m.configure stackSize heapSize).1.Sound := by
  cases configureCase m stackSize heapSize with
  | started _ heq | stackRefused _ _ heq =>
    rw [heq]
    exact h
  | heapRefused htorn heq =>
    rw [heq]
    exact h.withStack htorn.1 htorn.2.2.1
  | lane hphase hstack _ heq =>
    rw [heq]
    exact h.withStack hphase hstack
  | sequential hphase hstack _ _ heq =>
    rw [heq]
    exact (h.withStack hphase hstack).withHeaps Array.size_setIfInBounds

theorem record_phase (mnemonic : String) (args : List Word) :
    (m.record mnemonic args).phase = m.phase := by
  unfold record
  split <;> rfl

theorem step_phase (m : Machine) : m.step.machine.phase = m.phase := by
  cases m.stepCase with
  | ended f _ hstep => rw [hstep, Step.machine]
  | refused f line _ hstep => rw [hstep, Step.machine, record_phase]
  | unpaid i _ _ hstep => rw [hstep, Step.machine]
  | executed i hexec =>
    have hphase := congrArg Ledger.phase hexec.step_ledger
    exact hphase.trans (record_phase (m := { m with meter := _ }) _ _)

theorem advance_phase_ne_ready (hphase : m.phase ≠ .ready) (fuel : Nat) :
    (m.advance fuel).1.phase ≠ .ready := by
  induction fuel generalizing m with
  | zero => exact hphase
  | succ fuel ih =>
    have hstep := m.step_phase
    unfold advance
    cases hs : m.step with
    | next m' =>
      rw [hs] at hstep
      exact ih fun hready => hphase (hstep ▸ hready)
    | halt m' | fault m' f => exact Phase.noConfusion

/-- A machine that has run does not become ready again. -/
theorem run_phase_ne_ready (m : Machine) (fuel : Nat) : (m.run fuel).1.phase ≠ .ready := by
  unfold run
  split
  · exact advance_phase_ne_ready Phase.noConfusion fuel
  · assumption

theorem Sound.run (h : m.Sound) (fuel : Nat) : (m.run fuel).1.Sound := by
  have hkeeps := run_keeps h.toBounded fuel
  refine { hkeeps.toBounded with single := ?_, fresh := fun hready => ?_ }
  · rw [hkeeps.engine_eq, hkeeps.heaps_size]
    exact h.single
  · exact absurd hready (m.run_phase_ne_ready fuel)

theorem Reachable.sound (h : m.Reachable) : m.Sound := by
  induction h with
  | create h => exact .create h
  | configure _ stackSize heapSize ih => exact ih.configure stackSize heapSize
  | @initHeap m _ ih =>
    unfold Machine.initHeap
    split
    · exact ih
    · exact ih.withHeaps Array.size_modify
  | setHeap _ values ih => exact ih.withHeaps Array.size_modify
  | trace _ tracing ih => exact { ih with }
  | run _ fuel ih => exact ih.run fuel

/-! ### Changes as a whole or not at all -/

/-- A machine at any point of its life is asked for other capacities. The change is made if the
machine has not run and the sizes that its engine looks at fit; then the stack has the capacity that
was asked for, and a machine that runs alone has a heap of zeros of the capacity that was asked for,
and nothing else changes, the heaps of a lane included. If the change is refused and is not torn,
the machine is as before, and so is its run. A torn change leaves the machine with the new stack. -/
theorem configure_atomic (h : m.Reachable) (stackSize heapSize : Int) :
    ((m.configure stackSize heapSize).2 = .ok () ↔
      m.phase = .ready ∧ FitsStack stackSize ∧ (m.engine = .sequential → FitsHeap heapSize)) ∧
    ((m.configure stackSize heapSize).2 = .ok () →
      (m.configure stackSize heapSize).1.stack.size = stackSize ∧
      ∃ heaps, (m.configure stackSize heapSize).1 = { m.withStack stackSize with heaps } ∧
        (m.engine = .sequential → heaps = #[Heap.zeros heapSize.toNat]) ∧
        (m.engine = .lane → heaps = m.heaps)) ∧
    (∀ err, (m.configure stackSize heapSize).2 = .error err → ¬m.Torn stackSize heapSize →
      (m.configure stackSize heapSize).1 = m ∧
      ∀ fuel, (m.configure stackSize heapSize).1.run fuel = m.run fuel) ∧
    (m.Torn stackSize heapSize → m.configure stackSize heapSize =
      (m.withStack stackSize, .error (.config (.heapSize heapSize)))) := by
  refine ⟨configure_eq_ok_iff, fun hok => ?_, fun err herr htorn => ?_, fun htorn => ?_⟩
  · cases configureCase m stackSize heapSize with
    | started _ heq | stackRefused _ _ heq | heapRefused _ heq =>
      rw [heq] at hok
      cases hok
    | lane _ hstack hengine heq =>
      rw [heq]
      refine ⟨size_withStack hstack, m.heaps, rfl, fun hsequential => ?_, fun _ => rfl⟩
      exact absurd (hengine.symm.trans hsequential) Engine.noConfusion
    | sequential _ hstack hengine _ heq =>
      rw [heq]
      refine ⟨size_withStack (m := m) hstack, _, rfl, fun _ => h.sound.setHeap_eq hengine _,
        fun hlane => ?_⟩
      exact absurd (hengine.symm.trans hlane) Engine.noConfusion
  · cases configureCase m stackSize heapSize with
    | started _ heq | stackRefused _ _ heq =>
      rw [heq]
      exact ⟨rfl, fun _ => rfl⟩
    | heapRefused htorn' _ => exact absurd htorn' htorn
    | lane _ _ _ heq | sequential _ _ _ _ heq =>
      rw [heq] at herr
      cases herr
  · cases configureCase m stackSize heapSize with
    | started hphase _ => exact absurd htorn.1 hphase
    | stackRefused _ hstack _ => exact absurd htorn.2.2.1 hstack
    | heapRefused _ heq => exact heq
    | lane _ _ hengine _ => exact absurd (hengine.symm.trans htorn.2.1) Engine.noConfusion
    | sequential _ _ _ hheap _ => exact absurd hheap htorn.2.2.2

/-- A program that puts two cells on the stack. -/
def twoOnes : Program :=
  ⟨#[23, 23, 16]⟩

/-- A stack of one cell and a heap of ten are set up together, and are not changed any more when the
machine has run. -/
theorem twoOnes_configured :
    ∃ m, Machine.create twoOnes 0 {} = .ok m ∧ (m.configure 1 10).2 = .ok () ∧
      (m.configure 1 10).1.stack.size = 1 ∧ (m.configure 1 10).1.heaps = #[Heap.zeros 10] ∧
      (((m.configure 1 10).1.run 9).1.configure 10 10).1 = ((m.configure 1 10).1.run 9).1 := by
  have hcreate : Machine.create twoOnes 0 {} = .ok _ := rfl
  have hm := Reachable.create hcreate
  obtain ⟨hiff, hmade, -⟩ := configure_atomic hm 1 10
  have hok := hiff.2 ⟨rfl, by decide, fun _ => by decide⟩
  obtain ⟨hstack, heaps, heq, hheaps, -⟩ := hmade hok
  obtain ⟨-, -, hrefused, -⟩ := configure_atomic ((hm.configure 1 10).run 9) 10 10
  refine ⟨_, hcreate, hok, by exact_mod_cast hstack, ?_,
    (hrefused .notRunnable ?_ fun htorn => ?_).1⟩
  · rw [heq]
    exact hheaps rfl
  · rw [configure, if_pos (run_phase_ne_ready _ 9)]
  · exact run_phase_ne_ready _ 9 htorn.1

/-- A heap without cells is refused when the stack has one cell already, and the second push
overflows. -/
theorem twoOnes_torn :
    ∃ m, Machine.create twoOnes 0 {} = .ok m ∧ (m.run 3).2 = .halted ⟨#[], 3⟩ ∧
      (m.configure 1 0).2 = .error (.config (.heapSize 0)) ∧
      ((m.configure 1 0).1.run 3).2 = .faulted
        { reason := .kind .stackOverflow, opcode := 23, mnemonic := "ICONST1", ip := 1 } ∧
      ¬ ∀ (m : Machine) (stackSize heapSize : Int) (err : Error), m.Reachable →
        (m.configure stackSize heapSize).2 = .error err → (m.configure stackSize heapSize).1 = m ∧
          ∀ fuel, (m.configure stackSize heapSize).1.run fuel = m.run fuel := by
  have hcreate : Machine.create twoOnes 0 {} = .ok _ := rfl
  refine ⟨_, hcreate, by decide +kernel, rfl, by decide +kernel, fun hlaw => ?_⟩
  have hsame := (hlaw _ 1 0 _ (.create hcreate) rfl).2 3
  exact absurd (congrArg Prod.snd hsame) (by decide +kernel)

end Lanewise.Machine
