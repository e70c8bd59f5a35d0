import Lanewise.Proofs.Device.LaneOrder
import Lanewise.Proofs.Machine.Footprint
import Mathlib.Logic.Function.Basic
import Mathlib.Logic.Relation

/-!
# Lanes that run at the same time

The lanes of a launch may take their steps in any order. If the lanes, run one after another, keep
to themselves the cells that they write, then the order does not matter: every lane makes the steps
that it makes in lane order, and the heaps end up the same.

A lane that runs among others is compared with the same lane in lane order. The two agree on
everything but the heaps, and the shared heaps hold the same values as the heaps of the other one in
every cell that the lane uses in its whole run. A step reads a cell that is used, so it is the same
step on both sides; it writes a cell that no other lane uses, so no other lane can tell.

## Main definitions

* `Lane`, `System`: machines that share a set of heaps.
* `System.Steps`, `System.Complete`: a step of any lane, and a system whose lanes have all ended.
* `Compiled.writtenBy`, `Compiled.usedBy`: the cells of a lane in lane order.

## Main results

* `System.exists_complete`: running the lanes one after another is one way to complete a system.
* `System.interleaving_eq_laneOrder`: all ways to complete it lead to the same result.
-/

namespace Lanewise

open Machine

/-- A machine that is one of many, and how its run ended if it has. -/
structure Lane where
  machine : Machine
  ended : Option Outcome := none

namespace Lane

/-- The lane after a step. -/
def after : Step → Lane
  | .next m => ⟨m, none⟩
  | .halt m => ⟨{ m with phase := .halted }, some (.halted ⟨m.printed, m.steps⟩)⟩
  | .fault m f => ⟨{ m with phase := .faulted }, some (.faulted f)⟩

theorem after_heaps (s : Step) : (after s).machine.heaps = s.machine.heaps := by
  cases s <;> rfl

theorem after_withHeaps (s : Step) (hs : Array Heap) :
    after (s.withHeaps hs) = ⟨(after s).machine.withHeaps hs, (after s).ended⟩ := by
  cases s <;> rfl

theorem advance_after (fuel : Nat) (m : Machine) :
    m.advance (fuel + 1) =
      match (after m.step).ended with
      | none => (after m.step).machine.advance fuel
      | some o => ((after m.step).machine, o) := by
  rw [advance]
  cases m.step <;> rfl

theorem accesses_after (fuel : Nat) (m : Machine) :
    m.accesses (fuel + 1) =
      m.access :: match (after m.step).ended with
        | none => (after m.step).machine.accesses fuel
        | some _ => [] := by
  rw [accesses]
  cases m.step <;> rfl

/-! ### A lane that runs alone -/

/-- What a machine goes through when it runs alone. -/
inductive Alone (m₀ : Machine) : Lane → Prop
  | start : Alone m₀ ⟨m₀, none⟩
  | step {m : Machine} : Alone m₀ ⟨m, none⟩ → Alone m₀ (after m.step)

variable {m₀ : Machine} {fuel : Nat}

theorem Alone.sizes {l : Lane} (h : Alone m₀ l) :
    l.machine.heaps.map Array.size = m₀.heaps.map Array.size := by
  induction h with
  | start => rfl
  | step _ ih => rw [after_heaps, step_heaps, Access.apply_sizes, ih]

/-- A run goes on from every machine on its way, and stops at the lane that has ended. -/
theorem Alone.rest {l : Lane} (h : Alone m₀ l) (hfin : (m₀.advance fuel).2 ≠ .unfinished) :
    match l.ended with
    | none => ∃ rest, m₀.advance fuel = l.machine.advance (rest + 1) ∧
        l.machine.accesses (rest + 1) ⊆ m₀.accesses fuel
    | some o => m₀.advance fuel = (l.machine, o) := by
  induction h with
  | start =>
    cases fuel with
    | zero => exact absurd rfl hfin
    | succ fuel => exact ⟨fuel, rfl, List.Subset.refl _⟩
  | @step m _ ih =>
    obtain ⟨rest, heq, hsub⟩ := ih
    rw [advance_after] at heq
    rw [accesses_after] at hsub
    cases hended : (after m.step).ended with
    | none =>
      rw [hended] at heq hsub
      cases rest with
      | zero => exact absurd (congrArg Prod.snd heq) hfin
      | succ rest => exact ⟨rest, heq, List.Subset.trans (List.subset_cons_self _ _) hsub⟩
    | some o =>
      rw [hended] at heq
      exact heq

/-- The next access of a machine on the way is one of the run. -/
theorem Alone.access_mem {m : Machine} (h : Alone m₀ ⟨m, none⟩)
    (hfin : (m₀.advance fuel).2 ≠ .unfinished) : m.access ∈ m₀.accesses fuel := by
  obtain ⟨rest, -, hsub⟩ := h.rest hfin
  exact hsub List.mem_cons_self

/-! ### A lane among others -/

/-- A lane on shared heaps stands where a machine that runs alone stands: they differ in nothing but
their heaps, and the heaps agree on every cell that the machine uses. -/
def Follows (m₀ : Machine) (fuel : Nat) (shared : Array Heap) (l : Lane) : Prop :=
  ∃ a : Lane, Alone m₀ a ∧ l.ended = a.ended ∧
    l.machine.withHeaps shared = a.machine.withHeaps shared ∧
    ∀ c ∈ m₀.used fuel, c.get? shared = c.get? a.machine.heaps

/-- What others write elsewhere does not matter. -/
theorem Follows.congr {shared shared' : Array Heap} {l : Lane} (h : Follows m₀ fuel shared l)
    (hcells : ∀ c ∈ m₀.used fuel, c.get? shared' = c.get? shared) :
    Follows m₀ fuel shared' l := by
  obtain ⟨a, halone, hended, hmachine, hused⟩ := h
  have hother := congrArg (Machine.withHeaps · shared') hmachine
  refine ⟨a, halone, hended, hother, fun c hc => ?_⟩
  rw [hcells c hc, hused c hc]

/-- A step on the shared heaps is the step that the machine makes alone. It changes no cell that the
machine does not write. -/
theorem Follows.step (hfin : (m₀.advance fuel).2 ≠ .unfinished) {shared : Array Heap} {l : Lane}
    (h : Follows m₀ fuel shared l) (hsizes : shared.map Array.size = m₀.heaps.map Array.size)
    (hrunning : l.ended = none) {s : Step} (hs : (l.machine.withHeaps shared).step = s) :
    Follows m₀ fuel s.machine.heaps (after s) ∧
      s.machine.heaps.map Array.size = shared.map Array.size ∧
      ∀ c, c ∉ m₀.written fuel → c.get? s.machine.heaps = c.get? shared := by
  obtain ⟨⟨m, e⟩, halone, hended, hmachine, hused⟩ := h
  obtain rfl : e = none := hended.symm.trans hrunning
  have hmem := halone.access_mem hfin
  have hread : ∀ c, m.access = .read c → c.get? shared = c.get? m.heaps := by
    intro c hc
    refine hused c (List.mem_filterMap.2 ⟨m.access, hmem, ?_⟩)
    rw [hc]
    rfl
  have hstep : s = m.step.withHeaps (m.access.apply shared) := by
    rw [← hs, hmachine]
    exact step_withHeaps (hsizes.trans halone.sizes.symm) hread
  have hheaps : s.machine.heaps = m.access.apply shared := by
    rw [hstep, Step.machine_withHeaps]
    rfl
  refine ⟨⟨after m.step, .step halone, ?_, ?_, fun c hc => ?_⟩, ?_, fun c hc => ?_⟩
  · rw [hstep, after_withHeaps]
  · rw [hstep, after_withHeaps]
    rfl
  · rw [hheaps, after_heaps, step_heaps]
    exact Access.get?_apply_congr _ (hused c hc)
  · rw [hheaps, Access.apply_sizes]
  · rw [hheaps]
    exact Access.get?_apply_of_ne
      (fun hw => hc (List.mem_filterMap.2 ⟨m.access, hmem, hw⟩)) shared

/-- A lane that has ended on shared heaps has ended as the machine that runs alone. -/
theorem Follows.ended {shared : Array Heap} {l : Lane} {o : Outcome}
    (hfin : (m₀.advance fuel).2 ≠ .unfinished) (h : Follows m₀ fuel shared l)
    (hended : l.ended = some o) :
    o = (m₀.advance fuel).2 ∧
      l.machine.withHeaps shared = (m₀.advance fuel).1.withHeaps shared ∧
      ∀ c ∈ m₀.used fuel, c.get? shared = c.get? (m₀.advance fuel).1.heaps := by
  obtain ⟨a, halone, hsame, hmachine, hused⟩ := h
  have hrest := halone.rest hfin
  rw [← hsame, hended] at hrest
  rw [hrest]
  exact ⟨rfl, hmachine, hused⟩

end Lane

/-! ### Lanes in order -/

namespace Compiled

variable (k : Compiled) (fuel : Nat) (heaps : Array Heap)

/-- The machine of a lane before its first step. -/
def running (heaps : Array Heap) (lane : Nat) : Machine :=
  { k.laneStart heaps lane with phase := .running }

/-- The cells that a lane writes when the lanes run one after another. -/
def writtenBy (lane : Nat) : List Cell :=
  (k.running (k.heapsAt fuel heaps lane) lane).written fuel

/-- The cells that a lane reads or writes when the lanes run one after another. -/
def usedBy (lane : Nat) : List Cell :=
  (k.running (k.heapsAt fuel heaps lane) lane).used fuel

theorem inOrder_eq_advance (lane : Nat) :
    k.inOrder fuel heaps lane = (k.running (k.heapsAt fuel heaps lane) lane).advance fuel :=
  run_of_ready rfl fuel

/-- A cell changes only from the lanes that write it. -/
theorem heapsAt_get? {i j : Nat} (hij : i ≤ j) {c : Cell}
    (hc : ∀ lane, i ≤ lane → lane < j → c ∉ k.writtenBy fuel heaps lane) :
    c.get? (k.heapsAt fuel heaps j) = c.get? (k.heapsAt fuel heaps i) := by
  induction hij with
  | refl => rfl
  | @step j hij ih =>
    rw [heapsAt_succ, inOrder_eq_advance, advance_get? (hc j hij (Nat.lt_succ_self j))]
    exact ih fun lane hi hj => hc lane hi (Nat.lt_succ_of_lt hj)

end Compiled

/-! ### Systems -/

/-- Lanes that share a set of heaps. -/
structure System (n : Nat) where
  heaps : Array Heap
  lanes : Fin n → Lane

namespace System

variable {n : Nat}

/-- The lanes of a launch before their first steps. -/
def start (k : Compiled) (heaps : Array Heap) (n : Nat) : System n :=
  { heaps, lanes := fun i => ⟨k.running heaps i, none⟩ }

/-- The system after the next instruction of a lane, which is executed on the shared heaps. -/
def act (s : System n) (i : Fin n) : System n :=
  let step := ((s.lanes i).machine.withHeaps s.heaps).step
  { heaps := step.machine.heaps, lanes := Function.update s.lanes i (Lane.after step) }

/-- A step of any lane that has not ended. -/
def Steps (s s' : System n) : Prop :=
  ∃ i, (s.lanes i).ended = none ∧ s' = s.act i

/-- Every lane has ended. -/
def Complete (s : System n) : Prop :=
  ∀ i, (s.lanes i).ended.isSome

open Relation (ReflTransGen)

/-! #### The lanes one after another -/

/-- A lane takes all its remaining steps. -/
theorem act_to_end (i : Fin n) (fuel : Nat) {s : System n} (hrunning : (s.lanes i).ended = none)
    {x : Machine × Outcome} (hx : ((s.lanes i).machine.withHeaps s.heaps).advance fuel = x)
    (hfin : x.2 ≠ .unfinished) :
    ReflTransGen Steps s
      { heaps := x.1.heaps, lanes := Function.update s.lanes i ⟨x.1, some x.2⟩ } := by
  induction fuel generalizing s with
  | zero => exact absurd (congrArg Prod.snd hx.symm) hfin
  | succ fuel ih =>
    refine .head ⟨i, hrunning, rfl⟩ ?_
    rw [Lane.advance_after] at hx
    unfold act
    generalize ((s.lanes i).machine.withHeaps s.heaps).step = step at hx ⊢
    cases hended : (Lane.after step).ended with
    | none =>
      rw [hended] at hx
      have hnext := ih (s := { heaps := step.machine.heaps,
                               lanes := Function.update s.lanes i (Lane.after step) })
        (by simpa using hended) (by simpa [← Lane.after_heaps] using hx)
      simpa only [Function.update_idem] using hnext
    | some o =>
      rw [hended] at hx
      rw [← hx]
      dsimp only
      rw [Lane.after_heaps, ← hended]

/-- The system when the first `j` lanes have run one after another and the others not at all. -/
def inLaneOrder (k : Compiled) (fuel : Nat) (heaps : Array Heap) (n j : Nat) : System n where
  heaps := k.heapsAt fuel heaps j
  lanes i :=
    if i.val < j then ⟨(k.inOrder fuel heaps i).1, some (k.inOrder fuel heaps i).2⟩
    else ⟨k.running heaps i, none⟩

variable {k : Compiled} {fuel : Nat} {heaps : Array Heap}

/-- One after another is one of the orders that a system allows. -/
theorem start_to_inLaneOrder (hfin : ∀ i < n, (k.inOrder fuel heaps i).2 ≠ .unfinished) {j : Nat}
    (hj : j ≤ n) : ReflTransGen Steps (start k heaps n) (inLaneOrder k fuel heaps n j) := by
  induction j with
  | zero => exact .refl
  | succ j ih =>
    have hrunning : (inLaneOrder k fuel heaps n j).lanes ⟨j, hj⟩ = ⟨k.running heaps j, none⟩ :=
      if_neg (Nat.lt_irrefl j)
    have hrun := act_to_end ⟨j, hj⟩ fuel (s := inLaneOrder k fuel heaps n j)
      (by rw [hrunning]) (by rw [hrunning]; exact (k.inOrder_eq_advance fuel heaps j).symm)
      (hfin j hj)
    have hnext : Function.update (inLaneOrder k fuel heaps n j).lanes ⟨j, hj⟩
        ⟨(k.inOrder fuel heaps j).1, some (k.inOrder fuel heaps j).2⟩ =
          (inLaneOrder k fuel heaps n (j + 1)).lanes := by
      funext i
      by_cases hi : i = ⟨j, hj⟩
      · subst hi
        simp [inLaneOrder]
      · have hne : i.val ≠ j := fun h => hi (Fin.ext h)
        have hlt : i.val < j + 1 ↔ i.val < j := by omega
        rw [Function.update_of_ne hi]
        simp only [inLaneOrder, hlt]
    rw [hnext] at hrun
    exact (ih (Nat.le_of_succ_le hj)).trans hrun

/-- A system can be completed. -/
theorem exists_complete (hfin : ∀ i < n, (k.inOrder fuel heaps i).2 ≠ .unfinished) :
    ∃ s, ReflTransGen Steps (start k heaps n) s ∧ s.Complete := by
  refine ⟨_, start_to_inLaneOrder hfin (Nat.le_refl n), fun i => ?_⟩
  simp [inLaneOrder]

/-! #### Any order -/

/-- Every lane of a system stands where it stands in lane order at some time, and cells that no lane
writes are as they were. -/
structure Coherent (k : Compiled) (fuel : Nat) (heaps : Array Heap) (s : System n) : Prop where
  sizes : s.heaps.map Array.size = heaps.map Array.size
  follows : ∀ i : Fin n,
    (s.lanes i).Follows (k.running (k.heapsAt fuel heaps i) i) fuel s.heaps
  unwritten : ∀ c, (∀ i < n, c ∉ k.writtenBy fuel heaps i) → c.get? s.heaps = c.get? heaps

section Disjoint

variable (hfin : ∀ i < n, (k.inOrder fuel heaps i).2 ≠ .unfinished)
  (hdisjoint : ∀ i < n, ∀ j < n, i ≠ j → ∀ c ∈ k.writtenBy fuel heaps i, c ∉ k.usedBy fuel heaps j)

include hdisjoint

/-- No lane before `i` writes what lane `i` uses, so it starts on the same values. -/
theorem start_coherent : Coherent k fuel heaps (start k heaps n) where
  sizes := rfl
  follows i := by
    refine ⟨_, .start, rfl, rfl, fun c hc => ?_⟩
    refine (k.heapsAt_get? fuel heaps (Nat.zero_le i) fun j _ hj hw => ?_).symm
    exact hdisjoint j (Nat.lt_trans hj i.isLt) i i.isLt (Nat.ne_of_lt hj) c hw hc
  unwritten _ _ := rfl

include hfin

/-- What a lane writes is used by no other lane. -/
theorem Coherent.act {s : System n} (h : Coherent k fuel heaps s) {i : Fin n}
    (hrunning : (s.lanes i).ended = none) : Coherent k fuel heaps (s.act i) := by
  have hend : ((k.running (k.heapsAt fuel heaps i) i).advance fuel).2 ≠ .unfinished := by
    rw [← k.inOrder_eq_advance]
    exact hfin i i.isLt
  have hsizes : s.heaps.map Array.size =
      (k.running (k.heapsAt fuel heaps i) i).heaps.map Array.size :=
    h.sizes.trans (k.heapsAt_sizes fuel heaps i).symm
  obtain ⟨hstep, hkept, hframe⟩ := (h.follows i).step hend hsizes hrunning rfl
  refine ⟨hkept.trans h.sizes, fun j => ?_, fun c hc => ?_⟩
  · by_cases hj : j = i
    · subst hj
      simpa [System.act] using hstep
    · have hlane : (s.act i).lanes j = s.lanes j := Function.update_of_ne hj _ _
      rw [hlane]
      refine (h.follows j).congr fun c hc => hframe c fun hw => ?_
      exact hdisjoint i i.isLt j j.isLt (fun hij => hj (Fin.ext hij.symm)) c hw hc
  · exact (hframe c (hc i i.isLt)).trans (h.unwritten c hc)

theorem coherent_of_steps {s : System n} (h : ReflTransGen Steps (start k heaps n) s) :
    Coherent k fuel heaps s := by
  induction h with
  | refl => exact start_coherent hdisjoint
  | tail _ hstep ih =>
    obtain ⟨i, hrunning, rfl⟩ := hstep
    exact ih.act hfin hdisjoint hrunning

omit hdisjoint in
/-- What a lane has come to in a complete system, and the cells that it leaves. -/
theorem Coherent.ended {s : System n} (h : Coherent k fuel heaps s) (hcomplete : s.Complete)
    (i : Fin n) :
    (s.lanes i).ended = some (k.inOrder fuel heaps i).2 ∧
      (s.lanes i).machine.withHeaps s.heaps = (k.inOrder fuel heaps i).1.withHeaps s.heaps ∧
      ∀ c ∈ k.usedBy fuel heaps i, c.get? s.heaps = c.get? (k.heapsAt fuel heaps (i + 1)) := by
  obtain ⟨o, ho⟩ := Option.isSome_iff_exists.1 (hcomplete i)
  have hend := hfin i i.isLt
  rw [k.heapsAt_succ, ho]
  rw [k.inOrder_eq_advance] at hend ⊢
  obtain ⟨rfl, hmachine, hused⟩ := (h.follows i).ended hend ho
  exact ⟨rfl, hmachine, hused⟩

/-- The heaps of a complete system. A cell that a lane writes is left by this lane, in lane order
too, since the lanes after it do not write it. -/
theorem Coherent.heaps_eq {s : System n} (h : Coherent k fuel heaps s) (hcomplete : s.Complete) :
    s.heaps = k.heapsAt fuel heaps n := by
  refine heaps_ext (h.sizes.trans (k.heapsAt_sizes fuel heaps n).symm) fun c => ?_
  by_cases hw : ∃ i < n, c ∈ k.writtenBy fuel heaps i
  · obtain ⟨i, hi, hc⟩ := hw
    obtain ⟨-, -, hused⟩ := h.ended hfin hcomplete ⟨i, hi⟩
    rw [hused c (written_subset_used fuel _ hc)]
    refine (k.heapsAt_get? fuel heaps hi fun j hij hj hwj => ?_).symm
    exact hdisjoint i hi j hj (Nat.ne_of_lt hij) c hc (written_subset_used fuel _ hwj)
  · have hnone : ∀ i < n, c ∉ k.writtenBy fuel heaps i := fun i hi hc => hw ⟨i, hi, hc⟩
    rw [h.unwritten c hnone]
    exact (k.heapsAt_get? fuel heaps (Nat.zero_le n) fun j _ hj => hnone j hj).symm

end Disjoint

/-- If every lane finishes when the lanes run one after another, and no lane then uses a cell that
another one writes, then the lanes may take their steps in any order. Whenever all of them have
ended, the heaps are those that the lanes leave one after another, and each lane has ended in the
same way, with the same output after the same number of steps. -/
theorem interleaving_eq_laneOrder (k : Compiled) (fuel : Nat) (heaps : Array Heap) (n : Nat)
    (hfin : ∀ i < n, (k.inOrder fuel heaps i).2 ≠ .unfinished)
    (hdisjoint : ∀ i < n, ∀ j < n, i ≠ j →
      ∀ c ∈ k.writtenBy fuel heaps i, c ∉ k.usedBy fuel heaps j) :
    (∃ s, ReflTransGen Steps (start k heaps n) s ∧ s.Complete) ∧
      ∀ s, ReflTransGen Steps (start k heaps n) s → s.Complete →
        s.heaps = k.heapsAt fuel heaps n ∧
          ∀ i : Fin n, (s.lanes i).ended = some (k.inOrder fuel heaps i).2 ∧
            (s.lanes i).machine.printed = (k.inOrder fuel heaps i).1.printed ∧
            (s.lanes i).machine.steps = (k.inOrder fuel heaps i).1.steps := by
  refine ⟨exists_complete hfin, fun s hs hcomplete => ?_⟩
  have hcoherent := coherent_of_steps hfin hdisjoint hs
  refine ⟨hcoherent.heaps_eq hfin hdisjoint hcomplete, fun i => ?_⟩
  obtain ⟨hended, hmachine, -⟩ := hcoherent.ended hfin hcomplete i
  have hprinted := congrArg Machine.printed hmachine
  have hsteps := congrArg Machine.steps hmachine
  exact ⟨hended, hprinted, hsteps⟩

/-- Each lane adds one to the cell with its number. -/
def ownIncrement : Compiled :=
  { program := ⟨#[26, 26, 27, 0, 23, 1, 28, 0, 16]⟩, entry := 0, engine := .lane, stackSize := 3
    heaps := [2], placement := .separate, trace := false, maxSteps := 0 }

/-- Two lanes that increment a cell each leave both cells incremented, in whatever order they take
their steps. -/
theorem ownIncrement_any_order :
    (∃ s, ReflTransGen Steps (start ownIncrement #[#[5, 7]] 2) s ∧ s.Complete) ∧
      ∀ s, ReflTransGen Steps (start ownIncrement #[#[5, 7]] 2) s → s.Complete →
        s.heaps = #[#[6, 8]] ∧ ∀ i : Fin 2, (s.lanes i).machine.steps = 7 := by
  have hapart : ∀ i j : Fin 2, i ≠ j → ∀ c ∈ ownIncrement.writtenBy 9 #[#[5, 7]] i,
      c ∉ ownIncrement.usedBy 9 #[#[5, 7]] j := by decide +kernel
  obtain ⟨hsome, hall⟩ := interleaving_eq_laneOrder ownIncrement 9 #[#[5, 7]] 2
    (by decide +kernel) fun i hi j hj hij => hapart ⟨i, hi⟩ ⟨j, hj⟩ (Fin.ne_of_val_ne hij)
  refine ⟨hsome, fun s hs hcomplete => ?_⟩
  obtain ⟨hheaps, hlanes⟩ := hall s hs hcomplete
  have hsteps : ∀ i : Fin 2, (ownIncrement.inOrder 9 #[#[5, 7]] i).1.steps = 7 := by decide +kernel
  exact ⟨hheaps.trans (by decide +kernel), fun i => (hlanes i).2.2.trans (hsteps i)⟩

end System

end Lanewise
