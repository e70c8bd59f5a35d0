import Lanewise.Cpu.Basic
import Lanewise.Proofs.Device.Acceptance
import Lanewise.Proofs.Device.LaneStacks
import Lanewise.Proofs.Machine.Footprint
import Lanewise.Proofs.Machine.MemorySafety
import Lanewise.Proofs.Machine.Runs

/-!
# Launches in lane order

The meaning of a launch is a plain loop: each lane in turn starts a fresh machine on the heaps that
the lane before it has left, whether that lane halted or faulted. Groups and slabs do not occur in
it. A launch on the host processor, with its loop over groups, its loop over the lanes of a group
and its slabs, gives the same answer.

## Main definitions

* `Compiled.laneStart`: the machine that a lane starts.
* `Compiled.heapsAt`, `Compiled.inOrder`: the heaps that a lane starts with, and its run.
* `Compiled.laneOrder`: the answer of a launch.

## Main results

* `Cpu.launch_eq_laneOrder`: a launch in groups is a launch in lane order.
* `Cpu.execute_eq_laneOrder`: the device answers with it, whatever the group size and the placement.
-/

namespace Lanewise

/-- The fault of a run that ended in one. -/
def Machine.Outcome.fault? : Machine.Outcome → Option Fault
  | faulted f => some f
  | _ => none

theorem Machine.Outcome.fault?_eq_none_iff {o : Machine.Outcome} (hr : o ≠ .notRunnable)
    (hu : o ≠ .unfinished) : o.fault? = none ↔ ∃ r, o = .halted r := by
  cases o with
  | halted r => simp [Machine.Outcome.fault?]
  | faulted f => simp [Machine.Outcome.fault?]
  | notRunnable => exact absurd rfl hr
  | unfinished => exact absurd rfl hu

namespace Compiled

/-- The machine that a lane starts: nothing but zeros on its stack, and the heaps as they are. -/
def laneStart (k : Compiled) (heaps : Array Heap) (lane : Nat) : Machine :=
  { code := k.program, engine := .lane, lane := Int32.ofNat lane, ip := k.entry
    stack := Array.replicate k.stackSize 0, height := 0, fp := 0, depth := 0, heaps
    meter := .ofLimit k.maxSteps, phase := .ready, printed := #[]
    tracing := k.trace, trace := #[] }

/-- The heaps that a lane starts with: those that the lane before it has left. -/
def heapsAt (k : Compiled) (fuel : Nat) (heaps : Array Heap) : (lane : Nat) → Array Heap
  | 0 => heaps
  | lane + 1 => ((k.laneStart (heapsAt k fuel heaps lane) lane).run fuel).1.heaps

/-- The run of a lane when the lanes run one after another. -/
def inOrder (k : Compiled) (fuel : Nat) (heaps : Array Heap) (lane : Nat) :
    Machine × Machine.Outcome :=
  (k.laneStart (k.heapsAt fuel heaps lane) lane).run fuel

/-- The runs of the first `n` lanes. -/
def runsBefore (k : Compiled) (fuel : Nat) (heaps : Array Heap) (n : Nat) :
    List (Machine × Machine.Outcome) :=
  (List.range n).map (k.inOrder fuel heaps)

/-- Whether a lane faults when the lanes run one after another. -/
def faultsAt (k : Compiled) (fuel : Nat) (heaps : Array Heap) (lane : Nat) : Bool :=
  (k.inOrder fuel heaps lane).2.fault?.isSome

/-- What a launch answers when its lanes run one after another. -/
def laneOrder (k : Compiled) (fuel : Nat) (heaps : Array Heap) (lanes : Nat) (groups : Int) :
    Except Device.Error Completion :=
  let runs := k.runsBefore fuel heaps lanes
  if runs.any (·.2 = .unfinished) then .error .unfinished
  else match runs.filterMap (·.2.fault?) with
    | [] =>
      .ok { heaps := k.heapsAt fuel heaps lanes
            printed := (runs.map (·.1.printed)).toArray
            steps := (runs.map (·.1.steps)).foldl (· + ·) 0
            groups
            trace := (runs.flatMap (·.1.trace.toList.map TraceRecord.text)).toArray }
    | faults => .error (.laneFault faults)

end Compiled

namespace Compiled

variable (k : Compiled) (fuel : Nat) (heaps : Array Heap)

theorem laneStart_bounded {k : Compiled} (hstack : 0 < k.stackSize) (heaps : Array Heap)
    (lane : Nat) : (k.laneStart heaps lane).Bounded :=
  ⟨Nat.zero_le _, by simpa [laneStart] using hstack⟩

theorem heapsAt_succ (lane : Nat) :
    k.heapsAt fuel heaps (lane + 1) = (k.inOrder fuel heaps lane).1.heaps :=
  rfl

/-- The heaps keep their number and sizes from lane to lane. -/
theorem heapsAt_sizes (lane : Nat) :
    (k.heapsAt fuel heaps lane).map Array.size = heaps.map Array.size := by
  induction lane with
  | zero => rfl
  | succ lane ih =>
    rw [heapsAt_succ, inOrder, Machine.run_of_ready rfl, Machine.advance_sizes]
    exact ih

theorem runsBefore_succ (n : Nat) :
    k.runsBefore fuel heaps (n + 1) = k.runsBefore fuel heaps n ++ [k.inOrder fuel heaps n] := by
  simp only [runsBefore, List.range_succ, List.map_append, List.map_cons, List.map_nil]

/-- A launch whose lanes all halt has one row for each of them. -/
theorem laneOrder_eq_ok {lanes : Nat}
    (h : ∀ lane < lanes, ∃ r, (k.inOrder fuel heaps lane).2 = .halted r) (groups : Int) :
    ∃ c, k.laneOrder fuel heaps lanes groups = .ok c ∧ c.heaps = k.heapsAt fuel heaps lanes ∧
      c.printed.size = lanes := by
  have hany : ¬(k.runsBefore fuel heaps lanes).any (·.2 = .unfinished) = true := by
    rw [List.any_eq_true]
    rintro ⟨x, hx, hu⟩
    obtain ⟨lane, hlane, rfl⟩ := List.mem_map.1 hx
    obtain ⟨r, hr⟩ := h lane (List.mem_range.1 hlane)
    rw [decide_eq_true_eq, hr] at hu
    cases hu
  have hfaults : (k.runsBefore fuel heaps lanes).filterMap (·.2.fault?) = [] := by
    refine List.filterMap_eq_nil_iff.2 fun x hx => ?_
    obtain ⟨lane, hlane, rfl⟩ := List.mem_map.1 hx
    obtain ⟨r, hr⟩ := h lane (List.mem_range.1 hlane)
    rw [hr]
    rfl
  unfold laneOrder
  dsimp only
  rw [if_neg hany, hfaults]
  exact ⟨_, rfl, rfl, by simp [runsBefore]⟩

/-- If all lanes end and one of them faults, the faults are the answer. -/
theorem laneOrder_eq_faults {lanes : Nat}
    (hend : ∀ lane < lanes, (k.inOrder fuel heaps lane).2 ≠ .unfinished)
    (hfault : ∃ lane < lanes, k.faultsAt fuel heaps lane = true) (groups : Int) :
    k.laneOrder fuel heaps lanes groups =
      .error (.laneFault ((k.runsBefore fuel heaps lanes).filterMap (·.2.fault?))) := by
  have hany : ¬(k.runsBefore fuel heaps lanes).any (·.2 = .unfinished) = true := by
    rw [List.any_eq_true]
    rintro ⟨x, hx, hu⟩
    obtain ⟨lane, hlane, rfl⟩ := List.mem_map.1 hx
    exact hend lane (List.mem_range.1 hlane) (of_decide_eq_true hu)
  unfold laneOrder
  dsimp only
  rw [if_neg hany]
  split
  · next hnil =>
    obtain ⟨lane, hlane, hfaults⟩ := hfault
    have hnone :=
      List.filterMap_eq_nil_iff.1 hnil _ (List.mem_map.2 ⟨lane, List.mem_range.2 hlane, rfl⟩)
    rw [faultsAt, hnone] at hfaults
    cases hfaults
  · rfl

/-- A launch that succeeds counts the steps of all its lanes. -/
theorem laneOrder_steps {lanes : Nat} {groups : Int} {c : Completion}
    (h : k.laneOrder fuel heaps lanes groups = .ok c) :
    c.steps = ((k.runsBefore fuel heaps lanes).map (·.1.steps)).foldl (· + ·) 0 := by
  unfold laneOrder at h
  dsimp only at h
  split at h
  · cases h
  · split at h
    · exact (Except.ok.inj h) ▸ rfl
    · cases h

/-- A launch in lane order has no other ends than these. -/
theorem laneOrder_cases (lanes : Nat) (groups : Int) :
    (∃ c, k.laneOrder fuel heaps lanes groups = .ok c ∧ c.heaps = k.heapsAt fuel heaps lanes ∧
      c.groups = groups) ∨
    k.laneOrder fuel heaps lanes groups = .error .unfinished ∨
    ∃ faults, k.laneOrder fuel heaps lanes groups = .error (.laneFault faults) := by
  unfold laneOrder
  dsimp only
  split
  · exact .inr (.inl rfl)
  · split
    · exact .inl ⟨_, rfl, rfl, rfl⟩
    · exact .inr (.inr ⟨_, rfl⟩)

/-- A run that was started ends in one of three ways. -/
theorem inOrder_ne_notRunnable (lane : Nat) : (k.inOrder fuel heaps lane).2 ≠ .notRunnable :=
  Machine.run_ne_notRunnable rfl fuel

/-- A launch whose lanes all end either succeeds or has a fault to show. -/
theorem laneOrder_ends {lanes : Nat}
    (hend : ∀ lane < lanes, (k.inOrder fuel heaps lane).2 ≠ .unfinished) (groups : Int) :
    (∃ c, k.laneOrder fuel heaps lanes groups = .ok c) ∨
      ∃ f fs, k.laneOrder fuel heaps lanes groups = .error (.laneFault (f :: fs)) := by
  by_cases hfault : ∃ lane < lanes, k.faultsAt fuel heaps lane = true
  · have hanswer := k.laneOrder_eq_faults fuel heaps hend hfault groups
    cases hfaults : (k.runsBefore fuel heaps lanes).filterMap (·.2.fault?) with
    | cons f fs => exact .inr ⟨f, fs, hfaults ▸ hanswer⟩
    | nil =>
      obtain ⟨lane, hlt, hat⟩ := hfault
      have hnone := List.filterMap_eq_nil_iff.1 hfaults _
        (List.mem_map.2 ⟨lane, List.mem_range.2 hlt, rfl⟩)
      rw [faultsAt, hnone] at hat
      cases hat
  · have hhalt (lane : Nat) (hlt : lane < lanes) :
      ∃ r, (k.inOrder fuel heaps lane).2 = .halted r := by
      refine (Machine.Outcome.fault?_eq_none_iff (k.inOrder_ne_notRunnable fuel heaps lane)
        (hend lane hlt)).1 (Option.not_isSome_iff_eq_none.1 fun hat => hfault ⟨lane, hlt, hat⟩)
    obtain ⟨c, hanswer, -, -⟩ := k.laneOrder_eq_ok fuel heaps hhalt groups
    exact .inl ⟨c, hanswer⟩

end Compiled

namespace Cpu

open Compiled

/-! ### Groups and slabs -/

section Launch

variable (k : Compiled) (fuel : Nat) (heaps : Array Heap)

/-- The row of a run; a lane that faulted has none. -/
def rowOf (x : Machine × Machine.Outcome) : Array Word :=
  match x.2 with
  | .halted r => r.printed
  | _ => #[]

/-- What the first `n` lanes leave behind when they run one after another. -/
def progressAfter (n : Nat) (storage : Stacks) : Progress :=
  { heaps := k.heapsAt fuel heaps n, storage
    printed := ((k.runsBefore fuel heaps n).map rowOf).toArray
    steps := ((k.runsBefore fuel heaps n).map (·.1.steps)).foldl (· + ·) 0
    faults := ((k.runsBefore fuel heaps n).filterMap (·.2.fault?)).toArray
    trace := ((k.runsBefore fuel heaps n).flatMap (·.1.trace.toList)).toArray }

/-- A kernel of the lane engine whose lanes can start on the given heaps. -/
structure Startable : Prop where
  engine_eq : k.engine = .lane
  entry_ok : k.program.checkEntry k.entry = .ok ()
  stack_pos : 0 < k.stackSize
  heaps_pos : 0 < heaps.size

variable {k heaps}

/-- Every lane can start on the heaps that it finds. -/
theorem Startable.heapsAt (h : Startable k heaps) (lane : Nat) :
    Startable k (k.heapsAt fuel heaps lane) := by
  have hsizes := congrArg Array.size (heapsAt_sizes k fuel heaps lane)
  rw [Array.size_map, Array.size_map] at hsizes
  exact { h with heaps_pos := hsizes ▸ h.heaps_pos }

theorem Startable.laneMachine_eq (h : Startable k heaps) (lane : Nat) :
    laneMachine k (Array.replicate k.stackSize 0) heaps lane = .ok (k.laneStart heaps lane) := by
  have hstack : 0 < (Array.replicate k.stackSize (0 : Word)).size := by
    rw [Array.size_replicate]
    exact h.stack_pos
  unfold laneMachine
  rw [h.engine_eq]
  exact Machine.create_lane h.entry_ok hstack k.trace k.maxSteps h.heaps_pos _

/-- The stack of a lane keeps its size. -/
theorem Startable.stack_size (h : Startable k heaps) (lane : Nat) :
    (k.inOrder fuel heaps lane).1.stack.size = k.stackSize :=
  (Machine.run_keeps (laneStart_bounded h.stack_pos _ lane) fuel).stack_size.trans
    Array.size_replicate

/-- One lane adds its run to what the lanes before it have left. -/
theorem runLane_progressAfter (h : Startable k heaps) {n inGroup : Nat} {s : Stacks}
    (hstack : s.take n inGroup = Array.replicate k.stackSize 0) :
    runLane k fuel n inGroup (progressAfter k fuel heaps n s) =
      if (k.inOrder fuel heaps n).2 = .unfinished then .error .unfinished
      else .ok (progressAfter k fuel heaps (n + 1)
        (s.put n inGroup (k.inOrder fuel heaps n).1.stack)) := by
  have hrun : (k.laneStart (k.heapsAt fuel heaps n) n).run fuel = k.inOrder fuel heaps n := rfl
  unfold runLane
  simp only [progressAfter, hstack, (h.heapsAt fuel n).laneMachine_eq, hrun]
  cases ho : (k.inOrder fuel heaps n).2 with
  | unfinished => simp
  | notRunnable => exact absurd ho (inOrder_ne_notRunnable k fuel heaps n)
  | halted r =>
    simp [runsBefore_succ, heapsAt_succ, rowOf, ho, Machine.Outcome.fault?]
  | faulted f =>
    simp [runsBefore_succ, heapsAt_succ, rowOf, ho, Machine.Outcome.fault?]

/-- Where the first `n` lanes of a launch lead: either one of them needs more fuel than there is, or
they leave what they leave one after another, with storage that is ready for the next lane. -/
inductive Reached (k : Compiled) (fuel : Nat) (heaps : Array Heap) (lanes group n inGroup : Nat) :
    Except Device.Error Progress → Prop
  | unfinished {lane : Nat} (hlt : lane < n) (h : (k.inOrder fuel heaps lane).2 = .unfinished) :
      Reached k fuel heaps lanes group n inGroup (.error .unfinished)
  | progress {s : Stacks} (h : ∀ lane < n, (k.inOrder fuel heaps lane).2 ≠ .unfinished)
      (hsize : s.size = k.stackSize) (hgroup : s.group = group) (hready : s.Ready lanes n inGroup) :
      Reached k fuel heaps lanes group n inGroup (.ok (progressAfter k fuel heaps n s))

/-- A lane leads from one place to the next. -/
theorem runLane_reached (hk : Startable k heaps) {lanes group n inGroup : Nat} {p : Progress}
    (hlane : n < lanes) (hin : inGroup < group)
    (h : Reached k fuel heaps lanes group n inGroup (.ok p)) :
    Reached k fuel heaps lanes group (n + 1) (inGroup + 1) (runLane k fuel n inGroup p) := by
  cases h with
  | progress h hsize hgroup hready =>
    have htake := hready.take_eq hlane (hgroup ▸ hin)
    rw [hsize] at htake
    rw [runLane_progressAfter fuel hk htake]
    split
    · next hu => exact .unfinished (Nat.lt_succ_self n) hu
    · next hu =>
      have hstack := hk.stack_size fuel n
      refine .progress (fun lane hlt => ?_) (by rw [Stacks.put_size, hsize])
        (by rw [Stacks.put_group, hgroup]) (hready.put (hstack.trans hsize.symm))
      rcases Nat.lt_succ_iff_lt_or_eq.1 hlt with hlt | rfl
      · exact h lane hlt
      · exact hu

/-- The lanes of a group lead from the start of the group to its end. -/
theorem runGroup_reached (hk : Startable k heaps) {lanes group : Nat} (first n done : Nat)
    {p : Progress} (hlanes : first + done + n ≤ lanes) (hgroup : done + n ≤ group)
    (h : Reached k fuel heaps lanes group (first + done) done (.ok p)) :
    Reached k fuel heaps lanes group (first + done + n) (done + n)
      (runGroup k fuel first n done p) := by
  induction n generalizing done p with
  | zero => exact h
  | succ n ih =>
    have hstep := runLane_reached fuel hk (by omega) (by omega) h
    unfold runGroup
    cases hr : runLane k fuel (first + done) done p with
    | error e =>
      rw [hr] at hstep
      cases hstep with
      | unfinished hlt hu => exact .unfinished (by omega) hu
    | ok p' =>
      rw [hr] at hstep
      have hrest := ih (done + 1) (by omega) (by omega) hstep
      rwa [show first + (done + 1) + n = first + done + (n + 1) by omega,
        show done + 1 + n = done + (n + 1) by omega] at hrest

/-- A group that starts anew, after the groups before it. -/
theorem Reached.enterGroup {lanes group n inGroup : Nat} {p : Progress}
    (h : Reached k fuel heaps lanes group n inGroup (.ok p)) :
    Reached k fuel heaps lanes group n 0 (.ok { p with storage := p.storage.enterGroup }) := by
  cases h with
  | progress h hsize hgroup hready =>
    exact .progress h ((Stacks.enterGroup_size _).trans hsize)
      ((Stacks.enterGroup_group _).trans hgroup) (Stacks.enterGroup_ready hready.shared)

/-- The groups of a launch lead through all their lanes, each lane once and in order. -/
theorem runGroups_reached (hk : Startable k heaps) {lanes group inGroup : Nat} (n done : Nat)
    {p : Progress} (hlanes : (done + n) * group ≤ lanes)
    (h : Reached k fuel heaps lanes group (done * group) inGroup (.ok p)) :
    ∃ inGroup', Reached k fuel heaps lanes group ((done + n) * group) inGroup'
      (runGroups k fuel group n done p) := by
  induction n generalizing done inGroup p with
  | zero => exact ⟨inGroup, h⟩
  | succ n ih =>
    have hnext : (done + 1) * group ≤ (done + (n + 1)) * group :=
      Nat.mul_le_mul_right group (by omega)
    rw [Nat.succ_mul] at hnext
    have hgroup := runGroup_reached fuel hk (done * group) group 0 (by omega) (by omega)
      h.enterGroup
    unfold runGroups
    cases hr : runGroup k fuel (done * group) group 0
        { p with storage := p.storage.enterGroup } with
    | error e =>
      rw [hr] at hgroup
      cases hgroup with
      | unfinished hlt hu => exact ⟨0, .unfinished (by omega) hu⟩
    | ok p' =>
      rw [hr, Nat.add_zero, ← Nat.succ_mul] at hgroup
      obtain ⟨inGroup', hrest⟩ := ih (done + 1)
        (by rwa [show done + 1 + n = done + (n + 1) by omega]) hgroup
      exact ⟨inGroup', by rwa [show done + 1 + n = done + (n + 1) by omega] at hrest⟩

/-- Without faults, the rows of the lanes are what their machines have printed. -/
theorem rows_eq {n : Nat} (hfin : ∀ lane < n, (k.inOrder fuel heaps lane).2 ≠ .unfinished)
    (hnone : (k.runsBefore fuel heaps n).filterMap (·.2.fault?) = []) :
    (k.runsBefore fuel heaps n).map rowOf = (k.runsBefore fuel heaps n).map (·.1.printed) := by
  apply List.map_congr_left
  intro x hx
  have hfault := List.filterMap_eq_nil_iff.1 hnone x hx
  obtain ⟨lane, hlane, rfl⟩ := List.mem_map.1 hx
  obtain ⟨r, hr⟩ := (Machine.Outcome.fault?_eq_none_iff (inOrder_ne_notRunnable k fuel heaps lane)
    (hfin lane (List.mem_range.1 hlane))).1 hfault
  have hprinted := congrArg Machine.Result.printed (Machine.run_halted hr)
  rw [rowOf, hr]
  exact hprinted

/-- A launch in groups is a launch in lane order. -/
theorem launch_eq_laneOrder (hk : Startable k heaps) {lanes group : Nat}
    (hdvd : lanes % group = 0) :
    launch k fuel heaps lanes group = k.laneOrder fuel heaps lanes (lanes / group) := by
  have hall : (0 + lanes / group) * group = lanes := by
    rw [Nat.zero_add, Nat.mul_comm]
    exact Nat.mul_div_cancel' (Nat.dvd_of_mod_eq_zero hdvd)
  have hstart : Reached k fuel heaps lanes group (0 * group) group (.ok
      { heaps, storage := Stacks.create k.placement k.stackSize lanes group }) := by
    rw [Nat.zero_mul]
    exact .progress (fun lane hlt => absurd hlt (Nat.not_lt_zero lane)) rfl rfl
      (Stacks.create_ready _ _ _ _)
  obtain ⟨inGroup, hend⟩ := runGroups_reached fuel hk (lanes / group) 0 (Nat.le_of_eq hall) hstart
  rw [hall] at hend
  unfold launch laneOrder
  generalize runGroups k fuel group (lanes / group) 0 _ = answer at hend ⊢
  cases hend with
  | unfinished hlt hu =>
    have hany : (k.runsBefore fuel heaps lanes).any (·.2 = .unfinished) = true := by
      rw [List.any_eq_true]
      exact ⟨_, List.mem_map.2 ⟨_, List.mem_range.2 hlt, rfl⟩, by simpa using hu⟩
    rw [if_pos hany]
    rfl
  | progress hfin _ _ _ =>
    have hany : ¬(k.runsBefore fuel heaps lanes).any (·.2 = .unfinished) = true := by
      rw [List.any_eq_true]
      rintro ⟨x, hx, hu⟩
      obtain ⟨lane, hlane, rfl⟩ := List.mem_map.1 hx
      exact hfin lane (List.mem_range.1 hlane) (by simpa using hu)
    rw [if_neg hany]
    cases hfaults : (k.runsBefore fuel heaps lanes).filterMap (·.2.fault?) with
    | nil =>
      simp only [bind, Except.bind, progressAfter, hfaults, rows_eq fuel hfin hfaults]
      simp [pure, Except.pure, List.map_flatMap]
    | cons f fs =>
      simp only [bind, Except.bind, progressAfter, hfaults]
      simp [throw, throwThe, MonadExceptOf.throw]

end Launch

/-! ### Answers of the device -/

/-- A fault names the lane that raised it. -/
theorem inOrder_fault_lane {k : Compiled} (hstack : 0 < k.stackSize) {fuel lane : Nat}
    {heaps : Array Heap} {f : Fault} (hlt : lane < 0x80000000)
    (h : (k.inOrder fuel heaps lane).2.fault? = some f) : f.lane.toInt = lane := by
  have hf : (k.inOrder fuel heaps lane).2 = .faulted f := by
    revert h
    cases (k.inOrder fuel heaps lane).2 <;> simp [Machine.Outcome.fault?]
  have hlane := Machine.run_faulted_lane (laneStart_bounded hstack _ lane) hf
  rw [hlane]
  exact Int32.toInt_ofNat_of_lt hlt

/-- The faults of a launch name exactly the lanes that faulted, each once and in order. -/
theorem faults_lanes {k : Compiled} (hstack : 0 < k.stackSize) (fuel : Nat) (heaps : Array Heap)
    {n : Nat} (hn : n ≤ 0x80000000) :
    ((k.runsBefore fuel heaps n).filterMap (·.2.fault?)).map (·.lane.toInt) =
      ((List.range n).filter (k.faultsAt fuel heaps)).map Int.ofNat := by
  induction n with
  | zero => rfl
  | succ n ih =>
    rw [runsBefore_succ, List.filterMap_append, List.map_append, ih (by omega), List.range_succ,
      List.filter_append, List.map_append]
    congr 1
    cases hf : (k.inOrder fuel heaps n).2.fault? with
    | none => simp [faultsAt, hf]
    | some f => simp [faultsAt, hf, inOrder_fault_lane hstack (by omega) hf]

/-- What an accepted kernel of the lane engine brings to an accepted launch. -/
theorem startable_of_accepted {K : Kernel} {k : Compiled} (hk : K.compile = .ok k)
    (hlane : k.engine = .lane) {l : Launch} {default limit g : Int}
    (hl : l.validate k.kernel default limit = .ok g) : Startable k l.heaps := by
  obtain ⟨program, entry, engine, placement, ha, rfl⟩ := (Kernel.compile_eq_ok_iff K k).1 hk
  have hfit := ((Launch.groupFor_eq_ok_iff _ _ _ _ _ _ _ _ _).1 hl).heap_sizes
  refine ⟨hlane, ?_, ?_, ?_⟩
  · change program.checkEntry (entry.toNat : Int) = .ok ()
    rw [ha.entry_toNat]
    exact ha.entry_ok
  · have := ha.stackCells_pos
    change 0 < K.stackCells.toNat
    omega
  · have hlen := congrArg List.length hfit
    have hne := List.length_pos_iff.2 ha.heaps_ne
    simp only [List.length_map, Array.length_toList, Compiled.kernel, Kernel.compiled] at hlen
    omega

/-- A device that accepts a launch of a kernel runs it. -/
theorem execute_eq_launch {c : Cpu} {ctx : Context} (hctx : ctx.cancelled = false) {h : Handle}
    {k : Compiled} (hc : c.kernel? h.id = some k) {l : Launch} {g : Int}
    (hl : l.validate k.kernel c.defaultGroup c.maxGroup = .ok g) :
    c.execute ctx h l = launch k c.fuel l.heaps l.lanes.toNat g.toNat := by
  unfold execute
  rw [hctx, hc]
  simp only [Bool.false_eq_true, if_false, hl]

theorem execute_of_accepted {c : Cpu} {ctx : Context} (hctx : ctx.cancelled = false) {h : Handle}
    {k : Compiled} (hc : c.kernel? h.id = some k) {l : Launch} {g : Int}
    (hl : l.validate k.kernel c.defaultGroup c.maxGroup = .ok g) (hk : Startable k l.heaps) :
    c.execute ctx h l = k.laneOrder c.fuel l.heaps l.lanes.toNat (l.lanes / g) := by
  have ha := (Launch.groupFor_eq_ok_iff _ _ _ _ _ _ _ _ _).1 hl
  have hlanes := Int.toNat_of_nonneg (Int.le_of_lt ha.lanes_pos)
  have hgroup := Int.toNat_of_nonneg (Int.le_of_lt ha.group_pos)
  have hdvd : l.lanes.toNat % g.toNat = 0 := by
    have hmod := ha.group_dvd
    rw [← hlanes, ← hgroup] at hmod
    exact_mod_cast hmod
  rw [execute_eq_launch hctx hc hl, launch_eq_laneOrder c.fuel hk hdvd, hlanes, hgroup]

theorem heapsAt_placement (k : Compiled) (placement : Placement) (fuel : Nat) (heaps : Array Heap)
    (lane : Nat) :
    ({ k with placement } : Compiled).heapsAt fuel heaps lane = k.heapsAt fuel heaps lane := by
  induction lane with
  | zero => rfl
  | succ lane ih =>
    rw [heapsAt, ih]
    rfl

/-- The placement of stacks has no part in the order of lanes. -/
theorem laneOrder_placement (k : Compiled) (placement : Placement) :
    ({ k with placement } : Compiled).laneOrder = k.laneOrder := by
  have hruns : ({ k with placement } : Compiled).runsBefore = k.runsBefore := by
    funext fuel heaps n
    apply List.map_congr_left
    intro lane _
    rw [inOrder, heapsAt_placement]
    rfl
  funext fuel heaps lanes groups
  unfold laneOrder
  rw [hruns, heapsAt_placement]

/-- Kernels that differ in their placement alone compile to kernels that do. -/
theorem compile_placement {K : Kernel} {k k' : Compiled} {placement : Int}
    (hk : K.compile = .ok k) (hk' : ({ K with placement } : Kernel).compile = .ok k') :
    k' = { k with placement := k'.placement } := by
  obtain ⟨program, entry, engine, p, ha, rfl⟩ := (Kernel.compile_eq_ok_iff _ _).1 hk
  obtain ⟨program', entry', engine', p', ha', rfl⟩ := (Kernel.compile_eq_ok_iff _ _).1 hk'
  have hprogram := ha.resolve_eq.symm.trans ha'.resolve_eq
  have hengine := ha.engine_eq.symm.trans ha'.engine_eq
  cases hprogram
  cases hengine
  rfl

/-- The number of groups set aside. -/
def ungrouped (c : Completion) : Completion :=
  { c with groups := 0 }

theorem laneOrder_ungrouped (k : Compiled) (fuel : Nat) (heaps : Array Heap) (lanes : Nat)
    (groups groups' : Int) :
    (k.laneOrder fuel heaps lanes groups).map ungrouped =
      (k.laneOrder fuel heaps lanes groups').map ungrouped := by
  unfold laneOrder
  dsimp only
  split
  · rfl
  · split <;> rfl

/-- A launch of an accepted kernel of the lane engine runs its lanes one after another on the heaps
of the launch. If lanes fault, their faults are the answer, one for each of them in lane order.
Apart from the number of groups, no answer depends on the group size or on where the stacks live. -/
theorem execute_eq_laneOrder {K : Kernel} {k : Compiled} (hk : K.compile = .ok k)
    (hlane : k.engine = .lane) {c : Cpu} {ctx : Context} (hctx : ctx.cancelled = false) {h : Handle}
    (hc : c.kernel? h.id = some k) {l : Launch} {g : Int}
    (hl : l.validate k.kernel c.defaultGroup c.maxGroup = .ok g) :
    c.execute ctx h l = k.laneOrder c.fuel l.heaps l.lanes.toNat (l.lanes / g) ∧
      ((∀ x ∈ k.runsBefore c.fuel l.heaps l.lanes.toNat, x.2 ≠ .unfinished) →
        (∃ lane < l.lanes.toNat, k.faultsAt c.fuel l.heaps lane = true) →
        ∃ faults, c.execute ctx h l = .error (.laneFault faults) ∧
          faults.map (·.lane.toInt) =
            ((List.range l.lanes.toNat).filter (k.faultsAt c.fuel l.heaps)).map Int.ofNat) ∧
      ∀ (placement : Int) (k' : Compiled) (c' : Cpu) (h' : Handle) (groupSize g' : Int),
        ({ K with placement } : Kernel).compile = .ok k' → c'.kernel? h'.id = some k' →
        c'.fuel = c.fuel →
        ({ l with groupSize } : Launch).validate k'.kernel c'.defaultGroup c'.maxGroup = .ok g' →
        (c'.execute ctx h' { l with groupSize }).map ungrouped =
          (c.execute ctx h l).map ungrouped := by
  have hstart := startable_of_accepted hk hlane hl
  have ha := (Launch.groupFor_eq_ok_iff _ _ _ _ _ _ _ _ _).1 hl
  have hanswer := execute_of_accepted hctx hc hl hstart
  refine ⟨hanswer, fun hfin hfault => ?_,
    fun placement k' c' h' groupSize g' hk' hc' hfuel hl' => ?_⟩
  · have hmany : l.lanes.toNat ≤ 0x80000000 := by
      have := ha.lanes_le
      simp only [maxLanes] at this
      omega
    have hlanes := faults_lanes hstart.stack_pos c.fuel l.heaps hmany
    obtain ⟨lane, hlt, hat⟩ := hfault
    have hmem : lane ∈ (List.range l.lanes.toNat).filter (k.faultsAt c.fuel l.heaps) :=
      List.mem_filter.2 ⟨List.mem_range.2 hlt, hat⟩
    have hany : ¬(k.runsBefore c.fuel l.heaps l.lanes.toNat).any (·.2 = .unfinished) = true := by
      rw [List.any_eq_true]
      rintro ⟨x, hx, hu⟩
      exact hfin x hx (by simpa using hu)
    refine ⟨_, ?_, hlanes⟩
    rw [hanswer, laneOrder, if_neg hany]
    split
    · next hnil =>
      rw [hnil, List.map_nil] at hlanes
      rw [List.map_eq_nil_iff.1 hlanes.symm] at hmem
      cases hmem
    · rfl
  · have hsame := compile_placement hk hk'
    have hlane' : k'.engine = .lane := by rw [hsame]; exact hlane
    have hanswer' := execute_of_accepted hctx hc' hl' (startable_of_accepted hk' hlane' hl')
    rw [hanswer, hanswer', hfuel, hsame, laneOrder_placement]
    exact laneOrder_ungrouped k c.fuel l.heaps l.lanes.toNat _ _

/-- Each lane stores its number into the cell with its number. -/
def ownCell : Kernel :=
  { program := some ⟨#[26, 26, 28, 0, 16]⟩, stackSize := 2, heaps := [2], placement := 1 }

/-- Four lanes in groups of two, on a heap of two cells. -/
def ownCellLaunch : Launch :=
  { heaps := #[#[0, 0]], lanes := 4, groupSize := 2 }

/-- The lanes that have no cell of their own are the ones that the answer lists. -/
theorem ownCell_faults :
    ∃ (k : Compiled) (faults : List Fault), ownCell.compile = .ok k ∧
      ({ fuel := 9, kernels := [("own", k)] } : Cpu).execute {} ⟨"own", name⟩ ownCellLaunch =
        .error (.laneFault faults) ∧
      faults.map (·.lane.toInt) = [2, 3] := by
  let k := ownCell.compiled ⟨#[26, 26, 28, 0, 16]⟩ 0 .lane .grouped
  let c : Cpu := { fuel := 9, kernels := [("own", k)] }
  have hk : ownCell.compile = .ok k := ok_of_toOption_eq (by decide +kernel)
  have hl : ownCellLaunch.validate k.kernel c.defaultGroup c.maxGroup = .ok 2 := rfl
  have hctx : ({} : Context).cancelled = false := rfl
  have hc : c.kernel? (⟨"own", name⟩ : Handle).id = some k := rfl
  obtain ⟨-, hfaults, -⟩ := execute_eq_laneOrder hk rfl hctx hc hl
  obtain ⟨faults, hanswer, hlanes⟩ :=
    hfaults (by decide +kernel) ⟨2, by decide, by decide +kernel⟩
  exact ⟨k, faults, hk, hanswer, hlanes.trans (by decide +kernel)⟩

end Cpu

end Lanewise
