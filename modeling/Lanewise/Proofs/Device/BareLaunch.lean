import Lanewise.Cpu.Basic
import Lanewise.Proofs.Device.LaneStacks
import Lanewise.Proofs.Machine.MemorySafety
import Lanewise.Proofs.Machine.Runs

/-!
# Bare launches

A bare launch does what a launch does, with nothing to keep its slabs in shape. Sizes and positions
in a slab are 64-bit products, and the stretch of a lane is a plain slice. There is no answer at all
where groups are empty, where a slab would have a negative size, where a slice does not lie inside
its slab, where the machine of a lane cannot be made, and where a machine does not run.

## Main definitions

* `Stacks.zeros?`, `Stacks.slice?`: plain slabs and slices.
* `Stacks.create?`, `Stacks.enterGroup?`, `Stacks.take?`, `Stacks.put?`: storage with plain slices.
* `Cpu.machine?`, `Cpu.lane?`, `Cpu.group?`, `Cpu.groups?`, `Cpu.launch?`: bare launches.
* `Cpu.Launchable`: a kernel and a launch that fit together.

## Main results

* `Cpu.Launchable.laneMachine_eq_ok`: every lane gets its machine, whatever the other lanes have
  written.
* `Cpu.Launchable.launch?_eq`: the bare launch has an answer, which is that of the launch.
-/

namespace Lanewise

/-! ### Slabs -/

namespace Stacks

/-- A slab of zeros. -/
def zeros? (n : Int64) : Option (Array Word) :=
  if 0 ≤ n.toInt then some (Array.replicate n.toInt.toNat 0) else none

/-- The cells of a slab from one position up to another. -/
def slice? (slab : Array Word) (start stop : Int64) : Option (Array Word) :=
  if 0 ≤ start.toInt ∧ start.toInt ≤ stop.toInt ∧ stop.toInt ≤ slab.size then
    some (slab.extract start.toInt.toNat stop.toInt.toNat)
  else none

/-- The storage at the start of a launch. -/
def create? (placement : Placement) (size lanes group : Nat) : Option Stacks :=
  let made (slab : Array Word) : Stacks := { placement, size, group, slab }
  if placement = .shared then (zeros? (Int64.ofNat size * Int64.ofNat lanes)).map made
  else some (made #[])

/-- The storage at the start of a group. -/
def enterGroup? (s : Stacks) : Option Stacks :=
  if s.placement = .grouped then
    (zeros? (Int64.ofNat s.size * Int64.ofNat s.group)).map ({ s with slab := · })
  else some s

/-- A stretch of the slab. -/
def stretch? (s : Stacks) (i : Int64) : Option (Array Word) :=
  slice? s.slab (i * Int64.ofNat s.size) ((i + 1) * Int64.ofNat s.size)

/-- The cells of a lane. -/
def take? (s : Stacks) (lane inGroup : Int64) : Option (Array Word) :=
  match s.placement with
  | .shared => s.stretch? lane
  | .grouped => s.stretch? inGroup
  | .separate => zeros? (Int64.ofNat s.size)

/-- The storage after a lane has worked in place, on the cells that it has taken. -/
def put? (s : Stacks) (lane inGroup : Int64) (cells : Array Word) : Option Stacks :=
  (s.take? lane inGroup).bind fun taken =>
    if cells.size = taken.size then some (s.put lane.toInt.toNat inGroup.toInt.toNat cells)
      else none

theorem zeros?_ofNat {n : Nat} (hn : n < 0x8000000000000000) :
    zeros? (Int64.ofNat n) = some (Array.replicate n 0) := by
  rw [zeros?, Int64.toInt_ofNat_of_lt hn, if_pos (Int.natCast_nonneg n), Int.toNat_natCast]

theorem slice?_ofNat {slab : Array Word} {start stop : Nat} (hle : start ≤ stop)
    (hstop : stop ≤ slab.size) (hslab : slab.size < 0x8000000000000000) :
    slice? slab (Int64.ofNat start) (Int64.ofNat stop) = some (slab.extract start stop) := by
  have hstart' : start < 0x8000000000000000 := by omega
  have hstop' : stop < 0x8000000000000000 := by omega
  rw [slice?, Int64.toInt_ofNat_of_lt hstart', Int64.toInt_ofNat_of_lt hstop', Int.toNat_natCast,
    Int.toNat_natCast, if_pos ⟨Int.natCast_nonneg start, Int.ofNat_le.2 hle, Int.ofNat_le.2 hstop⟩]

variable {s : Stacks} {lanes lane inGroup : Nat}

/-- The stretches of a slab lie inside it. -/
theorem stretch?_eq {count i : Nat} (hslab : s.slab.size = s.size * count)
    (hfit : s.size * count < 0x8000000000000000) (hi : i < count) :
    s.stretch? (Int64.ofNat i) = some (s.slab.extract (i * s.size) (i * s.size + s.size)) := by
  have hstop : (i + 1) * s.size ≤ s.slab.size := by
    rw [hslab, Nat.mul_comm s.size]
    exact Nat.mul_le_mul_right s.size hi
  have hone : Int64.ofNat i + 1 = Int64.ofNat (i + 1) := (Int64.ofNat_add i 1).symm
  rw [stretch?, hone, ← Int64.ofNat_mul, ← Int64.ofNat_mul,
    slice?_ofNat (Nat.mul_le_mul_right s.size (Nat.le_succ i)) hstop (hslab ▸ hfit), Nat.succ_mul]

section Ready

variable (h : s.Ready lanes lane inGroup) (hlane : lane < lanes) (hin : inGroup < s.group)
  (hgroup : s.group ≤ lanes) (hfit : s.size * lanes < 0x8000000000000000)
include h hlane hin hgroup hfit

/-- The cells of the next lane are there, wherever its stack lives. -/
theorem Ready.take?_eq :
    s.take? (Int64.ofNat lane) (Int64.ofNat inGroup) = some (s.take lane inGroup) := by
  have hle : s.size * s.group ≤ s.size * lanes := Nat.mul_le_mul_left s.size hgroup
  unfold take? take offset
  cases hp : s.placement with
  | shared => exact stretch?_eq (h.shared hp).size_eq hfit hlane
  | grouped => exact stretch?_eq (h.grouped hp hin).size_eq (by omega) hin
  | separate =>
    have hone : s.size * 1 ≤ s.size * lanes := Nat.mul_le_mul_left s.size (by omega)
    exact zeros?_ofNat (by omega)

/-- A lane that has kept the number of its cells has worked in place. -/
theorem Ready.put?_eq (hlanes : lanes < 0x8000000000000000) {cells : Array Word}
    (hcells : cells.size = s.size) :
    s.put? (Int64.ofNat lane) (Int64.ofNat inGroup) cells = some (s.put lane inGroup cells) := by
  have hlane' : lane < 0x8000000000000000 := by omega
  have hin' : inGroup < 0x8000000000000000 := by omega
  rw [put?, h.take?_eq hlane hin hgroup hfit, Option.bind_some, h.take_eq hlane hin,
    Array.size_replicate, if_pos hcells, Int64.toInt_ofNat_of_lt hlane',
    Int64.toInt_ofNat_of_lt hin', Int.toNat_natCast, Int.toNat_natCast]

end Ready

theorem create?_eq (placement : Placement) {size lanes : Nat}
    (hfit : size * lanes < 0x8000000000000000) (group : Nat) :
    create? placement size lanes group = some (create placement size lanes group) := by
  unfold create? create
  split
  · rw [← Int64.ofNat_mul, zeros?_ofNat hfit, Option.map_some]
  · rfl

theorem enterGroup?_eq (s : Stacks) (hfit : s.size * s.group < 0x8000000000000000) :
    s.enterGroup? = some s.enterGroup := by
  unfold enterGroup? enterGroup
  split
  · rw [← Int64.ofNat_mul, zeros?_ofNat hfit, Option.map_some]
  · rfl

end Stacks

/-! ### Launches -/

namespace Cpu

open Machine (Outcome)

/-- The machine of a lane. A machine of the sequential engine takes the first heap. -/
def machine? (k : Compiled) (stack : Array Word) (heaps : Array Heap) (lane : Int64) :
    Option Machine :=
  match k.engine with
  | .sequential =>
    heaps[0]?.bind fun heap =>
      (Machine.create k.program k.entry
        { stack := some stack, heap := some heap, tracing := k.trace,
          maxSteps := k.maxSteps }).toOption
  | .lane =>
    (Machine.create k.program k.entry
      { stack := some stack, lane := some ⟨lane.toInt32, heaps⟩, tracing := k.trace,
        maxSteps := k.maxSteps }).toOption

/-- What a lane that ran adds to what the lanes before it have left. -/
def Progress.after? (p : Progress) (storage : Stacks) (m : Machine) :
    Outcome → Option (Except Device.Error Progress)
  | .halted r => some (.ok { p with
      heaps := m.heaps, storage, steps := p.steps + m.steps, trace := p.trace ++ m.trace
      printed := p.printed.push r.printed })
  | .faulted f => some (.ok { p with
      heaps := m.heaps, storage, steps := p.steps + m.steps, trace := p.trace ++ m.trace
      printed := p.printed.push #[], faults := p.faults.push f })
  | .notRunnable => none
  | .unfinished => some (.error .unfinished)

/-- Runs one lane. -/
def lane? (k : Compiled) (fuel : Nat) (lane inGroup : Int64) (p : Progress) :
    Option (Except Device.Error Progress) := do
  let stack ← p.storage.take? lane inGroup
  let m ← machine? k stack p.heaps lane
  let run := m.run fuel
  let storage ← p.storage.put? lane inGroup run.1.stack
  p.after? storage run.1 run.2

/-- Runs `n` lanes of the group with a given number, of which `done` have run. -/
def group? (k : Compiled) (fuel group number : Nat) :
    (n done : Nat) → Progress → Option (Except Device.Error Progress)
  | 0, _, p => some (.ok p)
  | n + 1, done, p => do
    let lane := Int64.ofNat number * Int64.ofNat group + Int64.ofNat done
    match ← lane? k fuel lane (Int64.ofNat done) p with
    | .error e => some (.error e)
    | .ok p => group? k fuel group number n (done + 1) p

/-- Runs `n` groups of which `done` have run. -/
def groups? (k : Compiled) (fuel group : Nat) :
    (n done : Nat) → Progress → Option (Except Device.Error Progress)
  | 0, _, p => some (.ok p)
  | n + 1, done, p => do
    let storage ← p.storage.enterGroup?
    match ← group? k fuel group done group 0 { p with storage } with
    | .error e => some (.error e)
    | .ok p => groups? k fuel group n (done + 1) p

/-- The answer of a launch whose lanes have run. -/
def Progress.answer (p : Progress) (groups : Int) : Except Device.Error Completion :=
  if p.faults.isEmpty then
    .ok { heaps := p.heaps, printed := p.printed, steps := p.steps, groups
          trace := p.trace.map TraceRecord.text }
  else .error (.laneFault p.faults.toList)

/-- Runs all lanes of a launch in groups of the given size. -/
def launch? (k : Compiled) (fuel : Nat) (heaps : Array Heap) (lanes group : Nat) :
    Option (Except Device.Error Completion) :=
  if group = 0 then none
  else do
    let storage ← Stacks.create? k.placement k.stackSize lanes group
    let ran ← groups? k fuel group (lanes / group) 0 { heaps, storage }
    return ran.bind (·.answer (lanes / group : Nat))

/-- A kernel with the heaps, the number of lanes and the group size of a launch of it. -/
structure Launchable (k : Compiled) (heaps : Array Heap) (lanes group : Nat) : Prop where
  entry_ok : k.program.checkEntry k.entry = .ok ()
  stack_pos : 0 < k.stackSize
  heaps_pos : 0 < heaps.size
  cells_pos : ∀ h ∈ heaps, 0 < h.size
  single_heap : k.engine = .sequential → heaps.size = 1
  group_pos : 0 < group
  group_le : group ≤ lanes
  lanes_lt : lanes < 0x8000000000000000
  cells_lt : k.stackSize * lanes < 0x8000000000000000

variable {k : Compiled} {heaps : Array Heap} {lanes group : Nat}

namespace Launchable

variable {now : Array Heap} {stack : Array Word}

theorem now_pos (h : Launchable k heaps lanes group)
    (hnow : now.map Array.size = heaps.map Array.size) : 0 < now.size := by
  have hsize := congrArg Array.size hnow
  rw [Array.size_map, Array.size_map] at hsize
  exact hsize ▸ h.heaps_pos

/-- A lane gets its machine on every stretch of cells and on all heaps that have the sizes of those
of the launch, so the lanes that ran before it or run beside it have no say in it. -/
theorem laneMachine_eq_ok (h : Launchable k heaps lanes group) (hstack : stack.size = k.stackSize)
    (hnow : now.map Array.size = heaps.map Array.size) (lane : Nat) :
    ∃ m, laneMachine k stack now lane = .ok m ∧ m.Prepared ∧ m.stack = stack ∧ m.heaps = now := by
  have hcells : 0 < stack.size := hstack ▸ h.stack_pos
  unfold laneMachine
  cases hengine : k.engine with
  | lane =>
    have hmade := Machine.create_lane h.entry_ok hcells k.trace k.maxSteps (h.now_pos hnow)
      (Int32.ofNat lane)
    exact ⟨_, hmade, .create hmade, rfl, rfl⟩
  | sequential =>
    have hsize := congrArg Array.size hnow
    rw [Array.size_map, Array.size_map, h.single_heap hengine] at hsize
    obtain ⟨heap, rfl⟩ := Array.size_eq_one_iff.1 hsize
    have hheap : 0 < heap.size := by
      have hmem : heap.size ∈ heaps.map Array.size := hnow ▸ by simp
      obtain ⟨source, hsource, heq⟩ := Array.mem_map.1 hmem
      exact heq ▸ h.cells_pos source hsource
    have hmade := Machine.create_alone h.entry_ok hcells k.trace k.maxSteps hheap
    exact ⟨_, hmade, .create hmade, rfl, rfl⟩

theorem machine?_eq (h : Launchable k heaps lanes group)
    (hnow : now.map Array.size = heaps.map Array.size) (stack : Array Word) (lane : Nat) :
    machine? k stack now (Int64.ofNat lane) = (laneMachine k stack now lane).toOption := by
  have hpos := h.now_pos hnow
  unfold machine? laneMachine
  cases k.engine with
  | lane => rw [Int64.toInt32_ofNat']
  | sequential => simp [Array.getD_eq_getD_getElem?, Array.getElem?_eq_getElem hpos]

end Launchable

/-- The lanes of a launch just before lane `n` of it, which is lane `inGroup` of its group. -/
structure Underway (k : Compiled) (heaps : Array Heap) (lanes group n inGroup : Nat)
    (p : Progress) : Prop where
  sizes_eq : p.heaps.map Array.size = heaps.map Array.size
  size_eq : p.storage.size = k.stackSize
  group_eq : p.storage.group = group
  ready : p.storage.Ready lanes n inGroup

/-- What the bare form of a stage of a launch owes to the stage: an answer, and the same one. A
stage that succeeds has come to a later lane. -/
structure Follows (k : Compiled) (heaps : Array Heap) (lanes group n inGroup : Nat)
    (bare : Option (Except Device.Error Progress))
    (answer : Except Device.Error Progress) : Prop where
  bare_eq : bare = some answer
  underway : ∀ p, answer = .ok p → Underway k heaps lanes group n inGroup p

section Stages

variable (fuel : Nat) {p : Progress} (hk : Launchable k heaps lanes group)

include hk in
theorem Underway.lane_follows {n inGroup : Nat} (h : Underway k heaps lanes group n inGroup p)
    (hlane : n < lanes) (hin : inGroup < group) :
    Follows k heaps lanes group (n + 1) (inGroup + 1)
      (lane? k fuel (Int64.ofNat n) (Int64.ofNat inGroup) p) (runLane k fuel n inGroup p) := by
  have hin' : inGroup < p.storage.group := h.group_eq ▸ hin
  have hgroup : p.storage.group ≤ lanes := h.group_eq ▸ hk.group_le
  have hfit : p.storage.size * lanes < 0x8000000000000000 := h.size_eq ▸ hk.cells_lt
  have htake : (p.storage.take n inGroup).size = k.stackSize := by
    rw [h.ready.take_eq hlane hin', Array.size_replicate, h.size_eq]
  obtain ⟨m, hm, hprepared, hstack, hheaps⟩ := hk.laneMachine_eq_ok htake h.sizes_eq n
  have hkeeps := Machine.run_keeps hprepared.bounded fuel
  have hcells : (m.run fuel).1.stack.size = p.storage.size := by
    rw [hkeeps.stack_size, hstack, htake, h.size_eq]
  have hsizes : (m.run fuel).1.heaps.map Array.size = heaps.map Array.size := by
    rw [hkeeps.heap_sizes, hheaps, h.sizes_eq]
  have hnext : ∀ p' : Progress, p'.heaps = (m.run fuel).1.heaps →
      p'.storage = p.storage.put n inGroup (m.run fuel).1.stack →
      Underway k heaps lanes group (n + 1) (inGroup + 1) p' := by
    rintro p' hheaps' hstorage'
    refine ⟨hheaps' ▸ hsizes, ?_, ?_, ?_⟩
    · rw [hstorage', Stacks.put_size, h.size_eq]
    · rw [hstorage', Stacks.put_group, h.group_eq]
    · rw [hstorage']
      exact h.ready.put hcells
  have hmachine : machine? k (p.storage.take n inGroup) p.heaps (Int64.ofNat n) = some m := by
    rw [hk.machine?_eq h.sizes_eq, hm]
    rfl
  have hbare : lane? k fuel (Int64.ofNat n) (Int64.ofNat inGroup) p =
      p.after? (p.storage.put n inGroup (m.run fuel).1.stack) (m.run fuel).1 (m.run fuel).2 := by
    simp only [lane?, h.ready.take?_eq hlane hin' hgroup hfit, hmachine,
      h.ready.put?_eq hlane hin' hgroup hfit hk.lanes_lt hcells, Option.bind_eq_bind,
      Option.bind_some]
  unfold runLane
  simp only [hbare, hm]
  cases ho : (m.run fuel).2 with
  | halted r => exact ⟨rfl, fun _ hp => by cases hp; exact hnext _ rfl rfl⟩
  | faulted f => exact ⟨rfl, fun _ hp => by cases hp; exact hnext _ rfl rfl⟩
  | notRunnable => exact absurd ho (Machine.run_ne_notRunnable hprepared.unrun.1 fuel)
  | unfinished => exact ⟨rfl, fun _ hp => by cases hp⟩

include hk in
theorem Underway.group_follows (number n done : Nat)
    (h : Underway k heaps lanes group (number * group + done) done p)
    (hlanes : number * group + done + n ≤ lanes) (hgroup : done + n ≤ group) :
    Follows k heaps lanes group (number * group + done + n) (done + n)
      (group? k fuel group number n done p) (runGroup k fuel (number * group) n done p) := by
  induction n generalizing done p with
  | zero => exact ⟨rfl, fun _ hp => by cases hp; exact h⟩
  | succ n ih =>
    obtain ⟨hbare, hnext⟩ := h.lane_follows fuel hk (by omega) (by omega)
    unfold group? runGroup
    simp only [← Int64.ofNat_mul, ← Int64.ofNat_add, hbare, Option.bind_eq_bind, Option.bind_some]
    cases hr : runLane k fuel (number * group + done) done p with
    | error e => exact ⟨rfl, fun _ hp => by cases hp⟩
    | ok p' =>
      have hrest := ih (done + 1) (hnext p' hr) (by omega) (by omega)
      rwa [show number * group + (done + 1) + n = number * group + done + (n + 1) by omega,
        show done + 1 + n = done + (n + 1) by omega] at hrest

include hk in
theorem Underway.groups_eq {inGroup : Nat} (n done : Nat)
    (h : Underway k heaps lanes group (done * group) inGroup p)
    (hlanes : (done + n) * group ≤ lanes) :
    groups? k fuel group n done p = some (runGroups k fuel group n done p) := by
  induction n generalizing done inGroup p with
  | zero => rfl
  | succ n ih =>
    have hnext : (done + 1) * group ≤ (done + (n + 1)) * group :=
      Nat.mul_le_mul_right group (by omega)
    rw [Nat.succ_mul] at hnext
    have hle : k.stackSize * group ≤ k.stackSize * lanes := Nat.mul_le_mul_left _ hk.group_le
    have henter := p.storage.enterGroup?_eq (by
      rw [h.size_eq, h.group_eq]
      exact Nat.lt_of_le_of_lt hle hk.cells_lt)
    have hstart : Underway k heaps lanes group (done * group + 0) 0
        { p with storage := p.storage.enterGroup } :=
      ⟨h.sizes_eq, (Stacks.enterGroup_size _).trans h.size_eq,
        (Stacks.enterGroup_group _).trans h.group_eq, Stacks.enterGroup_ready h.ready.shared⟩
    obtain ⟨hbare, hdone⟩ := hstart.group_follows fuel hk done group 0 (by omega) (by omega)
    unfold groups? runGroups
    simp only [henter, hbare, Option.bind_eq_bind, Option.bind_some]
    cases hr : runGroup k fuel (done * group) group 0
      { p with storage := p.storage.enterGroup } with
    | error e => rfl
    | ok p' =>
      have hlater := hdone p' hr
      rw [Nat.add_zero, ← Nat.succ_mul] at hlater
      exact ih (done + 1) hlater (by rwa [show done + 1 + n = done + (n + 1) by omega])

end Stages

theorem launch_eq_answer (k : Compiled) (fuel : Nat) (heaps : Array Heap) (lanes group : Nat) :
    launch k fuel heaps lanes group =
      (runGroups k fuel group (lanes / group) 0
        { heaps, storage := Stacks.create k.placement k.stackSize lanes group }).bind
          (·.answer (lanes / group : Nat)) := by
  unfold launch
  cases runGroups k fuel group (lanes / group) 0 _ with
  | error e => rfl
  | ok p =>
    change (if _ then _ else _) = (if _ then _ else _)
    rfl

/-- A bare launch gets to its end, with the answer of the launch. -/
theorem Launchable.launch?_eq (h : Launchable k heaps lanes group) (fuel : Nat) :
    launch? k fuel heaps lanes group = some (launch k fuel heaps lanes group) := by
  have hall : (0 + lanes / group) * group ≤ lanes := by
    rw [Nat.zero_add]
    exact Nat.div_mul_le_self lanes group
  have hstart : Underway k heaps lanes group (0 * group) group
      { heaps, storage := Stacks.create k.placement k.stackSize lanes group } := by
    rw [Nat.zero_mul]
    exact ⟨rfl, rfl, rfl, Stacks.create_ready _ _ _ _⟩
  rw [launch?, if_neg (Nat.ne_of_gt h.group_pos)]
  simp only [Stacks.create?_eq k.placement h.cells_lt group, hstart.groups_eq fuel h _ 0 hall,
    Option.bind_eq_bind, Option.bind_some, launch_eq_answer]
  rfl

end Cpu

end Lanewise
