import Lanewise.Bench.Workload
import Lanewise.Proofs.Machine.ViewRuns

/-!
# The sequential vector loop

The vector loop keeps its index as the only cell of the stack when it is at the head of the loop.
Then it has replaced the cells below the index by the sums, and no other cell: the cells that it
reads lie behind the ones that it writes, so all sums are sums of initial values.

## Main definitions

* `Heap.replaceBelow`: a heap that has been replaced up to an index.

## Main results

* `Bench.vectorAddLoop_advance`: the state at the head of the loop.
* `Bench.vectorAddLoop_correct`: what the loop leaves.
-/

namespace Lanewise

/-! ### Heaps that are replaced from the front on -/

namespace Heap

/-- The heap in which the cells below an index have been replaced. -/
def replaceBelow (h : Heap) (i : Nat) (value : Nat → Word) : Heap :=
  h.mapIdx fun j old => if j < i then value j else old

variable {h : Heap} {i : Nat} {value : Nat → Word}

theorem holds_natCast {j : Nat} : h.holds j = true ↔ j < h.size := by
  rw [holds, Bool.and_eq_true, decide_eq_true_eq, decide_eq_true_eq]
  omega

theorem load?_natCast {j : Nat} (hj : j < h.size) : h.load? j = some (h.getD j 0) := by
  rw [load?, if_pos (holds_natCast.2 hj), Int.toNat_natCast, Array.getElem?_eq_getElem hj,
    Array.getD_eq_getD_getElem?, Array.getElem?_eq_getElem hj]
  rfl

theorem load?_natCast_of_le {j : Nat} (hj : h.size ≤ j) : h.load? j = none := by
  rw [load?, if_neg (mt holds_natCast.1 (Nat.not_lt.2 hj))]

@[simp] theorem size_replaceBelow : (h.replaceBelow i value).size = h.size :=
  Array.size_mapIdx

theorem getElem?_replaceBelow (j : Nat) :
    (h.replaceBelow i value)[j]? = h[j]?.map fun old => if j < i then value j else old :=
  Array.getElem?_mapIdx

theorem getElem?_replaceBelow_of_lt {j : Nat} (hj : j < i) (hsize : j < h.size) :
    (h.replaceBelow i value)[j]? = some (value j) := by
  rw [getElem?_replaceBelow, Array.getElem?_eq_getElem hsize, Option.map_some, if_pos hj]

theorem getElem?_replaceBelow_of_le {j : Nat} (hj : i ≤ j) :
    (h.replaceBelow i value)[j]? = h[j]? := by
  rw [getElem?_replaceBelow]
  simp only [Nat.not_lt.2 hj, if_false, Option.map_id']

theorem replaceBelow_zero : h.replaceBelow 0 value = h :=
  Array.ext_getElem? fun j => getElem?_replaceBelow_of_le (Nat.zero_le j)

/-- The cells from the index on have their old values. -/
theorem load?_replaceBelow {j : Nat} (hi : i ≤ j) (hj : j < h.size) :
    (h.replaceBelow i value).load? j = some (h.getD j 0) := by
  rw [load?_natCast (by rwa [size_replaceBelow]), Array.getD_eq_getD_getElem?,
    getElem?_replaceBelow_of_le hi, Array.getD_eq_getD_getElem?]

theorem replaceBelow_succ :
    h.replaceBelow (i + 1) value = (h.replaceBelow i value).setIfInBounds i (value i) := by
  refine Array.ext_getElem? fun j => ?_
  rw [Array.getElem?_setIfInBounds]
  by_cases hij : i = j
  · subst hij
    rw [if_pos rfl, size_replaceBelow]
    by_cases hi : i < h.size
    · rw [if_pos hi, getElem?_replaceBelow_of_lt (Nat.lt_succ_self i) hi]
    · rw [if_neg hi, getElem?_replaceBelow, Array.getElem?_eq_none (Nat.not_lt.1 hi),
        Option.map_none]
  · have hlt : j < i + 1 ↔ j < i := by omega
    rw [if_neg hij, getElem?_replaceBelow, getElem?_replaceBelow]
    simp only [hlt]

/-- There is nothing to replace behind the last cell. -/
theorem replaceBelow_succ_of_le (hi : h.size ≤ i) :
    h.replaceBelow (i + 1) value = h.replaceBelow i value := by
  rw [replaceBelow_succ]
  exact Array.setIfInBounds_eq_of_size_le (by rwa [size_replaceBelow])

end Heap

namespace Bench

/-! ### The program -/

/-- The instructions of a loop over cells that begin at two places. -/
def loopCode (first second : Word) : List (Opcode × List Word) :=
  [(.iconst, [0]),
    (.dup, []), (.iconst, [first]), (.ieq, []), (.brt, [23]),
    (.dup, []), (.dup, []), (.gloadIndexed, [first]), (.load, [1]), (.gloadIndexed, [second]),
    (.iadd, []), (.gstoreIndexed, [0]), (.iconst1, []), (.iadd, []), (.br, [2]),
    (.pop, []), (.halt, [])]

/-- The instructions of the vector loop at their places. -/
def loopListing (size : Int) : List Instruction :=
  Program.placeFrom 0 (loopCode (Int32.ofInt size) (2 * Int32.ofInt size))

theorem walk_vectorAddLoop (size : Int) : (vectorAddLoop size).walk = loopListing size := by
  refine Program.walk_eq_placeFrom ?_ rfl
  simp [loopCode, Opcode.operands]

theorem vectorAddLoop_meets (size : Int) :
    ∀ i ∈ (vectorAddLoop size).walk, i.op.modes.meets Engine.sequential.modes = true := by
  rw [walk_vectorAddLoop]
  simp only [loopListing, loopCode, Program.placeFrom, List.forall_mem_cons]
  decide

/-- The setting of the loop. -/
def loopSetting (size : Int) (lane : Word) (room : Nat) : Setting :=
  ⟨vectorAddLoop size, .sequential, lane, room⟩

/-! ### Parts of the loop -/

section Blocks

variable (size : Int) (lane : Word) (room : Nat) (w : Word) (heaps : Array Heap)
    (printed : Array Word)

variable {size lane room} in
/-- Steps through some of the instructions. -/
theorem advance_loop {v v' : View} (start stop : Nat)
    (h : View.through lane room ((loopListing size).extract start stop) v = some v') :
    View.advance (loopSetting size lane room) ((loopListing size).extract start stop).length v =
      some v' := by
  refine View.advance_through (s := loopSetting size lane room) (fun i hi => ?_)
    (vectorAddLoop_meets size) h
  rw [loopSetting, walk_vectorAddLoop]
  exact List.mem_of_mem_drop (List.mem_of_mem_take hi)

theorem loop_start (hroom : 4 ≤ room) :
    View.advance (loopSetting size lane room) 1 ⟨0, [], heaps, printed⟩ =
      some ⟨2, [0], heaps, printed⟩ := by
  refine advance_loop 0 1 ?_
  have hroom₀ : 0 < room := by omega
  simp [loopListing, loopCode, Program.placeFrom, View.through, View.exec, View.push,
    Instruction.next, Instruction.size, hroom₀]

/-- The head of the loop compares the index with the size. -/
theorem loop_head (hroom : 4 ≤ room) :
    View.advance (loopSetting size lane room) 4 ⟨2, [w], heaps, printed⟩ =
      some (if Int32.ofInt size = w then
        ⟨23, [w], heaps, printed⟩ else ⟨8, [w], heaps, printed⟩) := by
  refine advance_loop 1 5 ?_
  have hroom₁ : 1 < room := by omega
  have hroom₂ : 2 < room := by omega
  simp [loopListing, loopCode, Program.placeFrom, View.through, View.exec, View.push, View.popThen,
    View.binary, View.pop2Then, Instruction.next, Instruction.size, Machine.truth, hroom₁, hroom₂]

/-- The body of the loop adds two cells of the heap into a third one. -/
theorem loop_body {h : Heap} {a b : Word} (hroom : 4 ≤ room)
    (ha : h.load? ((Int32.ofInt size).toInt + w.toInt) = some a)
    (hb : h.load? ((2 * Int32.ofInt size).toInt + w.toInt) = some b) (hw : h.holds w.toInt = true) :
    View.advance (loopSetting size lane room) 10 ⟨8, [w], #[h], printed⟩ =
      some ⟨2, [1 + w], #[h.setIfInBounds w.toInt.toNat (b + a)], printed⟩ := by
  refine advance_loop 5 15 ?_
  have hroom₀ : 0 < room := by omega
  have hroom₁ : 1 < room := by omega
  have hroom₂ : 2 < room := by omega
  have hroom₃ : 3 < room := by omega
  unfold loopListing
  generalize Int32.ofInt size = first, 2 * Int32.ofInt size = second at ha hb
  simp [loopCode, Program.placeFrom, View.through, View.exec, View.push, View.popThen, View.binary,
    View.pop2Then, View.loadCell, View.storeCell, View.localIndex?, Instruction.next,
    Instruction.size, hroom₀, hroom₁, hroom₂, hroom₃, ha, hb, hw]

/-- The loop ends with an empty stack. -/
theorem loop_end :
    View.advance (loopSetting size lane room) 1 ⟨23, [w], heaps, printed⟩ =
      some ⟨24, [], heaps, printed⟩ := by
  refine advance_loop 15 16 ?_
  simp [loopListing, loopCode, Program.placeFrom, View.through, View.exec, View.popThen,
    Instruction.next, Instruction.size]

theorem loop_halt :
    View.step (loopSetting size lane room) ⟨24, [], heaps, printed⟩ =
      .halt ⟨25, [], heaps, printed⟩ := by
  have hmem : ⟨24, .halt, []⟩ ∈ (vectorAddLoop size).walk := by
    simp [walk_vectorAddLoop, loopListing, loopCode, Program.placeFrom]
  exact View.step_of_mem_walk (s := loopSetting size lane room) hmem
    (vectorAddLoop_meets size _ hmem) rfl

end Blocks

/-! ### Runs of the loop -/

/-- The sum of the cells that the loop reads for an index. -/
def sumAt (h : Heap) (size i : Nat) : Word :=
  h.getD (size + i) 0 + h.getD (2 * size + i) 0

section Runs

variable (lane : Word) (printed : Array Word) {room size i : Nat} {h : Heap}

/-- The loop has come to its head with an index. -/
theorem vectorAddLoop_advance (hroom : 4 ≤ room) (hsize : 3 * size ≤ h.size)
    (hmax : h.size ≤ maxHeapSize) (hi : i ≤ size) :
    View.advance (loopSetting size lane room) (1 + 14 * i) ⟨0, [], #[h], printed⟩ =
      some ⟨2, [Int32.ofNat i], #[h.replaceBelow i (sumAt h size)], printed⟩ := by
  have hbound : h.size ≤ 16777216 := hmax
  induction i with
  | zero =>
    rw [Heap.replaceBelow_zero]
    exact loop_start size lane room #[h] printed hroom
  | succ i ih =>
    have htoInt {k : Nat} (hk : k ≤ h.size) : (Int32.ofNat k).toInt = k :=
      Int32.toInt_ofNat_of_lt (by omega)
    have hne : Int32.ofInt size ≠ Int32.ofNat i := by
      intro heq
      have := congrArg Int32.toInt heq
      rw [Int32.ofInt_eq_ofNat, htoInt (by omega), htoInt (by omega)] at this
      omega
    have hhead :=
      loop_head size lane room (Int32.ofNat i) #[h.replaceBelow i (sumAt h size)] printed
      hroom
    rw [if_neg hne] at hhead
    -- The cells that the body reads lie behind the index, so they have their initial values.
    have hfirst : (h.replaceBelow i (sumAt h size)).load?
        ((Int32.ofInt size).toInt + (Int32.ofNat i).toInt) = some (h.getD (size + i) 0) := by
      rw [Int32.ofInt_eq_ofNat, htoInt (by omega), htoInt (by omega), ← Int.natCast_add]
      exact Heap.load?_replaceBelow (by omega) (by omega)
    have hsecond : (h.replaceBelow i (sumAt h size)).load?
        ((2 * Int32.ofInt size).toInt + (Int32.ofNat i).toInt) =
          some (h.getD (2 * size + i) 0) := by
      rw [Int32.ofInt_eq_ofNat, show (2 : Int32) * Int32.ofNat size = Int32.ofNat (2 * size) from
        (Int32.ofNat_mul 2 size).symm, htoInt (by omega), htoInt (by omega), ← Int.natCast_add]
      exact Heap.load?_replaceBelow (by omega) (by omega)
    have hholds : (h.replaceBelow i (sumAt h size)).holds (Int32.ofNat i).toInt = true := by
      rw [htoInt (by omega), Heap.holds_natCast, Heap.size_replaceBelow]
      omega
    have hbody := loop_body size lane room (Int32.ofNat i) printed hroom hfirst hsecond hholds
    have hnext : (1 : Int32) + Int32.ofNat i = Int32.ofNat (i + 1) := by
      rw [Nat.add_comm, Int32.ofNat_add]
      rfl
    have hsum : h.getD (2 * size + i) 0 + h.getD (size + i) 0 = sumAt h size i := Int32.add_comm ..
    rw [htoInt (by omega), Int.toNat_natCast, hnext, hsum, ← Heap.replaceBelow_succ] at hbody
    calc View.advance (loopSetting size lane room) (1 + 14 * (i + 1)) ⟨0, [], #[h], printed⟩
        = View.advance (loopSetting size lane room) (4 + 10)
            ⟨2, [Int32.ofNat i], #[h.replaceBelow i (sumAt h size)], printed⟩ := by
          rw [Nat.mul_succ, ← Nat.add_assoc, View.advance_trans (ih (by omega))]
      _ = View.advance (loopSetting size lane room) 10
            ⟨8, [Int32.ofNat i], #[h.replaceBelow i (sumAt h size)], printed⟩ :=
          View.advance_trans hhead
      _ = some ⟨2, [Int32.ofNat (i + 1)], #[h.replaceBelow (i + 1) (sumAt h size)], printed⟩ :=
        hbody

/-- The loop is about to halt. -/
theorem vectorAddLoop_ends (hroom : 4 ≤ room) (hsize : 3 * size ≤ h.size)
    (hmax : h.size ≤ maxHeapSize) :
    View.advance (loopSetting size lane room) (14 * size + 6) ⟨0, [], #[h], printed⟩ =
      some ⟨24, [], #[h.replaceBelow size (sumAt h size)], printed⟩ := by
  have hloop := vectorAddLoop_advance lane printed hroom hsize hmax (Nat.le_refl size)
  have hhead := loop_head size lane room (Int32.ofNat size) #[h.replaceBelow size (sumAt h size)]
    printed hroom
  rw [if_pos Int32.ofInt_eq_ofNat] at hhead
  rw [show 14 * size + 6 = 1 + 14 * size + (4 + 1) by omega, View.advance_trans hloop,
    View.advance_trans hhead, loop_end]

end Runs

/-- On every machine of its own that has not run, has no step budget and has room for four values,
the vector loop halts with its step number `14 * size + 7`. It has then emptied the stack, printed
nothing, and replaced the first `size` cells of the heap by the sums of the initial values of the
next cells and those after them; all other cells are as they were. -/
theorem vectorAddLoop_correct {m : Machine} {size : Nat} {h : Heap} (hm : m.Prepared)
    (hcode : m.code = vectorAddLoop size) (hentry : m.ip = 0) (hengine : m.engine = .sequential)
    (hfree : m.meter.limit = 0) (hroom : 4 ≤ m.stack.size) (hheaps : m.heaps = #[h])
    (hsize : 3 * size ≤ h.size) (hmax : h.size ≤ maxHeapSize) :
    (m.run (14 * size + 6)).2 = .unfinished ∧
      ∃ m' h', (∀ fuel, 14 * size + 7 ≤ fuel →
          m.run fuel = (m', .halted ⟨#[], UInt64.ofNat (14 * size + 7)⟩)) ∧
        m'.steps.toNat = 14 * size + 7 ∧ m'.phase = .halted ∧ m'.height = 0 ∧ m'.printed = #[] ∧
        m'.heaps = #[h'] ∧ h'.size = h.size ∧
        (∀ i < size, h'[i]? = some (h.getD (size + i) 0 + h.getD (2 * size + i) 0)) ∧
        ∀ i, size ≤ i → h'[i]? = h[i]? := by
  have hbound : h.size ≤ 16777216 := hmax
  have hsetting : m.setting = loopSetting size m.lane m.stack.size := by
    rw [Machine.setting, hcode, hengine]
    rfl
  have hstart : m.view = ⟨0, [], #[h], #[]⟩ := by
    rw [Machine.view, hentry, Machine.cells_eq_nil hm.start.1, hheaps, hm.unrun.2.1]
  have hends := vectorAddLoop_ends m.lane #[] hroom hsize hmax
  rw [← hsetting, ← hstart] at hends
  have hhalt : View.step m.setting ⟨24, [], #[h.replaceBelow size (sumAt h size)], #[]⟩ =
      .halt ⟨25, [], #[h.replaceBelow size (sumAt h size)], #[]⟩ := by
    rw [hsetting]
    exact loop_halt ..
  obtain ⟨m', hrun, hphase, hsteps, hheight, hview⟩ :=
    hm.run_halts hfree hends hhalt (Nat.lt_succ_self _)
  refine ⟨hm.run_unfinished hfree hends, m', h.replaceBelow size (sumAt h size),
    fun fuel hfuel => ?_, ?_, hphase, hheight, congrArg View.printed hview,
    congrArg View.heaps hview, Heap.size_replaceBelow, fun i hi => ?_,
    fun i hi => Heap.getElem?_replaceBelow_of_le hi⟩
  · rw [Machine.run_mono hfuel (by rw [hrun]; exact Machine.Outcome.noConfusion), hrun]
  · rw [hsteps, UInt64.toNat_ofNat', Nat.mod_eq_of_lt (by omega)]
  · exact Heap.getElem?_replaceBelow_of_lt hi (by omega)

/-- Two sums, on a heap with a cell behind the operands; the second one wraps around. -/
theorem vectorAddLoop_two :
    ∃ m, Machine.create (vectorAddLoop (2 : Nat)) 0
        { stackSize := 4, heap := some #[9, 9, 1, 2147483647, 3, 1, 7] } = .ok m ∧
      (m.run 34).2 = .unfinished ∧
      ∃ m' h', (∀ fuel, 35 ≤ fuel → m.run fuel = (m', .halted ⟨#[], UInt64.ofNat 35⟩)) ∧
        m'.steps.toNat = 35 ∧ m'.phase = .halted ∧ m'.height = 0 ∧ m'.printed = #[] ∧
        m'.heaps = #[h'] ∧ h'.size = 7 ∧
        (∀ i < 2, h'[i]? = some (#[9, 9, 1, 2147483647, 3, 1, 7].getD (2 + i) 0 +
          #[9, 9, 1, 2147483647, 3, 1, 7].getD (4 + i) 0)) ∧
        ∀ i, 2 ≤ i → h'[i]? = #[9, 9, 1, 2147483647, 3, 1, 7][i]? := by
  let m : Machine :=
    { code := vectorAddLoop (2 : Nat), engine := .sequential, lane := Fault.noLane, ip := 0,
      stack := Array.replicate 4 0, height := 0, fp := 0, depth := 0,
      heaps := #[#[9, 9, 1, 2147483647, 3, 1, 7]], meter := .ofLimit 0, phase := .ready,
      printed := #[], tracing := false, trace := #[] }
  have hcreate : Machine.create (vectorAddLoop (2 : Nat)) 0
      { stackSize := 4, heap := some #[9, 9, 1, 2147483647, 3, 1, 7] } = .ok m := rfl
  have hprepared : m.Prepared := .create hcreate
  have hcode : m.code = vectorAddLoop (2 : Nat) := rfl
  have hheaps : m.heaps = #[#[9, 9, 1, 2147483647, 3, 1, 7]] := rfl
  have hrun :=
    vectorAddLoop_correct hprepared hcode rfl rfl rfl (by decide) hheaps (by decide) (by decide)
  exact ⟨m, hcreate, hrun⟩

end Bench

end Lanewise
