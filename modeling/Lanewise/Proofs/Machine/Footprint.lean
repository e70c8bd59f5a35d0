import Lanewise.Proofs.Machine.Bounds

/-!
# The cells that a step uses

A step reads at most one cell of the heaps or writes at most one. Which cell it is, and what is
written, depends on the program, the stack and the sizes of the heaps, but not on what the heaps
hold. A step reads nothing else from the heaps: on heaps that agree on the cell that is read, a
machine makes the same step.

## Main definitions

* `Cell`: a cell of a set of heaps.
* `Access`, `Machine.access`: what the next step of a machine does to the heaps.

## Main results

* `Machine.exec_withHeaps`, `Machine.step_withHeaps`: an instruction and a step on other heaps.
* `Machine.step_heaps`: a step changes the heaps by its access.
-/

namespace Lanewise

/-- A cell of a set of heaps: the heap that holds it, and its index there. -/
structure Cell where
  heap : Nat
  index : Nat
deriving DecidableEq, Repr

namespace Cell

variable (c : Cell) (heaps : Array Heap)

/-- The value of a cell, if it exists. -/
def get? : Option Word :=
  (heaps.getD c.heap #[])[c.index]?

/-- The heaps with a cell replaced. -/
def set (v : Word) : Array Heap :=
  heaps.modify c.heap fun h => h.setIfInBounds c.index v

theorem set_sizes (v : Word) : (c.set heaps v).map Array.size = heaps.map Array.size := by
  apply Array.ext_getElem?
  intro i
  simp only [set, Array.getElem?_map, Array.getElem?_modify]
  split
  · cases heaps[i]? <;> simp
  · rfl

theorem get?_set_self (v : Word) : c.get? (c.set heaps v) = (c.get? heaps).map fun _ => v := by
  unfold get? set
  simp only [Array.getD_eq_getD_getElem?, Array.getElem?_modify, if_true]
  cases heaps[c.heap]? with
  | none => rfl
  | some h =>
    simp only [Option.map_some, Option.getD_some, Array.getElem?_setIfInBounds, if_true]
    by_cases hlt : c.index < h.size
    · simp [hlt]
    · simp [hlt]

theorem get?_set_of_ne {c d : Cell} (hne : c ≠ d) (heaps : Array Heap) (v : Word) :
    c.get? (d.set heaps v) = c.get? heaps := by
  unfold get? set
  simp only [Array.getD_eq_getD_getElem?, Array.getElem?_modify]
  by_cases hheap : d.heap = c.heap
  · have hindex : d.index ≠ c.index := by
      intro hindex
      exact hne (by cases c; cases d; simp_all)
    rw [if_pos hheap]
    cases heaps[c.heap]? with
    | none => rfl
    | some h =>
      simp only [Option.map_some, Option.getD_some]
      exact Array.getElem?_setIfInBounds_ne hindex
  · rw [if_neg hheap]

end Cell

/-- Heaps with the same capacities and the same cells are the same. -/
theorem heaps_ext {a b : Array Heap} (hsizes : a.map Array.size = b.map Array.size)
    (hcells : ∀ c : Cell, c.get? a = c.get? b) : a = b := by
  have hsize : a.size = b.size := by simpa only [Array.size_map] using congrArg Array.size hsizes
  apply Array.ext hsize
  intro i ha hb
  apply Array.ext_getElem?
  intro j
  have hcell := hcells ⟨i, j⟩
  simp only [Cell.get?, Array.getD, ha, hb, dif_pos] at hcell
  exact hcell

/-! ### Accesses -/

/-- What a step does to the heaps. -/
inductive Access
  | none
  | read (c : Cell)
  | write (c : Cell) (v : Word)
deriving DecidableEq, Repr

namespace Access

/-- The cell that is read or written. -/
def cell? : Access → Option Cell
  | none => .none
  | read c => some c
  | write c _ => some c

/-- The cell that is written. -/
def written? : Access → Option Cell
  | write c _ => some c
  | _ => .none

/-- The heaps after an access. -/
def apply : Access → Array Heap → Array Heap
  | write c v, heaps => c.set heaps v
  | _, heaps => heaps

theorem apply_sizes (a : Access) (heaps : Array Heap) :
    (a.apply heaps).map Array.size = heaps.map Array.size := by
  cases a with
  | none => rfl
  | read c => rfl
  | write c v => exact c.set_sizes heaps v

/-- Only the cell that is written changes. -/
theorem get?_apply_of_ne {a : Access} {c : Cell} (h : a.written? ≠ some c) (heaps : Array Heap) :
    c.get? (a.apply heaps) = c.get? heaps := by
  cases a with
  | none => rfl
  | read d => rfl
  | write d v => exact Cell.get?_set_of_ne (fun hcd => h (congrArg some hcd.symm)) heaps v

/-- A cell that is the same before an access is the same after it. -/
theorem get?_apply_congr (a : Access) {c : Cell} {heaps heaps' : Array Heap}
    (h : c.get? heaps = c.get? heaps') : c.get? (a.apply heaps) = c.get? (a.apply heaps') := by
  by_cases hw : a.written? = some c
  · cases a with
    | none => cases hw
    | read d => cases hw
    | write d v =>
      cases hw
      simp only [apply, Cell.get?_set_self, h]
  · rw [get?_apply_of_ne hw, get?_apply_of_ne hw, h]

end Access

namespace Machine

/-- The access of a load from a heap. -/
def readAt (m : Machine) (heap : Nat) (i : Int) : Access :=
  if (m.heaps.getD heap #[]).holds i then .read ⟨heap, i.toNat⟩ else .none

/-- The access of a store to a heap. -/
def writeAt (m : Machine) (heap : Nat) (i : Int) (v : Word) : Access :=
  if (m.heaps.getD heap #[]).holds i then .write ⟨heap, i.toNat⟩ v else .none

theorem readAt_apply (m : Machine) (heap : Nat) (i : Int) (heaps : Array Heap) :
    (m.readAt heap i).apply heaps = heaps := by
  unfold readAt
  split <;> rfl

/-- The access of an instruction with its first operand. A load counts as one even when the stack
has no room for the value. -/
def accessOf (m : Machine) (op : Opcode) (arg : Word) : Access :=
  let top := m.stack.getD (m.height - 1) 0
  let below := m.stack.getD (m.height - 2) 0
  match op with
  | .gload => m.readAt 0 arg.toInt
  | .gstore => if m.height = 0 then .none else m.writeAt 0 arg.toInt top
  | .gloadIndexed => if m.height = 0 then .none else m.readAt 0 (arg.toInt + top.toInt)
  | .gstoreIndexed => if m.height < 2 then .none else m.writeAt 0 (arg.toInt + below.toInt) top
  | .parallelGloadIndexed =>
    if 0 ≤ arg.toInt ∧ arg.toInt < m.heaps.size then
      if m.height = 0 then .none else m.readAt arg.toInt.toNat top.toInt
    else .none
  | .parallelGstoreIndexed =>
    if 0 ≤ arg.toInt ∧ arg.toInt < m.heaps.size then
      if m.height < 2 then .none else m.writeAt arg.toInt.toNat below.toInt top
    else .none
  | _ => .none

/-- The access of the next step. A step that is refused or not paid for has none. -/
def access (m : Machine) : Access :=
  match m.fetch with
  | .refused _ _ => .none
  | .ready i => if (m.meter.consume 1).2 then m.accessOf i.op (i.args.getD 0 0) else .none

/-! ### Steps on other heaps -/

/-- The machine with other heaps. -/
def withHeaps (m : Machine) (heaps : Array Heap) : Machine :=
  { m with heaps }

@[simp] theorem withHeaps_heaps (m : Machine) : m.withHeaps m.heaps = m := rfl

/-- The effect with other heaps. -/
def Effect.withHeaps : Effect → Array Heap → Effect
  | next m, heaps => next (m.withHeaps heaps)
  | halt m, heaps => halt (m.withHeaps heaps)
  | fail m kind note, heaps => fail (m.withHeaps heaps) kind note

/-- The step with other heaps. -/
def Step.withHeaps : Step → Array Heap → Step
  | next m, heaps => next (m.withHeaps heaps)
  | halt m, heaps => halt (m.withHeaps heaps)
  | fault m f, heaps => fault (m.withHeaps heaps) f

theorem Step.machine_withHeaps (s : Step) (heaps : Array Heap) :
    (s.withHeaps heaps).machine = s.machine.withHeaps heaps := by
  cases s <;> rfl

section Effects

variable {m : Machine} {hs hs' : Array Heap}

theorem Effect.ite_withHeaps (p : Prop) [Decidable p] {e₁ e₂ e₁' e₂' : Effect}
    (h₁ : p → e₁' = e₁.withHeaps hs) (h₂ : ¬p → e₂' = e₂.withHeaps hs) :
    (if p then e₁' else e₂') = (if p then e₁ else e₂).withHeaps hs := by
  by_cases hp : p
  · rw [if_pos hp, if_pos hp]
    exact h₁ hp
  · rw [if_neg hp, if_neg hp]
    exact h₂ hp

theorem push_withHeaps (m : Machine) (hs : Array Heap) (v : Word) :
    (m.withHeaps hs).push v = (m.push v).withHeaps hs :=
  Effect.ite_withHeaps _ (fun _ => rfl) fun _ => rfl

theorem popThen_withHeaps {k : Machine → Word → Effect} (hempty : m.height = 0 → hs = hs')
    (hk : m.height ≠ 0 → k ({ m with height := m.height - 1 }.withHeaps hs)
      (m.stack.getD (m.height - 1) 0) =
        (k { m with height := m.height - 1 } (m.stack.getD (m.height - 1) 0)).withHeaps hs') :
    (m.withHeaps hs).popThen k = (m.popThen k).withHeaps hs' := by
  refine Effect.ite_withHeaps (m.height = 0) (fun h => ?_) hk
  rw [hempty h]
  rfl

theorem pop2Then_withHeaps {k : Machine → Word → Word → Effect} (hempty : m.height < 2 → hs = hs')
    (hk : ¬m.height < 2 → k ({ m with height := m.height - 2 }.withHeaps hs)
      (m.stack.getD (m.height - 1) 0) (m.stack.getD (m.height - 2) 0) =
        (k { m with height := m.height - 2 } (m.stack.getD (m.height - 1) 0)
          (m.stack.getD (m.height - 2) 0)).withHeaps hs') :
    (m.withHeaps hs).pop2Then k = (m.pop2Then k).withHeaps hs' := by
  refine Effect.ite_withHeaps (m.height < 2) (fun h => ?_) hk
  rw [hempty h]
  rfl

theorem binary_withHeaps (m : Machine) (hs : Array Heap) (f : Word → Word → Word) :
    (m.withHeaps hs).binary f = (m.binary f).withHeaps hs :=
  pop2Then_withHeaps (fun _ => rfl) fun _ => push_withHeaps _ hs _

theorem mapTop_withHeaps (m : Machine) (hs : Array Heap) (f : Word → Word) :
    (m.withHeaps hs).mapTop f = (m.mapTop f).withHeaps hs :=
  Effect.ite_withHeaps (m.height = 0) (fun _ => rfl) fun _ => rfl

theorem localThen_withHeaps (m : Machine) (offset : Word) {k k' : Nat → Effect}
    (hk : ∀ i, k' i = (k i).withHeaps hs) :
    (match (m.withHeaps hs).localIndex? offset with
      | some i => k' i
      | none => .fail (m.withHeaps hs) .stackIndexOutOfRange ((m.withHeaps hs).localNote offset)) =
    (match m.localIndex? offset with
      | some i => k i
      | none => .fail m .stackIndexOutOfRange (m.localNote offset)).withHeaps hs := by
  have hsame : (m.withHeaps hs).localIndex? offset = m.localIndex? offset := rfl
  rw [hsame]
  cases m.localIndex? offset with
  | none => rfl
  | some i => exact hk i

theorem call_withHeaps (m : Machine) (hs : Array Heap) (target numArgs : Word) :
    (m.withHeaps hs).call target numArgs = (m.call target numArgs).withHeaps hs := by
  refine Effect.ite_withHeaps (numArgs.toInt < 0 ∨ (m.height : Int) < numArgs.toInt)
    (fun _ => rfl) fun _ => ?_
  exact Effect.ite_withHeaps (m.stack.size < m.height + 3) (fun _ => rfl) fun _ => rfl

theorem leave_withHeaps (m : Machine) (hs : Array Heap) (v : Word) :
    (m.withHeaps hs).leave v = (m.leave v).withHeaps hs := by
  refine Effect.ite_withHeaps (m.fp < 2 ∨ m.height ≤ m.fp) (fun _ => rfl) fun _ => ?_
  refine Effect.ite_withHeaps _ (fun _ => rfl) fun _ => ?_
  refine Effect.ite_withHeaps _ (fun _ => rfl) fun _ => ?_
  exact Effect.ite_withHeaps _ (fun _ => rfl) fun _ => rfl

theorem ret_withHeaps (m : Machine) (hs : Array Heap) :
    (m.withHeaps hs).ret = m.ret.withHeaps hs := by
  refine Effect.ite_withHeaps (m.depth = 0) (fun _ => rfl) fun _ => ?_
  exact popThen_withHeaps (fun _ => rfl) fun _ => leave_withHeaps _ hs _

/-! Heaps of the same sizes refuse the same accesses. -/

theorem getD_size {a b : Array Heap} (hsizes : a.map Array.size = b.map Array.size) (heap : Nat) :
    (a.getD heap #[]).size = (b.getD heap #[]).size := by
  have hheap := congrArg (·[heap]?) hsizes
  simp only [Array.getElem?_map] at hheap
  simp only [Array.getD_eq_getD_getElem?]
  cases ha : a[heap]? with
  | none =>
    cases hb : b[heap]? with
    | none => rfl
    | some h => simp [ha, hb] at hheap
  | some h =>
    cases hb : b[heap]? with
    | none => simp [ha, hb] at hheap
    | some h' => simpa [ha, hb] using hheap

variable (hsizes : hs.map Array.size = m.heaps.map Array.size)

include hsizes

theorem holds_withHeaps (heap : Nat) (i : Int) :
    (hs.getD heap #[]).holds i = (m.heaps.getD heap #[]).holds i := by
  simp only [Heap.holds, getD_size hsizes heap]

theorem loadCell_withHeaps (heap : Nat) (i : Int)
    (hread : ∀ c, m.readAt heap i = .read c → c.get? hs = c.get? m.heaps) :
    (m.withHeaps hs).loadCell heap i = (m.loadCell heap i).withHeaps hs := by
  have hload : (hs.getD heap #[]).load? i = (m.heaps.getD heap #[]).load? i := by
    simp only [Heap.load?, holds_withHeaps hsizes heap i]
    by_cases hholds : (m.heaps.getD heap #[]).holds i = true
    · rw [if_pos hholds, if_pos hholds]
      exact hread ⟨heap, i.toNat⟩ (if_pos hholds)
    · rw [if_neg hholds, if_neg hholds]
  unfold loadCell
  simp only [withHeaps, hload, Heap.indexNote, getD_size hsizes heap]
  cases (m.heaps.getD heap #[]).load? i with
  | none => rfl
  | some v => exact push_withHeaps m hs v

theorem storeCell_withHeaps (heap : Nat) (i : Int) (v : Word) :
    (m.withHeaps hs).storeCell heap i v =
      (m.storeCell heap i v).withHeaps ((m.writeAt heap i v).apply hs) := by
  unfold storeCell writeAt
  simp only [withHeaps, holds_withHeaps hsizes heap i, Heap.indexNote, getD_size hsizes heap]
  by_cases hholds : (m.heaps.getD heap #[]).holds i = true
  · rw [if_pos hholds, if_pos hholds, if_pos hholds]
    rfl
  · rw [if_neg hholds, if_neg hholds, if_neg hholds]
    rfl

/-- A load at an index that is computed from the top of the stack. -/
theorem popLoad_withHeaps (heap : Nat) (f : Word → Int)
    (hread : ∀ c, (if m.height = 0 then Access.none
      else m.readAt heap (f (m.stack.getD (m.height - 1) 0))) = .read c →
        c.get? hs = c.get? m.heaps) :
    ((m.withHeaps hs).popThen fun m v => m.loadCell heap (f v)) =
      (m.popThen fun m v => m.loadCell heap (f v)).withHeaps
        ((if m.height = 0 then Access.none
          else m.readAt heap (f (m.stack.getD (m.height - 1) 0))).apply hs) := by
  refine popThen_withHeaps (fun h => ?_) fun h => ?_
  · rw [if_pos h]
    rfl
  · rw [if_neg h] at hread ⊢
    rw [readAt_apply]
    exact loadCell_withHeaps (m := { m with height := m.height - 1 }) hsizes heap _ hread

/-- A store of the top of the stack, at an index that is computed from the cell below it. -/
theorem pop2Store_withHeaps (heap : Nat) (f : Word → Int) :
    ((m.withHeaps hs).pop2Then fun m v i => m.storeCell heap (f i) v) =
      (m.pop2Then fun m v i => m.storeCell heap (f i) v).withHeaps
        ((if m.height < 2 then Access.none
          else m.writeAt heap (f (m.stack.getD (m.height - 2) 0))
            (m.stack.getD (m.height - 1) 0)).apply hs) := by
  refine pop2Then_withHeaps (fun h => ?_) fun h => ?_
  · rw [if_pos h]
    rfl
  · rw [if_neg h]
    exact storeCell_withHeaps (m := { m with height := m.height - 2 }) hsizes heap _ _

theorem selectThen_withHeaps (selector : Word) {k k' : Nat → Effect}
    (hout : ¬(0 ≤ selector.toInt ∧ selector.toInt < m.heaps.size) → hs = hs')
    (hk : 0 ≤ selector.toInt ∧ selector.toInt < m.heaps.size →
      k' selector.toInt.toNat = (k selector.toInt.toNat).withHeaps hs') :
    (m.withHeaps hs).selectThen selector k' = (m.selectThen selector k).withHeaps hs' := by
  have hsize : hs.size = m.heaps.size := by
    simpa only [Array.size_map] using congrArg Array.size hsizes
  simp only [selectThen, withHeaps, hsize]
  refine Effect.ite_withHeaps _ hk fun h => ?_
  rw [hout h]
  rfl

/-- An instruction on heaps that agree on the cell that it reads. -/
theorem exec_withHeaps (op : Opcode) (arg arg₂ : Word)
    (hread : ∀ c, m.accessOf op arg = .read c → c.get? hs = c.get? m.heaps) :
    (m.withHeaps hs).exec op arg arg₂ =
      (m.exec op arg arg₂).withHeaps ((m.accessOf op arg).apply hs) := by
  cases op with
  | iadd => exact binary_withHeaps m hs _
  | isub => exact binary_withHeaps m hs _
  | imul => exact binary_withHeaps m hs _
  | ilt => exact binary_withHeaps m hs _
  | ieq => exact binary_withHeaps m hs _
  | idiv =>
    dsimp only [exec, accessOf, Access.apply]
    refine pop2Then_withHeaps (fun _ => rfl) fun _ => ?_
    exact Effect.ite_withHeaps _ (fun _ => rfl) fun _ => push_withHeaps _ hs _
  | br => rfl
  | brt =>
    dsimp only [exec, accessOf, Access.apply]
    refine popThen_withHeaps (fun _ => rfl) fun _ => ?_
    split <;> rfl
  | brf =>
    dsimp only [exec, accessOf, Access.apply]
    refine popThen_withHeaps (fun _ => rfl) fun _ => ?_
    split <;> rfl
  | iconst => exact push_withHeaps m hs _
  | iconst1 => exact push_withHeaps m hs _
  | dup => exact Effect.ite_withHeaps (m.height = 0) (fun _ => rfl) fun _ => push_withHeaps m hs _
  | pop =>
    dsimp only [exec, accessOf, Access.apply]
    exact popThen_withHeaps (fun _ => rfl) fun _ => rfl
  | lshift => exact mapTop_withHeaps m hs _
  | rshift => exact mapTop_withHeaps m hs _
  | load => exact localThen_withHeaps m arg fun i => push_withHeaps m hs _
  | store =>
    dsimp only [exec, accessOf, Access.apply]
    refine popThen_withHeaps (fun _ => rfl) fun _ => ?_
    exact localThen_withHeaps { m with height := m.height - 1 } arg fun i => rfl
  | gload =>
    dsimp only [exec, accessOf] at hread ⊢
    rw [readAt_apply]
    exact loadCell_withHeaps hsizes 0 _ hread
  | gstore =>
    dsimp only [exec, accessOf]
    refine popThen_withHeaps (fun h => ?_) fun h => ?_
    · rw [if_pos h]
      rfl
    · rw [if_neg h]
      exact storeCell_withHeaps (m := { m with height := m.height - 1 }) hsizes 0 _ _
  | gloadIndexed =>
    dsimp only [exec, accessOf] at hread ⊢
    exact popLoad_withHeaps hsizes 0 (fun v => arg.toInt + v.toInt) hread
  | gstoreIndexed =>
    dsimp only [exec, accessOf]
    exact pop2Store_withHeaps hsizes 0 fun v => arg.toInt + v.toInt
  | threadId => exact push_withHeaps m hs _
  | parallelGloadIndexed =>
    dsimp only [exec, accessOf] at hread ⊢
    refine selectThen_withHeaps hsizes arg (fun h => ?_) fun h => ?_
    · rw [if_neg h]
      rfl
    · rw [if_pos h] at hread ⊢
      exact popLoad_withHeaps hsizes _ _ hread
  | parallelGstoreIndexed =>
    dsimp only [exec, accessOf]
    refine selectThen_withHeaps hsizes arg (fun h => ?_) fun h => ?_
    · rw [if_neg h]
      rfl
    · rw [if_pos h]
      exact pop2Store_withHeaps hsizes _ _
  | print =>
    dsimp only [exec, accessOf, Access.apply]
    exact popThen_withHeaps (fun _ => rfl) fun _ => rfl
  | halt => rfl
  | call => exact call_withHeaps m hs arg arg₂
  | ret => exact ret_withHeaps m hs

/-! ### Steps -/

omit hsizes in
theorem record_withHeaps (m : Machine) (hs : Array Heap) (mnemonic : String) (args : List Word) :
    (m.withHeaps hs).record mnemonic args = (m.record mnemonic args).withHeaps hs := by
  unfold record
  by_cases htracing : m.tracing = true
  · rw [if_pos htracing, if_pos (show (m.withHeaps hs).tracing = true from htracing)]
    rfl
  · rw [if_neg htracing, if_neg (show ¬(m.withHeaps hs).tracing = true from htracing)]

theorem perform_withHeaps (i : Instruction)
    (hread : ∀ c, m.accessOf i.op (i.args.getD 0 0) = .read c → c.get? hs = c.get? m.heaps) :
    (m.withHeaps hs).perform i =
      (m.perform i).withHeaps ((m.accessOf i.op (i.args.getD 0 0)).apply hs) := by
  -- What a trace records is not what an access is computed from.
  have hrecord : { m.record i.op.mnemonic i.args with ip := i.next }.heaps = m.heaps ∧
      { m.record i.op.mnemonic i.args with ip := i.next }.accessOf i.op (i.args.getD 0 0) =
        m.accessOf i.op (i.args.getD 0 0) := by
    unfold record
    split <;> exact ⟨rfl, rfl⟩
  have hexec := exec_withHeaps (m := { m.record i.op.mnemonic i.args with ip := i.next })
    (hrecord.1 ▸ hsizes) i.op (i.args.getD 0 0) (i.args.getD 1 0) (by rwa [hrecord.1, hrecord.2])
  rw [hrecord.2] at hexec
  unfold perform
  rw [record_withHeaps]
  simp only [withHeaps] at hexec ⊢
  rw [hexec]
  cases exec { m.record i.op.mnemonic i.args with ip := i.next } i.op (i.args.getD 0 0)
    (i.args.getD 1 0) with
  | next m' => rfl
  | halt m' => rfl
  | fail m' kind note => rfl

/-- A step on heaps that agree on the cell that it reads. -/
theorem step_withHeaps (hread : ∀ c, m.access = .read c → c.get? hs = c.get? m.heaps) :
    (m.withHeaps hs).step = m.step.withHeaps (m.access.apply hs) := by
  have hfetch : (m.withHeaps hs).fetch = m.fetch := rfl
  have hmeter : (m.withHeaps hs).meter = m.meter := rfl
  unfold access at hread ⊢
  unfold step
  rw [hfetch, hmeter]
  cases hf : m.fetch with
  | refused f shown =>
    cases shown with
    | none => rfl
    | some line => exact congrArg (Step.fault · f) (record_withHeaps m hs line.1 line.2)
  | ready i =>
    simp only [hf] at hread
    generalize m.meter.consume 1 = charge at hread ⊢
    obtain ⟨meter, paid⟩ := charge
    cases paid with
    | false => rfl
    | true => exact perform_withHeaps (m := { m with meter }) hsizes i hread

end Effects

/-- A step changes the heaps by its access, and by nothing else. -/
theorem step_heaps (m : Machine) : m.step.machine.heaps = m.access.apply m.heaps := by
  have hstep :=
    step_withHeaps (rfl : m.heaps.map Array.size = m.heaps.map Array.size) fun _ _ => rfl
  rw [withHeaps_heaps] at hstep
  rw [hstep, Step.machine_withHeaps]
  rfl

/-! ### Runs -/

/-- The accesses of the steps of a run. -/
def accesses : (fuel : Nat) → Machine → List Access
  | 0, _ => []
  | fuel + 1, m =>
    m.access :: match m.step with
      | .next m => accesses fuel m
      | .halt _ => []
      | .fault _ _ => []

/-- The cells that a run writes. -/
def written (fuel : Nat) (m : Machine) : List Cell :=
  (m.accesses fuel).filterMap Access.written?

/-- The cells that a run reads or writes. -/
def used (fuel : Nat) (m : Machine) : List Cell :=
  (m.accesses fuel).filterMap Access.cell?

theorem written_subset_used (fuel : Nat) (m : Machine) : m.written fuel ⊆ m.used fuel := by
  intro c hc
  obtain ⟨a, ha, hw⟩ := List.mem_filterMap.1 hc
  refine List.mem_filterMap.2 ⟨a, ha, ?_⟩
  cases a with
  | none => cases hw
  | read d => cases hw
  | write d v => exact hw

theorem advance_sizes (fuel : Nat) (m : Machine) :
    (m.advance fuel).1.heaps.map Array.size = m.heaps.map Array.size := by
  refine advance_induction (P := fun m' => m'.heaps.map Array.size = m.heaps.map Array.size)
    (fun m' h => ?_) (fun m' phase h => h) fuel m rfl
  rw [step_heaps, Access.apply_sizes, h]

/-- A cell that a run does not write keeps its value. -/
theorem advance_get? {fuel : Nat} {m : Machine} {c : Cell} (hc : c ∉ m.written fuel) :
    c.get? (m.advance fuel).1.heaps = c.get? m.heaps := by
  induction fuel generalizing m with
  | zero => rfl
  | succ fuel ih =>
    have hhead : m.access.written? ≠ some c := by
      intro hw
      exact hc (List.mem_filterMap.2 ⟨m.access, List.mem_cons_self, hw⟩)
    have hstep : c.get? m.step.machine.heaps = c.get? m.heaps := by
      rw [step_heaps]
      exact Access.get?_apply_of_ne hhead m.heaps
    unfold advance
    cases hs : m.step with
    | next m' =>
      rw [hs] at hstep
      refine (ih fun hm' => hc ?_).trans hstep
      obtain ⟨a, ha, hw⟩ := List.mem_filterMap.1 hm'
      refine List.mem_filterMap.2 ⟨a, ?_, hw⟩
      rw [accesses, hs]
      exact List.mem_cons_of_mem _ ha
    | halt m' =>
      rw [hs] at hstep
      exact hstep
    | fault m' f =>
      rw [hs] at hstep
      exact hstep

end Machine

end Lanewise
