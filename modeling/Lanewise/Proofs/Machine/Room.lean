import Lanewise.Proofs.Machine.Lockstep

/-!
# Room

A run that gets along with its memory is not changed by more. A machine reads only the live cells of
its stack, so it does not matter what else the storage of the stack holds, nor how much there is of
it, as long as it does not overflow. In the same way it does not matter what follows the cells of a
heap, as long as no access lies outside.

Both are one simulation. A machine with more room makes the same step as the machine itself, unless
the step fails for lack of the room that the other has.

## Main definitions

* `Machine.pad`: heaps with more cells behind their own.
* `Machine.roomy`: a machine with another storage of the stack and padded heaps.
* `Machine.Room`: storage that has the live cells of a machine, and more space.
* `Machine.Lacks`: the faults that more room may avoid.

## Main results

* `Machine.exec_roomy`, `Machine.step_roomy`: a step with more room.
* `Machine.advance_roomy`: a run with more room.
* `Machine.Prepared.run_with_room`: more memory never changes a run that did not need it.
-/

namespace Lanewise.Machine

/-- Heaps with more cells behind their own. -/
def pad (extra : Nat → Heap) (heaps : Array Heap) : Array Heap :=
  heaps.mapIdx fun j h => h ++ extra j

/-- A machine with another storage of the stack and padded heaps. -/
def roomy (m : Machine) (extra : Nat → Heap) (s : Array Word) : Machine :=
  { m with stack := s, heaps := pad extra m.heaps }

/-- Storage with `slack` cells more than that of a machine, which agrees with it on the live cells
and on the first `kept` cells. -/
structure Room (slack kept : Nat) (m : Machine) (s : Array Word) : Prop where
  size_eq : s.size = m.stack.size + slack
  cell_eq : ∀ cell, cell < m.height ∨ cell < kept → s[cell]? = m.stack[cell]?

/-- More room may avoid a fault of this kind. -/
def Lacks (slack : Nat) (extra : Nat → Heap) (kind : Fault.Kind) : Prop :=
  (kind = .stackOverflow ∧ slack ≠ 0) ∨ (kind = .heapIndexOutOfRange ∧ ∃ j, extra j ≠ #[])

/-- The same effect with more room, unless it fails for the lack of it. -/
inductive Effect.Roomier (slack kept : Nat) (extra : Nat → Heap) : Effect → Effect → Prop
  | next {m : Machine} {s : Array Word} (h : Room slack kept m s) :
      Roomier slack kept extra (.next m) (.next (m.roomy extra s))
  | halt {m : Machine} {s : Array Word} (h : Room slack kept m s) :
      Roomier slack kept extra (.halt m) (.halt (m.roomy extra s))
  | fail {m : Machine} {s : Array Word} (h : Room slack kept m s) (kind : Fault.Kind)
    (note : String) :
      Roomier slack kept extra (.fail m kind note) (.fail (m.roomy extra s) kind note)
  | short {kind : Fault.Kind} (h : Lacks slack extra kind) (m : Machine) (note : String)
    (e : Effect) :
      Roomier slack kept extra (.fail m kind note) e

/-! ### Padded heaps -/

section Pad

variable {extra : Nat → Heap} {heaps : Array Heap}

theorem size_pad : (pad extra heaps).size = heaps.size :=
  Array.size_mapIdx

theorem getElem?_pad (j : Nat) : (pad extra heaps)[j]? = heaps[j]?.map (· ++ extra j) :=
  Array.getElem?_mapIdx

theorem getD_pad {j : Nat} (hj : j < heaps.size) :
    (pad extra heaps).getD j #[] = heaps.getD j #[] ++ extra j := by
  rw [Array.getD_eq_getD_getElem?, Array.getD_eq_getD_getElem?, getElem?_pad,
    Array.getElem?_eq_getElem hj]
  rfl

theorem pad_empty (h : ∀ j, extra j = #[]) : pad extra heaps = heaps := by
  apply Array.ext_getElem?
  intro j
  rw [getElem?_pad, h]
  cases heaps[j]? with
  | none => rfl
  | some heap => exact congrArg some Array.append_empty

theorem toNat_lt_of_holds {h : Heap} {i : Int} (hi : h.holds i = true) : i.toNat < h.size := by
  simp only [Heap.holds, Bool.and_eq_true, decide_eq_true_eq] at hi
  omega

/-- A cell of a heap is there with more cells behind it, too. -/
theorem holds_append {h : Heap} {i : Int} (hi : h.holds i = true) (e : Heap) :
    Heap.holds (h ++ e) i = true := by
  simp only [Heap.holds, Bool.and_eq_true, decide_eq_true_eq, Array.size_append] at hi ⊢
  omega

theorem load?_append {h : Heap} {i : Int} (hi : h.holds i = true) (e : Heap) :
    Heap.load? (h ++ e) i = h.load? i := by
  rw [Heap.load?, Heap.load?, if_pos hi, if_pos (holds_append hi e),
    Array.getElem?_append_left (toNat_lt_of_holds hi)]

theorem pad_modify {j : Nat} {i : Int} (hi : (heaps.getD j #[]).holds i = true) (v : Word) :
    (pad extra heaps).modify j (fun h => h.setIfInBounds i.toNat v) =
      pad extra (heaps.modify j fun h => h.setIfInBounds i.toNat v) := by
  apply Array.ext_getElem?
  intro k
  rw [getElem?_pad, Array.getElem?_modify, Array.getElem?_modify, getElem?_pad]
  split
  · next hjk =>
    subst hjk
    cases hheap : heaps[j]? with
    | none => rfl
    | some h =>
      rw [Array.getD_eq_getD_getElem?, hheap] at hi
      exact congrArg some (Array.setIfInBounds_append_left (toNat_lt_of_holds hi))
  · rfl

end Pad

/-! ### Storage with more space -/

section Effects

variable {slack kept : Nat} {extra : Nat → Heap} {m : Machine} {s : Array Word}

theorem Room.getD_eq (h : Room slack kept m s) {cell : Nat} (hcell : cell < m.height) :
    s.getD cell 0 = m.stack.getD cell 0 := by
  rw [Array.getD_eq_getD_getElem?, Array.getD_eq_getD_getElem?, h.cell_eq cell (.inl hcell)]

/-- More room shows the same stack. -/
theorem Room.live_eq (h : Room slack kept m s) (extra : Nat → Heap) :
    (m.roomy extra s).live = m.live := by
  apply Array.ext_getElem?
  intro cell
  change (s.extract 0 m.height)[cell]? = (m.stack.extract 0 m.height)[cell]?
  have hsize := h.size_eq
  rw [Array.getElem?_extract, Array.getElem?_extract, Nat.zero_add]
  by_cases hcell : cell < m.height
  · rw [h.cell_eq cell (.inl hcell)]
    split
    · split
      · rfl
      · exact Array.getElem?_eq_none (by omega)
    · rw [if_neg (by omega)]
  · rw [if_neg (by omega), if_neg (by omega)]

/-- Fewer live cells. -/
theorem Room.shrink (h : Room slack kept m s) {height : Nat} (hle : height ≤ m.height) :
    Room slack kept { m with height } s :=
  { h with cell_eq := fun cell hcell => h.cell_eq cell (hcell.imp_left (Nat.lt_of_lt_of_le · hle)) }

/-- Whether a live cell lies in the storage does not depend on the room. -/
theorem Room.lt_size_iff (h : Room slack kept m s) {cell : Nat} (hcell : cell < m.height) :
    cell < s.size ↔ cell < m.stack.size := by
  rw [← Decidable.not_iff_not, Nat.not_lt, Nat.not_lt, ← Array.getElem?_eq_none_iff,
    ← Array.getElem?_eq_none_iff, h.cell_eq cell (.inl hcell)]

/-- A failure is the same with more room, or one that room may avoid. -/
theorem fail_roomy (h : Room slack kept m s) {kind : Fault.Kind} {note : String} {e : Effect}
    (hsame : ¬Lacks slack extra kind → e = .fail (m.roomy extra s) kind note) :
    Effect.Roomier slack kept extra (.fail m kind note) e := by
  by_cases hlacks : Lacks slack extra kind
  · exact .short hlacks m note e
  · rw [hsame hlacks]
    exact .fail h kind note

/-- Where a machine has no space, it has some with more room, or none was added. -/
theorem overflow_roomy (h : Room slack kept m s) {e : Effect}
    (hfull : slack = 0 → e = .fail (m.roomy extra s) .stackOverflow "") :
    Effect.Roomier slack kept extra (.fail m .stackOverflow "") e :=
  fail_roomy h fun hlacks => hfull (Decidable.by_contra fun hslack => hlacks (.inl ⟨rfl, hslack⟩))

theorem push_roomy (h : Room slack kept m s) (v : Word) :
    (m.push v).Roomier slack kept extra ((m.roomy extra s).push v) := by
  have hsize := h.size_eq
  by_cases hlt : m.height < m.stack.size
  · have hpush : m.push v = .next _ := if_pos hlt
    have hpush' : (m.roomy extra s).push v = .next _ := if_pos (show m.height < s.size by omega)
    rw [hpush, hpush']
    refine .next (m := { m with stack := m.stack.setIfInBounds m.height v, height := m.height + 1 })
      (s := s.setIfInBounds m.height v)
        ⟨by simp only [Array.size_setIfInBounds, hsize], fun cell hcell => ?_⟩
    dsimp only at hcell
    exact set_cell_eq_of_iff (by omega) v fun hne => h.cell_eq cell (by omega)
  · have hpush : m.push v = .fail m .stackOverflow "" := if_neg hlt
    rw [hpush]
    exact overflow_roomy h fun hslack => if_neg (show ¬m.height < s.size by omega)

theorem popThen_roomy (h : Room slack kept m s) {k : Machine → Word → Effect}
    (hk : ∀ m' s' v, Room slack kept m' s' →
      (k m' v).Roomier slack kept extra (k (m'.roomy extra s') v)) :
    (m.popThen k).Roomier slack kept extra ((m.roomy extra s).popThen k) := by
  refine Effect.ite_rel Iff.rfl (fun _ => .fail h _ _) fun hne => ?_
  have htop : s.getD (m.height - 1) 0 = m.stack.getD (m.height - 1) 0 := h.getD_eq (by omega)
  dsimp only [roomy]
  rw [htop]
  exact hk _ _ _ (h.shrink (Nat.sub_le ..))

theorem pop2Then_roomy (h : Room slack kept m s) {k : Machine → Word → Word → Effect}
    (hk : ∀ m' s' a b, Room slack kept m' s' →
      (k m' a b).Roomier slack kept extra (k (m'.roomy extra s') a b)) :
    (m.pop2Then k).Roomier slack kept extra ((m.roomy extra s).pop2Then k) := by
  refine Effect.ite_rel Iff.rfl (fun _ => .fail h _ _) fun hlow => ?_
  have htop : s.getD (m.height - 1) 0 = m.stack.getD (m.height - 1) 0 := h.getD_eq (by omega)
  have hbelow : s.getD (m.height - 2) 0 = m.stack.getD (m.height - 2) 0 := h.getD_eq (by omega)
  dsimp only [roomy]
  rw [htop, hbelow]
  exact hk _ _ _ _ (h.shrink (Nat.sub_le ..))

theorem binary_roomy (h : Room slack kept m s) (f : Word → Word → Word) :
    (m.binary f).Roomier slack kept extra ((m.roomy extra s).binary f) :=
  pop2Then_roomy h fun _ _ _ _ h' => push_roomy h' _

theorem mapTop_roomy (h : Room slack kept m s) (f : Word → Word) :
    (m.mapTop f).Roomier slack kept extra ((m.roomy extra s).mapTop f) := by
  refine Effect.ite_rel Iff.rfl (fun _ => .fail h _ _) fun hne => ?_
  refine .next (m := { m with stack := m.stack.modify (m.height - 1) f })
    (s := s.modify (m.height - 1) f)
    ⟨by simp only [Array.size_modify, h.size_eq], fun cell hcell => ?_⟩
  rw [Array.getElem?_modify, Array.getElem?_modify, h.cell_eq cell hcell]

/-- Locals are live cells, so more room makes no difference to them. -/
theorem localThen_roomy (h : Room slack kept m s) (offset : Word) {k k' : Nat → Effect}
    (hk : ∀ i < m.height, (k i).Roomier slack kept extra (k' i)) :
    Effect.Roomier slack kept extra
      (match m.localIndex? offset with
        | some i => k i
        | none => .fail m .stackIndexOutOfRange (m.localNote offset))
      (match (m.roomy extra s).localIndex? offset with
        | some i => k' i
        | none =>
          .fail (m.roomy extra s) .stackIndexOutOfRange ((m.roomy extra s).localNote offset)) := by
  have hindex : (m.roomy extra s).localIndex? offset = m.localIndex? offset := rfl
  rw [hindex]
  cases hi : m.localIndex? offset with
  | none => exact .fail h _ _
  | some i => exact hk i (localIndex?_lt hi)

/-- Where a heap has no cell, it has one with more behind its own, or none were added. -/
theorem outOfRange_roomy (h : Room slack kept m s) (heap : Nat) {note : String} {e : Effect}
    (hout : extra heap = #[] → e = .fail (m.roomy extra s) .heapIndexOutOfRange note) :
    Effect.Roomier slack kept extra (.fail m .heapIndexOutOfRange note) e :=
  fail_roomy h fun hlacks => hout
    (Decidable.by_contra fun hextra => hlacks (.inr ⟨rfl, heap, hextra⟩))

/-- The heap of a machine with more room has its cells first. -/
theorem getD_roomy (extra : Nat → Heap) (m : Machine) (s : Array Word) (heap : Nat) :
    ∃ more : Heap, (m.roomy extra s).heaps.getD heap #[] = m.heaps.getD heap #[] ++ more ∧
      (extra heap = #[] → more = #[]) := by
  by_cases hheap : heap < m.heaps.size
  · exact ⟨extra heap, getD_pad hheap, id⟩
  · refine ⟨#[], ?_, fun _ => rfl⟩
    change (pad extra m.heaps).getD heap #[] = _
    rw [Array.getD_eq_getD_getElem?, Array.getD_eq_getD_getElem?, getElem?_pad,
      Array.getElem?_eq_none (Nat.le_of_not_lt hheap)]
    rfl

theorem loadCell_roomy (h : Room slack kept m s) (heap : Nat) (i : Int) :
    (m.loadCell heap i).Roomier slack kept extra ((m.roomy extra s).loadCell heap i) := by
  obtain ⟨more, hheap, hmore⟩ := getD_roomy extra m s heap
  unfold loadCell
  rw [hheap]
  dsimp only
  cases hload : (m.heaps.getD heap #[]).load? i with
  | some v =>
    have hin : (m.heaps.getD heap #[]).holds i = true := by
      refine Decidable.by_contra fun hout => ?_
      rw [Heap.load?, if_neg hout] at hload
      cases hload
    rw [load?_append hin, hload]
    exact push_roomy h v
  | none =>
    refine outOfRange_roomy h heap fun hextra => ?_
    rw [hmore hextra, Array.append_empty, hload]

theorem storeCell_roomy (h : Room slack kept m s) (heap : Nat) (i : Int) (v : Word) :
    (m.storeCell heap i v).Roomier slack kept extra ((m.roomy extra s).storeCell heap i v) := by
  obtain ⟨more, hheap, hmore⟩ := getD_roomy extra m s heap
  unfold storeCell
  rw [hheap]
  by_cases hin : (m.heaps.getD heap #[]).holds i = true
  · have hheaps : (m.roomy extra s).heaps.modify heap (fun h => h.setIfInBounds i.toNat v) =
        pad extra (m.heaps.modify heap fun h => h.setIfInBounds i.toNat v) := pad_modify hin v
    rw [if_pos hin, if_pos (holds_append hin more), hheaps]
    exact .next (m := { m with heaps := m.heaps.modify heap fun h => h.setIfInBounds i.toNat v })
      ⟨h.1, h.2⟩
  · rw [if_neg hin]
    refine outOfRange_roomy h heap fun hextra => ?_
    rw [hmore hextra, Array.append_empty, if_neg hin]

theorem selectThen_roomy (h : Room slack kept m s) (selector : Word) {k k' : Nat → Effect}
    (hk : ∀ heap, (k heap).Roomier slack kept extra (k' heap)) :
    (m.selectThen selector k).Roomier slack kept extra
      ((m.roomy extra s).selectThen selector k') := by
  have hsize : (m.roomy extra s).heaps.size = m.heaps.size := size_pad
  unfold selectThen
  rw [hsize]
  exact Effect.ite_rel Iff.rfl (fun _ => hk _) fun _ => .fail h _ _

theorem call_roomy (h : Room slack kept m s) (target numArgs : Word) :
    (m.call target numArgs).Roomier slack kept extra ((m.roomy extra s).call target numArgs) := by
  have hsize := h.size_eq
  refine Effect.ite_rel Iff.rfl (fun _ => .fail h _ _) fun _ => ?_
  by_cases hfull : m.stack.size < m.height + 3
  · rw [if_pos hfull]
    exact overflow_roomy h fun hslack => if_pos (show s.size < m.height + 3 by omega)
  · rw [if_neg hfull, if_neg (show ¬(m.roomy extra s).stack.size < (m.roomy extra s).height + 3 from
      show ¬s.size < m.height + 3 by omega)]
    refine .next (m := { m with
      stack := ((m.stack.setIfInBounds m.height numArgs).setIfInBounds (m.height + 1)
        (Int32.ofNat m.fp)).setIfInBounds (m.height + 2) (Int32.ofInt m.ip)
      height := m.height + 3, fp := m.height + 2, ip := target.toInt, depth := m.depth + 1 })
      (s := ((s.setIfInBounds m.height numArgs).setIfInBounds (m.height + 1)
        (Int32.ofNat m.fp)).setIfInBounds (m.height + 2) (Int32.ofInt m.ip))
      ⟨by simp only [Array.size_setIfInBounds, hsize], fun cell hcell => ?_⟩
    dsimp only at hcell
    refine set_cell_eq_of_iff (by simp only [Array.size_setIfInBounds]; omega) _ fun h₂ => ?_
    refine set_cell_eq_of_iff (by simp only [Array.size_setIfInBounds]; omega) _ fun h₁ => ?_
    exact set_cell_eq_of_iff (by omega) _ fun h₀ => h.cell_eq cell (by omega)

/-- Leaving a subroutine reads its record, which lies in live cells if it is not refused. -/
theorem leave_roomy (h : Room slack kept m s) (v : Word) :
    (m.leave v).Roomier slack kept extra ((m.roomy extra s).leave v) := by
  refine Effect.ite_rel Iff.rfl (fun _ => .fail h _ _) fun hframe => ?_
  have hless : Room slack kept { m with height := m.fp - 2 } s := h.shrink (by omega)
  have hreturn : s.getD m.fp 0 = m.stack.getD m.fp 0 := h.getD_eq (by omega)
  have hcaller : s.getD (m.fp - 1) 0 = m.stack.getD (m.fp - 1) 0 := h.getD_eq (by omega)
  have hargs : s.getD (m.fp - 2) 0 = m.stack.getD (m.fp - 2) 0 := h.getD_eq (by omega)
  dsimp only [roomy]
  rw [hreturn, hcaller, hargs]
  refine Effect.ite_rel Iff.rfl (fun _ => .fail hless _ _) fun _ => ?_
  refine Effect.ite_rel Iff.rfl (fun _ => .fail hless _ _) fun _ => ?_
  refine Effect.ite_rel Iff.rfl (fun _ => .fail hless _ _) fun _ => ?_
  generalize hbase : m.fp - 2 - (m.stack.getD (m.fp - 2) 0).toInt.toNat = base
  have hlive : base < m.height := by omega
  refine .next (m := { m with
    stack := m.stack.setIfInBounds base v
    height := base + 1
    fp := (m.stack.getD (m.fp - 1) 0).toInt.toNat
    ip := (m.stack.getD m.fp 0).toInt
    depth := m.depth - 1 })
    ⟨by simp only [Array.size_setIfInBounds, h.size_eq], fun cell hcell => ?_⟩
  dsimp only at hcell
  exact set_cell_eq_of_iff (h.lt_size_iff hlive) v fun hne => h.cell_eq cell (by omega)

theorem ret_roomy (h : Room slack kept m s) :
    m.ret.Roomier slack kept extra (m.roomy extra s).ret :=
  Effect.ite_rel Iff.rfl (fun _ => .fail h _ _) fun _ =>
    popThen_roomy h fun _ _ v h' => leave_roomy h' v

/-- An instruction has the same effect with more room, unless it fails for the lack of it. -/
theorem exec_roomy (extra : Nat → Heap) (h : Room slack kept m s) (op : Opcode) (arg arg₂ : Word) :
    (m.exec op arg arg₂).Roomier slack kept extra ((m.roomy extra s).exec op arg arg₂) := by
  unfold exec
  cases op with
  | iadd | isub | imul | ilt | ieq => exact binary_roomy h _
  | idiv =>
    refine pop2Then_roomy h fun m' s' a b h' => ?_
    exact Effect.ite_rel Iff.rfl (fun _ => .fail h' _ _) fun _ => push_roomy h' _
  | br => exact .next (m := { m with ip := arg.toInt }) { h with }
  | brt | brf =>
    refine popThen_roomy h fun m' s' v h' => ?_
    split
    · exact .next (m := { m' with ip := arg.toInt }) { h' with }
    · exact .next h'
  | iconst | iconst1 | threadId => exact push_roomy h _
  | dup =>
    refine Effect.ite_rel Iff.rfl (fun _ => .fail h _ _) fun hne => ?_
    have htop : s.getD (m.height - 1) 0 = m.stack.getD (m.height - 1) 0 := h.getD_eq (by omega)
    rw [← htop]
    exact push_roomy h _
  | pop => exact popThen_roomy h fun _ _ _ h' => .next h'
  | lshift | rshift => exact mapTop_roomy h _
  | load =>
    refine localThen_roomy h arg fun i hi => ?_
    rw [← h.getD_eq hi]
    exact push_roomy h _
  | store =>
    refine popThen_roomy h fun m' s' v h' => localThen_roomy h' arg fun i hi => ?_
    refine .next (m := { m' with stack := m'.stack.setIfInBounds i v }) (s := s'.setIfInBounds i v)
      ⟨by simp only [Array.size_setIfInBounds, h'.size_eq], fun cell hcell => ?_⟩
    exact set_cell_eq_of_iff (h'.lt_size_iff hi) v fun _ => h'.cell_eq cell hcell
  | gload => exact loadCell_roomy h _ _
  | gstore => exact popThen_roomy h fun _ _ _ h' => storeCell_roomy h' _ _ _
  | gloadIndexed => exact popThen_roomy h fun _ _ _ h' => loadCell_roomy h' _ _
  | gstoreIndexed => exact pop2Then_roomy h fun _ _ _ _ h' => storeCell_roomy h' _ _ _
  | parallelGloadIndexed =>
    exact selectThen_roomy h _ fun _ => popThen_roomy h fun _ _ _ h' => loadCell_roomy h' _ _
  | parallelGstoreIndexed =>
    exact selectThen_roomy h _ fun _ => pop2Then_roomy h fun _ _ _ _ h' => storeCell_roomy h' _ _ _
  | print =>
    exact popThen_roomy h fun m' s' v h' =>
      .next (m := { m' with printed := m'.printed.push v }) { h' with }
  | halt => exact .halt h
  | call => exact call_roomy h _ _
  | ret => exact ret_roomy h

end Effects

/-! ### Steps -/

variable {slack kept : Nat} {extra : Nat → Heap} {m : Machine} {s : Array Word}

/-- The same step with more room, unless it fails for the lack of it. -/
inductive Step.Roomier (slack kept : Nat) (extra : Nat → Heap) : Step → Step → Prop
  | next {m : Machine} {s : Array Word} (h : Room slack kept m s) :
      Roomier slack kept extra (.next m) (.next (m.roomy extra s))
  | halt {m : Machine} {s : Array Word} (h : Room slack kept m s) :
      Roomier slack kept extra (.halt m) (.halt (m.roomy extra s))
  | fault {m : Machine} {s : Array Word} (h : Room slack kept m s) (f : Fault) :
      Roomier slack kept extra (.fault m f) (.fault (m.roomy extra s) f)
  | short {kind : Fault.Kind} (h : Lacks slack extra kind) {f : Fault} (hf : f.reason = .kind kind)
      (m : Machine) (e : Step) : Roomier slack kept extra (.fault m f) e

theorem record_roomy (extra : Nat → Heap) (h : Room slack kept m s) (mnemonic : String)
    (args : List Word) :
    (m.roomy extra s).record mnemonic args = (m.record mnemonic args).roomy extra s ∧
      Room slack kept (m.record mnemonic args) s := by
  have hlive := h.live_eq extra
  unfold record
  rw [hlive]
  by_cases htracing : m.tracing = true
  · rw [if_pos htracing, if_pos (show (m.roomy extra s).tracing = true from htracing)]
    exact ⟨rfl, h.1, h.2⟩
  · rw [if_neg htracing, if_neg (show ¬(m.roomy extra s).tracing = true from htracing)]
    exact ⟨rfl, h⟩

theorem perform_roomy (h : Room slack kept m s) (i : Instruction) :
    (m.perform i).Roomier slack kept extra ((m.roomy extra s).perform i) := by
  obtain ⟨hrecord, hroom⟩ := record_roomy extra h i.op.mnemonic i.args
  have hready : Room slack kept { m.record i.op.mnemonic i.args with ip := i.next } s :=
    { hroom with }
  have hexec : Effect.Roomier slack kept extra
      (exec { m.record i.op.mnemonic i.args with ip := i.next } i.op (i.args.getD 0 0)
        (i.args.getD 1 0))
      (exec { (m.record i.op.mnemonic i.args).roomy extra s with ip := i.next } i.op
        (i.args.getD 0 0) (i.args.getD 1 0)) := exec_roomy extra hready i.op _ _
  unfold perform
  rw [hrecord]
  dsimp only
  generalize exec { m.record i.op.mnemonic i.args with ip := i.next } i.op _ _ = e at hexec ⊢
  generalize
    exec { (m.record i.op.mnemonic i.args).roomy extra s with ip := i.next } i.op _ _ = e'
    at hexec ⊢
  cases hexec with
  | next h' => exact .next h'
  | halt h' => exact .halt h'
  | fail h' kind note => exact .fault h' _
  | short hlacks m' note => exact .short hlacks rfl m' _

/-- A machine makes the same step with more room, unless the step fails for the lack of it. -/
theorem step_roomy (extra : Nat → Heap) (h : Room slack kept m s) :
    m.step.Roomier slack kept extra (m.roomy extra s).step := by
  have hfetch : (m.roomy extra s).fetch = m.fetch := rfl
  have hmeter : (m.roomy extra s).meter = m.meter := rfl
  unfold step
  rw [hfetch, hmeter]
  cases m.fetch with
  | refused f shown =>
    cases shown with
    | none => exact .fault h f
    | some line =>
      obtain ⟨hrecord, hroom⟩ := record_roomy extra h line.1 line.2
      dsimp only
      rw [hrecord]
      exact .fault hroom f
  | ready i =>
    dsimp only
    generalize m.meter.consume 1 = charge
    obtain ⟨meter, paid⟩ := charge
    have hpaid : Room slack kept { m with meter } s := { h with }
    cases paid with
    | true => exact perform_roomy hpaid i
    | false => exact .fault hpaid _

/-! ### Runs -/

/-- The run did not fail for the lack of room. -/
def Outcome.Suffices (o : Outcome) (slack : Nat) (extra : Nat → Heap) : Prop :=
  ∀ f kind, o = .faulted f → f.reason = .kind kind → ¬Lacks slack extra kind

/-- A run that does not fail for the lack of room ends in the same way with more. -/
theorem advance_roomy (n : Nat) (h : Room slack kept m s)
    (hend : (m.advance n).2.Suffices slack extra) :
    ∃ s', Room slack kept (m.advance n).1 s' ∧
      (m.roomy extra s).advance n = ((m.advance n).1.roomy extra s', (m.advance n).2) := by
  induction n generalizing m s with
  | zero => exact ⟨s, h, rfl⟩
  | succ n ih =>
    have hstep := step_roomy extra h
    rw [advance] at hend ⊢
    rw [advance]
    generalize m.step = e at hstep hend ⊢
    generalize (m.roomy extra s).step = e' at hstep ⊢
    cases hstep with
    | next h' => exact ih h' hend
    | halt h' | fault h' f => exact ⟨_, { h' with }, rfl⟩
    | short hlacks hf m' => exact absurd hlacks (hend _ _ rfl hf)

theorem Prepared.run_roomy (h : Prepared m) (hroom : Room slack kept m s) (n : Nat)
    (hend : (m.run n).2.Suffices slack extra) :
    ∃ s', Room slack kept (m.after n) s' ∧
      (m.roomy extra s).run n = ((m.after n).roomy extra s', (m.run n).2) := by
  have hready := h.unrun.1
  have hrunning : Room slack kept { m with phase := .running } s := { hroom with }
  rw [run_of_ready hready] at hend
  rw [after, run_of_ready hready, run_of_ready (show (m.roomy extra s).phase = .ready from hready)]
  exact advance_roomy n hrunning hend

/-! ### Machines with more memory -/

/-- More storage for the stack alone. -/
theorem roomy_stack (m : Machine) (s : Array Word) :
    m.roomy (fun _ => #[]) s = { m with stack := s } := by
  rw [roomy, pad_empty fun _ => rfl]

/-- Storage without more cells that agrees on all of them is the same. -/
theorem Room.eq_stack (h : Room 0 kept m s) (hkept : m.stack.size ≤ kept) : s = m.stack := by
  have hsize := h.size_eq
  apply Array.ext_getElem?
  intro cell
  by_cases hcell : cell < kept
  · exact h.cell_eq cell (.inr hcell)
  · rw [Array.getElem?_eq_none (by omega), Array.getElem?_eq_none (by omega)]

/-- A machine that is made with other storage for its stack. -/
theorem create_stack {code : Program} {entry : Int} {o : Options} {cells : Array Word}
    (h : Machine.create code entry o = .ok m) (hcells : 0 < cells.size) :
    Machine.create code entry { o with stack := some cells } = .ok { m with stack := cells } := by
  obtain ⟨hentry, stack, engine, lane, heaps, -, hheaps, rfl⟩ := create_eq_ok_iff.1 h
  exact create_eq_ok_iff.2
    ⟨hentry, cells, engine, lane, heaps, stackOf_given rfl hcells, hheaps, rfl⟩

/-- The options with padded heaps: those of a lane, or the one of a machine that runs alone. -/
def Options.padded (o : Options) (extra : Nat → Heap) (own : Heap) : Options :=
  { o with
    heap := some (own ++ extra 0)
    lane := o.lane.map fun b => { b with heaps := pad extra b.heaps } }

/-- A machine that is made with padded heaps. -/
theorem create_padded {code : Program} {entry : Int} {o : Options}
    (h : Machine.create code entry o = .ok m) :
    Machine.create code entry (o.padded extra (m.heaps.getD 0 #[])) =
      .ok { m with heaps := pad extra m.heaps } := by
  obtain ⟨hentry, stack, engine, lane, heaps, hstack, hheaps, rfl⟩ := create_eq_ok_iff.1 h
  have hpadded :
      heapsOf (o.padded extra (heaps.getD 0 #[])) = .ok (engine, lane, pad extra heaps) := by
    cases hlane : o.lane with
    | some b =>
      unfold heapsOf at hheaps ⊢
      rw [hlane] at hheaps
      dsimp only [Options.padded] at hheaps ⊢
      rw [hlane]
      split at hheaps
      · cases hheaps
      · next hne =>
        cases hheaps
        exact if_neg
          (by rwa [Array.isEmpty_iff_size_eq_zero, size_pad, ← Array.isEmpty_iff_size_eq_zero])
    | none =>
      obtain ⟨own, hown, rfl, rfl, rfl⟩ := heapsOf_alone hlane hheaps
      unfold heapsOf
      dsimp only [Options.padded]
      rw [hlane]
      refine (if_neg ?_).trans ?_
      · rw [Array.isEmpty_iff_size_eq_zero, Array.size_append]
        change ¬own.size + _ = 0
        omega
      · rfl
  exact create_eq_ok_iff.2 ⟨hentry, stack, engine, lane, _, hstack, hpadded, rfl⟩

/-- More memory never changes a run that did not need it. A machine with at least as much storage
for its stack, whatever it holds, runs in the same way as long as the machine itself does not
overflow its stack: it ends in the same way and in the same state, up to cells that are not live. A
machine with more cells behind those of each heap runs in the same way as long as the machine itself
makes no access outside, and leaves these cells alone. -/
theorem Prepared.run_with_room (h : Prepared m) (n : Nat) :
    (∀ cells : Array Word, m.stack.size ≤ cells.size →
      (∀ code entry o, Machine.create code entry o = .ok m →
        Machine.create code entry { o with stack := some cells } = .ok { m with stack := cells }) ∧
      ((∀ f, (m.run n).2 = .faulted f → f.reason ≠ .kind .stackOverflow) →
        ∃ s : Array Word, s.size = cells.size ∧
          live { m.after n with stack := s } = (m.after n).live ∧
          { m with stack := cells }.run n = ({ m.after n with stack := s }, (m.run n).2))) ∧
    ∀ extra : Nat → Heap,
      (∀ code entry o, Machine.create code entry o = .ok m →
        Machine.create code entry (o.padded extra (m.heaps.getD 0 #[])) =
          .ok { m with heaps := pad extra m.heaps }) ∧
      ((∀ f, (m.run n).2 = .faulted f → f.reason ≠ .kind .heapIndexOutOfRange) →
        (m.after n).heaps.map Array.size = m.heaps.map Array.size ∧
        { m with heaps := pad extra m.heaps }.run n =
          ({ m.after n with heaps := pad extra (m.after n).heaps }, (m.run n).2)) := by
  obtain ⟨hheight, -, hstack, -⟩ := h.start
  have hkeeps := run_keeps h.bounded n
  have hsize : (m.after n).stack.size = m.stack.size := hkeeps.stack_size
  refine ⟨fun cells hle => ⟨fun code entry o hm => create_stack hm (by omega), fun hend => ?_⟩,
    fun extra => ⟨fun code entry o hm => create_padded hm, fun hend => ⟨hkeeps.heap_sizes, ?_⟩⟩⟩
  · have hroom : Room (cells.size - m.stack.size) 0 m cells :=
      ⟨by omega, fun cell hcell => by omega⟩
    have hsuffices : (m.run n).2.Suffices (cells.size - m.stack.size) fun _ => #[] := by
      rintro f kind hf hkind (⟨rfl, -⟩ | ⟨-, j, hj⟩)
      · exact hend f hf hkind
      · exact hj rfl
    obtain ⟨s, hs, hrun⟩ := h.run_roomy hroom n hsuffices
    have hlive := hs.live_eq fun _ => #[]
    rw [roomy_stack] at hlive
    rw [roomy_stack, roomy_stack] at hrun
    exact ⟨s, by rw [hs.size_eq]; omega, hlive, hrun⟩
  · have hroom : Room 0 m.stack.size m m.stack := ⟨rfl, fun _ _ => rfl⟩
    have hsuffices : (m.run n).2.Suffices 0 extra := by
      rintro f kind hf hkind (⟨-, hslack⟩ | ⟨rfl, -⟩)
      · exact hslack rfl
      · exact hend f hf hkind
    obtain ⟨s, hs, hrun⟩ := h.run_roomy hroom n hsuffices
    obtain rfl := hs.eq_stack (Nat.le_of_eq hsize)
    exact hrun

/-- A program that stores what a subroutine returns. -/
def storedDouble : Program :=
  ⟨#[9, 6, 17, 8, 1, 13, 0, 16, 10, -3, 21, 18]⟩

/-- A stack of five cells and a heap of one suffice, so seven cells that are not clear make no
difference, and neither do two more cells of the heap. -/
theorem storedDouble_with_room :
    ∃ m, Machine.create storedDouble 0 { stackSize := 5, heapSize := 1 } = .ok m ∧
      (m.run 7).2 = .halted ⟨#[], 7⟩ ∧
      Machine.create storedDouble 0
          { stackSize := 5, heapSize := 1, stack := some (Array.replicate 7 9) } =
        .ok { m with stack := Array.replicate 7 9 } ∧
      (∃ s : Array Word, s.size = 7 ∧ live { m.after 7 with stack := s } = (m.after 7).live ∧
        { m with stack := Array.replicate 7 9 }.run 7 =
          ({ m.after 7 with stack := s }, .halted ⟨#[], 7⟩)) ∧
      { m with heaps := pad (fun _ => #[8, 8]) m.heaps }.run 7 =
        ({ m.after 7 with heaps := pad (fun _ => #[8, 8]) (m.after 7).heaps }, .halted ⟨#[], 7⟩) ∧
      pad (fun _ => #[8, 8]) (m.after 7).heaps = #[#[12, 8, 8]] := by
  let m : Machine := initial storedDouble 0 { stackSize := 5, heapSize := 1 } (Array.replicate 5 0)
    .sequential Fault.noLane #[Heap.zeros 1]
  have hm : Machine.create storedDouble 0 { stackSize := 5, heapSize := 1 } = .ok m := rfl
  obtain ⟨hstack, hheaps⟩ := (Prepared.create hm).run_with_room 7
  obtain ⟨hmade, hroomy⟩ := hstack (Array.replicate 7 9) (by decide)
  obtain ⟨-, hpadded⟩ := hheaps fun _ => #[8, 8]
  have hend : (m.run 7).2 = .halted ⟨#[], 7⟩ := by decide +kernel
  rw [hend] at hroomy hpadded
  refine ⟨m, hm, hend, hmade _ _ _ hm, hroomy fun f hf => ?_,
    (hpadded fun f hf => ?_).2, by decide +kernel⟩
  · cases hf
  · cases hf

end Lanewise.Machine
