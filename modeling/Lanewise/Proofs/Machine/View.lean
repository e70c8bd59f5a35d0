import Lanewise.Proofs.Machine.Budget
import Lanewise.Proofs.Machine.Failure
import Lanewise.Proofs.Machine.Lockstep

/-!
# Machines outside of subroutines

Outside of subroutines a program needs to know little of its machine: the position, the live cells
of the stack, the heaps, and what has been printed. The storage of the stack behind the live cells
does not matter, and neither does the frame, which is the bottom of the stack. This is a *view* of
the machine, in which the live cells are a list, top first, so that an instruction takes its
operands off the front of the list and puts its result there.

Instructions other than `CALL` and `RET` can be executed on the view alone, given the number of the
lane and the capacity of the stack.

## Main definitions

* `View`, `Machine.view`: what a machine shows outside of subroutines.
* `View.exec`: instructions on views.
* `Machine.Flat`: machines whose frame is the bottom of the stack.

## Main results

* `Machine.exec_view`: the view of what an instruction leaves is what it leaves of the view.
-/

namespace Lanewise

/-- What a machine shows outside of subroutines. -/
structure View where
  ip : Int
  /-- The live cells of the stack, top first. -/
  cells : List Word
  heaps : Array Heap
  printed : Array Word

namespace View

/-- What executing an instruction on a view leads to. -/
inductive Effect
  | next (v : View)
  | halt (v : View)
  | fail (kind : Fault.Kind)
  /-- The view does not show enough to tell. -/
  | unseen

/-! ### Instructions on views -/

/-- Pushes a value onto a stack of the given capacity. -/
def push (v : View) (room : Nat) (w : Word) : Effect :=
  if v.cells.length < room then .next { v with cells := w :: v.cells } else .fail .stackOverflow

/-- Takes the top off and goes on with it. -/
def popThen (v : View) (k : View → Word → Effect) : Effect :=
  match v.cells with
  | [] => .fail .stackUnderflow
  | a :: cells => k { v with cells } a

/-- Takes the two topmost values off, top first, and goes on with them. -/
def pop2Then (v : View) (k : View → Word → Word → Effect) : Effect :=
  match v.cells with
  | a :: b :: cells => k { v with cells } a b
  | _ => .fail .stackUnderflow

/-- Replaces the top by a function of it. -/
def mapTop (v : View) (f : Word → Word) : Effect :=
  match v.cells with
  | [] => .fail .stackUnderflow
  | a :: cells => .next { v with cells := f a :: cells }

/-- Where the cell at an offset from the bottom stands in the list. -/
def localIndex? (v : View) (offset : Word) : Option Nat :=
  if 0 ≤ offset.toInt ∧ offset.toInt < v.cells.length then
    some (v.cells.length - 1 - offset.toInt.toNat)
  else none

/-- Pushes a cell of a heap. -/
def loadCell (v : View) (room heap : Nat) (i : Int) : Effect :=
  match (v.heaps.getD heap #[]).load? i with
  | some w => v.push room w
  | none => .fail .heapIndexOutOfRange

/-- Replaces a cell of a heap. -/
def storeCell (v : View) (heap : Nat) (i : Int) (w : Word) : Effect :=
  if (v.heaps.getD heap #[]).holds i then
    .next { v with heaps := v.heaps.modify heap fun h => h.setIfInBounds i.toNat w }
  else .fail .heapIndexOutOfRange

/-- Goes on with the heap that an operand selects. -/
def selectThen (v : View) (selector : Word) (k : Nat → Effect) : Effect :=
  if 0 ≤ selector.toInt ∧ selector.toInt < v.heaps.size then k selector.toInt.toNat
  else .fail .heapSelectorOutOfRange

/-- A binary operation on the two topmost values. -/
def binary (v : View) (room : Nat) (f : Word → Word → Word) : Effect :=
  v.pop2Then fun v a b => v.push room (f a b)

/-- The effect of an instruction with its first operand, on a lane and with a stack of the given
capacity. -/
def exec (v : View) (lane : Word) (room : Nat) (op : Opcode) (arg : Word) : Effect :=
  match op with
  | .iadd => v.binary room (· + ·)
  | .isub => v.binary room (· - ·)
  | .imul => v.binary room (· * ·)
  | .ilt => v.binary room fun a b => Machine.truth (a < b)
  | .ieq => v.binary room fun a b => Machine.truth (a == b)
  | .idiv => v.pop2Then fun v a b => if b = 0 then .fail .divisionByZero else v.push room (a / b)
  | .br => .next { v with ip := arg.toInt }
  | .brt => v.popThen fun v a => .next (if a = 1 then { v with ip := arg.toInt } else v)
  | .brf => v.popThen fun v a => .next (if a = 0 then { v with ip := arg.toInt } else v)
  | .iconst => v.push room arg
  | .iconst1 => v.push room 1
  | .dup =>
    match v.cells with
    | [] => .fail .stackUnderflow
    | a :: _ => v.push room a
  | .pop => v.popThen fun v _ => .next v
  | .lshift => v.mapTop (· <<< 1)
  | .rshift => v.mapTop (· >>> 1)
  | .load =>
    match v.localIndex? arg with
    | some i => v.push room (v.cells.getD i 0)
    | none => .fail .stackIndexOutOfRange
  | .store => v.popThen fun v a =>
    match v.localIndex? arg with
    | some i => .next { v with cells := v.cells.set i a }
    | none => .fail .stackIndexOutOfRange
  | .gload => v.loadCell room 0 arg.toInt
  | .gstore => v.popThen fun v a => v.storeCell 0 arg.toInt a
  | .gloadIndexed => v.popThen fun v offset => v.loadCell room 0 (arg.toInt + offset.toInt)
  | .gstoreIndexed => v.pop2Then fun v a offset => v.storeCell 0 (arg.toInt + offset.toInt) a
  | .threadId => v.push room lane
  | .parallelGloadIndexed => v.selectThen arg fun heap =>
    v.popThen fun v i => v.loadCell room heap i.toInt
  | .parallelGstoreIndexed => v.selectThen arg fun heap =>
    v.pop2Then fun v a i => v.storeCell heap i.toInt a
  | .print => v.popThen fun v a => .next { v with printed := v.printed.push a }
  | .halt => .halt v
  | .call => .unseen
  | .ret => .unseen

end View

namespace Machine

/-! ### The view of a machine -/

/-- The live cells of the stack, top first. -/
def cells (m : Machine) : List Word :=
  (m.stack.toList.take m.height).reverse

/-- What a machine shows outside of subroutines. -/
def view (m : Machine) : View :=
  ⟨m.ip, m.cells, m.heaps, m.printed⟩

/-- The view of what executing an instruction leads to. -/
def Effect.view : Effect → View.Effect
  | next m => .next m.view
  | halt m => .halt m.view
  | fail _ kind _ => .fail kind

/-- A machine whose frame is the bottom of the stack, on a lane and with a stack of the given
capacity. -/
structure Flat (lane : Word) (room : Nat) (m : Machine) : Prop where
  lane_eq : m.lane = lane
  room_eq : m.stack.size = room
  height_le : m.height ≤ m.stack.size
  fp_eq : m.fp = 0

section Effects

variable {m : Machine} {lane : Word} {room : Nat}

theorem Flat.length_cells (h : m.Flat lane room) : m.cells.length = m.height := by
  rw [cells, List.length_reverse, List.length_take, Array.length_toList]
  exact Nat.min_eq_left h.height_le

theorem Flat.lower (h : m.Flat lane room) {height : Nat} (hle : height ≤ m.height) :
    Flat lane room { m with height } :=
  { h with height_le := Nat.le_trans hle h.height_le }

/-- The cells of a stack that is not empty. -/
theorem Flat.cells_eq_cons (h : m.Flat lane room) (hne : m.height ≠ 0) :
    m.cells = m.stack.getD (m.height - 1) 0 :: cells { m with height := m.height - 1 } := by
  have hle := h.height_le
  obtain ⟨n, hn⟩ := Nat.exists_eq_succ_of_ne_zero hne
  have hlt : n < m.stack.toList.length := by
    rw [Array.length_toList]
    omega
  rw [cells, cells, hn, Nat.succ_sub_one, List.take_succ_eq_append_getElem hlt, List.reverse_append,
    List.reverse_singleton, List.singleton_append, Array.getD_eq_getD_getElem?,
    Array.getElem?_eq_getElem (by omega), Array.getElem_toList]
  rfl

theorem cells_eq_nil (hzero : m.height = 0) : m.cells = [] := by
  rw [cells, hzero]
  rfl

/-- Only the live cells show. -/
theorem cells_congr {stack : Array Word} (h : ∀ i < m.height, stack[i]? = m.stack[i]?) :
    cells { m with stack } = m.cells := by
  refine congrArg List.reverse (List.ext_getElem? fun i => ?_)
  rw [List.getElem?_take, List.getElem?_take, Array.getElem?_toList, Array.getElem?_toList]
  split
  · next hi => exact h i hi
  · rfl

/-- A live cell, counted from the top. -/
theorem Flat.getElem?_cells (h : m.Flat lane room) {i : Nat} (hi : i < m.height) :
    m.cells[i]? = m.stack[m.height - 1 - i]? := by
  have hlength : (m.stack.toList.take m.height).length = m.height := by
    rw [List.length_take, Array.length_toList]
    exact Nat.min_eq_left h.height_le
  rw [cells, List.getElem?_reverse (by omega), hlength, List.getElem?_take_of_lt (by omega),
    Array.getElem?_toList]

/-- Another live cell, at an index of the storage. -/
theorem Flat.cells_set (h : m.Flat lane room) {i : Nat} (hi : i < m.height) (w : Word) :
    cells { m with stack := m.stack.setIfInBounds i w } = m.cells.set (m.height - 1 - i) w := by
  have hset : Flat lane room { m with stack := m.stack.setIfInBounds i w } :=
    { h with
      room_eq := Array.size_setIfInBounds.trans h.room_eq
      height_le := by rw [Array.size_setIfInBounds]; exact h.height_le }
  refine List.ext_getElem? fun j => ?_
  by_cases hj : j < m.height
  · have hle := h.height_le
    rw [hset.getElem?_cells hj, List.getElem?_set, h.getElem?_cells hj, h.length_cells,
      Array.getElem?_setIfInBounds]
    dsimp only
    by_cases hij : i = m.height - 1 - j
    · rw [if_pos hij, if_pos (by omega), if_pos (by omega), if_pos (by omega)]
    · rw [if_neg hij, if_neg (by omega)]
  · rw [List.getElem?_eq_none, List.getElem?_eq_none]
    · rw [List.length_set, h.length_cells]
      exact Nat.not_lt.1 hj
    · rw [hset.length_cells]
      exact Nat.not_lt.1 hj

/-! ### Instructions -/

theorem push_view (h : m.Flat lane room) (w : Word) : (m.push w).view = m.view.push room w := by
  have hlength : m.view.cells.length = m.height := h.length_cells
  unfold push View.push
  rw [hlength, h.room_eq]
  split
  · next hlt =>
    have hflat : Flat lane room
        { m with stack := m.stack.setIfInBounds m.height w, height := m.height + 1 } :=
      { h with
        room_eq := Array.size_setIfInBounds.trans h.room_eq
        height_le := by rw [Array.size_setIfInBounds, h.room_eq]; exact hlt }
    have htop : (m.stack.setIfInBounds m.height w).getD m.height 0 = w := by
      rw [Array.getD_eq_getD_getElem?, Array.getElem?_setIfInBounds_self_of_lt
        (h.room_eq.symm ▸ hlt)]
      rfl
    have hrest : cells { m with stack := m.stack.setIfInBounds m.height w } = m.cells :=
      cells_congr fun i hi => Array.getElem?_setIfInBounds_ne (Nat.ne_of_gt hi)
    have hcells :
        cells { m with stack := m.stack.setIfInBounds m.height w, height := m.height + 1 } =
        w :: m.cells := by
      rw [hflat.cells_eq_cons (Nat.succ_ne_zero m.height)]
      exact congr (congrArg List.cons htop) hrest
    exact congrArg (fun cells => View.Effect.next ⟨m.ip, cells, m.heaps, m.printed⟩) hcells
  · rfl

theorem popThen_view (h : m.Flat lane room) {k : Machine → Word → Effect}
    {k' : View → Word → View.Effect}
    (hk : ∀ m a, Flat lane room m → (k m a).view = k' m.view a) :
    (m.popThen k).view = m.view.popThen k' := by
  unfold popThen
  split
  · next hzero =>
    rw [View.popThen, show m.view.cells = [] from cells_eq_nil hzero]
    rfl
  · next hpos =>
    rw [View.popThen, show m.view.cells = _ from h.cells_eq_cons hpos]
    exact hk _ _ (h.lower (Nat.sub_le ..))

theorem pop2Then_view (h : m.Flat lane room) {k : Machine → Word → Word → Effect}
    {k' : View → Word → Word → View.Effect}
    (hk : ∀ m a b, Flat lane room m → (k m a b).view = k' m.view a b) :
    (m.pop2Then k).view = m.view.pop2Then k' := by
  unfold pop2Then
  split
  · next hlt =>
    have hlength : m.view.cells.length < 2 := by
      rw [show m.view.cells = m.cells from rfl, h.length_cells]
      exact hlt
    unfold View.pop2Then
    split
    · next a b cells hcells =>
      rw [hcells] at hlength
      exact absurd hlength (by simp)
    · rfl
  · next hge =>
    have hfirst := h.cells_eq_cons (by omega : m.height ≠ 0)
    have hsecond := (h.lower (Nat.sub_le m.height 1)).cells_eq_cons (by dsimp only; omega)
    dsimp only at hsecond
    rw [Nat.sub_sub] at hsecond
    rw [View.pop2Then, show m.view.cells = _ from hfirst, hsecond]
    exact hk _ _ _ (h.lower (Nat.sub_le ..))

theorem binary_view (h : m.Flat lane room) (f : Word → Word → Word) :
    (m.binary f).view = m.view.binary room f :=
  pop2Then_view h fun _ _ _ h' => push_view h' _

theorem mapTop_view (h : m.Flat lane room) (f : Word → Word) :
    (m.mapTop f).view = m.view.mapTop f := by
  unfold mapTop
  split
  · next hzero =>
    rw [View.mapTop, show m.view.cells = [] from cells_eq_nil hzero]
    rfl
  · next hpos =>
    have hle := h.height_le
    have hflat : Flat lane room { m with stack := m.stack.modify (m.height - 1) f } :=
      { h with
        room_eq := Array.size_modify.trans h.room_eq
        height_le := by rw [Array.size_modify]; exact hle }
    have htop : (m.stack.modify (m.height - 1) f).getD (m.height - 1) 0 =
        f (m.stack.getD (m.height - 1) 0) := by
      have hlt : m.height - 1 < m.stack.size := by omega
      rw [Array.getD_eq_getD_getElem?, Array.getD_eq_getD_getElem?, Array.getElem?_modify,
        if_pos rfl, Array.getElem?_eq_getElem hlt]
      rfl
    have hrest : cells { m with stack := m.stack.modify (m.height - 1) f, height := m.height - 1 } =
        cells { m with height := m.height - 1 } :=
      cells_congr (m := { m with height := m.height - 1 }) fun i hi => by
        rw [Array.getElem?_modify, if_neg (Nat.ne_of_gt hi)]
    rw [View.mapTop, show m.view.cells = _ from h.cells_eq_cons hpos]
    have hcells : cells { m with stack := m.stack.modify (m.height - 1) f } =
        f (m.stack.getD (m.height - 1) 0) :: cells { m with height := m.height - 1 } := by
      rw [hflat.cells_eq_cons hpos]
      exact congr (congrArg List.cons htop) hrest
    exact congrArg (fun cells => View.Effect.next ⟨m.ip, cells, m.heaps, m.printed⟩) hcells

theorem localIndex?_view (h : m.Flat lane room) (offset : Word) :
    m.view.localIndex? offset = (m.localIndex? offset).map (m.height - 1 - ·) := by
  have hlength : m.view.cells.length = m.height := h.length_cells
  have hoffset : (m.fp : Int) + offset.toInt = offset.toInt := by
    rw [h.fp_eq]
    exact Int.zero_add _
  unfold View.localIndex? localIndex?
  rw [hlength]
  dsimp only
  rw [hoffset]
  split <;> rfl

theorem loadCell_view (h : m.Flat lane room) (heap : Nat) (i : Int) :
    (m.loadCell heap i).view = m.view.loadCell room heap i := by
  unfold loadCell View.loadCell
  dsimp only
  rw [show m.view.heaps = m.heaps from rfl]
  cases (m.heaps.getD heap #[]).load? i with
  | none => rfl
  | some w => exact push_view h w

theorem storeCell_view (heap : Nat) (i : Int) (w : Word) :
    (m.storeCell heap i w).view = m.view.storeCell heap i w := by
  unfold storeCell View.storeCell
  rw [show m.view.heaps = m.heaps from rfl]
  split <;> rfl

theorem selectThen_view (selector : Word) {k : Nat → Effect} {k' : Nat → View.Effect}
    (hk : ∀ heap, (k heap).view = k' heap) :
    (m.selectThen selector k).view = m.view.selectThen selector k' := by
  unfold selectThen View.selectThen
  rw [show m.view.heaps = m.heaps from rfl]
  split
  · exact hk _
  · rfl

/-- The view of what an instruction leaves is what it leaves of the view. -/
theorem exec_view (h : m.Flat lane room) {op : Opcode} (hcall : op ≠ .call) (hret : op ≠ .ret)
    (arg arg₂ : Word) : (m.exec op arg arg₂).view = m.view.exec lane room op arg := by
  unfold exec View.exec
  cases op with
  | iadd | isub | imul | ilt | ieq => exact binary_view h _
  | idiv =>
    refine pop2Then_view h fun m a b h => ?_
    split
    · rfl
    · exact push_view h _
  | br | halt => rfl
  | brt | brf =>
    refine popThen_view h fun m a h => ?_
    split <;> rfl
  | iconst | iconst1 => exact push_view h _
  | threadId =>
    rw [← h.lane_eq]
    exact push_view h _
  | dup =>
    dsimp only
    split
    · next hzero =>
      rw [show m.view.cells = [] from cells_eq_nil hzero]
      rfl
    · next hpos =>
      rw [show m.view.cells = _ from h.cells_eq_cons hpos]
      exact push_view h _
  | pop | print => exact popThen_view h fun _ _ _ => rfl
  | lshift | rshift => exact mapTop_view h _
  | load =>
    dsimp only
    rw [localIndex?_view h]
    cases hi : m.localIndex? arg with
    | none => rfl
    | some i =>
      have hlt := localIndex?_lt hi
      have hcell : m.view.cells.getD (m.height - 1 - i) 0 = m.stack.getD i 0 := by
        rw [List.getD_eq_getElem?_getD, Array.getD_eq_getD_getElem?,
          show m.view.cells[m.height - 1 - i]? = _ from h.getElem?_cells (by omega)]
        congr 2
        omega
      rw [Option.map_some]
      dsimp only
      rw [hcell]
      exact push_view h _
  | store =>
    refine popThen_view h fun m a h => ?_
    rw [localIndex?_view h]
    cases hi : m.localIndex? arg with
    | none => rfl
    | some i =>
      exact congrArg (fun cells => View.Effect.next ⟨m.ip, cells, m.heaps, m.printed⟩)
        (h.cells_set (localIndex?_lt hi) a)
  | gload => exact loadCell_view h 0 _
  | gstore => exact popThen_view h fun _ _ _ => storeCell_view 0 _ _
  | gloadIndexed => exact popThen_view h fun _ _ h => loadCell_view h 0 _
  | gstoreIndexed => exact pop2Then_view h fun _ _ _ _ => storeCell_view 0 _ _
  | parallelGloadIndexed =>
    exact selectThen_view arg fun heap => popThen_view h fun _ _ h => loadCell_view h heap _
  | parallelGstoreIndexed =>
    exact selectThen_view arg fun heap => pop2Then_view h fun _ _ _ _ => storeCell_view heap _ _
  | call => exact absurd rfl hcall
  | ret => exact absurd rfl hret

end Effects

end Machine

end Lanewise
