import Lanewise.Proofs.Machine.Calls
import Lanewise.Proofs.Machine.Footprint
import Lanewise.Proofs.Machine.MemorySafety
import Lanewise.Proofs.Machine.Runs

/-!
# Machines in lockstep

Most opcodes belong to both engines, and these mean the same in both. They read the live cells of
the stack, the registers and their operands, and neither the heaps nor the number of the lane. Two
machines that agree on what is read therefore stay in agreement as long as they meet no opcode of
one engine alone, whatever else they differ in: the engine, the lane, the heaps, the cells of the
stack that are not live, and whether they keep a trace.

## Main definitions

* `Machine.Alike`: machines that agree on what the opcodes of both engines read.
* `Machine.AtOwn`, `Machine.ReadsOwn`: a machine reads an opcode of one engine alone.

## Main results

* `Machine.exec_alike`, `Machine.step_alike`: alike machines make the same step.
* `Machine.Prepared.runs_in_lockstep`: they run in the same way and end in the same way.
-/

namespace Lanewise

/-- The fault with another lane. -/
def Fault.onLane (f : Fault) (lane : Word) : Fault :=
  { f with lane }

namespace Machine

/-- Machines that agree on what the opcodes of both engines read. -/
structure Alike (m l : Machine) : Prop where
  code_eq : l.code = m.code
  ip_eq : l.ip = m.ip
  height_eq : l.height = m.height
  fp_eq : l.fp = m.fp
  depth_eq : l.depth = m.depth
  stack_size : l.stack.size = m.stack.size
  /-- The live cells are the same; the others need not be. -/
  cell_eq : ∀ cell < m.height, l.stack[cell]? = m.stack[cell]?
  meter_eq : l.meter = m.meter
  phase_eq : l.phase = m.phase
  printed_eq : l.printed = m.printed

/-- The outcome with another lane in its fault. -/
def Outcome.onLane : Outcome → Word → Outcome
  | faulted f, lane => faulted (f.onLane lane)
  | o, _ => o

theorem Outcome.onLane_onLane (o : Outcome) (lane lane' : Word) :
    (o.onLane lane).onLane lane' = o.onLane lane' := by
  cases o <;> rfl

theorem Outcome.onLane_self {o : Outcome} {lane : Word} (h : ∀ f, o = .faulted f → f.lane = lane) :
    o.onLane lane = o := by
  cases o with
  | faulted f =>
    obtain rfl := h f rfl
    rfl
  | halted | notRunnable | unfinished => rfl

/-- The opcode that stands at the position of a machine, if there is one. -/
def opcode? (m : Machine) : Option Opcode :=
  (m.code.at? m.ip).bind Opcode.ofWord?

/-- An opcode that belongs to one engine alone stands at the position of a machine. -/
def AtOwn (m : Machine) : Prop :=
  ∃ op ∈ m.opcode?, op.modes ≠ .any

instance (m : Machine) : Decidable m.AtOwn :=
  inferInstanceAs (Decidable (∃ op ∈ m.opcode?, op.modes ≠ .any))

/-- The step that a run makes after `n` others reads an opcode of one engine alone. -/
def ReadsOwn (m : Machine) (n : Nat) : Prop :=
  (m.run n).2 = .unfinished ∧ (m.run n).1.AtOwn

instance (m : Machine) (n : Nat) : Decidable (m.ReadsOwn n) :=
  inferInstanceAs (Decidable (_ ∧ _))

/-! ### Alike machines -/

variable {m l : Machine}

theorem Alike.symm (h : m.Alike l) : l.Alike m where
  code_eq := h.code_eq.symm
  ip_eq := h.ip_eq.symm
  height_eq := h.height_eq.symm
  fp_eq := h.fp_eq.symm
  depth_eq := h.depth_eq.symm
  stack_size := h.stack_size.symm
  cell_eq cell hcell := (h.cell_eq cell (h.height_eq ▸ hcell)).symm
  meter_eq := h.meter_eq.symm
  phase_eq := h.phase_eq.symm
  printed_eq := h.printed_eq.symm

theorem Alike.atOwn_iff (h : m.Alike l) : l.AtOwn ↔ m.AtOwn := by
  rw [AtOwn, AtOwn, opcode?, opcode?, h.code_eq, h.ip_eq]

theorem Alike.sp_eq (h : m.Alike l) : l.sp = m.sp := by
  rw [sp, sp, h.height_eq]

/-- Alike machines show the same stack. -/
theorem Alike.live_eq (h : m.Alike l) : l.live = m.live := by
  apply Array.ext_getElem?
  intro cell
  rw [live, live, Array.getElem?_extract, Array.getElem?_extract, h.stack_size, h.height_eq]
  split
  · next hcell => exact h.cell_eq _ (by omega)
  · rfl

theorem Alike.getD_eq (h : m.Alike l) {cell : Nat} (hcell : cell < m.height) :
    l.stack.getD cell 0 = m.stack.getD cell 0 := by
  rw [Array.getD_eq_getD_getElem?, Array.getD_eq_getD_getElem?, h.cell_eq cell hcell]

/-- Fewer live cells. -/
theorem Alike.shrink (h : m.Alike l) {a b : Nat} (hab : b = a) (hle : a ≤ m.height) :
    Alike { m with height := a } { l with height := b } :=
  { h with
    height_eq := hab
    cell_eq := fun cell hcell => h.cell_eq cell (Nat.lt_of_lt_of_le hcell hle) }

/-- Other cells and another height, so that the cells that are live then are the same. -/
theorem Alike.withStack (h : m.Alike l) {s t : Array Word} {a b : Nat} (hs : s.size = m.stack.size)
    (ht : t.size = l.stack.size) (hab : b = a) (hcell : ∀ cell < a, t[cell]? = s[cell]?) :
    Alike { m with stack := s, height := a } { l with stack := t, height := b } :=
  { h with
    height_eq := hab
    stack_size := by rw [hs, ht, h.stack_size]
    cell_eq := hcell }

/-- Replacing a cell that lies in both stacks or in neither leaves them the same where they are. -/
theorem set_cell_eq_of_iff {s t : Array Word} {i cell : Nat} (hin : i < t.size ↔ i < s.size)
    (v : Word) (h : i ≠ cell → t[cell]? = s[cell]?) :
    (t.setIfInBounds i v)[cell]? = (s.setIfInBounds i v)[cell]? := by
  rw [Array.getElem?_setIfInBounds, Array.getElem?_setIfInBounds]
  by_cases hi : i = cell
  · subst hi
    rw [if_pos rfl, if_pos rfl]
    by_cases hlt : i < s.size
    · rw [if_pos hlt, if_pos (hin.2 hlt)]
    · rw [if_neg hlt, if_neg fun ht => hlt (hin.1 ht)]
  · rw [if_neg hi, if_neg hi, h hi]

/-- Replacing the same cell in two stacks of the same size. -/
theorem set_cell_eq {s t : Array Word} (hsize : t.size = s.size) {i j cell : Nat} (hij : j = i)
    {v w : Word} (hvw : w = v) (h : i ≠ cell → t[cell]? = s[cell]?) :
    (t.setIfInBounds j w)[cell]? = (s.setIfInBounds i v)[cell]? := by
  subst hij hvw
  exact set_cell_eq_of_iff (by rw [hsize]) _ h

/-! ### Instructions -/

/-- The same effect on alike machines. -/
inductive Effect.Alike : Effect → Effect → Prop
  | next {m l : Machine} (h : m.Alike l) : Alike (.next m) (.next l)
  | halt {m l : Machine} (h : m.Alike l) : Alike (.halt m) (.halt l)
  | fail {m l : Machine} (h : m.Alike l) (kind : Fault.Kind) {note note' : String}
      (hnote : note' = note) : Alike (.fail m kind note) (.fail l kind note')

/-- Effects are related if both are those of one branch. -/
theorem Effect.ite_rel {R : Effect → Effect → Prop} {p q : Prop} [Decidable p] [Decidable q]
    {e₁ e₂ e₁' e₂' : Effect} (hpq : q ↔ p) (h₁ : p → R e₁ e₁') (h₂ : ¬p → R e₂ e₂') :
    R (if p then e₁ else e₂) (if q then e₁' else e₂') := by
  by_cases hp : p
  · rw [if_pos hp, if_pos (hpq.2 hp)]
    exact h₁ hp
  · rw [if_neg hp, if_neg fun hq => hp (hpq.1 hq)]
    exact h₂ hp

theorem push_alike (h : m.Alike l) (v : Word) : (m.push v).Alike (l.push v) := by
  refine Effect.ite_rel (by rw [h.height_eq, h.stack_size]) (fun _ => .next ?_)
    fun _ => .fail h _ rfl
  refine h.withStack Array.size_setIfInBounds Array.size_setIfInBounds (by rw [h.height_eq]) ?_
  intro cell hcell
  exact set_cell_eq h.stack_size h.height_eq rfl fun hne => h.cell_eq cell (by omega)

theorem popThen_alike (h : m.Alike l) {k k' : Machine → Word → Effect}
    (hk : ∀ m' l' v, Machine.Alike m' l' → (k m' v).Alike (k' l' v)) :
    (m.popThen k).Alike (l.popThen k') := by
  refine Effect.ite_rel (by rw [h.height_eq]) (fun _ => .fail h _ rfl) fun hne => ?_
  have htop : l.stack.getD (l.height - 1) 0 = m.stack.getD (m.height - 1) 0 := by
    rw [h.height_eq, h.getD_eq (by omega)]
  dsimp only
  rw [htop]
  exact hk _ _ _ (h.shrink (by rw [h.height_eq]) (Nat.sub_le ..))

theorem pop2Then_alike (h : m.Alike l) {k k' : Machine → Word → Word → Effect}
    (hk : ∀ m' l' a b, Machine.Alike m' l' → (k m' a b).Alike (k' l' a b)) :
    (m.pop2Then k).Alike (l.pop2Then k') := by
  refine Effect.ite_rel (by rw [h.height_eq]) (fun _ => .fail h _ rfl) fun hlow => ?_
  have htop : l.stack.getD (l.height - 1) 0 = m.stack.getD (m.height - 1) 0 := by
    rw [h.height_eq, h.getD_eq (by omega)]
  have hbelow : l.stack.getD (l.height - 2) 0 = m.stack.getD (m.height - 2) 0 := by
    rw [h.height_eq, h.getD_eq (by omega)]
  dsimp only
  rw [htop, hbelow]
  exact hk _ _ _ _ (h.shrink (by rw [h.height_eq]) (Nat.sub_le ..))

theorem binary_alike (h : m.Alike l) (f : Word → Word → Word) :
    (m.binary f).Alike (l.binary f) :=
  pop2Then_alike h fun _ _ _ _ h' => push_alike h' _

theorem mapTop_alike (h : m.Alike l) (f : Word → Word) : (m.mapTop f).Alike (l.mapTop f) := by
  refine Effect.ite_rel (by rw [h.height_eq]) (fun _ => .fail h _ rfl) fun _ => .next ?_
  refine h.withStack Array.size_modify Array.size_modify h.height_eq fun cell hcell => ?_
  rw [Array.getElem?_modify, Array.getElem?_modify, h.height_eq, h.cell_eq cell hcell]

/-- Locals are live cells. -/
theorem localIndex?_lt {offset : Word} {i : Nat} (h : m.localIndex? offset = some i) :
    i < m.height := by
  unfold localIndex? at h
  dsimp only at h
  split at h
  · next hrange =>
    obtain rfl := Option.some.inj h
    omega
  · cases h

/-- Alike machines find the same locals. -/
theorem localThen_alike (h : m.Alike l) (offset : Word) {k k' : Nat → Effect}
    (hk : ∀ i < m.height, (k i).Alike (k' i)) :
    Effect.Alike
      (match m.localIndex? offset with
        | some i => k i
        | none => .fail m .stackIndexOutOfRange (m.localNote offset))
      (match l.localIndex? offset with
        | some i => k' i
        | none => .fail l .stackIndexOutOfRange (l.localNote offset)) := by
  have hindex : l.localIndex? offset = m.localIndex? offset := by
    rw [localIndex?, localIndex?, h.fp_eq, h.height_eq]
  have hnote : l.localNote offset = m.localNote offset := by
    rw [localNote, localNote, h.fp_eq, h.sp_eq]
  rw [hindex]
  cases hi : m.localIndex? offset with
  | none => exact .fail h _ hnote
  | some i => exact hk i (localIndex?_lt hi)

theorem call_alike (h : m.Alike l) (target numArgs : Word) :
    (m.call target numArgs).Alike (l.call target numArgs) := by
  refine Effect.ite_rel (by rw [h.height_eq]) (fun _ => .fail h _ (by rw [h.height_eq])) fun _ => ?_
  refine Effect.ite_rel (by rw [h.height_eq, h.stack_size]) (fun _ => .fail h _ rfl)
    fun _ => .next ?_
  have hcell : ∀ cell < m.height + 3,
      (((l.stack.setIfInBounds l.height numArgs).setIfInBounds (l.height + 1)
        (Int32.ofNat l.fp)).setIfInBounds (l.height + 2) (Int32.ofInt l.ip))[cell]? =
      (((m.stack.setIfInBounds m.height numArgs).setIfInBounds (m.height + 1)
        (Int32.ofNat m.fp)).setIfInBounds (m.height + 2) (Int32.ofInt m.ip))[cell]? := by
    intro cell hcell
    refine set_cell_eq (by simp only [Array.size_setIfInBounds, h.stack_size])
      (by rw [h.height_eq]) (by rw [h.ip_eq]) fun h₂ => ?_
    refine set_cell_eq (by simp only [Array.size_setIfInBounds, h.stack_size])
      (by rw [h.height_eq]) (by rw [h.fp_eq]) fun h₁ => ?_
    exact set_cell_eq h.stack_size h.height_eq rfl fun h₀ => h.cell_eq cell (by omega)
  have hnext := h.withStack (b := l.height + 3) (by simp only [Array.size_setIfInBounds])
    (by simp only [Array.size_setIfInBounds]) (by rw [h.height_eq]) hcell
  exact
    { hnext with
      ip_eq := rfl
      fp_eq := by simp only [h.height_eq]
      depth_eq := by simp only [h.depth_eq] }

/-- Leaving a subroutine reads its record, which lies in live cells if it is not refused. -/
theorem leave_alike (h : m.Alike l) (v : Word) : (m.leave v).Alike (l.leave v) := by
  refine Effect.ite_rel (by rw [h.height_eq, h.fp_eq])
    (fun _ => .fail h _ (by rw [h.fp_eq, h.sp_eq])) fun hframe => ?_
  have hless : Alike { m with height := m.fp - 2 } { l with height := l.fp - 2 } :=
    h.shrink (by rw [h.fp_eq]) (by omega)
  have hreturn : l.stack.getD l.fp 0 = m.stack.getD m.fp 0 := by
    rw [h.fp_eq, h.getD_eq (by omega)]
  have hcaller : l.stack.getD (l.fp - 1) 0 = m.stack.getD (m.fp - 1) 0 := by
    rw [h.fp_eq, h.getD_eq (by omega)]
  have hargs : l.stack.getD (l.fp - 2) 0 = m.stack.getD (m.fp - 2) 0 := by
    rw [h.fp_eq, h.getD_eq (by omega)]
  dsimp only
  rw [hreturn, hcaller, hargs]
  refine Effect.ite_rel (by rw [h.fp_eq]) (fun _ => .fail hless _ (by rw [hless.sp_eq])) fun _ => ?_
  refine Effect.ite_rel (by rw [h.fp_eq]) (fun _ => .fail hless _ rfl) fun _ => ?_
  refine Effect.ite_rel (by rw [h.code_eq]) (fun _ => .fail hless _ rfl) fun _ => .next ?_
  generalize (m.stack.getD (m.fp - 2) 0).toInt.toNat = n
  have hbase : l.fp - 2 - n = m.fp - 2 - n := by rw [h.fp_eq]
  have hcell : ∀ cell < m.fp - 2 - n + 1,
      (l.stack.setIfInBounds (l.fp - 2 - n) v)[cell]? =
        (m.stack.setIfInBounds (m.fp - 2 - n) v)[cell]? := fun cell hcell =>
    set_cell_eq h.stack_size hbase rfl fun hne => h.cell_eq cell (by omega)
  have hnext := h.withStack Array.size_setIfInBounds Array.size_setIfInBounds
    (congrArg (· + 1) hbase) hcell
  exact { hnext with ip_eq := rfl, fp_eq := rfl, depth_eq := by simp only [h.depth_eq] }

theorem ret_alike (h : m.Alike l) : m.ret.Alike l.ret :=
  Effect.ite_rel (by rw [h.depth_eq]) (fun _ => .fail h _ rfl) fun _ =>
    popThen_alike h fun _ _ v h' => leave_alike h' v

/-- An opcode of both engines has the same effect on alike machines. -/
theorem exec_alike (h : m.Alike l) {op : Opcode} (hop : op.modes = .any) (arg arg₂ : Word) :
    (m.exec op arg arg₂).Alike (l.exec op arg arg₂) := by
  unfold exec
  cases op with
  | iadd | isub | imul | ilt | ieq => exact binary_alike h _
  | idiv =>
    refine pop2Then_alike h fun m' l' a b h' => ?_
    exact Effect.ite_rel Iff.rfl (fun _ => .fail h' _ rfl) fun _ => push_alike h' _
  | br => exact .next { h with ip_eq := rfl }
  | brt | brf =>
    refine popThen_alike h fun m' l' v h' => .next ?_
    split
    · exact { h' with ip_eq := rfl }
    · exact h'
  | iconst | iconst1 => exact push_alike h _
  | dup =>
    refine Effect.ite_rel (by rw [h.height_eq]) (fun _ => .fail h _ rfl) fun _ => ?_
    rw [h.height_eq, h.getD_eq (by omega)]
    exact push_alike h _
  | pop => exact popThen_alike h fun _ _ _ h' => .next h'
  | lshift | rshift => exact mapTop_alike h _
  | load =>
    refine localThen_alike h arg fun i hi => ?_
    rw [h.getD_eq hi]
    exact push_alike h _
  | store =>
    refine popThen_alike h fun m' l' v h' => localThen_alike h' arg fun i hi => .next ?_
    exact h'.withStack Array.size_setIfInBounds Array.size_setIfInBounds h'.height_eq
      fun cell hcell => set_cell_eq h'.stack_size rfl rfl fun _ => h'.cell_eq cell hcell
  | print =>
    refine popThen_alike h fun m' l' v h' => .next { h' with printed_eq := ?_ }
    simp only [h'.printed_eq]
  | halt => exact .halt h
  | call => exact call_alike h _ _
  | ret => exact ret_alike h
  | gload | gstore | gloadIndexed | gstoreIndexed | threadId | parallelGloadIndexed
  | parallelGstoreIndexed => exact absurd hop (by decide)

/-! ### Steps -/

/-- The same step of alike machines; a fault may name another lane. -/
inductive Step.Alike : Step → Step → Prop
  | next {m l : Machine} (h : m.Alike l) : Alike (.next m) (.next l)
  | halt {m l : Machine} (h : m.Alike l) : Alike (.halt m) (.halt l)
  | fault {m l : Machine} (h : m.Alike l) {f g : Fault} (hfault : g = f.onLane g.lane) :
      Alike (.fault m f) (.fault l g)

theorem record_alike (h : m.Alike l) (mnemonic : String) (args : List Word) :
    (m.record mnemonic args).Alike (l.record mnemonic args) := by
  unfold record
  split <;> split <;> exact { h with }

/-- Alike machines read the same, unless it is for one engine alone. -/
theorem fetch_alike (h : m.Alike l) (hshared : ¬m.AtOwn) :
    (∃ i, m.fetch = .ready i ∧ l.fetch = .ready i ∧ i.op.modes = .any) ∨
      ∃ f g shown, m.fetch = .refused f shown ∧ l.fetch = .refused g shown ∧
        g = f.onLane g.lane := by
  unfold fetch
  rw [h.code_eq, h.ip_eq]
  cases hat : m.code.at? m.ip with
  | none => exact .inr ⟨_, _, _, rfl, rfl, by rfl⟩
  | some w =>
    dsimp only
    cases hop : Opcode.ofWord? w with
    | none => exact .inr ⟨_, _, _, rfl, rfl, by rfl⟩
    | some op =>
      have hmodes : op.modes = .any := by
        refine Decidable.by_contra fun hne => hshared ⟨op, ?_, hne⟩
        rw [opcode?, hat, Option.bind_some, hop, Option.mem_some_iff]
      have hmeets (e : Engine) : op.modes.meets e.modes = true := by
        rw [hmodes]
        cases e <;> rfl
      dsimp only
      rw [hmeets m.engine, hmeets l.engine]
      split
      · exact .inr ⟨_, _, _, rfl, rfl, by rfl⟩
      · exact .inl ⟨_, rfl, rfl, hmodes⟩

theorem perform_alike (h : m.Alike l) {i : Instruction} (hop : i.op.modes = .any) :
    (m.perform i).Alike (l.perform i) := by
  have hready : Alike { m.record i.op.mnemonic i.args with ip := i.next }
      { l.record i.op.mnemonic i.args with ip := i.next } :=
    { record_alike h i.op.mnemonic i.args with ip_eq := rfl }
  have hexec := exec_alike hready hop (i.args.getD 0 0) (i.args.getD 1 0)
  unfold perform
  dsimp only
  generalize exec { m.record i.op.mnemonic i.args with ip := i.next } i.op _ _ = e at hexec ⊢
  generalize exec { l.record i.op.mnemonic i.args with ip := i.next } i.op _ _ = e' at hexec ⊢
  cases hexec with
  | next h' => exact .next h'
  | halt h' => exact .halt h'
  | fail h' kind hnote =>
    subst hnote
    exact .fault h' (by rfl)

/-- Alike machines make the same step, unless it reads an opcode of one engine alone. -/
theorem step_alike (h : m.Alike l) (hshared : ¬m.AtOwn) : m.step.Alike l.step := by
  unfold step
  rcases fetch_alike h hshared with ⟨i, hm, hl, hop⟩ | ⟨f, g, shown, hm, hl, hfault⟩
  · rw [hm, hl, h.meter_eq]
    dsimp only
    generalize m.meter.consume 1 = charge
    obtain ⟨meter, paid⟩ := charge
    have hpaid : Alike { m with meter } { l with meter } := { h with meter_eq := rfl }
    cases paid with
    | true => exact perform_alike hpaid hop
    | false => exact .fault hpaid rfl
  · rw [hm, hl]
    cases shown with
    | none => exact .fault h hfault
    | some line => exact .fault (record_alike h line.1 line.2) hfault

/-- An opcode of both engines does not access the heaps. -/
theorem access_of_shared (hshared : ¬m.AtOwn) : m.access = .none := by
  have halike : m.Alike m :=
    ⟨rfl, rfl, rfl, rfl, rfl, rfl, fun _ _ => rfl, rfl, rfl, rfl⟩
  unfold access
  rcases fetch_alike halike hshared with ⟨i, hm, -, hop⟩ | ⟨f, -, shown, hm, -, -⟩
  · rw [hm]
    dsimp only
    split
    · unfold accessOf
      cases hi : i.op <;> rw [hi] at hop <;> first | rfl | exact absurd hop (by decide)
    · rfl
  · rw [hm]

theorem step_heaps_of_shared (hshared : ¬m.AtOwn) : m.step.machine.heaps = m.heaps := by
  rw [step_heaps, access_of_shared hshared]
  rfl

/-! ### Runs -/

/-- Alike machines make the same steps until they have read an opcode of one engine alone, and end
in the same way. -/
theorem advance_alike (fuel : Nat) (h : m.Alike l) (hl : l.Bounded)
    (hshared : ∀ k < fuel, (m.advance k).2 = .unfinished → ¬(m.advance k).1.AtOwn) :
    (m.advance fuel).1.Alike (l.advance fuel).1 ∧
      (l.advance fuel).2 = (m.advance fuel).2.onLane l.lane ∧
      (m.advance fuel).1.heaps = m.heaps ∧ (l.advance fuel).1.heaps = l.heaps := by
  induction fuel generalizing m l with
  | zero => exact ⟨h, rfl, rfl, rfl⟩
  | succ fuel ih =>
    have hnow : ¬m.AtOwn := hshared 0 (Nat.succ_pos _) rfl
    have hlnow : ¬l.AtOwn := fun hown => hnow (h.atOwn_iff.1 hown)
    have hmheaps := step_heaps_of_shared hnow
    have hlheaps := step_heaps_of_shared hlnow
    have hkeeps := step_keeps hl.keeps
    have hstep := step_alike h hnow
    unfold advance
    generalize hm : m.step = s at hmheaps hstep ⊢
    generalize ht : l.step = t at hlheaps hkeeps hstep ⊢
    cases hstep with
    | next h' =>
      have hrest := ih h' hkeeps.toBounded fun k hk hrun => by
        have hlater := hshared (k + 1) (Nat.succ_lt_succ hk)
        simp only [advance, hm] at hlater
        exact hlater hrun
      have hlane : (Step.next _).machine.lane = l.lane := hkeeps.lane_eq
      rw [Step.machine] at hlane hmheaps hlheaps
      rw [hlane, hmheaps, hlheaps] at hrest
      exact hrest
    | halt h' =>
      refine ⟨{ h' with phase_eq := rfl }, ?_, hmheaps, hlheaps⟩
      simp only [Outcome.onLane, steps, h'.printed_eq, h'.meter_eq]
    | fault h' hfault =>
      refine ⟨{ h' with phase_eq := rfl }, ?_, hmheaps, hlheaps⟩
      rw [step_fault_lane hl ht] at hfault
      exact congrArg Outcome.faulted hfault

/-- Machines that are about to run the same program from the same position, with stacks of the same
size and the same budget, are alike. -/
theorem Prepared.alike (hm : Prepared m) (hl : Prepared l) (hcode : l.code = m.code)
    (hentry : l.ip = m.ip) (hstack : l.stack.size = m.stack.size)
    (hlimit : l.meter.limit = m.meter.limit) : m.Alike l where
  code_eq := hcode
  ip_eq := hentry
  height_eq := by rw [hl.start.1, hm.start.1]
  fp_eq := by rw [hl.start.2.1, hm.start.2.1]
  depth_eq := by rw [hl.depth_eq, hm.depth_eq]
  stack_size := hstack
  cell_eq cell hcell := by
    rw [hm.start.1] at hcell
    exact absurd hcell (Nat.not_lt_zero _)
  meter_eq := by rw [hl.unrun.2.2.2, hm.unrun.2.2.2, hlimit]
  phase_eq := by rw [hl.unrun.1, hm.unrun.1]
  printed_eq := by rw [hl.unrun.2.1, hm.unrun.2.1]

/-- The run of one machine decides for both. -/
theorem Prepared.run_alike (hm : Prepared m) (hl : Prepared l) (h : m.Alike l) {n : Nat}
    (hshared : ∀ k < n, ¬m.ReadsOwn k) :
    (m.run n).1.Alike (l.run n).1 ∧ (l.run n).2 = (m.run n).2.onLane l.lane ∧
      (m.run n).1.heaps = m.heaps ∧ (l.run n).1.heaps = l.heaps := by
  have hrun : Alike { m with phase := .running } { l with phase := .running } :=
    { h with phase_eq := rfl }
  have hbounded : Bounded { l with phase := .running } := { hl.bounded with }
  unfold ReadsOwn at hshared
  simp only [run_of_ready hm.unrun.1] at hshared ⊢
  rw [run_of_ready hl.unrun.1]
  exact advance_alike n hrun hbounded fun k hk hunfinished hown => hshared k hk ⟨hunfinished, hown⟩

/-- The opcodes of both engines mean the same in both. Two machines with the same program, entry,
stack size and budget, one of each engine or not and with any lanes and heaps, stand in the same
place after every number of steps, as long as one of them has read no opcode of one engine alone.
They end in the same way, up to the lane that a fault names, and leave all heaps as they were. -/
theorem Prepared.runs_in_lockstep (hm : Prepared m) (hl : Prepared l) (hcode : l.code = m.code)
    (hentry : l.ip = m.ip) (hstack : l.stack.size = m.stack.size)
    (hlimit : l.meter.limit = m.meter.limit) (n : Nat)
    (hshared : (∀ k < n, ¬m.ReadsOwn k) ∨ ∀ k < n, ¬l.ReadsOwn k) :
    ((l.run n).1.ip = (m.run n).1.ip ∧ (l.run n).1.sp = (m.run n).1.sp ∧
      (l.run n).1.fp = (m.run n).1.fp ∧ (l.run n).1.depth = (m.run n).1.depth ∧
      (l.run n).1.live = (m.run n).1.live ∧ (l.run n).1.printed = (m.run n).1.printed ∧
      (l.run n).1.steps = (m.run n).1.steps) ∧
    (l.run n).2 = (m.run n).2.onLane l.lane ∧
    (m.run n).1.heaps = m.heaps ∧ (l.run n).1.heaps = l.heaps := by
  have hstart : m.Alike l := hm.alike hl hcode hentry hstack hlimit
  have hrun : (m.run n).1.Alike (l.run n).1 ∧ (l.run n).2 = (m.run n).2.onLane l.lane ∧
      (m.run n).1.heaps = m.heaps ∧ (l.run n).1.heaps = l.heaps := by
    rcases hshared with hshared | hshared
    · exact hm.run_alike hl hstart hshared
    · obtain ⟨hend, houtcome, hlheaps, hmheaps⟩ := hl.run_alike hm hstart.symm hshared
      refine ⟨hend.symm, ?_, hmheaps, hlheaps⟩
      rw [houtcome, Outcome.onLane_onLane]
      exact (Outcome.onLane_self fun f hf => run_faulted_lane hl.bounded hf).symm
  obtain ⟨hend, houtcome, hheaps⟩ := hrun
  refine ⟨⟨hend.ip_eq, hend.sp_eq, hend.fp_eq, hend.depth_eq, hend.live_eq, hend.printed_eq, ?_⟩,
    houtcome, hheaps⟩
  rw [steps, steps, hend.meter_eq]

/-- A program that calls a subroutine, prints what it returns and divides by zero. -/
def sharedFault : Program :=
  ⟨#[9, 6, 17, 12, 1, 14, 9, 0, 23, 20, 16, 16, 10, -3, 21, 18]⟩

/-- A machine that runs alone and the sixth of many lanes print the same value and then fail at the
same position. -/
theorem sharedFault_in_lockstep :
    ∃ m l, Machine.create sharedFault 0 { stackSize := 8, maxSteps := 20 } = .ok m ∧
      Machine.create sharedFault 0
        { stackSize := 8, maxSteps := 20, lane := some ⟨5, #[Heap.zeros 3, Heap.iota 2]⟩ } = .ok l ∧
      (m.run 30).2 = .faulted
        { reason := .kind .divisionByZero, opcode := 20, mnemonic := "IDIV", ip := 9 } ∧
      (m.run 30).1.printed = #[12] ∧ (∀ k < 30, ¬m.ReadsOwn k) ∧
      ((l.run 30).1.ip = (m.run 30).1.ip ∧ (l.run 30).1.sp = (m.run 30).1.sp ∧
        (l.run 30).1.fp = (m.run 30).1.fp ∧ (l.run 30).1.depth = (m.run 30).1.depth ∧
        (l.run 30).1.live = (m.run 30).1.live ∧ (l.run 30).1.printed = (m.run 30).1.printed ∧
        (l.run 30).1.steps = (m.run 30).1.steps) ∧
      (l.run 30).2 = (m.run 30).2.onLane l.lane ∧
      (m.run 30).1.heaps = m.heaps ∧ (l.run 30).1.heaps = l.heaps := by
  have hm : Machine.create sharedFault 0 { stackSize := 8, maxSteps := 20 } = .ok _ := rfl
  have hl : Machine.create sharedFault 0
      { stackSize := 8, maxSteps := 20, lane := some ⟨5, #[Heap.zeros 3, Heap.iota 2]⟩ } = .ok _ :=
        rfl
  refine ⟨_, _, hm, hl, by decide +kernel, by decide +kernel, ?_,
    (Prepared.create hm).runs_in_lockstep (.create hl) rfl rfl rfl rfl 30 (.inl ?_)⟩
  · decide +kernel
  · decide +kernel

end Machine

end Lanewise
