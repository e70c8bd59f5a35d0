import Lanewise.Proofs.Machine.Calls
import Lanewise.Proofs.Machine.Runs

/-!
# Steps that fail

An instruction makes all its checks before it changes anything but the height of the stack. Where it
fails it has taken cells off the stack at most: a store that has taken its operands off has not
stored yet, and a `RET` that has taken off the frame it returns from is still in it. The heaps, the
output, the frame and the number of active subroutines are then those from before the step, and the
fault names the position of the step. A machine that has faulted is left alone by whatever follows.

## Main definitions

* `Machine.Lowered`: a machine with fewer live cells and no other change.
* `Machine.Effect.Lowers`: an effect that, if it is a failure, leaves such a machine.
* `Machine.Leaves`: what is visible outside a machine, and its frame, are unchanged.

## Main results

* `Machine.exec_lowers`: an instruction that fails has taken cells off the stack at most.
* `Machine.step_fault_leaves`: what a step leaves alone that ends in a fault.
* `Machine.run_fault_contained`: so does every run, and there it ends.
-/

namespace Lanewise.Machine

/-- A machine with fewer live cells and no other change. -/
def Lowered (m₀ m : Machine) : Prop :=
  ∃ height ≤ m₀.height, m = { m₀ with height }

/-- If the effect is a failure, the machine has fewer live cells and no other change. -/
def Effect.Lowers (m₀ : Machine) : Effect → Prop
  | fail m _ _ => Lowered m₀ m
  | _ => True

/-- The heaps, the output, the frame and the number of active subroutines are the same. -/
structure Leaves (m m' : Machine) : Prop where
  heaps_eq : m'.heaps = m.heaps
  printed_eq : m'.printed = m.printed
  fp_eq : m'.fp = m.fp
  depth_eq : m'.depth = m.depth

theorem Lowered.refl (m : Machine) : Lowered m m :=
  ⟨m.height, Nat.le_refl _, rfl⟩

/-! ### Instructions -/

section Effects

variable {m₀ m : Machine}

theorem Lowered.lower (h : Lowered m₀ m) {height : Nat} (hle : height ≤ m.height) :
    Lowered m₀ { m with height } := by
  obtain ⟨height₀, hle₀, rfl⟩ := h
  exact ⟨height, Nat.le_trans hle hle₀, rfl⟩

theorem Lowered.leaves (h : Lowered m₀ m) : m₀.Leaves m := by
  obtain ⟨height, -, rfl⟩ := h
  exact ⟨rfl, rfl, rfl, rfl⟩

theorem push_lowers (h : Lowered m₀ m) (v : Word) : (m.push v).Lowers m₀ := by
  unfold push
  split
  · trivial
  · exact h

theorem popThen_lowers (h : Lowered m₀ m) {k : Machine → Word → Effect}
    (hk : ∀ m' v, Lowered m₀ m' → (k m' v).Lowers m₀) : (m.popThen k).Lowers m₀ := by
  unfold popThen
  split
  · exact h
  · exact hk _ _ (h.lower (Nat.sub_le ..))

theorem pop2Then_lowers (h : Lowered m₀ m) {k : Machine → Word → Word → Effect}
    (hk : ∀ m' a b, Lowered m₀ m' → (k m' a b).Lowers m₀) : (m.pop2Then k).Lowers m₀ := by
  unfold pop2Then
  split
  · exact h
  · exact hk _ _ _ (h.lower (Nat.sub_le ..))

theorem mapTop_lowers (h : Lowered m₀ m) (f : Word → Word) : (m.mapTop f).Lowers m₀ := by
  unfold mapTop
  split
  · exact h
  · trivial

theorem loadCell_lowers (h : Lowered m₀ m) (heap : Nat) (i : Int) :
    (m.loadCell heap i).Lowers m₀ := by
  unfold loadCell
  dsimp only
  split
  · exact push_lowers h _
  · exact h

theorem storeCell_lowers (h : Lowered m₀ m) (heap : Nat) (i : Int) (v : Word) :
    (m.storeCell heap i v).Lowers m₀ := by
  unfold storeCell
  split
  · trivial
  · exact h

theorem selectThen_lowers (h : Lowered m₀ m) (selector : Word) {k : Nat → Effect}
    (hk : ∀ heap, (k heap).Lowers m₀) : (m.selectThen selector k).Lowers m₀ := by
  unfold selectThen
  split
  · exact hk _
  · exact h

theorem call_lowers (h : Lowered m₀ m) (target numArgs : Word) :
    (m.call target numArgs).Lowers m₀ := by
  unfold call
  split
  · exact h
  · split
    · exact h
    · trivial

/-- The cells of the frame are taken off before they are checked. -/
theorem leave_lowers (h : Lowered m₀ m) (v : Word) : (m.leave v).Lowers m₀ := by
  unfold leave
  split
  · exact h
  · have hless : Lowered m₀ { m with height := m.fp - 2 } := h.lower (by omega)
    dsimp only
    split
    · exact hless
    · split
      · exact hless
      · split
        · exact hless
        · trivial

theorem ret_lowers (h : Lowered m₀ m) : m.ret.Lowers m₀ := by
  unfold ret
  split
  · exact h
  · exact popThen_lowers h fun _ v h' => leave_lowers h' v

end Effects

/-- An instruction that fails has taken cells off the stack at most. -/
theorem exec_lowers (m : Machine) (op : Opcode) (arg arg₂ : Word) :
    (m.exec op arg arg₂).Lowers m := by
  have h := Lowered.refl m
  unfold exec
  cases op with
  | iadd | isub | imul | ilt | ieq => exact pop2Then_lowers h fun _ _ _ h' => push_lowers h' _
  | idiv =>
    refine pop2Then_lowers h fun m' a b h' => ?_
    split
    · exact h'
    · exact push_lowers h' _
  | br | halt => trivial
  | brt | brf => exact popThen_lowers h fun _ _ _ => trivial
  | iconst | iconst1 | threadId => exact push_lowers h _
  | dup =>
    dsimp only
    split
    · exact h
    · exact push_lowers h _
  | pop | print => exact popThen_lowers h fun _ _ _ => trivial
  | lshift | rshift => exact mapTop_lowers h _
  | load =>
    dsimp only
    split
    · exact push_lowers h _
    · exact h
  | store =>
    refine popThen_lowers h fun m' v h' => ?_
    split
    · trivial
    · exact h'
  | gload => exact loadCell_lowers h _ _
  | gstore => exact popThen_lowers h fun _ _ h' => storeCell_lowers h' _ _ _
  | gloadIndexed => exact popThen_lowers h fun _ _ h' => loadCell_lowers h' _ _
  | gstoreIndexed => exact pop2Then_lowers h fun _ _ _ h' => storeCell_lowers h' _ _ _
  | parallelGloadIndexed =>
    exact selectThen_lowers h _ fun _ => popThen_lowers h fun _ _ h' => loadCell_lowers h' _ _
  | parallelGstoreIndexed =>
    exact selectThen_lowers h _ fun _ => pop2Then_lowers h fun _ _ _ h' => storeCell_lowers h' _ _ _
  | call => exact call_lowers h _ _
  | ret => exact ret_lowers h

/-! ### Steps -/

variable {m m' : Machine} {f : Fault}

theorem Leaves.trans {m₁ m₂ m₃ : Machine} (h₁ : m₁.Leaves m₂) (h₂ : m₂.Leaves m₃) : m₁.Leaves m₃ :=
  ⟨h₂.heaps_eq.trans h₁.heaps_eq, h₂.printed_eq.trans h₁.printed_eq, h₂.fp_eq.trans h₁.fp_eq,
    h₂.depth_eq.trans h₁.depth_eq⟩

theorem leaves_record (m : Machine) (mnemonic : String) (args : List Word) :
    m.Leaves (m.record mnemonic args) := by
  unfold record
  split <;> exact ⟨rfl, rfl, rfl, rfl⟩

theorem leaves_charged (m : Machine) (i : Instruction) : m.Leaves (m.charged i) :=
  { leaves_record { m with meter := (m.meter.consume 1).1 } i.op.mnemonic i.args with }

/-- An instruction is read at the position of the machine. -/
theorem ip_of_fetch {i : Instruction} (h : m.fetch = .ready i) : (i.ip : Int) = m.ip := by
  obtain ⟨word, hat, -⟩ := Bare.word_of_fetch h
  have hpos : 0 ≤ m.ip := by
    unfold Program.at? at hat
    split at hat
    · assumption
    · cases hat
  unfold fetch at h
  rw [hat] at h
  dsimp only at h
  split at h
  · cases h
  · split at h
    · cases h
    · split at h
      · cases h
      · cases h
        exact Int.toNat_of_nonneg hpos

theorem fetch_refused_ip {shown : Option (String × List Word)} (h : m.fetch = .refused f shown) :
    f.ip = m.ip := by
  unfold fetch at h
  split at h
  · cases h
    rfl
  · split at h
    · cases h
      rfl
    · dsimp only at h
      split at h
      · cases h
        rfl
      · split at h
        · cases h
          rfl
        · cases h

/-- A fault names the position of its step, and the step has changed neither the heaps nor the
output nor the frame. -/
theorem step_fault_leaves (h : m.step = .fault m' f) : m.Leaves m' ∧ f.ip = m.ip := by
  cases m.stepCase with
  | ended f' hfetch hstep =>
    cases hstep.symm.trans h
    exact ⟨⟨rfl, rfl, rfl, rfl⟩, fetch_refused_ip hfetch⟩
  | refused f' line hfetch hstep =>
    cases hstep.symm.trans h
    exact ⟨leaves_record m line.1 line.2, fetch_refused_ip hfetch⟩
  | unpaid i hfetch hpaid hstep =>
    cases hstep.symm.trans h
    exact ⟨⟨rfl, rfl, rfl, rfl⟩, ip_of_fetch hfetch⟩
  | executed i hexec =>
    have hlowers := exec_lowers (m.charged i) i.op (i.args.getD 0 0) (i.args.getD 1 0)
    rw [hexec.step_eq] at h
    cases heffect : (m.charged i).exec i.op (i.args.getD 0 0) (i.args.getD 1 0) with
    | next m₁ | halt m₁ =>
      rw [heffect] at h
      cases h
    | fail m₁ kind note =>
      rw [heffect] at h hlowers
      cases h
      exact ⟨(leaves_charged m i).trans hlowers.leaves, ip_of_fetch hexec.fetch_eq⟩

/-! ### Runs -/

variable {n : Nat}

/-- A run ends with the first step that faults. -/
theorem run_of_fault (hgoes : (m.run n).2 = .unfinished) (hfault : (m.after n).step = .fault m' f) :
    m.run (n + 1) = ({ m' with phase := .faulted }, .faulted f) := by
  unfold after at hfault
  unfold run at hgoes hfault ⊢
  split at hgoes
  · next hready =>
    rw [if_pos hready] at hfault ⊢
    rw [advance_add hgoes, advance, hfault]
  · cases hgoes

/-- The last step of a run that faulted is one that faults. -/
theorem fault_of_run (hgoes : (m.run n).2 = .unfinished) (hend : (m.run (n + 1)).2 = .faulted f) :
    ∃ m', (m.after n).step = .fault m' f := by
  unfold after
  unfold run at hgoes hend ⊢
  split at hgoes
  · next hready =>
    rw [if_pos hready] at hend ⊢
    rw [advance_add hgoes, advance] at hend
    cases hs : (advance n { m with phase := .running }).1.step with
    | next m' | halt m' =>
      rw [hs] at hend
      cases hend
    | fault m' f' =>
      rw [hs] at hend
      cases hend
      exact ⟨m', rfl⟩
  · cases hgoes

/-- Whatever state a run has come to, a step from there that faults leaves the heaps, the output,
the frame and the number of active subroutines as they were, and its fault names the position of
that state. The run ends there. The machine has then faulted: it cannot be run, and it does not take
other capacities. -/
theorem run_fault_contained (hgoes : (m.run n).2 = .unfinished)
    (hfault : (m.after n).step = .fault m' f) :
    (m.after n).Leaves m' ∧ f.ip = (m.after n).ip ∧
      m.after (n + 1) = { m' with phase := .faulted } ∧ (m.run (n + 1)).2 = .faulted f ∧
      (∀ fuel, (m.after (n + 1)).run fuel = (m.after (n + 1), .notRunnable)) ∧
      ∀ stackSize heapSize, (m.after (n + 1)).configure stackSize heapSize =
        (m.after (n + 1), .error .notRunnable) := by
  obtain ⟨hleaves, hip⟩ := step_fault_leaves hfault
  have hrun := run_of_fault hgoes hfault
  have hafter : m.after (n + 1) = { m' with phase := .faulted } := congrArg Prod.fst hrun
  refine ⟨hleaves, hip, hafter, congrArg Prod.snd hrun, fun fuel => ?_,
    fun stackSize heapSize => ?_⟩
  · rw [hafter]
    exact if_neg Phase.noConfusion
  · rw [hafter]
    exact if_pos Phase.noConfusion

/-- A program that stores and prints, and then returns from a subroutine that has replaced the saved
frame of its caller by `50`. -/
def spoiltReturn : Program :=
  ⟨#[9, 5, 13, 2, 23, 14, 17, 10, 0, 16, 9, 50, 12, -1, 9, 7, 18]⟩

/-- The `RET` takes four cells off the stack before it refuses the frame. -/
theorem spoiltReturn_contained :
    ∃ m m' f, Machine.create spoiltReturn 0 { stackSize := 8, heapSize := 3 } = .ok m ∧
      (m.run 8).2 = .unfinished ∧ (m.after 8).step = .fault m' f ∧
      f.reason = .kind .malformedCallFrame ∧ f.note = "saved fp 50" ∧ f.ip = 16 ∧
      (m.after 8).height = 4 ∧ (m.after 9).height = 0 ∧
      (m.after 8).heaps = #[#[0, 0, 5]] ∧ (m.after 8).printed = #[1] ∧
      (m.after 8).Leaves m' ∧ f.ip = (m.after 8).ip ∧
      m.after 9 = { m' with phase := .faulted } ∧ (m.run 9).2 = .faulted f ∧
      (∀ fuel, (m.after 9).run fuel = (m.after 9, .notRunnable)) ∧
      ∀ stackSize heapSize, (m.after 9).configure stackSize heapSize =
        (m.after 9, .error .notRunnable) := by
  let m : Machine :=
    { code := spoiltReturn, engine := .sequential, lane := Fault.noLane, ip := 0,
      stack := Array.replicate 8 0, height := 0, fp := 0, depth := 0, heaps := #[Heap.zeros 3],
      meter := .ofLimit 0, phase := .ready, printed := #[], tracing := false, trace := #[] }
  have hgoes : (m.run 8).2 = .unfinished := by decide +kernel
  obtain ⟨m', hfault⟩ := fault_of_run (m := m)
    (f := { reason := .kind .malformedCallFrame, note := "saved fp 50", opcode := 18,
            mnemonic := "RET"
            ip := 16 }) hgoes (by decide +kernel)
  refine ⟨m, m', _, rfl, hgoes, hfault, rfl, rfl, rfl, ?_, ?_, ?_, ?_,
    run_fault_contained hgoes hfault⟩
  · decide +kernel
  · decide +kernel
  · decide +kernel
  · decide +kernel

end Lanewise.Machine
