import Lanewise.Proofs.Machine.Cells
import Lanewise.Proofs.Machine.MemorySafety

/-!
# Calls and returns

Each `CALL` leaves a record of three cells on the stack. As long as a program leaves the records of
its active calls alone, each `RET` returns from the last call that is still active: it restores the
frame and the position of the caller, and replaces the arguments by its value.

The matching call may lie arbitrarily far back, with any number of other calls in between. It is the
last step that called at one level less, and what ties it to the `RET` is the frame of the machine,
which points at the record of the innermost active call.

## Main definitions

* `Machine.after`: the states of a run.
* `Machine.Active`: a call that has not returned yet.
* `Machine.Disciplined`: a run that leaves the records of active calls alone.
* `Machine.Restores`: the state to which a call returns.

## Main results

* `Machine.Active.record`: the record of an active call is whole.
* `Machine.framed_after`: the frame is that of the innermost active call.
* `Machine.ret_restores_call`: what each `RET` does.
-/

namespace Lanewise.Machine

variable {m₀ : Machine} {j k n : Nat} {c i : Instruction}

/-! ### The states of a run -/

/-- The state of a run after some steps. -/
def after (m₀ : Machine) (n : Nat) : Machine :=
  (m₀.run n).1

theorem advance_succ {m : Machine} (h : (m.advance (n + 1)).2 = .unfinished) :
    (m.advance n).2 = .unfinished ∧ (m.advance n).1.step = .next (m.advance (n + 1)).1 := by
  induction n generalizing m with
  | zero =>
    refine ⟨rfl, ?_⟩
    unfold advance at h ⊢
    cases hs : m.step with
    | next m' => simp only [advance]
    | halt m' =>
      rw [hs] at h
      cases h
    | fault m' f =>
      rw [hs] at h
      cases h
  | succ n ih =>
    unfold advance at h ⊢
    cases hs : m.step with
    | next m' =>
      simp only [hs] at h ⊢
      exact ih h
    | halt m' =>
      simp only [hs] at h
      cases h
    | fault m' f =>
      simp only [hs] at h
      cases h

theorem run_succ (h : (m₀.run (n + 1)).2 = .unfinished) :
    (m₀.run n).2 = .unfinished ∧ (m₀.after n).step = .next (m₀.after (n + 1)) := by
  unfold after
  unfold run at h ⊢
  split at h
  · next hready =>
    rw [if_pos hready, if_pos hready]
    exact advance_succ h
  · cases h

theorem unfinished_of_le (h : (m₀.run n).2 = .unfinished) (hj : j ≤ n) :
    (m₀.run j).2 = .unfinished := by
  induction n with
  | zero =>
    obtain rfl := Nat.le_zero.1 hj
    exact h
  | succ n ih =>
    rcases Nat.lt_or_eq_of_le hj with hlt | rfl
    · exact ih (run_succ h).1 (Nat.le_of_lt_succ hlt)
    · exact h

/-- Each state of a run is a step away from the one before. -/
theorem step_after (h : (m₀.run n).2 = .unfinished) (hj : j < n) :
    (m₀.after j).step = .next (m₀.after (j + 1)) :=
  (run_succ (unfinished_of_le h hj)).2

theorem Prepared.depth_eq {m : Machine} (h : Prepared m) : m.depth = 0 := by
  obtain ⟨_, _, _, _, _, _, _, -, -, rfl⟩ := h.eq_initial
  rfl

/-! ### Active calls -/

/-- The call that step `k` executes has not returned before step `j`. -/
structure Active (m₀ : Machine) (k : Nat) (c : Instruction) (j : Nat) : Prop where
  lt : k < j
  executes : (m₀.after k).Executes c
  op_eq : c.op = .call
  deeper : ∀ i, k < i → i ≤ j → (m₀.after k).depth < (m₀.after i).depth

/-- The first `n` steps of a run leave the records of active calls alone. Only the `RET` of a call
takes cells of its record off the stack. -/
def Disciplined (m₀ : Machine) (n : Nat) : Prop :=
  ∀ k c j i, m₀.Active k c j → j < n → (m₀.after j).Executes i →
    ¬(i.op = .ret ∧ (m₀.after j).depth = (m₀.after k).depth + 1) →
    ∀ cell, (m₀.after k).height ≤ cell → cell < (m₀.after k).height + 3 →
      ¬(m₀.after j).Touches i cell

/-- A `STORE` between two steps addresses a cell. -/
def Stored (m₀ : Machine) (k n cell : Nat) : Prop :=
  ∃ j i, k < j ∧ j < n ∧ (m₀.after j).Executes i ∧ i.op = .store ∧
    (m₀.after j).overwritten? .store (i.args.getD 0 0) = some cell

/-- The record of a call lies whole on the stack. -/
structure Record (caller : Machine) (c : Instruction) (m : Machine) : Prop where
  height_ge : caller.height + 3 ≤ m.height
  args_eq : m.stack[caller.height]? = some (c.args.getD 1 0)
  fp_eq : m.stack[caller.height + 1]? = some (Int32.ofNat caller.fp)
  ip_eq : m.stack[caller.height + 2]? = some (Int32.ofInt c.next)

theorem Disciplined.mono (h : m₀.Disciplined n) (hj : j ≤ n) : m₀.Disciplined j :=
  fun k c j' i hactive hj' => h k c j' i hactive (Nat.lt_of_lt_of_le hj' hj)

/-- A call that is active after a step is executed by that step, or was active before. -/
theorem Active.pred (h : m₀.Active k c (j + 1)) : k = j ∨ m₀.Active k c j := by
  rcases Nat.lt_or_eq_of_le (Nat.le_of_lt_succ h.lt) with hlt | heq
  · exact .inr { h with lt := hlt, deeper := fun i hi hij => h.deeper i hi (Nat.le_succ_of_le hij) }
  · exact .inl heq

theorem Active.succ (h : m₀.Active k c j)
    (hdepth : (m₀.after k).depth < (m₀.after (j + 1)).depth) : m₀.Active k c (j + 1) where
  lt := Nat.lt_succ_of_lt h.lt
  executes := h.executes
  op_eq := h.op_eq
  deeper i hi hij := by
    rcases Nat.lt_or_eq_of_le hij with hlt | rfl
    · exact h.deeper i hi (Nat.le_of_lt_succ hlt)
    · exact hdepth

/-- A step before which and after which a call is active does not touch its record. -/
theorem Active.not_touches (h : m₀.Active k c j) (hnext : m₀.Active k c (j + 1))
    (hrun : (m₀.run (j + 1)).2 = .unfinished) (hdisc : m₀.Disciplined (j + 1))
    (hexec : (m₀.after j).Executes i) {cell : Nat} (hcell : (m₀.after k).height ≤ cell)
    (hcell' : cell < (m₀.after k).height + 3) : ¬(m₀.after j).Touches i cell := by
  refine hdisc k c j i h (Nat.lt_succ_self j) hexec ?_ cell hcell hcell'
  rintro ⟨hop, hdepth⟩
  -- The `RET` of the call itself would have ended it.
  obtain ⟨-, hafter, -⟩ := hexec.ret_next hop (step_after hrun (Nat.lt_succ_self j))
  have := hnext.deeper (j + 1) hnext.lt (Nat.le_refl _)
  omega

/-- The record of an active call is whole. -/
theorem Active.record (h : m₀.Active k c j) (hrun : (m₀.run j).2 = .unfinished)
    (hdisc : m₀.Disciplined j) : Record (m₀.after k) c (m₀.after j) := by
  induction j with
  | zero => exact absurd h.lt (Nat.not_lt_zero k)
  | succ j ih =>
    have hstep := step_after hrun (Nat.lt_succ_self j)
    rcases h.pred with rfl | hactive
    · obtain ⟨-, -, hheight, -, -, -, hargs, hfp, hip⟩ := h.executes.call_next h.op_eq hstep
      exact ⟨by omega, hargs, hfp, hip⟩
    · obtain ⟨hheight, hargs, hfp, hip⟩ := ih hactive (run_succ hrun).1 (hdisc.mono (Nat.le_succ j))
      obtain ⟨i, hexec⟩ := executes_of_step hstep
      have hspares (cell : Nat) (hcell : (m₀.after k).height ≤ cell)
          (hcell' : cell < (m₀.after k).height + 3) :=
        hexec.spares hstep (by omega) (hactive.not_touches h hrun hdisc hexec hcell hcell')
      obtain ⟨-, hargs'⟩ := hspares (m₀.after k).height (by omega) (by omega)
      obtain ⟨-, hfp'⟩ := hspares ((m₀.after k).height + 1) (by omega) (by omega)
      obtain ⟨hheight', hip'⟩ := hspares ((m₀.after k).height + 2) (by omega) (by omega)
      exact ⟨hheight', hargs'.trans hargs, hfp'.trans hfp, hip'.trans hip⟩

theorem overwritten?_eq_some {m : Machine} {op : Opcode} {arg : Word} {cell : Nat}
    (h : m.overwritten? op arg = some cell) : cell = m.height - 1 ∨ op = .store := by
  cases op with
  | lshift | rshift => exact .inl (Option.some.inj h).symm
  | store => exact .inr rfl
  | _ => cases h

/-- The cells below an active call are those of the caller, as far as no `STORE` addressed them. -/
theorem Active.cell_eq (h : m₀.Active k c j) (hrun : (m₀.run j).2 = .unfinished)
    (hdisc : m₀.Disciplined j) {cell : Nat} (hcell : cell < (m₀.after k).height)
    (hstored : ¬m₀.Stored k j cell) : (m₀.after j).stack[cell]? = (m₀.after k).stack[cell]? := by
  induction j with
  | zero => exact absurd h.lt (Nat.not_lt_zero k)
  | succ j ih =>
    have hstep := step_after hrun (Nat.lt_succ_self j)
    rcases h.pred with rfl | hactive
    · obtain ⟨-, -, -, -, -, hcells, -⟩ := h.executes.call_next h.op_eq hstep
      exact hcells cell hcell
    · have hrun' := (run_succ hrun).1
      have hdisc' := hdisc.mono (Nat.le_succ j)
      have hheight := (hactive.record hrun' hdisc').height_ge
      obtain ⟨i, hexec⟩ := executes_of_step hstep
      have hbase := hactive.not_touches h hrun hdisc hexec (Nat.le_refl _) (by omega)
      have hspared : ¬(m₀.after j).Touches i cell := by
        rintro (⟨htaken, -⟩ | hspoilt)
        · -- What takes a cell below the record off the stack takes off the record too.
          exact hbase (.inl ⟨by omega, by omega⟩)
        · rcases overwritten?_eq_some hspoilt with htop | hop
          · omega
          · exact hstored ⟨j, i, hactive.lt, Nat.lt_succ_self j, hexec, hop, hop ▸ hspoilt⟩
      rw [(hexec.spares hstep (by omega) hspared).2]
      refine ih hactive hrun' hdisc' fun hstored' => hstored ?_
      obtain ⟨j', i', hk, hj, hrest⟩ := hstored'
      exact ⟨j', i', hk, Nat.lt_succ_of_lt hj, hrest⟩

/-! ### Frames -/

/-- The frame is that of the innermost active call, if there is one. -/
structure Framed (m₀ : Machine) (j : Nat) : Prop where
  outermost : (m₀.after j).depth = 0 → (m₀.after j).fp = 0
  inner : ∀ d, (m₀.after j).depth = d + 1 → ∃ k c, m₀.Active k c j ∧ (m₀.after k).depth = d ∧
    (m₀.after j).fp = (m₀.after k).height + 2

theorem toInt_ofNat {v : Nat} (h : v < 2147483648) : (Int32.ofNat v).toInt = v :=
  Int32.toInt_ofNat_of_lt h

theorem toInt_ofInt {v : Nat} (h : v < 2147483648) : (Int32.ofInt (v : Int)).toInt = v :=
  Int32.toInt_ofInt_of_le (by omega) (by omega)

/-- What is read from a cell that is known. -/
theorem getD_of_getElem? {cells : Array Word} {cell : Nat} {v : Word} (h : cells[cell]? = some v) :
    cells.getD cell 0 = v := by
  rw [Array.getD_eq_getD_getElem?, h, Option.getD_some]

theorem Prepared.fp_after_lt (h : Prepared m₀) (n : Nat) : (m₀.after n).fp < m₀.stack.size := by
  have hkeeps := run_keeps h.bounded n
  have hfp := hkeeps.fp_lt
  rw [hkeeps.stack_size] at hfp
  exact hfp

/-- After a call has returned, the calls around it are active again. -/
theorem Active.resume {k' : Nat} {c' : Instruction} (h : m₀.Active k' c' k)
    (hinner : m₀.Active k c j) (hback : (m₀.after (j + 1)).depth = (m₀.after k).depth) :
    m₀.Active k' c' (j + 1) where
  lt := Nat.lt_succ_of_lt (Nat.lt_trans h.lt hinner.lt)
  executes := h.executes
  op_eq := h.op_eq
  deeper i hi hij := by
    have houter := h.deeper k h.lt (Nat.le_refl _)
    rcases Nat.lt_or_ge k i with hlt | hge
    · rcases Nat.lt_or_eq_of_le hij with hlt' | rfl
      · exact Nat.lt_trans houter (hinner.deeper i hlt (Nat.le_of_lt_succ hlt'))
      · omega
    · exact h.deeper i hi hge

theorem framed_zero (h : Prepared m₀) : m₀.Framed 0 := by
  obtain ⟨hfp, hdepth⟩ : (m₀.after 0).fp = 0 ∧ (m₀.after 0).depth = 0 := by
    unfold after run
    split <;> exact ⟨h.start.2.1, h.depth_eq⟩
  exact ⟨fun _ => hfp, fun d hd => by omega⟩

/-- A call opens a frame of its own. -/
theorem Executes.framed_call (hexec : (m₀.after j).Executes i) (hop : i.op = .call)
    (hstep : (m₀.after j).step = .next (m₀.after (j + 1))) : m₀.Framed (j + 1) := by
  obtain ⟨-, -, -, hfp, hdepth, -⟩ := hexec.call_next hop hstep
  refine ⟨fun hzero => by omega, fun d hd => ⟨j, i, ?_, by omega, hfp⟩⟩
  refine ⟨Nat.lt_succ_self j, hexec, hop, fun i' hj hi' => ?_⟩
  obtain rfl : i' = j + 1 := by omega
  omega

/-- A `RET` goes back to the frame that its call was made in. -/
theorem Active.framed_ret (h : m₀.Active k c j) (hcaller : m₀.Framed k)
    (hfp : (m₀.after (j + 1)).fp = (m₀.after k).fp)
    (hback : (m₀.after (j + 1)).depth = (m₀.after k).depth) : m₀.Framed (j + 1) := by
  refine ⟨fun hzero => hfp.trans (hcaller.outermost (by omega)), fun d hd => ?_⟩
  obtain ⟨k', c', hactive, hk', hframe⟩ := hcaller.inner d (by omega)
  exact ⟨k', c', hactive.resume h hback, hk', hfp.trans hframe⟩

/-- All other steps stay in their frame. -/
theorem Framed.stay (h : m₀.Framed j) (hfp : (m₀.after (j + 1)).fp = (m₀.after j).fp)
    (hdepth : (m₀.after (j + 1)).depth = (m₀.after j).depth) : m₀.Framed (j + 1) := by
  refine ⟨fun hzero => hfp.trans (h.outermost (by omega)), fun d hd => ?_⟩
  obtain ⟨k, c, hactive, hk, hframe⟩ := h.inner d (by omega)
  exact ⟨k, c, hactive.succ (by omega), hk, hfp.trans hframe⟩

/-- The frame of each state is that of its innermost active call. -/
theorem framed_after (h : Prepared m₀) (hstack : m₀.stack.size < 2147483648)
    (hrun : (m₀.run j).2 = .unfinished) (hdisc : m₀.Disciplined j) : m₀.Framed j := by
  -- The frame that a `RET` goes back to is that of a state any number of steps before.
  induction j using Nat.strongRecOn with
  | ind j ih =>
    cases j with
    | zero => exact framed_zero h
    | succ j =>
      have hstep := step_after hrun (Nat.lt_succ_self j)
      have hrun' := (run_succ hrun).1
      have hdisc' := hdisc.mono (Nat.le_succ j)
      have hframed := ih j (Nat.lt_succ_self j) hrun' hdisc'
      obtain ⟨i, hexec⟩ := executes_of_step hstep
      by_cases hcall : i.op = .call
      · exact hexec.framed_call hcall hstep
      · by_cases hret : i.op = .ret
        · obtain ⟨hdepth, hdepth', hfp, -⟩ := hexec.ret_next hret hstep
          obtain ⟨d, hd⟩ := Nat.exists_eq_succ_of_ne_zero hdepth
          obtain ⟨k, c, hactive, hk, hframe⟩ := hframed.inner d hd
          have hlt := h.fp_after_lt k
          have hkj := hactive.lt
          have hcell : (m₀.after k).height + 2 - 1 = (m₀.after k).height + 1 := rfl
          have hback : (m₀.after (j + 1)).fp = (m₀.after k).fp := by
            rw [hfp, hframe, hcell, getD_of_getElem? (hactive.record hrun' hdisc').fp_eq,
              toInt_ofNat (by omega), Int.toNat_natCast]
          have hcaller := ih k (by omega) (unfinished_of_le hrun (by omega)) (hdisc.mono (by omega))
          exact hactive.framed_ret hcaller hback (by omega)
        · have hbeside := hexec.beside hstep hcall hret
          exact hframed.stay hbeside.fp_eq hbeside.depth_eq

/-- The frame of a state lies below the cells that it pushes next. -/
theorem Framed.fp_le (h : m₀.Framed j) (hrun : (m₀.run j).2 = .unfinished)
    (hdisc : m₀.Disciplined j) : (m₀.after j).fp ≤ (m₀.after j).height := by
  cases hdepth : (m₀.after j).depth with
  | zero =>
    rw [h.outermost hdepth]
    exact Nat.zero_le _
  | succ d =>
    obtain ⟨k, c, hactive, -, hfp⟩ := h.inner d hdepth
    have hheight := (hactive.record hrun hdisc).height_ge
    omega

/-! ### Returns -/

/-- The state to which the call `c` of `caller` returns from `callee`. Cells below the arguments are
those of the caller if they were kept. -/
structure Restores (caller : Machine) (c : Instruction) (callee : Machine) (kept : Nat → Prop)
    (m : Machine) : Prop where
  ip_eq : m.ip = c.next
  fp_eq : m.fp = caller.fp
  depth_eq : m.depth = caller.depth
  sp_eq : m.sp = caller.sp - (c.args.getD 1 0).toInt + 1
  top_eq : m.stack[m.height - 1]? = callee.stack[callee.height - 1]?
  cell_eq : ∀ cell : Nat, cell + (c.args.getD 1 0).toInt < caller.height → kept cell →
    m.stack[cell]? = caller.stack[cell]?

theorem Prepared.code_after (h : Prepared m₀) (n : Nat) : (m₀.after n).code = m₀.code :=
  (run_keeps h.bounded n).code_eq

theorem Restores.mono {caller callee m : Machine} {kept kept' : Nat → Prop}
    (h : Restores caller c callee kept m)
    (hkept : ∀ cell : Nat, cell + (c.args.getD 1 0).toInt < caller.height → kept' cell →
      kept cell) :
    Restores caller c callee kept' m :=
  { h with cell_eq := fun cell hcell hcell' => h.cell_eq cell hcell (hkept cell hcell hcell') }

/-- A call returns to its caller if its `RET` finds the whole record and a value above it. -/
theorem Executes.ret_restores {caller callee : Machine} (hexec : callee.Executes i)
    (hop : i.op = .ret) (hdepth : callee.depth = caller.depth + 1)
    (hframe : callee.fp = caller.height + 2) (hrecord : Record caller c callee)
    (habove : callee.height ≠ caller.height + 3) (hroom : callee.height ≤ callee.stack.size)
    (hargs₀ : 0 ≤ (c.args.getD 1 0).toInt) (hargs₁ : (c.args.getD 1 0).toInt ≤ caller.height)
    (hfp : caller.fp ≤ caller.height) (hfp' : caller.fp < 2147483648)
    (hip : c.next ≤ callee.code.size) (hip' : c.next < 2147483648) :
    ∃ m, callee.step = .next m ∧
      Restores caller c callee (fun cell => callee.stack[cell]? = caller.stack[cell]?) m := by
  obtain ⟨hheight, hargs, hcaller, hreturn⟩ := hrecord
  have hbase : caller.height + 2 - 2 = caller.height := rfl
  have hnext : caller.height + 2 - 1 = caller.height + 1 := rfl
  have hargs' := getD_of_getElem? hargs
  have hcaller' := congrArg Int32.toInt (getD_of_getElem? hcaller)
  have hreturn' := congrArg Int32.toInt (getD_of_getElem? hreturn)
  rw [toInt_ofNat hfp'] at hcaller'
  rw [toInt_ofInt hip'] at hreturn'
  have hreturnable : (callee.charged i).Returnable := by
    constructor <;> simp only [charged_depth, charged_fp, charged_height, charged_stack,
      charged_code, hframe, hbase, hnext, hargs', hcaller', hreturn'] <;> omega
  have hstep := hexec.step_eq
  rw [hop] at hstep
  dsimp only [exec] at hstep
  rw [ret_eq_next_iff.2 ⟨hreturnable, rfl⟩] at hstep
  refine ⟨_, hstep, ?_⟩
  simp only [returned, charged_depth, charged_fp, charged_height, charged_stack, hframe, hbase,
    hnext, hargs', hcaller', hreturn', Int.toNat_natCast]
  refine ⟨rfl, rfl, ?_, ?_, ?_, fun cell hcell hkept => ?_⟩
  · dsimp only
    omega
  · simp only [sp]
    omega
  · have htop :
      callee.stack[callee.height - 1]? = some (callee.stack.getD (callee.height - 1) 0) := by
      rw [Array.getElem?_eq_getElem (by omega), Array.getD_eq_getD_getElem?,
        Array.getElem?_eq_getElem (by omega), Option.getD_some]
    rw [htop]
    exact Array.getElem?_setIfInBounds_self_of_lt (by omega)
  · rw [← hkept]
    exact Array.getElem?_setIfInBounds_ne (by omega)

/-- Each `RET` of a run that leaves the records of active calls alone belongs to the last call that
is still active. It faults if and only if there is no value above the record of that call. Otherwise
it continues behind the call in the frame of the caller; its value has replaced the arguments, and
the cells below them are unchanged, as far as no `STORE` in between addressed them. -/
theorem ret_restores_call (h : Prepared m₀) (hcode : m₀.code.size < 2147483648)
    (hstack : m₀.stack.size < 2147483648) (hrun : (m₀.run n).2 = .unfinished)
    (hdisc : m₀.Disciplined n) (hexec : (m₀.after n).Executes i) (hop : i.op = .ret) {d : Nat}
    (hdepth : (m₀.after n).depth = d + 1) :
    ∃ k c, m₀.Active k c n ∧ (m₀.after k).depth = d ∧
      ((∃ m f, (m₀.after n).step = .fault m f ∧ f.reason = .kind .malformedCallFrame) ↔
        (m₀.after n).height = (m₀.after k).height + 3) ∧
      ((m₀.after n).height ≠ (m₀.after k).height + 3 → ∃ m, (m₀.after n).step = .next m ∧
        Restores (m₀.after k) c (m₀.after n) (fun cell => ¬m₀.Stored k n cell) m) := by
  obtain ⟨k, c, hactive, hk, hframe⟩ := (framed_after h hstack hrun hdisc).inner d hdepth
  have hkn := hactive.lt
  have hrecord := hactive.record hrun hdisc
  have hrun' := unfinished_of_le hrun (Nat.le_of_lt hkn)
  have hdisc' := hdisc.mono (Nat.le_of_lt hkn)
  have hfp := (framed_after h hstack hrun' hdisc').fp_le hrun' hdisc'
  have hfp' := h.fp_after_lt k
  have hroom := (run_keeps h.bounded n).height_le
  have hnext := hactive.executes.next_le
  rw [h.code_after] at hnext
  obtain ⟨hargs₀, hargs₁, -⟩ := hactive.executes.call_next hactive.op_eq (step_after hrun hkn)
  have hreturns (habove : (m₀.after n).height ≠ (m₀.after k).height + 3) :
      ∃ m, (m₀.after n).step = .next m ∧
        Restores (m₀.after k) c (m₀.after n) (fun cell => ¬m₀.Stored k n cell) m := by
    obtain ⟨m, hstep, hrestores⟩ := hexec.ret_restores hop (by omega) hframe hrecord habove hroom
      hargs₀ hargs₁ hfp (by omega) (by rw [h.code_after]; omega) (by omega)
    refine ⟨m, hstep, hrestores.mono fun cell hcell hstored => ?_⟩
    exact hactive.cell_eq hrun hdisc (by omega) hstored
  refine ⟨k, c, hactive, hk, ⟨?_, ?_⟩, hreturns⟩
  · rintro ⟨m, f, hfault, -⟩
    refine Decidable.by_contra fun habove => ?_
    obtain ⟨m', hstep, -⟩ := hreturns habove
    rw [hstep] at hfault
    cases hfault
  · intro hbare
    obtain ⟨m', note, hret⟩ := @ret_of_bare ((m₀.after n).charged i)
      (by rw [charged_height, charged_fp]; omega)
    have hstep := hexec.step_eq
    rw [hop] at hstep
    dsimp only [exec] at hstep
    rw [hret] at hstep
    exact ⟨m', _, hstep, rfl⟩

/-- A machine whose program calls a subroutine that returns its argument. -/
def relaying : Machine :=
  { code := ⟨#[9, 5, 17, 6, 1, 16, 10, -3, 18]⟩, engine := .sequential
    lane := Fault.noLane, ip := 0
    stack := Array.replicate 8 0, height := 0, fp := 0, depth := 0, heaps := #[Heap.zeros 1]
    meter := .ofLimit 0, phase := .ready, printed := #[], tracing := false, trace := #[] }

theorem relaying_disciplined : relaying.Disciplined 3 := by
  intro k c j i hactive hj hexec hret cell hcell hcell'
  have hlt := hactive.lt
  have hpush : (relaying.after 0).Executes ⟨0, .iconst, [5]⟩ :=
    executes_of_decode (by decide +kernel) (by decide +kernel) (by decide +kernel)
  have hload : (relaying.after 2).Executes ⟨6, .load, [-3]⟩ :=
    executes_of_decode (by decide +kernel) (by decide +kernel) (by decide +kernel)
  obtain rfl | rfl : k = 0 ∨ k = 1 := by omega
  · have hop := hactive.op_eq
    rw [hactive.executes.inj hpush] at hop
    cases hop
  · obtain rfl : j = 2 := by omega
    rw [hexec.inj hload]
    rintro (⟨htaken, hlive⟩ | hspoilt)
    · exact absurd hlive (Nat.not_lt.2 htaken)
    · cases hspoilt

theorem relaying_restores :
    Machine.create relaying.code 0 { stackSize := 8, heapSize := 1 } = .ok relaying ∧
      (relaying.after 3).depth = 1 ∧
      ∃ k c, relaying.Active k c 3 ∧ (relaying.after k).depth = 0 ∧
        ((∃ m f, (relaying.after 3).step = .fault m f ∧ f.reason = .kind .malformedCallFrame) ↔
          (relaying.after 3).height = (relaying.after k).height + 3) ∧
        ((relaying.after 3).height ≠ (relaying.after k).height + 3 →
          ∃ m, (relaying.after 3).step = .next m ∧
            Restores (relaying.after k) c (relaying.after 3) (fun cell => ¬relaying.Stored k 3 cell)
              m) :=
  have hcreate : Machine.create relaying.code 0 { stackSize := 8, heapSize := 1 } = .ok relaying :=
    rfl
  have hdepth : (relaying.after 3).depth = 0 + 1 := by decide +kernel
  have hexec : (relaying.after 3).Executes ⟨8, .ret, []⟩ :=
    executes_of_decode (by decide +kernel) (by decide +kernel) (by decide +kernel)
  ⟨hcreate, hdepth, ret_restores_call (.create hcreate) (by decide +kernel) (by decide +kernel)
    (by decide +kernel) relaying_disciplined hexec rfl hdepth⟩

end Lanewise.Machine
