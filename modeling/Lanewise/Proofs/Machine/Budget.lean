import Lanewise.Proofs.Machine.Calls
import Lanewise.Proofs.Machine.Ledger
import Lanewise.Proofs.Machine.Runs
import Lanewise.Proofs.Meter

/-!
# Step budgets

A budget bounds a run and does nothing else. As long as it lasts, a machine with a budget makes the
same steps as the same machine without one, and both count the same number of instructions; an
instruction that cannot be read is not counted. When nothing is left, the next instruction that can
be read is not executed, and the machine stops where it stands.

The two machines differ in their meters only, and the difference is a function of the steps counted
so far. So a step commutes with the change from one to the other, and the rest is an induction on
what is left of the budget.

## Main definitions

* `Machine.budgeted`: a machine with a budget.
* `Machine.executed`: the number of instructions that the first steps of a run execute.

## Main results

* `Machine.step_budgeted`, `Machine.step_exhausted`: a step within a budget and the step behind it.
* `Machine.run_budgeted`: a run with a budget always ends, as the run without one or at the first
  instruction that the budget does not cover.
-/

namespace Lanewise

/-! ### Meters -/

namespace Meter

/-- What is paid for is counted. -/
theorem consume_consumed (μ : Meter) :
    (μ.consume 1).1.consumed = μ.consumed + UInt64.ofNat (μ.consume 1).2.toNat := by
  by_cases hfree : μ.limit = 0
  · rw [consume_free hfree]
    rfl
  · by_cases hless : μ.remaining < 1
    · rw [consume_refused hfree hless]
      exact (UInt64.add_zero μ.consumed).symm
    · rw [consume_accepted hfree hless]
      rfl

/-- A budget that is not used up pays for one more step. -/
theorem consume_within {limit count : UInt64} (h : count < limit) :
    (⟨limit, limit - count, count⟩ : Meter).consume 1 =
      (⟨limit, limit - (count + 1), count + 1⟩, true) := by
  have hlt : count.toNat < limit.toNat := UInt64.lt_iff_toNat_lt.1 h
  have hlimit : limit ≠ 0 := by
    rintro rfl
    exact Nat.not_lt_zero _ hlt
  have hleft : ¬limit - count < 1 := by
    rw [UInt64.lt_iff_toNat_lt, UInt64.toNat_sub_of_le _ _ (UInt64.le_iff_toNat_le.2 (by omega))]
    have : (1 : UInt64).toNat = 1 := rfl
    omega
  have hrest : limit - count - 1 = limit - (count + 1) := by grind
  rw [consume_accepted hlimit hleft, hrest]

/-- A budget that is used up pays for nothing. -/
theorem consume_exhausted {limit count : UInt64} (h : 0 < limit) :
    (⟨limit, 0, count⟩ : Meter).consume 1 = (⟨limit, 0, count⟩, false) := by
  have hlimit : limit ≠ 0 := by
    rintro rfl
    exact absurd h (by decide)
  exact consume_refused hlimit (show (0 : UInt64) < 1 by decide)

end Meter

namespace Machine

variable {m m' : Machine} {i : Instruction} {limit : UInt64}

/-! ### Counting instructions -/

/-- A machine reads an instruction and can pay for it. -/
def pays (m : Machine) : Bool :=
  match m.fetch with
  | .ready _ => (m.meter.consume 1).2
  | .refused _ _ => false

/-- The number of instructions that a machine executes in some steps. -/
def paidSteps : (fuel : Nat) → Machine → Nat
  | 0, _ => 0
  | fuel + 1, m =>
    m.pays.toNat + match m.step with
      | .next m => paidSteps fuel m
      | .halt _ => 0
      | .fault _ _ => 0

/-- The number of instructions that the first steps of a run execute. A meter without a budget
counts them, too, but it begins again when its 64 bits are used up. -/
def executed (m : Machine) (n : Nat) : Nat :=
  paidSteps n { m with phase := .running }

theorem Executes.pays_eq (h : m.Executes i) : m.pays = true := by
  rw [pays, h.fetch_eq]
  exact h.paid

/-- A step that leads on has executed an instruction. -/
theorem paidSteps_of_next (h : m.step = .next m') (fuel : Nat) :
    paidSteps (fuel + 1) m = 1 + paidSteps fuel m' := by
  obtain ⟨i, hi⟩ := executes_of_step h
  rw [paidSteps, h, hi.pays_eq]
  rfl

/-- As long as a run has not ended, each of its steps has executed an instruction. -/
theorem paidSteps_of_unfinished {n : Nat} (h : (m.advance n).2 = .unfinished) :
    paidSteps n m = n := by
  induction n generalizing m with
  | zero => rfl
  | succ n ih =>
    unfold advance at h
    cases hs : m.step with
    | next m' =>
      rw [hs] at h
      rw [paidSteps_of_next hs, ih h, Nat.add_comm]
    | halt m' =>
      rw [hs] at h
      cases h
    | fault m' f =>
      rw [hs] at h
      cases h

/-- A run that executes an instruction after `k` others has executed more than `k` when it ends. -/
theorem lt_paidSteps {k n : Nat} (hk : (m.advance k).2 = .unfinished)
    (hi : (m.advance k).1.Executes i) (hn : (m.advance n).2 ≠ .unfinished) : k < paidSteps n m := by
  induction k generalizing m n with
  | zero =>
    cases n with
    | zero => exact absurd rfl hn
    | succ n =>
      have hpays : m.pays = true := Executes.pays_eq hi
      rw [paidSteps, hpays]
      exact Nat.lt_of_lt_of_le Nat.one_pos (Nat.le_add_right ..)
  | succ k ih =>
    cases n with
    | zero => exact absurd rfl hn
    | succ n =>
      unfold advance at hk hi hn
      cases hs : m.step with
      | next m' =>
        rw [hs] at hk hi hn
        have := ih hk hi hn
        rw [paidSteps_of_next hs]
        omega
      | halt m' =>
        rw [hs] at hk
        cases hk
      | fault m' f =>
        rw [hs] at hk
        cases hk

/-! ### The meter -/

theorem exec_ledger (m : Machine) (op : Opcode) (arg arg₂ : Word) :
    (m.exec op arg arg₂).machine.ledger = m.ledger := by
  have hsame : m.exec op arg arg₂ = (m.exec op arg arg₂).mapLedger fun _ => m.ledger :=
    exec_mapLedger m (fun _ => m.ledger) op arg arg₂
  rw [hsame]
  cases m.exec op arg arg₂ <;> rfl

theorem charged_meter : (m.charged i).meter = (m.meter.consume 1).1 := by
  unfold charged record
  split <;> rfl

/-- Only the step around an instruction changes the ledger. -/
theorem Executes.step_ledger (h : m.Executes i) : m.step.machine.ledger = (m.charged i).ledger := by
  have hledger := exec_ledger (m.charged i) i.op (i.args.getD 0 0) (i.args.getD 1 0)
  rw [h.step_eq]
  cases heffect : (m.charged i).exec i.op (i.args.getD 0 0) (i.args.getD 1 0) with
  | next m' | halt m' | fail m' kind note =>
    rw [heffect] at hledger
    exact hledger

/-- A step that executes an instruction counts it, and nothing else touches the meter. -/
theorem Executes.step_meter (h : m.Executes i) : m.step.machine.meter = (m.meter.consume 1).1 :=
  (congrArg Ledger.meter h.step_ledger).trans charged_meter

/-! ### Steps with and without a budget -/

/-- The ledger with a budget, of which the steps that are counted are used up. -/
def Ledger.budgeted (limit : UInt64) (l : Ledger) : Ledger :=
  { l with meter := ⟨limit, limit - l.meter.consumed, l.meter.consumed⟩ }

/-- The machine with a budget, of which the steps that are counted are used up. -/
def budgeted (m : Machine) (limit : UInt64) : Machine :=
  m.mapLedger (.budgeted limit)

/-- A machine that is made with a budget is one made without, with the budget. -/
theorem create_budgeted (code : Program) (entry : Int) (o : Options) (limit : UInt64) :
    Machine.create code entry { o with maxSteps := limit } =
      (Machine.create code entry { o with maxSteps := 0 }).map (·.budgeted limit) := by
  have hstack : stackOf { o with maxSteps := limit } = stackOf { o with maxSteps := 0 } := rfl
  have hheaps : heapsOf { o with maxSteps := limit } = heapsOf { o with maxSteps := 0 } := rfl
  unfold Machine.create
  rw [hstack, hheaps]
  cases code.checkEntry entry with
  | error e => rfl
  | ok =>
    dsimp only
    cases stackOf { o with maxSteps := 0 } with
    | error e => rfl
    | ok stack =>
      dsimp only
      cases heapsOf { o with maxSteps := 0 } with
      | error e => rfl
      | ok x => simp [Except.map, budgeted, mapLedger, Ledger.budgeted, ledger, Meter.ofLimit]

/-- A step counts the instruction that it executes, if it executes one. -/
theorem step_steps (m : Machine) :
    m.step.machine.meter.limit = m.meter.limit ∧
      m.step.machine.steps = m.steps + UInt64.ofNat m.pays.toNat := by
  have hcount := Meter.consume_consumed m.meter
  cases m.stepCase with
  | ended f hfetch hstep =>
    rw [hstep, pays, hfetch]
    exact ⟨rfl, (UInt64.add_zero m.steps).symm⟩
  | refused f line hfetch hstep =>
    have hmeter : (m.record line.1 line.2).meter = m.meter := by
      unfold record
      split <;> rfl
    rw [hstep, Step.machine, steps, hmeter, pays, hfetch]
    exact ⟨rfl, (UInt64.add_zero m.steps).symm⟩
  | unpaid i hfetch hpaid hstep =>
    rw [hstep, pays, hfetch]
    exact ⟨Meter.consume_limit m.meter 1, hcount⟩
  | executed i hexec =>
    rw [steps, hexec.step_meter, hexec.pays_eq]
    rw [hexec.paid] at hcount
    exact ⟨Meter.consume_limit m.meter 1, hcount⟩

theorem record_budgeted (limit : UInt64) (m : Machine) (mnemonic : String) (args : List Word) :
    (m.budgeted limit).record mnemonic args = (m.record mnemonic args).budgeted limit := by
  unfold record
  by_cases htracing : m.tracing = true
  · rw [if_pos htracing, if_pos (show (m.budgeted limit).tracing = true from htracing)]
    rfl
  · rw [if_neg htracing, if_neg (show ¬(m.budgeted limit).tracing = true from htracing)]

theorem charged_budgeted (hfree : m.meter.limit = 0) (hwithin : m.steps < limit) :
    (m.budgeted limit).charged i = (m.charged i).budgeted limit := by
  have hmeter : (m.budgeted limit).meter.consume 1 =
      (⟨limit, limit - (m.steps + 1), m.steps + 1⟩, true) := Meter.consume_within hwithin
  have hrecord := record_budgeted limit
    { m with meter := { m.meter with consumed := m.meter.consumed + 1 } } i.op.mnemonic i.args
  unfold charged
  rw [hmeter, Meter.consume_free hfree]
  exact congrArg (fun m : Machine => { m with ip := i.next }) hrecord

/-- Within a budget, a step is the step without one. -/
theorem step_budgeted (hfree : m.meter.limit = 0)
    (hwithin : ∀ i, m.fetch = .ready i → m.steps < limit) :
    (m.budgeted limit).step = m.step.mapLedger (.budgeted limit) := by
  have hfetch : (m.budgeted limit).fetch = m.fetch := rfl
  cases hm : m.fetch with
  | refused f shown =>
    unfold step
    rw [hfetch, hm]
    cases shown with
    | none => rfl
    | some line => exact congrArg (Step.fault · f) (record_budgeted limit m line.1 line.2)
  | ready i =>
    have hlt := hwithin i hm
    have hexec : m.Executes i := ⟨hm, by rw [Meter.consume_free hfree]⟩
    have hexec' : (m.budgeted limit).Executes i :=
      ⟨hfetch.trans hm, congrArg Prod.snd (Meter.consume_within hlt)⟩
    rw [hexec.step_eq, hexec'.step_eq, charged_budgeted hfree hlt, budgeted, exec_mapLedger]
    cases (m.charged i).exec i.op (i.args.getD 0 0) (i.args.getD 1 0) <;> rfl

/-- Behind a budget, an instruction that can be read is not executed. -/
theorem step_exhausted (hlimit : 0 < limit) (hused : m.steps = limit)
    (hfetch : m.fetch = .ready i) :
    (m.budgeted limit).step =
      .fault (m.budgeted limit) (m.faultAt i .stepLimitExceeded "") := by
  have hmeter : (m.budgeted limit).meter = ⟨limit, 0, m.steps⟩ := by
    have hleft : limit - m.steps = 0 := by rw [hused, UInt64.sub_self]
    rw [← hleft]
    rfl
  have hsame : { m.budgeted limit with meter := ⟨limit, 0, m.steps⟩ } = m.budgeted limit := by
    rw [← hmeter]
  have hfetch' : (m.budgeted limit).fetch = .ready i := hfetch
  unfold step
  rw [hfetch', hmeter, Meter.consume_exhausted hlimit]
  exact congrArg (Step.fault · _) hsame

/-! ### Runs with and without a budget -/

/-- A machine with a budget of which `k` steps are left ends as the machine without one, which then
executes at most `k` instructions, or it stops at the instruction that the other machine executes
after `k` others. -/
theorem advance_budgeted (hlimit : 0 < limit) {k fuel : Nat} (hfree : m.meter.limit = 0)
    (hleft : m.steps.toNat + k = limit.toNat) (hfuel : k < fuel) :
    (∃ n, (m.advance n).2 ≠ .unfinished ∧ paidSteps n m ≤ k ∧
        (m.budgeted limit).advance fuel = ((m.advance n).1.budgeted limit, (m.advance n).2)) ∨
      ∃ i, (m.advance k).2 = .unfinished ∧ (m.advance k).1.Executes i ∧
        (m.budgeted limit).advance fuel =
          ({ (m.advance k).1.budgeted limit with phase := .faulted },
            .faulted ((m.advance k).1.faultAt i .stepLimitExceeded "")) := by
  induction fuel generalizing m k with
  | zero => exact absurd hfuel (Nat.not_lt_zero k)
  | succ fuel ih =>
    by_cases hstop : k = 0 ∧ ∃ i, m.fetch = .ready i
    · -- Nothing is left for an instruction that can be read.
      obtain ⟨rfl, i, hfetch⟩ := hstop
      have hused : m.steps = limit := UInt64.toNat_inj.1 (by omega)
      have hexec : m.Executes i := ⟨hfetch, by rw [Meter.consume_free hfree]⟩
      have hrun : (m.budgeted limit).advance (fuel + 1) =
          ({ m.budgeted limit with phase := .faulted },
            .faulted (m.faultAt i .stepLimitExceeded "")) := by
        rw [advance, step_exhausted hlimit hused hfetch]
      exact .inr ⟨i, rfl, hexec, hrun⟩
    · have hpos {i : Instruction} (hfetch : m.fetch = .ready i) : 0 < k :=
        Nat.pos_of_ne_zero fun hk => hstop ⟨hk, i, hfetch⟩
      have hwithin (i : Instruction) (hfetch : m.fetch = .ready i) : m.steps < limit := by
        have := hpos hfetch
        exact UInt64.lt_iff_toNat_lt.2 (by omega)
      have hstep : (m.budgeted limit).step = m.step.mapLedger (.budgeted limit) :=
        step_budgeted hfree hwithin
      have hpaid : m.pays.toNat ≤ k := by
        unfold pays
        cases hfetch : m.fetch with
        | refused f shown => exact Nat.zero_le k
        | ready i => exact Nat.le_trans (Bool.toNat_le _) (hpos hfetch)
      cases hs : m.step with
      | next m₁ =>
        obtain ⟨i, hexec⟩ := executes_of_step hs
        obtain ⟨k, rfl⟩ : ∃ n, k = n + 1 := ⟨k - 1, by have := hpos hexec.fetch_eq; omega⟩
        obtain ⟨hlimit₁, hcount⟩ := step_steps m
        rw [hs] at hlimit₁
        rw [hs, hexec.pays_eq] at hcount
        have hfree₁ : m₁.meter.limit = 0 := hlimit₁.trans hfree
        have hleft₁ : m₁.steps.toNat + k = limit.toNat := by
          have hlt := limit.toNat_lt
          have hone : (1 : UInt64).toNat = 1 := rfl
          rw [show m₁.steps = m.steps + 1 from hcount, UInt64.toNat_add,
            Nat.mod_eq_of_lt (by omega)]
          omega
        have hrun : (m.budgeted limit).advance (fuel + 1) = (m₁.budgeted limit).advance fuel := by
          rw [advance, hstep, hs]
          rfl
        have hfirst (n : Nat) : m.advance (n + 1) = m₁.advance n := by
          rw [advance, hs]
        rw [hrun]
        rcases ih (m := m₁) hfree₁ hleft₁ (by omega) with ⟨n, hend, hle, heq⟩ | ⟨j, hgoes, hj, heq⟩
        · refine .inl ⟨n + 1, ?_⟩
          rw [hfirst, paidSteps_of_next hs]
          exact ⟨hend, by omega, heq⟩
        · refine .inr ⟨j, ?_⟩
          rw [hfirst]
          exact ⟨hgoes, hj, heq⟩
      | halt m₁ | fault m₁ f =>
        rw [hs] at hstep
        refine .inl ⟨1, ?_⟩
        rw [advance, advance, paidSteps, hs, hstep]
        exact ⟨Outcome.noConfusion, hpaid, rfl⟩

/-- A run counts the instructions that it executes. -/
theorem advance_steps (n : Nat) (m : Machine) :
    (m.advance n).1.steps = m.steps + UInt64.ofNat (paidSteps n m) := by
  induction n generalizing m with
  | zero => exact (UInt64.add_zero m.steps).symm
  | succ n ih =>
    obtain ⟨-, hsteps⟩ := step_steps m
    rw [advance, paidSteps]
    cases hs : m.step with
    | next m' =>
      rw [hs] at hsteps
      rw [UInt64.ofNat_add, ← UInt64.add_assoc, ← hsteps]
      exact ih m'
    | halt m' | fault m' f =>
      rw [hs] at hsteps
      exact hsteps

/-- A budget bounds a run and does nothing else. A machine that is made with a budget is the one
that is made without, with the budget, and always ends within one step more. If the same machine
without a budget ends and has executed no more instructions than the budget covers, both end in the
same way and leave the same, up to the meter. In every other case the machine stops at the first
instruction that is not covered, and leaves what the other machine has at that point. -/
theorem run_budgeted (hready : m.phase = .ready) (hfree : m.meter = .ofLimit 0) (hlimit : 0 < limit)
    {fuel : Nat} (hfuel : limit.toNat < fuel) :
    (∀ (code : Program) (entry : Int) (o : Options),
      Machine.create code entry { o with maxSteps := 0 } = .ok m →
      Machine.create code entry { o with maxSteps := limit } = .ok (m.budgeted limit)) ∧
    ((m.budgeted limit).run fuel).2 ≠ .unfinished ∧
    (∀ n, (m.run n).2 ≠ .unfinished → m.executed n ≤ limit.toNat →
      (m.after n).steps.toNat = m.executed n ∧
      (m.budgeted limit).run fuel = ((m.after n).budgeted limit, (m.run n).2)) ∧
    ((∀ n, (m.run n).2 ≠ .unfinished → limit.toNat < m.executed n) →
      ∃ i, (m.run limit.toNat).2 = .unfinished ∧ (m.after limit.toNat).Executes i ∧
        (m.after limit.toNat).steps = limit ∧
        (m.budgeted limit).run fuel =
          ({ (m.after limit.toNat).budgeted limit with phase := .faulted },
            .faulted ((m.after limit.toNat).faultAt i .stepLimitExceeded ""))) := by
  have hcreate (code : Program) (entry : Int) (o : Options)
      (hm : Machine.create code entry { o with maxSteps := 0 } = .ok m) :
      Machine.create code entry { o with maxSteps := limit } = .ok (m.budgeted limit) := by
    rw [create_budgeted, hm]
    rfl
  have hfree' : { m with phase := .running }.meter.limit = 0 := congrArg Meter.limit hfree
  have hzero : { m with phase := .running }.steps = 0 := congrArg Meter.consumed hfree
  have hcount (n : Nat) : (m.after n).steps = UInt64.ofNat (m.executed n) := by
    rw [after, run_of_ready hready, advance_steps, hzero, UInt64.zero_add, executed]
  have hbudgeted : (m.budgeted limit).run fuel =
      (budgeted { m with phase := .running } limit).advance fuel :=
    run_of_ready (m := m.budgeted limit) hready fuel
  have hleft : { m with phase := .running }.steps.toNat + limit.toNat = limit.toNat := by
    rw [hzero]
    exact Nat.zero_add _
  have hcases := advance_budgeted hlimit hfree' hleft hfuel
  rw [← hbudgeted] at hcases
  simp only [after, executed, run_of_ready hready] at hcount ⊢
  rcases hcases with ⟨n, hend, hle, heq⟩ | ⟨i, hgoes, hi, heq⟩
  · refine ⟨hcreate, by rw [heq]; exact hend, fun n' hend' hle' => ⟨?_, ?_⟩, fun hmore => ?_⟩
    · rw [hcount, UInt64.toNat_ofNat_of_lt' (Nat.lt_of_le_of_lt hle' limit.toNat_lt)]
    · rw [heq, ← advance_mono (Nat.le_max_left n n') hend,
        advance_mono (Nat.le_max_right n n') hend']
    · exact absurd hle (Nat.not_le_of_lt (hmore n hend))
  · refine ⟨hcreate, by rw [heq]; exact Outcome.noConfusion, fun n hend hle => ?_,
      fun _ => ⟨i, hgoes, hi, ?_, heq⟩⟩
    · exact absurd hle (Nat.not_le_of_lt (lt_paidSteps hgoes hi hend))
    · rw [hcount, paidSteps_of_unfinished hgoes]
      exact UInt64.ofNat_toNat

/-- A program that prints without end. -/
def endless : Program :=
  ⟨#[23, 14, 6, 0]⟩

/-- Of seven instructions two print. The eighth would be the third to do so, and the ninth would
branch back to the start. -/
theorem endless_budgeted :
    ∃ m l, Machine.create endless 0 { stackSize := 4 } = .ok m ∧
      Machine.create endless 0 { stackSize := 4, maxSteps := 7 } = .ok l ∧
      (∀ n, (m.run n).2 ≠ .unfinished → 7 < m.executed n) ∧
      l.run 8 = ({ (m.after 7).budgeted 7 with phase := .faulted }, .faulted
        { reason := .kind .stepLimitExceeded, opcode := 14, mnemonic := "PRINT", ip := 1 }) ∧
      (m.after 7).steps = 7 ∧ (m.after 7).printed = #[1, 1] := by
  let m : Machine :=
    { code := endless, engine := .sequential, lane := Fault.noLane, ip := 0,
      stack := Array.replicate 4 0, height :=
        0, fp := 0, depth := 0, heaps := #[Heap.zeros 100], meter := .ofLimit 0, phase := .ready,
      printed := #[], tracing := false, trace := #[] }
  have hm : Machine.create endless 0 { stackSize := 4 } = .ok m := rfl
  have hgoes : (m.run 7).2 = .unfinished := by decide +kernel
  have hexec : (m.after 7).Executes ⟨1, .print, []⟩ :=
    executes_of_decode (by decide +kernel) (by decide +kernel) (by decide +kernel)
  have hmore (n : Nat) (hend : (m.run n).2 ≠ .unfinished) : 7 < m.executed n := by
    rw [run_of_ready rfl] at hend hgoes
    rw [after, run_of_ready rfl] at hexec
    exact lt_paidSteps hgoes hexec hend
  obtain ⟨hcreate, -, -, hstop⟩ := @run_budgeted m 7 rfl rfl (by decide) 8 (Nat.lt_succ_self 7)
  have hl : Machine.create endless 0 { stackSize := 4, maxSteps := 7 } = .ok (m.budgeted 7) :=
    hcreate endless 0 { stackSize := 4 } hm
  obtain ⟨i, -, hi, hsteps, hrun⟩ := hstop hmore
  obtain rfl := hexec.inj hi
  refine ⟨m, _, hm, hl, hmore, hrun.trans ?_, hsteps, by decide +kernel⟩
  exact congrArg (fun f => (_, Outcome.faulted f)) (by decide +kernel)

end Machine

end Lanewise
