import Lanewise.Proofs.Machine.View
import Lanewise.Proofs.Program.Walk

/-!
# Runs outside of subroutines

As long as a program neither enters nor leaves a subroutine, a run can be followed on the view of
its machine alone. A machine without a step budget counts the steps of its view, halts where its
view halts, and faults where its view fails. What a program does is then a calculation with lists,
in which the storage of the stack, the meter and the trace do not occur.

## Main definitions

* `Setting`, `View.step`, `View.advance`: steps and runs on views.
* `Machine.Calm`: a machine outside of subroutines, without a step budget.

## Main results

* `Machine.Calm.advance`: steps follow their view.
* `Machine.Prepared.run_halts`, `Machine.Prepared.run_faults`: runs end as their views do.
-/

namespace Lanewise

/-! ### Steps on views -/

/-- What no instruction changes. -/
structure Setting where
  code : Program
  engine : Engine
  lane : Word
  /-- The capacity of the stack. -/
  room : Nat

namespace View

/-- What a step on a view leads to. -/
def step (s : Setting) (v : View) : Effect :=
  match (Instruction.decode s.code v.ip).toOption with
  | some i =>
    if i.op.modes.meets s.engine.modes then
      exec { v with ip := i.next } s.lane s.room i.op (i.args.getD 0 0)
    else .unseen
  | none => .unseen

/-- The view after some steps, if each of them leads on. -/
def advance (s : Setting) : Nat → View → Option View
  | 0, v => some v
  | n + 1, v =>
    match v.step s with
    | .next v => advance s n v
    | _ => none

variable {s : Setting} {v v' v'' : View} {n k : Nat}

theorem advance_succ_of_next (h : v.step s = .next v') : advance s (n + 1) v = advance s n v' := by
  rw [advance, h]

/-- Steps one after another. -/
theorem advance_trans (h : advance s n v = some v') : advance s (n + k) v = advance s k v' := by
  induction n generalizing v with
  | zero =>
    cases h
    rw [Nat.zero_add]
  | succ n ih =>
    unfold advance at h
    cases hstep : v.step s with
    | next v₁ =>
      rw [hstep] at h
      rw [Nat.succ_add, advance_succ_of_next hstep, ih h]
    | halt v₁ | fail kind | unseen =>
      rw [hstep] at h
      cases h

/-! ### Blocks -/

/-- Executes instructions one after another, each at its place. -/
def through (lane : Word) (room : Nat) : List Instruction → View → Option View
  | [], v => some v
  | i :: rest, v =>
    if v.ip = i.ip then
      match exec { v with ip := i.next } lane room i.op (i.args.getD 0 0) with
      | .next v => through lane room rest v
      | _ => none
    else none

/-- A step reads the instruction that the walk through the program meets at its position. -/
theorem step_of_mem_walk {i : Instruction} (hi : i ∈ s.code.walk)
    (hmeets : i.op.modes.meets s.engine.modes = true) (hip : v.ip = i.ip) :
    v.step s = exec { v with ip := i.next } s.lane s.room i.op (i.args.getD 0 0) := by
  unfold step
  rw [hip, Program.decode_of_mem_walkFrom hi]
  exact if_pos hmeets

/-- Steps through instructions of the program. -/
theorem advance_through {is : List Instruction} (hwalk : is ⊆ s.code.walk)
    (hmeets : ∀ i ∈ s.code.walk, i.op.modes.meets s.engine.modes = true)
    (h : through s.lane s.room is v = some v') : advance s is.length v = some v' := by
  induction is generalizing v with
  | nil => exact h
  | cons i rest ih =>
    obtain ⟨hi, hrest⟩ := List.cons_subset.1 hwalk
    unfold through at h
    split at h
    · next hip =>
      have hstep := step_of_mem_walk hi (hmeets i hi) hip
      rw [List.length_cons, advance, hstep]
      cases heffect : exec { v with ip := i.next } s.lane s.room i.op (i.args.getD 0 0) with
      | next v₁ =>
        rw [heffect] at h
        exact ih hrest h
      | halt v₁ | fail kind | unseen =>
        rw [heffect] at h
        cases h
    · cases h

end View

namespace Machine

/-! ### Machines and their views -/

/-- The setting of a machine. -/
def setting (m : Machine) : Setting :=
  ⟨m.code, m.engine, m.lane, m.stack.size⟩

/-- A machine outside of subroutines that has no step budget and has counted `count` steps. -/
structure Calm (s : Setting) (count : Nat) (m : Machine) : Prop extends Bounded m where
  setting_eq : m.setting = s
  fp_eq : m.fp = 0
  free : m.meter.limit = 0
  steps_eq : m.steps = UInt64.ofNat count

variable {m : Machine} {s : Setting} {count n fuel : Nat} {v v' : View} {kind : Fault.Kind}

theorem Calm.flat (h : m.Calm s count) : m.Flat s.lane s.room :=
  ⟨by rw [← h.setting_eq]; rfl, by rw [← h.setting_eq]; rfl, h.height_le, h.fp_eq⟩

/-- A machine that has not run and has no step budget is about to take its first step. -/
theorem Prepared.calm (h : Prepared m) (hfree : m.meter.limit = 0) :
    Calm m.setting 0 { m with phase := .running } where
  height_le := h.bounded.height_le
  fp_lt := h.bounded.fp_lt
  setting_eq := rfl
  fp_eq := h.start.2.1
  free := hfree
  steps_eq := congrArg Meter.consumed h.unrun.2.2.2

/-- The number of live cells is that of the cells that show. -/
theorem Calm.height_eq (h : m.Calm s count) : m.height = m.view.cells.length :=
  h.flat.length_cells.symm

theorem charged_flat {i : Instruction} {lane : Word} {room : Nat} (h : m.Flat lane room) :
    (m.charged i).Flat lane room := by
  unfold charged record
  split <;> exact { h with }

theorem charged_view (m : Machine) (i : Instruction) :
    (m.charged i).view = { m.view with ip := i.next } := by
  unfold charged record
  split <;> rfl

/-- A step that its view shows is an instruction, and leaves what the view says. -/
theorem Calm.executes (h : m.Calm s count) (hseen : m.view.step s ≠ .unseen) :
    ∃ i, m.Executes i ∧ i.op ≠ .call ∧ i.op ≠ .ret ∧
      ((m.charged i).exec i.op (i.args.getD 0 0) (i.args.getD 1 0)).view = m.view.step s := by
  have hcode : m.code = s.code := congrArg Setting.code h.setting_eq
  have hengine : m.engine = s.engine := congrArg Setting.engine h.setting_eq
  unfold View.step at hseen ⊢
  rw [← hcode, ← hengine, show m.view.ip = m.ip from rfl] at hseen ⊢
  cases hdecode : (Instruction.decode m.code m.ip).toOption with
  | none =>
    rw [hdecode] at hseen
    exact absurd rfl hseen
  | some i =>
    rw [hdecode] at hseen
    dsimp only at hseen ⊢
    split at hseen
    · next hmeets =>
      have hcall : i.op ≠ .call := fun hop => hseen (by rw [hop]; rfl)
      have hret : i.op ≠ .ret := fun hop => hseen (by rw [hop]; rfl)
      have hexec : m.Executes i :=
        executes_of_decode hdecode hmeets (by rw [Meter.consume_free h.free])
      rw [if_pos hmeets]
      refine ⟨i, hexec, hcall, hret, ?_⟩
      rw [exec_view (charged_flat h.flat) hcall hret, charged_view]
    · exact absurd rfl hseen

/-- A step of a machine counts, and keeps what no instruction changes. -/
theorem Calm.step_machine (h : m.Calm s count) {i : Instruction} (hexec : m.Executes i)
    (hcall : i.op ≠ .call) (hret : i.op ≠ .ret) : Calm s (count + 1) m.step.machine := by
  have hkeeps := step_keeps h.keeps
  have hmeter := hexec.step_meter
  rw [Meter.consume_free h.free] at hmeter
  have hfp : m.step.machine.fp = 0 := by
    have hbeside := exec_beside (m := m.charged i) hcall hret (i.args.getD 0 0) (i.args.getD 1 0)
    have hstep := hexec.step_eq
    have hsame : m.step.machine.fp =
        ((m.charged i).exec i.op (i.args.getD 0 0) (i.args.getD 1 0)).machine.fp := by
      rw [hstep]
      cases (m.charged i).exec i.op (i.args.getD 0 0) (i.args.getD 1 0) <;> rfl
    rw [hsame, hbeside.fp_eq, charged_fp, h.fp_eq]
  refine { hkeeps.toBounded with setting_eq := ?_, fp_eq := hfp, free := ?_, steps_eq := ?_ }
  · rw [← h.setting_eq]
    simp only [setting, hkeeps.code_eq, hkeeps.engine_eq, hkeeps.lane_eq, hkeeps.stack_size]
  · rw [hmeter]
    exact h.free
  · rw [steps, hmeter, UInt64.ofNat_add, ← h.steps_eq]
    rfl

/-- A step that its view shows is the effect of an instruction, and the view shows the effect. -/
theorem Calm.step_effect (h : m.Calm s count) (hseen : m.view.step s ≠ .unseen) :
    ∃ (i : Instruction) (effect : Effect), effect.view = m.view.step s ∧
      Calm s (count + 1) m.step.machine ∧ m.step = match effect with
        | .next m' => .next m'
        | .halt m' => .halt m'
        | .fail m' kind note => .fault m' (m'.faultAt i kind note) := by
  obtain ⟨i, hexec, hcall, hret, hview⟩ := h.executes hseen
  exact ⟨i, _, hview, h.step_machine hexec hcall hret, hexec.step_eq⟩

/-- A step that leads on in the view. -/
theorem Calm.step_next (h : m.Calm s count) (hv : m.view.step s = .next v) :
    ∃ m', m.step = .next m' ∧ Calm s (count + 1) m' ∧ m'.view = v := by
  obtain ⟨i, effect, hview, hcalm, hstep⟩ :=
    h.step_effect (by rw [hv]; exact View.Effect.noConfusion)
  rw [hv] at hview
  cases effect with
  | next m' =>
    rw [hstep] at hcalm
    exact ⟨m', hstep, hcalm, View.Effect.next.inj hview⟩
  | halt m' | fail m' kind note => cases hview

/-- A step that halts in the view. -/
theorem Calm.step_halt (h : m.Calm s count) (hv : m.view.step s = .halt v) :
    ∃ m', m.step = .halt m' ∧ Calm s (count + 1) m' ∧ m'.view = v := by
  obtain ⟨i, effect, hview, hcalm, hstep⟩ :=
    h.step_effect (by rw [hv]; exact View.Effect.noConfusion)
  rw [hv] at hview
  cases effect with
  | halt m' =>
    rw [hstep] at hcalm
    exact ⟨m', hstep, hcalm, View.Effect.halt.inj hview⟩
  | next m' | fail m' kind note => cases hview

/-- A step that fails in the view. -/
theorem Calm.step_fail (h : m.Calm s count) (hv : m.view.step s = .fail kind) :
    ∃ m' f, m.step = .fault m' f ∧ Calm s (count + 1) m' ∧ m'.heaps = m.heaps ∧
      f.reason = .kind kind ∧ f.ip = m.ip ∧ f.lane = s.lane := by
  obtain ⟨i, effect, hview, hcalm, hstep⟩ :=
    h.step_effect (by rw [hv]; exact View.Effect.noConfusion)
  rw [hv] at hview
  cases effect with
  | fail m' kind' note =>
    obtain ⟨hleaves, hip⟩ := step_fault_leaves hstep
    rw [hstep] at hcalm
    cases hview
    exact ⟨m', _, hstep, hcalm, hleaves.heaps_eq, rfl, hip, hcalm.flat.lane_eq⟩
  | next m' | halt m' => cases hview

/-- Steps that lead on in the view. -/
theorem Calm.advance (h : m.Calm s count) (hv : View.advance s n m.view = some v) :
    ∃ m', m.advance n = (m', .unfinished) ∧ Calm s (count + n) m' ∧ m'.view = v := by
  induction n generalizing m count with
  | zero => exact ⟨m, rfl, h, Option.some.inj hv⟩
  | succ n ih =>
    unfold View.advance at hv
    cases hstep : m.view.step s with
    | next v₁ =>
      rw [hstep] at hv
      obtain ⟨m₁, hm₁, hcalm₁, rfl⟩ := h.step_next hstep
      obtain ⟨m', hm', hcalm', hv'⟩ := ih hcalm₁ hv
      refine ⟨m', ?_, ?_, hv'⟩
      · rw [Machine.advance, hm₁]
        exact hm'
      · rw [Nat.add_right_comm] at hcalm'
        exact hcalm'
    | halt v₁ | fail kind | unseen =>
      rw [hstep] at hv
      cases hv

/-! ### Runs -/

section Runs

variable (hm : Prepared m) (hfree : m.meter.limit = 0)
  (hv : View.advance m.setting n m.view = some v)
include hm hfree hv

/-- A run goes on for as long as its view does. -/
theorem Prepared.run_unfinished : (m.run n).2 = .unfinished := by
  obtain ⟨m₁, hm₁, -, -⟩ := (hm.calm hfree).advance hv
  rw [run_of_ready hm.unrun.1, hm₁]

/-- A run halts where its view does. -/
theorem Prepared.run_halts (hhalt : v.step m.setting = .halt v') (hfuel : n < fuel) :
    ∃ m', m.run fuel = (m', .halted ⟨v'.printed, UInt64.ofNat (n + 1)⟩) ∧ m'.phase = .halted ∧
      m'.steps = UInt64.ofNat (n + 1) ∧ m'.height = v'.cells.length ∧ m'.view = v' := by
  obtain ⟨m₁, hm₁, hcalm₁, rfl⟩ := (hm.calm hfree).advance hv
  obtain ⟨m', hm', hcalm', rfl⟩ := hcalm₁.step_halt hhalt
  have hsteps : m'.steps = UInt64.ofNat (n + 1) := by
    have := hcalm'.steps_eq
    rwa [Nat.zero_add] at this
  have hrun : m.run (n + 1) =
      ({ m' with phase := .halted }, .halted ⟨m'.printed, UInt64.ofNat (n + 1)⟩) := by
    rw [run_of_ready hm.unrun.1, advance_add (congrArg Prod.snd hm₁), hm₁, Machine.advance, hm',
      ← hsteps]
  refine ⟨{ m' with phase := .halted }, ?_, rfl, hsteps, hcalm'.height_eq, rfl⟩
  rw [run_mono (show n + 1 ≤ fuel from hfuel) (by rw [hrun]; exact Outcome.noConfusion), hrun]
  rfl

/-- A run faults where its view fails. -/
theorem Prepared.run_faults (hfail : v.step m.setting = .fail kind) (hfuel : n < fuel) :
    ∃ m' f, m.run fuel = (m', .faulted f) ∧ m'.heaps = v.heaps ∧
      f.reason = .kind kind ∧ f.ip = v.ip ∧ f.lane = m.lane := by
  obtain ⟨m₁, hm₁, hcalm₁, rfl⟩ := (hm.calm hfree).advance hv
  obtain ⟨m', f, hm', -, hheaps, hreason, hip, hlane⟩ := hcalm₁.step_fail hfail
  have hrun : m.run (n + 1) = ({ m' with phase := .faulted }, .faulted f) := by
    rw [run_of_ready hm.unrun.1, advance_add (congrArg Prod.snd hm₁), hm₁, Machine.advance, hm']
  refine ⟨{ m' with phase := .faulted }, f, ?_, hheaps, hreason, hip, hlane⟩
  rw [run_mono (show n + 1 ≤ fuel from hfuel) (by rw [hrun]; exact Outcome.noConfusion), hrun]

end Runs

end Machine

end Lanewise
