import Lanewise.Machine.Step
import Lanewise.Proofs.Program.Walk

/-!
# Reading instructions

A machine reads the instruction at its position by itself, and a program is checked beforehand by
the decoder. Both read the same: where the decoder finds an instruction the machine has the same
one, unless it belongs to the other engine, and where it finds none the machine has a fault of the
kind that the error stands for. An instruction that is cut off is a cut-off instruction for the
machine too, whichever engine it belongs to.

So the walk that accepts a program asks just what a machine asks that is put on each position of the
walk.

## Main definitions

* `Modes.Has`: the engines in a set of engines.
* `Machine.Refuses`: a machine reads no instruction, for a reason of a given kind.
* `Machine.FetchCase`: the ways in which reading can go, beside what the decoder says.
* `Machine.ReadsAsDecoded`: machine and decoder agree.

## Main results

* `Machine.fetchCase`: reading goes in one of these ways.
* `Machine.reads_as_decoded`: machine and decoder agree about every program at every position.
-/

namespace Lanewise

/-- An engine is a member of a set of engines. -/
def Modes.Has (s : Modes) (e : Engine) : Prop :=
  s.bits &&& e.modes.bits = e.modes.bits

instance (s : Modes) (e : Engine) : Decidable (s.Has e) :=
  inferInstanceAs (Decidable (_ = _))

/-- One engine has something in common with the engines of an opcode if it is one of them. -/
theorem Opcode.modes_meets_iff (op : Opcode) (e : Engine) :
    op.modes.meets e.modes = true ↔ op.modes.Has e := by
  cases op <;> cases e <;> decide

/-- The kind of fault that an error of the decoder stands for. -/
def Instruction.Error.faultKind : Instruction.Error → Fault.Kind
  | ipOutOfRange _ => .ipOutOfRange
  | unknownOpcode _ _ => .unknownOpcode
  | truncated _ _ => .truncatedInstruction

namespace Machine

variable {m : Machine} {i : Instruction} {kind : Fault.Kind}

/-- The machine reads no instruction, and a fault of the given kind says why. -/
def Refuses (m : Machine) (kind : Fault.Kind) : Prop :=
  ∃ f shown, m.fetch = .refused f shown ∧ f.reason = .kind kind

/-- The ways in which reading an instruction can go, and what the decoder says in each of them. -/
inductive FetchCase (m : Machine) : Prop
  | ready (i : Instruction) (hdecode : Instruction.decode m.code m.ip = .ok i)
      (hmeets : i.op.modes.meets m.engine.modes = true) (hfetch : m.fetch = .ready i)
  /-- The instruction belongs to the other engine. -/
  | notAllowed (i : Instruction) (hdecode : Instruction.decode m.code m.ip = .ok i)
      (hmeets : ¬i.op.modes.meets m.engine.modes = true) (f : Fault)
        (shown : Option (String × List Word))
      (hfetch : m.fetch = .refused f shown) (hreason : f.reason = .kind .opcodeNotAllowed)
  /-- There is no instruction. -/
  | unreadable (e : Instruction.Error) (hdecode : Instruction.decode m.code m.ip = .error e)
      (f : Fault) (shown : Option (String × List Word)) (hfetch : m.fetch = .refused f shown)
      (hreason : f.reason = .kind e.faultKind)

theorem fetchCase (m : Machine) : m.FetchCase := by
  cases hat : m.code.at? m.ip with
  | none =>
    have hdecode : Instruction.decode m.code m.ip = .error (.ipOutOfRange m.ip) := by
      rw [Instruction.decode, hat]
    exact .unreadable _ hdecode _ _ (by rw [fetch, hat]) (by rfl)
  | some w =>
    cases hop : Opcode.ofWord? w with
    | none =>
      have hdecode : Instruction.decode m.code m.ip = .error (.unknownOpcode w m.ip.toNat) := by
        simp only [Instruction.decode, hat, hop]
      exact .unreadable _ hdecode _ _ (by simp only [fetch, hat, hop]; rfl) (by rfl)
    | some op =>
      by_cases hlength : (Instruction.operandsAt m.code m.ip.toNat op.operands).length = op.operands
      · have hdecode : Instruction.decode m.code m.ip =
            .ok ⟨m.ip.toNat, op, Instruction.operandsAt m.code m.ip.toNat op.operands⟩ := by
          simp only [Instruction.decode, hat, hop, if_pos hlength]
        by_cases hmeets : op.modes.meets m.engine.modes = true
        · refine .ready _ hdecode hmeets ?_
          simp only [fetch, hat, hop, if_neg (not_not_intro hlength), hmeets]
          rfl
        · have hother := Bool.eq_false_iff.2 hmeets
          exact .notAllowed _ hdecode hmeets _ _
            (by simp only [fetch, hat, hop, if_neg (not_not_intro hlength), hother]; rfl) (by rfl)
      · have hdecode : Instruction.decode m.code m.ip = .error (.truncated op m.ip.toNat) := by
          simp only [Instruction.decode, hat, hop, if_neg hlength]
        exact .unreadable _ hdecode _ _ (by simp only [fetch, hat, hop]; exact if_pos hlength)
          (by rfl)

/-- An instruction is read if the decoder finds it and it belongs to the engine of the machine. -/
theorem fetch_eq_ready_iff :
    m.fetch = .ready i ↔
      Instruction.decode m.code m.ip = .ok i ∧ i.op.modes.meets m.engine.modes = true := by
  cases m.fetchCase with
  | ready j hdecode hmeets hfetch =>
    rw [hfetch, hdecode, Fetched.ready.injEq, Except.ok.injEq]
    constructor
    · rintro rfl
      exact ⟨rfl, hmeets⟩
    · exact And.left
  | notAllowed j hdecode hmeets f shown hfetch =>
    rw [hfetch, hdecode]
    refine iff_of_false (fun h => by cases h) ?_
    rintro ⟨h, hmeets'⟩
    cases h
    exact hmeets hmeets'
  | unreadable e hdecode f shown hfetch =>
    rw [hfetch, hdecode]
    exact iff_of_false (fun h => by cases h) fun h => by cases h.1

/-- Why no instruction is read: the decoder finds none, or it finds one of the other engine. -/
theorem refuses_iff :
    m.Refuses kind ↔
      (∃ e, Instruction.decode m.code m.ip = .error e ∧ e.faultKind = kind) ∨
        (∃ i, Instruction.decode m.code m.ip = .ok i ∧ ¬i.op.modes.meets m.engine.modes = true) ∧
          kind = .opcodeNotAllowed := by
  have hkind {f : Fault} {shown : Option (String × List Word)} {k : Fault.Kind}
      (hfetch : m.fetch = .refused f shown) (hreason : f.reason = .kind k) :
        m.Refuses kind ↔ k = kind := by
    constructor
    · rintro ⟨f', shown', hfetch', hreason'⟩
      rw [hfetch] at hfetch'
      cases hfetch'
      exact Fault.Reason.kind.inj (hreason.symm.trans hreason')
    · rintro rfl
      exact ⟨f, shown, hfetch, hreason⟩
  cases m.fetchCase with
  | ready i hdecode hmeets hfetch =>
    refine iff_of_false ?_ ?_
    · rintro ⟨f, shown, hfetch', -⟩
      rw [hfetch] at hfetch'
      cases hfetch'
    · rintro (⟨e, he, -⟩ | ⟨⟨j, hj, hnot⟩, -⟩)
      · rw [hdecode] at he
        cases he
      · rw [hdecode] at hj
        cases hj
        exact hnot hmeets
  | notAllowed i hdecode hmeets f shown hfetch hreason =>
    rw [hkind hfetch hreason, hdecode]
    constructor
    · rintro rfl
      exact .inr ⟨⟨i, rfl, hmeets⟩, rfl⟩
    · rintro (⟨e, he, -⟩ | ⟨-, rfl⟩)
      · cases he
      · rfl
  | unreadable e hdecode f shown hfetch hreason =>
    rw [hkind hfetch hreason, hdecode]
    constructor
    · intro he
      exact .inl ⟨e, rfl, he⟩
    · rintro (⟨e', he, rfl⟩ | ⟨⟨i, hi, -⟩, -⟩)
      · cases he
        rfl
      · cases hi

/-- Except for instructions of the other engine, a machine has a fault where the decoder has an
error. -/
theorem refuses_iff_of_ne (h : kind ≠ .opcodeNotAllowed) :
    m.Refuses kind ↔ ∃ e, Instruction.decode m.code m.ip = .error e ∧ e.faultKind = kind := by
  rw [refuses_iff]
  exact or_iff_left fun hother => h hother.2

/-- What a machine reads is what the decoder finds, as far as its engine goes, and the check of a
program is the question whether a machine can read at each position of a walk through it. -/
structure ReadsAsDecoded (m : Machine) : Prop where
  ready_iff : ∀ i, m.fetch = .ready i ↔
    Instruction.decode m.code m.ip = .ok i ∧ i.op.modes.Has m.engine
  ipOutOfRange_iff : m.Refuses .ipOutOfRange ↔
    ∃ ip, Instruction.decode m.code m.ip = .error (.ipOutOfRange ip)
  unknownOpcode_iff : m.Refuses .unknownOpcode ↔
    ∃ w ip, Instruction.decode m.code m.ip = .error (.unknownOpcode w ip)
  truncated_iff : m.Refuses .truncatedInstruction ↔
    ∃ op ip, Instruction.decode m.code m.ip = .error (.truncated op ip)
  notAllowed_iff : m.Refuses .opcodeNotAllowed ↔
    ∃ i, Instruction.decode m.code m.ip = .ok i ∧ ¬i.op.modes.Has m.engine
  /-- There are no other reasons. -/
  refused_cases : ∀ f shown, m.fetch = .refused f shown →
    ∃ kind ∈ [.ipOutOfRange, .unknownOpcode, .truncatedInstruction, .opcodeNotAllowed],
      f.reason = .kind kind
  verify_iff : m.code.verify m.engine.modes = .ok () ↔
    m.code.size ≠ 0 ∧ ∀ pos : Nat, m.code.Visits 0 pos → ∃ i, fetch { m with ip := pos } = .ready i

/-- A machine and the decoder agree about every program at every position, inside the program or
not, for either engine. -/
theorem reads_as_decoded (m : Machine) : m.ReadsAsDecoded where
  ready_iff i := by rw [fetch_eq_ready_iff, Opcode.modes_meets_iff]
  ipOutOfRange_iff := by
    rw [refuses_iff_of_ne (by decide)]
    constructor
    · rintro ⟨e, he, hkind⟩
      cases e <;> cases hkind
      exact ⟨_, he⟩
    · rintro ⟨ip, h⟩
      exact ⟨_, h, rfl⟩
  unknownOpcode_iff := by
    rw [refuses_iff_of_ne (by decide)]
    constructor
    · rintro ⟨e, he, hkind⟩
      cases e <;> cases hkind
      exact ⟨_, _, he⟩
    · rintro ⟨w, ip, h⟩
      exact ⟨_, h, rfl⟩
  truncated_iff := by
    rw [refuses_iff_of_ne (by decide)]
    constructor
    · rintro ⟨e, he, hkind⟩
      cases e <;> cases hkind
      exact ⟨_, _, he⟩
    · rintro ⟨op, ip, h⟩
      exact ⟨_, h, rfl⟩
  notAllowed_iff := by
    rw [refuses_iff]
    constructor
    · rintro (⟨e, -, hkind⟩ | ⟨⟨i, hi, hmeets⟩, -⟩)
      · cases e <;> cases hkind
      · exact ⟨i, hi, fun h => hmeets ((Opcode.modes_meets_iff _ _).2 h)⟩
    · rintro ⟨i, hi, hnot⟩
      exact .inr ⟨⟨i, hi, fun h => hnot ((Opcode.modes_meets_iff _ _).1 h)⟩, rfl⟩
  refused_cases f shown hfetch := by
    cases m.fetchCase with
    | ready i _ _ hfetch' =>
      rw [hfetch] at hfetch'
      cases hfetch'
    | notAllowed i _ _ f' shown' hfetch' hreason =>
      rw [hfetch] at hfetch'
      cases hfetch'
      exact ⟨_, by decide, hreason⟩
    | unreadable e _ f' shown' hfetch' hreason =>
      rw [hfetch] at hfetch'
      cases hfetch'
      exact ⟨_, by cases e <;> simp [Instruction.Error.faultKind], hreason⟩
  verify_iff := by
    rw [Program.verify_eq_ok_iff_visits]
    refine and_congr_right fun _ => forall_congr' fun pos => imp_congr_right fun _ => exists_congr
      fun i => ?_
    exact (fetch_eq_ready_iff (m := { m with ip := pos })).symm

end Machine

end Lanewise
