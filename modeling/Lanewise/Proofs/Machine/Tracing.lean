import Lanewise.Proofs.Machine.Budget
import Lanewise.Proofs.Machine.ControlFlow
import Lanewise.Proofs.Machine.Failure

/-!
# Traces

A machine that keeps a trace makes the same steps as one that keeps none. The trace belongs to the
ledger of the machine, so erasing it commutes with every step, and nothing but the trace is lost.

The trace itself has one record for each instruction that is executed, made just before it is. A
word that is read but does not begin an instruction of the engine ends the run without being
executed or counted, and leaves one record more. Nothing is recorded where the program has ended, or
where the budget is used up.

## Main definitions

* `Machine.untraced`: the machine without its trace.
* `Machine.nextRecord?`, `Machine.entries`: the records of the next step, and of the steps of a run.
* `Fault.misread`: the faults of words that begin no instruction of the engine.

## Main results

* `Machine.step_untraced`: erasing the trace commutes with a step.
* `Machine.advance_trace`: the trace of a run consists of the records of its steps.
* `Machine.Prepared.run_traced`: what a trace changes, and what it says.
-/

namespace Lanewise

/-- A word was read, but it does not begin an instruction of the engine: it is no opcode, its
operands are missing, or its opcode belongs to the other engine. -/
def Fault.misread (f : Fault) : Bool :=
  match f.reason with
  | .kind .unknownOpcode | .kind .truncatedInstruction | .kind .opcodeNotAllowed => true
  | _ => false

namespace Machine

variable {m m' : Machine} {i : Instruction} {f : Fault} {n k : Nat}

/-- The run ended at a word that begins no instruction of the engine. -/
def Outcome.misread : Outcome → Bool
  | faulted f => f.misread
  | _ => false

/-! ### Erasing a trace -/

/-- The ledger of a machine that keeps no trace. -/
def Ledger.untraced (l : Ledger) : Ledger :=
  { l with tracing := false, trace := #[] }

/-- The machine without its trace. Everything else is the same. -/
def untraced (m : Machine) : Machine :=
  m.mapLedger .untraced

theorem record_untraced (m : Machine) (mnemonic : String) (args : List Word) :
    m.untraced.record mnemonic args = (m.record mnemonic args).untraced := by
  unfold record
  split
  · next htracing => exact Bool.noConfusion htracing
  · split <;> rfl

theorem perform_untraced (m : Machine) (i : Instruction) :
    m.untraced.perform i = (m.perform i).mapLedger .untraced := by
  have hexec : exec { (m.record i.op.mnemonic i.args).untraced with ip := i.next } i.op
      (i.args.getD 0 0) (i.args.getD 1 0) =
      (exec { m.record i.op.mnemonic i.args with ip := i.next } i.op (i.args.getD 0 0)
        (i.args.getD 1 0)).mapLedger .untraced :=
    exec_mapLedger { m.record i.op.mnemonic i.args with ip := i.next } .untraced i.op _ _
  unfold perform
  rw [record_untraced]
  dsimp only
  rw [hexec]
  cases exec { m.record i.op.mnemonic i.args with ip := i.next } i.op (i.args.getD 0 0)
    (i.args.getD 1 0) <;> rfl

/-- Erasing the trace commutes with a step. -/
theorem step_untraced (m : Machine) : m.untraced.step = m.step.mapLedger .untraced := by
  have hfetch : m.untraced.fetch = m.fetch := rfl
  have hmeter : m.untraced.meter = m.meter := rfl
  unfold step
  rw [hfetch, hmeter]
  cases m.fetch with
  | refused f shown =>
    cases shown with
    | none => rfl
    | some line => exact congrArg (Step.fault · f) (record_untraced m line.1 line.2)
  | ready i =>
    dsimp only
    generalize m.meter.consume 1 = charge
    obtain ⟨meter, paid⟩ := charge
    cases paid with
    | false => rfl
    | true => exact perform_untraced { m with meter } i

theorem advance_untraced (n : Nat) (m : Machine) :
    m.untraced.advance n = ((m.advance n).1.untraced, (m.advance n).2) := by
  induction n generalizing m with
  | zero => rfl
  | succ n ih =>
    have hstep := step_untraced m
    rw [advance, advance]
    cases hs : m.step with
    | next m' =>
      rw [hs] at hstep
      rw [hstep]
      exact ih m'
    | halt m' | fault m' f =>
      rw [hs] at hstep
      rw [hstep]
      rfl

/-- A machine without its trace runs in the same way. -/
theorem run_untraced (n : Nat) (m : Machine) :
    m.untraced.run n = ((m.run n).1.untraced, (m.run n).2) := by
  have hphase : m.untraced.phase = m.phase := rfl
  unfold run
  rw [hphase]
  split
  · exact advance_untraced n { m with phase := .running }
  · rfl

/-! ### The records of a run -/

/-- A record at the position of a machine. -/
def entry (m : Machine) (mnemonic : String) (args : List Word) : TraceRecord :=
  { lane := m.lane, ip := m.ip, mnemonic, args, stack := m.live }

/-- The record that the next step of a machine makes, if it makes one. -/
def nextRecord? (m : Machine) : Option TraceRecord :=
  match m.fetch with
  | .refused _ shown => shown.map fun line => m.entry line.1 line.2
  | .ready i => if (m.meter.consume 1).2 then some (m.entry i.op.mnemonic i.args) else none

/-- The records of the steps of a run. -/
def entries : (fuel : Nat) → Machine → List TraceRecord
  | 0, _ => []
  | fuel + 1, m =>
    m.nextRecord?.toList ++ match m.step with
      | .next m => entries fuel m
      | .halt _ => []
      | .fault _ _ => []

theorem Executes.nextRecord?_eq (h : m.Executes i) :
    m.nextRecord? = some (m.entry i.op.mnemonic i.args) := by
  rw [nextRecord?, h.fetch_eq]
  exact if_pos h.paid

theorem record_trace (h : m.tracing = true) (mnemonic : String) (args : List Word) :
    (m.record mnemonic args).tracing = true ∧
      (m.record mnemonic args).trace.toList = m.trace.toList ++ [m.entry mnemonic args] := by
  rw [record, if_pos h]
  exact ⟨h, Array.toList_push⟩

/-- A step of a machine that keeps a trace appends its record. -/
theorem step_trace (h : m.tracing = true) :
    m.step.machine.tracing = true ∧
      m.step.machine.trace.toList = m.trace.toList ++ m.nextRecord?.toList := by
  cases m.stepCase with
  | ended f hfetch hstep =>
    rw [hstep, nextRecord?, hfetch]
    exact ⟨h, (List.append_nil _).symm⟩
  | refused f line hfetch hstep =>
    rw [hstep, nextRecord?, hfetch]
    exact record_trace h line.1 line.2
  | unpaid i hfetch hpaid hstep =>
    rw [hstep, nextRecord?, hfetch]
    dsimp only
    rw [hpaid]
    exact ⟨h, (List.append_nil _).symm⟩
  | executed i hexec =>
    have hledger := hexec.step_ledger
    have hrecord :=
      record_trace (m := { m with meter := (m.meter.consume 1).1 }) h i.op.mnemonic i.args
    rw [hexec.nextRecord?_eq]
    exact ⟨(congrArg Ledger.tracing hledger).trans hrecord.1,
      (congrArg (·.trace.toList) hledger).trans hrecord.2⟩

/-- The trace of a run consists of the records of its steps. -/
theorem advance_trace (h : m.tracing = true) (n : Nat) :
    (m.advance n).1.trace.toList = m.trace.toList ++ m.entries n := by
  induction n generalizing m with
  | zero => exact (List.append_nil _).symm
  | succ n ih =>
    obtain ⟨htracing, htrace⟩ := step_trace h
    rw [advance, entries, ← List.append_assoc, ← htrace]
    cases hs : m.step with
    | next m' =>
      rw [hs] at htracing
      exact ih htracing
    | halt m' | fault m' f => exact (List.append_nil _).symm

/-! ### Words that begin no instruction -/

/-- The record of the word at the position of a machine, with the operands that it would have: as
many as its opcode has, as far as the program goes. -/
def sighting (m : Machine) (w : Word) : TraceRecord :=
  m.entry (Opcode.nameOf w) ((Opcode.ofWord? w).elim [] fun op =>
    Instruction.operandsAt m.code m.ip.toNat op.operands)

theorem record_sighting (m : Machine) (mnemonic : String) (args : List Word) (w : Word) :
    (m.record mnemonic args).sighting w = m.sighting w := by
  unfold record
  split <;> rfl

/-- Where nothing can be executed either there is no word or the word is misread, and then it is
shown. -/
theorem fetch_refused_shown {shown : Option (String × List Word)} (h : m.fetch = .refused f shown) :
    (shown = none ∧ f.misread = false) ∨
      ∃ w line, m.code.at? m.ip = some w ∧ f.opcode = w ∧ f.misread = true ∧ shown = some line ∧
        m.entry line.1 line.2 = m.sighting w := by
  unfold fetch at h
  cases hat : m.code.at? m.ip with
  | none =>
    rw [hat] at h
    cases h
    exact .inl ⟨rfl, rfl⟩
  | some w =>
    rw [hat] at h
    dsimp only at h
    unfold sighting Opcode.nameOf
    cases hop : Opcode.ofWord? w with
    | none =>
      rw [hop] at h
      cases h
      exact .inr ⟨w, _, rfl, rfl, rfl, rfl, by rw [Opcode.nameOf, hop]; rfl⟩
    | some op =>
      have hcode : op.code = w := (Opcode.ofWord?_eq_some_iff.1 hop).symm
      rw [hop] at h
      dsimp only at h
      split at h
      · cases h
        exact .inr ⟨w, _, rfl, hcode, rfl, rfl, by rw [hop]; rfl⟩
      · split at h
        · cases h
          exact .inr ⟨w, _, rfl, hcode, rfl, rfl, by rw [hop]; rfl⟩
        · cases h

/-- An instruction that is executed is not one that was misread. -/
theorem faultAt_misread {kind : Fault.Kind} (h : kind.ofReading = false) (m : Machine)
    (i : Instruction) (note : String) : (m.faultAt i kind note).misread = false := by
  cases kind <;> first | rfl | exact Bool.noConfusion h

theorem ret_leads (m : Machine) : m.ret.Leads fun _ => True := by
  unfold ret
  split
  · exact ⟨trivial, rfl⟩
  · refine popThen_leads trivial fun m' v _ => ?_
    unfold leave
    split
    · exact ⟨trivial, rfl⟩
    · dsimp only
      split
      · exact ⟨trivial, rfl⟩
      · split
        · exact ⟨trivial, rfl⟩
        · split
          · exact ⟨trivial, rfl⟩
          · trivial

/-- The step ends at a word that begins no instruction of the engine. -/
def Step.misread : Step → Bool
  | fault _ f => f.misread
  | _ => false

theorem Executes.step_misread (h : m.Executes i) : m.step.misread = false := by
  have hleads :
      ((m.charged i).exec i.op (i.args.getD 0 0) (i.args.getD 1 0)).Leads fun _ => True := by
    by_cases hret : i.op = .ret
    · rw [hret]
      exact ret_leads (m.charged i)
    · exact exec_leads trivial (fun _ => trivial) hret _
  rw [h.step_eq]
  cases heffect : (m.charged i).exec i.op (i.args.getD 0 0) (i.args.getD 1 0) with
  | next m' | halt m' => rfl
  | fail m' kind note =>
    rw [heffect] at hleads
    exact faultAt_misread hleads.2 m' i note

/-! ### Counting records -/

theorem executes_of_pays (h : m.pays = true) : ∃ i, m.Executes i := by
  unfold pays at h
  cases hfetch : m.fetch with
  | refused f shown =>
    rw [hfetch] at h
    cases h
  | ready i =>
    rw [hfetch] at h
    exact ⟨i, hfetch, h⟩

/-- A step makes a record if it executes an instruction or ends at a word that begins none. -/
theorem nextRecord?_length (m : Machine) :
    m.nextRecord?.toList.length = m.pays.toNat + m.step.misread.toNat := by
  cases m.stepCase with
  | ended f hfetch hstep =>
    rcases fetch_refused_shown hfetch with ⟨-, hread⟩ | ⟨w, line, -, -, -, hshown, -⟩
    · rw [hstep, nextRecord?, pays, hfetch, Step.misread, hread]
      rfl
    · cases hshown
  | refused f line hfetch hstep =>
    rcases fetch_refused_shown hfetch with ⟨hshown, -⟩ | ⟨w, line, -, -, hmisread, -, -⟩
    · cases hshown
    · rw [hstep, nextRecord?, pays, hfetch, Step.misread, hmisread]
      rfl
  | unpaid i hfetch hpaid hstep =>
    rw [hstep, nextRecord?, pays, hfetch]
    dsimp only
    rw [hpaid]
    rfl
  | executed i hexec =>
    rw [hexec.nextRecord?_eq, hexec.pays_eq, hexec.step_misread]
    rfl

theorem entries_length (n : Nat) (m : Machine) :
    (m.entries n).length = paidSteps n m + (m.advance n).2.misread.toNat := by
  induction n generalizing m with
  | zero => rfl
  | succ n ih =>
    have hfirst := nextRecord?_length m
    rw [entries, List.length_append, hfirst, paidSteps, advance]
    cases m.step with
    | next m' =>
      have hrest := ih m'
      dsimp only [Step.misread]
      rw [hrest, Bool.toNat_false]
      omega
    | halt m' | fault m' f => rfl

/-- The first instructions that a run executes are executed by its first steps. -/
theorem executes_of_lt (h : k < paidSteps n m) :
    k < n ∧ (m.advance k).2 = .unfinished ∧ ∃ i, (m.advance k).1.Executes i := by
  induction n generalizing m k with
  | zero => exact absurd h (Nat.not_lt_zero k)
  | succ n ih =>
    cases hs : m.step with
    | next m' =>
      cases k with
      | zero => exact ⟨Nat.succ_pos n, rfl, executes_of_step hs⟩
      | succ k =>
        rw [paidSteps_of_next hs] at h
        obtain ⟨hlt, hgoes, hexec⟩ := ih (m := m') (k := k) (by omega)
        rw [advance, hs]
        exact ⟨Nat.succ_lt_succ hlt, hgoes, hexec⟩
    | halt m' | fault m' f =>
      rw [paidSteps, hs] at h
      change k < m.pays.toNat at h
      have hle : m.pays.toNat ≤ 1 := Bool.toNat_le _
      obtain rfl : k = 0 := by omega
      have hpays : m.pays = true := by
        cases hm : m.pays with
        | true => rfl
        | false =>
          rw [hm] at h
          exact absurd h (Nat.lt_irrefl 0)
      exact ⟨Nat.succ_pos n, rfl, executes_of_pays hpays⟩

/-- The records of a run are those of its steps, in order. -/
theorem entries_getElem? (hgoes : (m.advance k).2 = .unfinished) (hlt : k < n) :
    (m.entries n)[k]? = (m.advance k).1.nextRecord? := by
  obtain ⟨n, rfl⟩ : ∃ l, n = l + 1 := ⟨n - 1, by omega⟩
  induction k generalizing m n with
  | zero =>
    rw [entries, advance]
    cases hs : m.step with
    | next m' =>
      obtain ⟨i, hi⟩ := executes_of_step hs
      rw [hi.nextRecord?_eq]
      rfl
    | halt m' | fault m' f =>
      cases m.nextRecord? <;> rfl
  | succ k ih =>
    cases hs : m.step with
    | next m' =>
      obtain ⟨i, hi⟩ := executes_of_step hs
      have hfirst : m.advance (k + 1) = m'.advance k := by rw [advance, hs]
      obtain ⟨n, rfl⟩ : ∃ l, n = l + 1 := ⟨n - 1, by omega⟩
      rw [hfirst] at hgoes ⊢
      rw [entries, hs, hi.nextRecord?_eq]
      exact ih hgoes n (by omega)
    | halt m' | fault m' f =>
      rw [advance, hs] at hgoes
      cases hgoes

/-- A step that ends at a word that begins no instruction shows the word, and executes nothing. -/
theorem step_fault_nextRecord? (h : m.step = .fault m' f) (hmisread : f.misread = true) :
    m.pays = false ∧ ∃ w, m'.code.at? m'.ip = some w ∧ f.opcode = w ∧ f.ip = m'.ip ∧
      m.nextRecord? = some (m'.sighting w) := by
  cases m.stepCase with
  | ended f' hfetch hstep =>
    cases hstep.symm.trans h
    rcases fetch_refused_shown hfetch with ⟨-, hread⟩ | ⟨w, line, -, -, -, hshown, -⟩
    · cases hread.symm.trans hmisread
    · cases hshown
  | refused f' line hfetch hstep =>
    cases hstep.symm.trans h
    rcases fetch_refused_shown hfetch with ⟨hshown, -⟩ | ⟨w, line', hat, hw, -, hshown, hline⟩
    · cases hshown
    · cases hshown
      have hsame : (m.record line.1 line.2).code = m.code ∧ (m.record line.1 line.2).ip = m.ip := by
        unfold record
        split <;> exact ⟨rfl, rfl⟩
      refine ⟨by rw [pays, hfetch], w, ?_, hw, (fetch_refused_ip hfetch).trans hsame.2.symm, ?_⟩
      · rw [hsame.1, hsame.2, hat]
      · rw [nextRecord?, hfetch, record_sighting, ← hline]
        rfl
  | unpaid i hfetch hpaid hstep =>
    cases hstep.symm.trans h
    cases hmisread
  | executed i hexec =>
    have hread := hexec.step_misread
    rw [h] at hread
    cases hread.symm.trans hmisread

/-- The last record of a run that ends at a word that begins no instruction is that of the word. -/
theorem entries_of_misread (hend : (m.advance n).2 = .faulted f) (hmisread : f.misread = true) :
    ∃ w, (m.advance n).1.code.at? (m.advance n).1.ip = some w ∧ f.opcode = w ∧
      f.ip = (m.advance n).1.ip ∧
      (m.entries n)[paidSteps n m]? = some ((m.advance n).1.sighting w) := by
  induction n generalizing m with
  | zero => cases hend
  | succ n ih =>
    cases hs : m.step with
    | next m' =>
      obtain ⟨i, hi⟩ := executes_of_step hs
      have hfirst : m.advance (n + 1) = m'.advance n := by rw [advance, hs]
      rw [hfirst] at hend ⊢
      rw [paidSteps_of_next hs, entries, hs, hi.nextRecord?_eq, Nat.add_comm]
      exact ih hend
    | halt m' =>
      rw [advance, hs] at hend
      cases hend
    | fault m' f' =>
      obtain rfl : f' = f := by
        rw [advance, hs] at hend
        exact Outcome.faulted.inj hend
      obtain ⟨hpays, w, hat, hw, hip, hentry⟩ := step_fault_nextRecord? hs hmisread
      rw [paidSteps, entries, advance, hs, hpays, hentry]
      exact ⟨w, hat, hw, hip, rfl⟩

/-! ### Runs with and without a trace -/

/-- What the trace of the first steps of a run says: one record for each instruction that they
execute, in order, and one more if they end at a word that begins no instruction of the engine. -/
structure Recorded (m : Machine) (n : Nat) : Prop where
  steps_eq : (m.after n).steps = UInt64.ofNat (m.executed n)
  size_eq : (m.after n).trace.size = m.executed n + (m.run n).2.misread.toNat
  /-- A record shows the instruction and the live cells just before it is executed. -/
  executed_at : ∀ k < m.executed n, (m.run k).2 = .unfinished ∧ ∃ i, (m.after k).Executes i ∧
    (m.after n).trace[k]? = some
      { lane := m.lane, ip := i.ip, mnemonic := i.op.mnemonic, args := i.args,
        stack := (m.after k).live }
  /-- The last record shows the word that was misread. -/
  misread_at : ∀ f, (m.run n).2 = .faulted f → f.misread = true →
    ∃ w, m.code.at? f.ip = some w ∧ f.opcode = w ∧ f.ip = (m.after n).ip ∧
      (m.after n).trace[m.executed n]? = some
        { lane := m.lane, ip := f.ip, mnemonic := Opcode.nameOf w
          args := (Opcode.ofWord? w).elim [] fun op => Instruction.operandsAt m.code f.ip.toNat
            op.operands
          stack := (m.after n).live }

theorem Prepared.recorded (h : Prepared m) (htracing : m.tracing = true) (n : Nat) :
    m.Recorded n := by
  obtain ⟨hready, -, htrace, hmeter⟩ := h.unrun
  have hkeeps (k : Nat) := run_keeps h.bounded k
  have hrun (k : Nat) := run_of_ready hready k
  have hentries : (m.after n).trace.toList = entries n { m with phase := .running } := by
    have := advance_trace (m := { m with phase := .running }) htracing n
    rw [after, hrun, this]
    exact congrArg (·.toList ++ _) htrace
  have hget (k : Nat) : (m.after n).trace[k]? = (entries n { m with phase := .running })[k]? := by
    rw [← hentries, Array.getElem?_toList]
  refine ⟨?_, ?_, fun k hk => ?_, fun f hend hmisread => ?_⟩
  · have hzero : { m with phase := .running }.steps = 0 := congrArg Meter.consumed hmeter
    rw [after, hrun, advance_steps, hzero, UInt64.zero_add, executed]
  · rw [← Array.length_toList, hentries, entries_length, hrun, executed]
  · obtain ⟨hlt, hgoes, i, hi⟩ := executes_of_lt hk
    have hafter : m.after k = (advance k { m with phase := .running }).1 :=
      congrArg Prod.fst (hrun k)
    have hlane : (m.after k).lane = m.lane := (hkeeps k).lane_eq
    rw [← hafter] at hi
    refine ⟨(congrArg Prod.snd (hrun k)).trans hgoes, i, hi, ?_⟩
    rw [hget, entries_getElem? hgoes hlt, ← hafter, hi.nextRecord?_eq, entry,
      ip_of_fetch hi.fetch_eq, hlane]
  · have hafter : m.after n = (advance n { m with phase := .running }).1 :=
      congrArg Prod.fst (hrun n)
    have hlane : (m.after n).lane = m.lane := (hkeeps n).lane_eq
    have hcode : (m.after n).code = m.code := (hkeeps n).code_eq
    rw [hrun] at hend
    obtain ⟨w, hat, hw, hip, hentry⟩ := entries_of_misread hend hmisread
    rw [← hafter] at hat hip hentry
    rw [sighting, entry, hcode, hlane, ← hip] at hentry
    rw [hcode, ← hip] at hat
    exact ⟨w, hat, hw, hip, (hget _).trans hentry⟩

/-- A trace is not noticed, and it is complete. A machine without a trace runs in the same way as
with one and ends in the same state, up to the trace. The trace has one record for each instruction
that is executed and counted, in order, with its operands and the live cells just before it; and if
the run ends at a word that begins no instruction of the engine, and only then, one more for this
word. -/
theorem Prepared.run_traced (h : Prepared m) (n : Nat) :
    { m with tracing := false }.run n =
      (({ m with tracing := true }.run n).1.untraced, ({ m with tracing := true }.run n).2) ∧
    { m with tracing := true }.Recorded n := by
  obtain ⟨-, -, htrace, -⟩ := h.unrun
  have hsame : { m with tracing := false } = { m with tracing := true }.untraced :=
    congrArg (fun trace => { m with tracing := false, trace }) htrace
  rw [hsame]
  exact ⟨run_untraced n _, (h.trace true).recorded rfl n⟩

/-- A program that prints and then ends in the middle of a `CALL`. -/
def brokenCall : Program :=
  ⟨#[9, 7, 14, 23, 17, 4]⟩

/-- Three instructions are executed, and the fourth record is that of the `CALL`. -/
theorem brokenCall_traced :
    ∃ m, Machine.create brokenCall 0 { stackSize := 4 } = .ok m ∧
      ({ m with tracing := true }.run 4).2 = .faulted
        { reason := .kind .truncatedInstruction, opcode := 17, mnemonic := "CALL", ip := 4 } ∧
      { m with tracing := true }.executed 4 = 3 ∧
      ({ m with tracing := true }.run 4).1.trace =
        #[⟨Fault.noLane, 0, "ICONST", [7], #[]⟩, ⟨Fault.noLane, 2, "PRINT", [], #[7]⟩,
          ⟨Fault.noLane, 3, "ICONST1", [], #[]⟩, ⟨Fault.noLane, 4, "CALL", [4], #[1]⟩] ∧
      { m with tracing := false }.run 4 =
        (({ m with tracing := true }.run 4).1.untraced, ({ m with tracing := true }.run 4).2) ∧
      { m with tracing := true }.Recorded 4 := by
  have hcreate : Machine.create brokenCall 0 { stackSize := 4 } = .ok _ := rfl
  refine ⟨_, hcreate, ?_, ?_, ?_, (Prepared.create hcreate).run_traced 4⟩
  · decide +kernel
  · decide +kernel
  · decide +kernel

end Machine

end Lanewise
