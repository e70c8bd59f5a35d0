import Lanewise.Proofs.Machine.Bounds

/-!
# How runs end

A run that is given enough fuel ends, and then it ends in the same way with more. A machine that
halts shows what it has printed and counted; a machine that faults names its lane.

## Main results

* `Machine.run_mono`: more fuel changes nothing about a run that has ended.
* `Machine.run_halted`, `Machine.run_faulted_lane`: what the outcome of a run says.
-/

namespace Lanewise.Machine

variable {m : Machine} {fuel : Nat}

theorem run_of_ready (h : m.phase = .ready) (fuel : Nat) :
    m.run fuel = advance fuel { m with phase := .running } :=
  if_pos h

theorem advance_ne_notRunnable (fuel : Nat) (m : Machine) : (m.advance fuel).2 ≠ .notRunnable := by
  induction fuel generalizing m with
  | zero => exact Outcome.noConfusion
  | succ fuel ih =>
    unfold advance
    split
    · exact ih _
    · exact Outcome.noConfusion
    · exact Outcome.noConfusion

/-- A machine that is ready can run. -/
theorem run_ne_notRunnable (h : m.phase = .ready) (fuel : Nat) : (m.run fuel).2 ≠ .notRunnable := by
  rw [run_of_ready h]
  exact advance_ne_notRunnable fuel _

theorem advance_halted {r : Result} (h : (m.advance fuel).2 = .halted r) :
    r = ⟨(m.advance fuel).1.printed, (m.advance fuel).1.steps⟩ := by
  induction fuel generalizing m with
  | zero => cases h
  | succ fuel ih =>
    unfold advance at h ⊢
    cases hs : m.step with
    | next m' =>
      rw [hs] at h
      exact ih h
    | halt m' =>
      rw [hs] at h
      exact (Outcome.halted.inj h).symm
    | fault m' f =>
      rw [hs] at h
      cases h

/-- A run that halted shows what its machine has printed and counted. -/
theorem run_halted {r : Result} (h : (m.run fuel).2 = .halted r) :
    r = ⟨(m.run fuel).1.printed, (m.run fuel).1.steps⟩ := by
  unfold run at h ⊢
  split at h
  · next hp =>
    rw [if_pos hp]
    exact advance_halted h
  · cases h

/-- A run that has not ended goes on from where it stands. -/
theorem advance_add {n : Nat} (h : (m.advance n).2 = .unfinished) (k : Nat) :
    m.advance (n + k) = (m.advance n).1.advance k := by
  induction n generalizing m with
  | zero => rw [Nat.zero_add, advance]
  | succ n ih =>
    cases hs : m.step with
    | next m' =>
      have hfirst (j : Nat) : m.advance (j + 1) = m'.advance j := by rw [advance, hs]
      rw [hfirst] at h
      rw [Nat.succ_add, hfirst, hfirst, ih h]
    | halt m' | fault m' f =>
      rw [advance, hs] at h
      cases h

theorem advance_mono {fuel' : Nat} (hle : fuel ≤ fuel') (h : (m.advance fuel).2 ≠ .unfinished) :
    m.advance fuel' = m.advance fuel := by
  induction fuel generalizing m fuel' with
  | zero => exact absurd rfl h
  | succ fuel ih =>
    obtain ⟨n, rfl⟩ : ∃ n, fuel' = n + 1 := ⟨fuel' - 1, by omega⟩
    unfold advance at h ⊢
    cases hs : m.step with
    | next m' =>
      rw [hs] at h
      exact ih (Nat.le_of_succ_le_succ hle) h
    | halt m' => rfl
    | fault m' f => rfl

/-- A run that has ended with some fuel ends in the same way with more. -/
theorem run_mono {fuel' : Nat} (hle : fuel ≤ fuel') (h : (m.run fuel).2 ≠ .unfinished) :
    m.run fuel' = m.run fuel := by
  unfold run at h ⊢
  split at h
  · next hp =>
    rw [if_pos hp, if_pos hp]
    exact advance_mono hle h
  · next hp => rw [if_neg hp, if_neg hp]

/-- A machine without a budget that comes to a `HALT` halts. -/
theorem advance_of_halt {i : Instruction} (hfetch : m.fetch = .ready i)
    (hop : i.op = .halt) (hmeter : m.meter.unlimited = true) (fuel : Nat) :
    ∃ r, (m.advance (fuel + 1)).2 = .halted r := by
  have hstep : ∃ m', m.step = .halt m' := by
    unfold step
    rw [hfetch]
    dsimp only
    rw [Meter.consume, if_pos hmeter]
    dsimp only
    unfold perform
    rw [hop]
    exact ⟨_, rfl⟩
  obtain ⟨m', hstep⟩ := hstep
  rw [advance, hstep]
  exact ⟨_, rfl⟩

/-! ### The lane of a fault -/

theorem fetch_refused_lane {f : Fault} {shown : Option (String × List Word)}
    (h : m.fetch = .refused f shown) : f.lane = m.lane := by
  unfold fetch at h
  split at h
  · cases h
    rfl
  · split at h
    · cases h
      rfl
    · dsimp only at h
      split at h
      · cases h
        rfl
      · split at h
        · cases h
          rfl
        · cases h

theorem perform_fault_lane {m' : Machine} {f : Fault} {i : Instruction} (h : m.Bounded)
    (hf : m.perform i = .fault m' f) : f.lane = m.lane := by
  have hk := perform_keeps h.keeps i
  rw [hf] at hk
  unfold perform at hf
  dsimp only at hf
  split at hf
  · cases hf
  · cases hf
  · cases hf
    exact hk.lane_eq

/-- A fault names the lane of its machine. -/
theorem step_fault_lane {m' : Machine} {f : Fault} (h : m.Bounded) (hf : m.step = .fault m' f) :
    f.lane = m.lane := by
  unfold step at hf
  split at hf
  · next hfetch =>
    cases hf
    exact fetch_refused_lane hfetch
  · next hfetch =>
    cases hf
    exact fetch_refused_lane hfetch
  · split at hf
    · cases hf
      rfl
    · next meter _ =>
      have hb : Bounded { m with meter } := { h with }
      have hlane := perform_fault_lane hb hf
      exact hlane

theorem advance_faulted_lane (h : m.Bounded) {f : Fault} (hf : (m.advance fuel).2 = .faulted f) :
    f.lane = m.lane := by
  induction fuel generalizing m with
  | zero => cases hf
  | succ fuel ih =>
    have hk := step_keeps h.keeps
    unfold advance at hf
    cases hs : m.step with
    | next m' =>
      rw [hs] at hf hk
      exact (ih hk.toBounded hf).trans hk.lane_eq
    | halt m' =>
      rw [hs] at hf
      cases hf
    | fault m' f' =>
      rw [hs] at hf
      cases hf
      exact step_fault_lane h hs

/-- A run that faulted names the lane of its machine. -/
theorem run_faulted_lane (h : m.Bounded) {f : Fault} (hf : (m.run fuel).2 = .faulted f) :
    f.lane = m.lane := by
  unfold run at hf
  split at hf
  · have hb : Bounded { m with phase := .running } := { h with }
    have hlane := advance_faulted_lane hb hf
    exact hlane
  · cases hf

end Lanewise.Machine
