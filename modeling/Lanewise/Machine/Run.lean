import Lanewise.Machine.Step

/-!
# Runs

A machine runs at most once, step after step until it halts or faults. A program without a step
budget need not do either, so a run is given an amount of *fuel*, the largest number of steps that
it may take. A run that ends with some fuel ends the same way with more.

## Main definitions

* `Machine.Outcome`: how a run ended.
* `Machine.advance`: the steps of a run.
* `Machine.run`: a run.
-/

namespace Lanewise.Machine

/-- What a run that halted has to show. -/
structure Result where
  printed : Array Word
  steps : UInt64
deriving DecidableEq, Repr, Inhabited

/-- How a run ended. -/
inductive Outcome
  | halted (r : Result)
  | faulted (f : Fault)
  /-- The machine had run before. -/
  | notRunnable
  /-- The fuel did not suffice. -/
  | unfinished
deriving DecidableEq, Repr, Inhabited

/-- Steps until the machine halts, faults or has no fuel left. -/
def advance : (fuel : Nat) → Machine → Machine × Outcome
  | 0, m => (m, .unfinished)
  | fuel + 1, m =>
    match m.step with
    | .next m => advance fuel m
    | .halt m => ({ m with phase := .halted }, .halted ⟨m.printed, m.steps⟩)
    | .fault m f => ({ m with phase := .faulted }, .faulted f)

/-- Runs a machine that has not run yet. -/
def run (fuel : Nat) (m : Machine) : Machine × Outcome :=
  if m.phase = .ready then advance fuel { m with phase := .running } else (m, .notRunnable)

end Lanewise.Machine
