import Lanewise.Bench.Summary
import Lanewise.Bench.Workload

/-!
# Measurements

The benchmarks of the built-in workloads. A stopwatch says how long a computation takes; whoever
does not want to know uses one that stands still.

## Main definitions

* `Bench.Stopwatch`: how long computations take, in a monad that can tell.
* `Bench.measureMachine`, `Bench.SoloKernel.measure`, `Bench.measureLanes`: the benchmarks.
-/

namespace Lanewise.Bench

/-- How long computations take, in a monad that can tell. -/
structure Stopwatch (m : Type → Type) where
  time : {α : Type} → (Unit → α) → m (α × Duration)

/-- A stopwatch that stands still. -/
def Stopwatch.still {m : Type → Type} [Monad m] : Stopwatch m :=
  ⟨fun f => pure (f (), 0)⟩

variable {m : Type → Type} [Monad m]

/-- Measures runs of a program on machines of their own. -/
def measureMachine (watch : Stopwatch m) (ctx : Context) (name : String) (iterations : Int)
    (fuel : Nat) (program : Program) (entry heapSize : Int) : m (Except (Error Failure) Result) :=
  run name iterations (pure ctx.cancelled) do
    let (answer, time) ← watch.time fun _ => runMachine fuel program entry heapSize
    return answer.map fun _ => time

variable {σ : Type} [Backend σ]

/-- Measures runs of a prepared kernel. -/
def SoloKernel.measure (k : SoloKernel) (device : σ) (watch : Stopwatch m) (ctx : Context)
    (name : String) (iterations : Int) :
    m (Except (Error Failure) Result × SoloKernel × σ) :=
  let sample : StateT (SoloKernel × σ) m (Except Failure Duration) := do
    let (k, device) ← get
    let ((answer, device), time) ← watch.time fun _ => k.run device ctx
    match answer with
    | .ok k => set (k, device); return .ok time
    | .error e => set (k, device); return .error (.device e)
  (Bench.run name iterations (pure ctx.cancelled) sample).run (k, device)

/-- Measures runs of a lane engine. -/
def measureLanes (engine : LaneEngine σ) (watch : Stopwatch m) (ctx : Context) (name : String)
    (iterations lanes groupSize : Int) : m (Except (Error Failure) Result × LaneEngine σ) :=
  let sample : StateT (LaneEngine σ) m (Except Failure Duration) := do
    let engine ← get
    let ((answer, engine), time) ← watch.time fun _ => runLanes engine ctx lanes groupSize
    set engine
    match answer with
    | .ok _ => return .ok time
    | .error e => return .error (.engine e)
  (run name iterations (pure ctx.cancelled) sample).run engine

end Lanewise.Bench
