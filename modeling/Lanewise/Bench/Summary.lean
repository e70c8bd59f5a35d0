import Lanewise.Device.Backend
import Lanewise.Duration

/-!
# Summaries of measurements

A benchmark takes a number of samples and reports the median, the shortest and the longest. The
median of an even number of samples is the mean of the two in the middle, cut towards zero.

## Main definitions

* `Bench.median`, `Bench.shortest`, `Bench.longest`.
* `Bench.Result`: the summary of a benchmark.
* `Bench.run`: takes samples in a monad, which says what a sample is.
-/

namespace Lanewise.Bench

/-- The number of samples of a benchmark that leaves it open. -/
def defaultIterations : Nat := 11

/-- The median of samples; zero if there are none. -/
def median (samples : List Duration) : Duration :=
  let sorted := samples.mergeSort fun a b => decide (a ≤ b)
  let mid := sorted.length / 2
  if sorted.length % 2 = 0 then (sorted.getD (mid - 1) 0 + sorted.getD mid 0) / 2
  else sorted.getD mid 0

/-- The shortest sample; zero if there are none. -/
def shortest : List Duration → Duration
  | [] => 0
  | d :: ds => ds.foldl (fun least d => if d < least then d else least) d

/-- The longest sample, or zero if all are shorter. -/
def longest (samples : List Duration) : Duration :=
  samples.foldl (fun greatest d => if greatest < d then d else greatest) 0

/-- The summary of a benchmark. -/
structure Result where
  name : String
  samples : List Duration
  median : Duration
  min : Duration
  max : Duration
deriving DecidableEq, Repr, Inhabited

namespace Result

/-- The summary of given samples. -/
def ofSamples (name : String) (samples : List Duration) : Result :=
  { name, samples, median := Bench.median samples, min := shortest samples, max := longest samples }

/-- The summary in one line, with lengths of time as the caller writes them. -/
def textWith (write : Duration → String) (r : Result) : String :=
  r.name ++ ": median " ++ write r.median ++ " (min " ++ write r.min ++ ", max " ++ write r.max ++
    ", n=" ++ toString r.samples.length ++ ")"

/-- The summary in one line. -/
def text (r : Result) : String :=
  r.textWith Duration.text

end Result

/-- Why a benchmark has no summary; samples fail with an `ε`. -/
inductive Error (ε : Type)
  | noIterations
  | cancelled
  /-- The sample with a given number failed. -/
  | sample (name : String) (index : Nat) (e : ε)
deriving Repr

/-- The wording of an error, for a given wording of the failures of samples. -/
def Error.message {ε : Type} (describe : ε → String) : Error ε → String
  | noIterations => "iteration count must be positive"
  | cancelled => Context.cancelledText
  | sample name i e => name ++ s!" iteration {i}: " ++ describe e

variable {m : Type → Type} [Monad m] {ε : Type}

/-- Takes `n` further samples after `i` of them. A caller who does not wait any more ends it. -/
def takeSamples (name : String) (cancelled : m Bool) (sample : m (Except ε Duration)) :
    (n i : Nat) → List Duration → m (Except (Error ε) (List Duration))
  | 0, _, done => pure (.ok done.reverse)
  | n + 1, i, done => do
    if ← cancelled then
      return .error .cancelled
    match ← sample with
    | .error e => return .error (.sample name i e)
    | .ok d => takeSamples name cancelled sample n (i + 1) (d :: done)

/-- Takes a number of samples, or the default number in place of zero, and summarises them. -/
def run (name : String) (iterations : Int) (cancelled : m Bool) (sample : m (Except ε Duration)) :
    m (Except (Error ε) Result) := do
  if iterations < 0 then
    return .error .noIterations
  let n := if iterations = 0 then defaultIterations else iterations.toNat
  match ← takeSamples name cancelled sample n 0 [] with
  | .error e => return .error e
  | .ok samples => return .ok (.ofSamples name samples)

end Lanewise.Bench
