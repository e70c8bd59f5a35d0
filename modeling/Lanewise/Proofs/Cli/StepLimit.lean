import Lanewise.Cli.Command
import Lanewise.Proofs.Executor.Reachable
import Lanewise.Proofs.Text.Numerals

/-!
# The step limit of a command

A program that is run from the command line goes through an executor of its own: it is deployed,
loaded again, and run with the limits of a request, and the executor fills in what the request
leaves open. A machine that is made at once from the flags and the configuration leaves the same
report, so the executor does not show, but for the step limit. A limit of zero is none to the flag
and to the machine, whereas the executor takes it for a limit that has been left open and puts the
configured one there.

## Main definitions

* `Cli.programOnMachine`: the program in a file on a machine.
* `Cli.machineOptions`: the machine that flags and a configuration ask for, with a step limit.

## Main results

* `Cli.runProgram_eq`: a run on the host is the run of this machine.
* `Cli.parseFlags_maxSteps`: the decimal text of a limit is read as the limit.
* `Cli.dispatch_run`: a limit that is not zero replaces the configured one; zero does not.
-/

namespace Lanewise

/-- No values leave a heap as it is. -/
theorem Machine.setHeap_empty (m : Machine) : m.setHeap #[] = m := by
  have hheaps : m.heaps.modify 0 (fun h => h.overlay #[]) = m.heaps := by
    refine Array.ext (Array.size_modify ..) fun i hi hi' => ?_
    rw [Array.getElem_modify]
    split
    · exact Array.ext (Array.size_mapIdx ..) fun j hj hj' => Array.getElem_mapIdx ..
    · rfl
  rw [setHeap, hheaps]

namespace Cli

/-! ### The machine of a run -/

/-- The machine that the flags and the configuration ask for, with a step limit. -/
def machineOptions (c : Config) (g : Given) (limit : UInt64) : Machine.Options :=
  { stackSize := Executor.orElse (g.int "stack" c.machine.stackSize) c.machine.stackSize
    heapSize := Executor.orElse (g.int "heap" c.machine.heapSize)
      (Executor.orElse c.machine.heapSize defaultHeapSize)
    tracing := g.switch "trace" false
    maxSteps := limit }

/-- What is said about a machine that has run. -/
def reportMachine (showHeaps : Bool) : Machine × Machine.Outcome → Report
  | (m, outcome) =>
    let trace := m.trace.toList.map TraceRecord.text
    let before := if trace.isEmpty then [] else "TRACE:" :: trace
    let heaps := if showHeaps then heapLines m.heaps.toList else []
    match outcome with
    | .halted result =>
      { lines := before ++ printedLines [Run.Row.ofPrinted result.printed] ++ heaps }
    | .faulted f => { lines := before ++ heaps, failure := some f.message }
    | .notRunnable =>
      { lines := before ++ heaps, failure := some Machine.Error.notRunnable.message }
    | .unfinished => .fail Executor.Error.unfinished.message

/-- Runs an image on a machine. The size of the heap is looked at before the rest. -/
def imageOnMachine (fuel : Nat) (g : Given) (o : Machine.Options) (img : Image) : Report :=
  if o.heapSize < 0 ∨ maxHeapSize < o.heapSize then
    .fail (Executor.Error.invalidRequest s!"heap size {o.heapSize}").message
  else match Machine.create img.program img.entry o with
    | .error e => .fail (Executor.Error.invalidRequest e.message).message
    | .ok m =>
      let m := if g.switch "init-heap" false then m.initHeap else m
      reportMachine (g.switch "show-heap" true) (m.run fuel)

/-- The image in a file and the bytes that are stored for it. -/
def storedImage (z : Image.Compressor) (path : String) (contents : Option ByteArray) :
    Except String (Image × ByteArray) :=
  match Image.loadFile path contents with
  | .error e => .error e.message
  | .ok img =>
    match img.encode z img.compressed with
    | .error e => .error (Registry.Error.image e).message
    | .ok data => .ok (img, data)

/-- Runs the program in a file on a machine. -/
def programOnMachine (z : Image.Compressor) (fuel : Nat) (g : Given) (o : Machine.Options)
    (path : String) (contents : Option ByteArray) : Report :=
  match storedImage z path contents with
  | .error why => .fail why
  | .ok (img, _) => imageOnMachine fuel g o img

/-! ### The executor of a run -/

/-- The request of a run on the host. -/
def hostRequest (c : Config) (g : Given) (img : Image) : SequentialRequest :=
  { program := img.id, stackSize := g.int "stack" c.machine.stackSize
    heapSize := g.int "heap" c.machine.heapSize, initHeap := g.switch "init-heap" false
    trace := g.switch "trace" false, maxSteps := g.uint64 "max-steps" c.machine.maxSteps }

/-- The step limit that the executor arrives at. -/
def arrivedLimit (c : Config) (g : Given) : UInt64 :=
  if g.uint64 "max-steps" c.machine.maxSteps = 0 then c.machine.maxSteps
  else g.uint64 "max-steps" c.machine.maxSteps

/-- An executor to which one program has been deployed. -/
def executorOver (c : Config) (z : Image.Compressor) (fuel : Nat) (device : Option Platform)
    (img : Image) (data : ByteArray) : Executor Platform :=
  { config := executorConfig c, device, journal := none, fuel, cache := [(img.id, img)]
    registry := .memory { programs := [(img.id, data)], compressor := z } }

theorem localExecutor_eq (c : Config) (z : Image.Compressor) (fuel : Nat) (path : String)
    (contents : Option ByteArray) (device : Option Platform) :
    localExecutor c z fuel path contents device =
      (storedImage z path contents).map fun (img, data) =>
        (executorOver c z fuel device img data, img) := by
  unfold localExecutor storedImage
  cases Image.loadFile path contents with
  | error e => rfl
  | ok img =>
    dsimp only [Executor.deploy, Registry.put, Registry.Memory.put]
    cases img.encode z img.compressed with
    | error e => rfl
    | ok data => rfl

/-- The program is found in the cache. -/
theorem load_executorOver (c : Config) (z : Image.Compressor) (fuel : Nat)
    (device : Option Platform) (img : Image) (data : ByteArray) :
    (executorOver c z fuel device img data).load img.id =
      (.ok img, executorOver c z fuel device img data) := by
  unfold Executor.load
  rw [executorOver, List.lookup_cons_self]

/-- The executor takes the sizes from where the machine takes them. The request has no values for
the heap, so the check on them never fails. -/
theorem limits_hostRequest (c : Config) (g : Given) (img : Image) :
    let o := machineOptions c g (arrivedLimit c g)
    Executor.limits (executorConfig c) (hostRequest c g img) =
      if o.heapSize < 0 ∨ maxHeapSize < o.heapSize then
        .error (.invalidRequest s!"heap size {o.heapSize}")
      else .ok { stackSize := o.stackSize, heapSize := o.heapSize, maxSteps := o.maxSteps } := by
  intro o
  by_cases hbad : o.heapSize < 0 ∨ maxHeapSize < o.heapSize
  · rw [if_pos hbad]
    exact if_pos hbad
  · have hvalues : ¬o.heapSize < ((hostRequest c g img).heap.size : Int) :=
      fun hneg => hbad (.inl hneg)
    rw [if_neg hbad]
    exact (if_neg hbad).trans (if_neg hvalues)

/-- A run that failed has printed nothing. -/
theorem reportRun_fail {x : Execution} (hprinted : x.printed = []) (showHeaps : Bool) (why : String)
    (faults : List Fault) :
    reportRun showHeaps (.ok (x.fail why faults)) =
      { lines := (if x.trace.isEmpty then [] else "TRACE:" :: x.trace) ++
          (if showHeaps then heapLines x.heaps else [])
        failure := some why } := by
  have hnone : printedLines x.printed = [] := by rw [hprinted]; rfl
  rw [reportRun, Execution.fail]
  dsimp only
  rw [hnone, List.append_nil]
  rfl

/-- A result that is not recorded says what the machine did. -/
theorem reportRun_onHost {e : Executor Platform} (hjournal : e.journal = none) (c : Config)
    (g : Given) (limit : UInt64) (img : Image) (showHeaps : Bool) :
    let o := machineOptions c g limit
    reportRun showHeaps (e.onHost img (hostRequest c g img)
        { stackSize := o.stackSize, heapSize := o.heapSize, maxSteps := o.maxSteps }).1 =
      match Machine.create img.program img.entry o with
      | .error err => .fail (Executor.Error.invalidRequest err.message).message
      | .ok m =>
        reportMachine showHeaps
          ((if g.switch "init-heap" false then m.initHeap else m).run e.fuel) := by
  intro o
  -- Nothing that is reported depends on the time that the run took.
  have hreport (x : Execution) (about : Run.Record) :
      reportRun showHeaps (.ok ((e.clock x).2.record (e.clock x).1 about).1) =
        reportRun showHeaps (.ok x) := by
    rw [Executor.record, Executor.clock, hjournal]
    rfl
  have hoptions : o = { stackSize := o.stackSize, heapSize := o.heapSize, maxSteps := o.maxSteps
                        tracing := (hostRequest c g img).trace } := rfl
  have hinit : (hostRequest c g img).initHeap = g.switch "init-heap" false := rfl
  have hvalues : (hostRequest c g img).heap = #[] := rfl
  unfold Executor.onHost
  rw [← hoptions, hinit, hvalues]
  cases Machine.create img.program img.entry o with
  | error err => rfl
  | ok m =>
    dsimp only
    rw [Machine.setHeap_empty]
    -- From here on both sides look at one run and differ in how they write down its end.
    cases (if g.switch "init-heap" false then m.initHeap else m).run e.fuel with
    | mk m outcome =>
      cases outcome with
      | halted result =>
        dsimp only
        rw [hreport]
        rfl
      | faulted f =>
        dsimp only
        rw [hreport, reportRun_fail rfl]
        rfl
      | notRunnable =>
        dsimp only
        rw [hreport, reportRun_fail rfl]
        rfl
      | unfinished => rfl

/-- The executor finds the program, and neither a cancelled context nor a device is in the way. -/
theorem reportRun_executorOver (c : Config) (z : Image.Compressor) (fuel : Nat) (g : Given)
    (img : Image) (data : ByteArray) :
    reportRun (g.switch "show-heap" true)
        ((executorOver c z fuel none img data).runSequential {} (hostRequest c g img)).1 =
      imageOnMachine fuel g (machineOptions c g (arrivedLimit c g)) img := by
  have hload := load_executorOver c z fuel none img data
  have hlimits := limits_hostRequest c g img
  have hprogram : (hostRequest c g img).program = img.id := rfl
  have hconfig : (executorOver c z fuel none img data).config = executorConfig c := rfl
  unfold Executor.runSequential imageOnMachine
  rw [hprogram, hload]
  dsimp only
  rw [hconfig, hlimits, if_neg Bool.false_ne_true]
  by_cases hbad : (machineOptions c g (arrivedLimit c g)).heapSize < 0 ∨
      maxHeapSize < (machineOptions c g (arrivedLimit c g)).heapSize
  · rw [if_pos hbad, if_pos hbad]
    rfl
  · rw [if_neg hbad, if_neg hbad]
    exact reportRun_onHost rfl c g (arrivedLimit c g) img _

/-- A run on the host is the run of the machine with the limit that the executor arrives at. -/
theorem runProgram_eq {c : Config} {g : Given} (hhost : g.int "platform" (-1) < 0)
    (z : Image.Compressor) (fuel : Nat) : runProgram c z fuel g = programOnMachine z fuel g
      (machineOptions c g (arrivedLimit c g)) := by
  have hplace : runPlace c fuel g = .ok none := if_pos hhost
  funext path contents
  unfold runProgram programOnMachine
  rw [hplace]
  dsimp only
  rw [localExecutor_eq]
  cases storedImage z path contents with
  | error why => rfl
  | ok stored =>
    obtain ⟨img, data⟩ := stored
    exact reportRun_executorOver c z fuel g img data

/-! ### The limit on the command line -/

theorem FlagType.read?_toString (limit : UInt64) :
    FlagType.uint64.read? (toString limit.toNat) = some (.uint64 limit) := by
  have hlt : limit.toNat < 0x10000000000000000 := limit.toNat_lt
  have hfits : (some limit.toNat).filter (· < 0x10000000000000000) = some limit.toNat :=
    Option.filter_some_pos (decide_eq_true hlt)
  rw [read?, Numeral.toList_toString, Numeral.unsigned?_toDigits, hfits, Option.map_some,
    UInt64.ofNat_toNat]

/-- A word without a hyphen in front ends the flags. -/
theorem parseFlagsFrom_plain {word : String} (hplain : word.toList.head? ≠ some '-')
    (known : List Flag) (fuel : Nat) (given : Given) (rest : List String) :
    parseFlagsFrom known (fuel + 1) given (word :: rest) = .ok (given, word :: rest) := by
  rw [parseFlagsFrom]
  split
  · next heq => exact absurd (congrArg List.head? heq) hplain
  · next heq => exact absurd (congrArg List.head? heq) hplain
  · next heq => exact absurd (congrArg List.head? heq) hplain
  · rfl

/-- The decimal text of a limit is read as the limit. -/
theorem parseFlags_maxSteps (limit : UInt64) {path : String}
    (hpath : path.toList.head? ≠ some '-') :
    parseFlags runFlags ["-max-steps", toString limit.toNat, path] =
      .ok ([("max-steps", .uint64 limit)], [path]) := by
  have hread : readFlag runFlags "max-steps".toList [toString limit.toNat, path] =
      .ok (("max-steps", .uint64 limit), [path]) := by
    have hsplit : splitValue "max-steps".toList = ("max-steps", none) := by decide
    have hfind : runFlags.find? (·.name == "max-steps") = some ⟨"max-steps", .uint64⟩ := by decide
    rw [readFlag, if_neg (by decide), hsplit]
    dsimp only
    rw [hfind]
    dsimp only
    rw [Option.bind_some, FlagType.read?_toString]
  -- The pattern of a flag looks at two characters, so the name comes apart and is put together
  -- again.
  have hword : "-max-steps".toList = '-' :: 'm' :: "ax-steps".toList := by decide
  have hname : 'm' :: "ax-steps".toList = "max-steps".toList := by decide
  rw [parseFlags, List.length_cons, parseFlagsFrom, hword]
  change parseFlagsFrom.next runFlags _ [] ('m' :: "ax-steps".toList) _ = _
  rw [hname, parseFlagsFrom.next, hread]
  exact parseFlagsFrom_plain hpath runFlags 1 _ []

variable {m : Type → Type} [Monad m]

/-- A command that runs a program on the host leaves what the machine leaves. -/
theorem dispatch_run_arrived (w : World m) (c : Config) {words rest : List String} {g : Given}
    (hwords : parseFlags runFlags words = .ok (g, rest)) (hhost : g.int "platform" (-1) < 0) :
    dispatch w c "run" words = do
      return (← onFile w
        (programOnMachine w.compressor w.fuel g (machineOptions c g (arrivedLimit c g)))
        rest).outcome "run" := by
  change withFlags "run" runFlags words (runCommand w c) = _
  rw [withFlags, hwords]
  dsimp only
  rw [runCommand, runProgram_eq hhost]

/-- A step limit on the command line that is not zero, or with no limit configured, is the limit of
the machine, whatever has been configured. Under a limit of zero the configured limit stays in
force. -/
theorem dispatch_run (w : World m) (c : Config) {words rest : List String} {g : Given}
    {limit : UInt64} (hwords : parseFlags runFlags words = .ok (g, rest))
    (hlimit : g.lookup "max-steps" = some (.uint64 limit)) (hhost : g.int "platform" (-1) < 0) :
    (limit ≠ 0 ∨ c.machine.maxSteps = 0 →
      dispatch w c "run" words = do
        return (← onFile w (programOnMachine w.compressor w.fuel g (machineOptions c g limit))
          rest).outcome "run") ∧
    (limit = 0 →
      dispatch w c "run" words = do
        return (← onFile w
          (programOnMachine w.compressor w.fuel g (machineOptions c g c.machine.maxSteps))
          rest).outcome "run") := by
  have hgiven : g.uint64 "max-steps" c.machine.maxSteps = limit := by rw [Given.uint64, hlimit]
  rw [dispatch_run_arrived w c hwords hhost, arrivedLimit, hgiven]
  constructor
  · intro hfree
    have harrived : (if limit = 0 then c.machine.maxSteps else limit) = limit := by
      split
      · next hzero => exact (hfree.resolve_left (not_not_intro hzero)).trans hzero.symm
      · rfl
    rw [harrived]
  · intro hzero
    rw [if_pos hzero]

/-- A world in which every file holds one program of two instructions. -/
def twoInstructions : World Id :=
  { home := "", read := fun _ => some "ICONST1\nHALT\n".toUTF8, write := fun _ _ => false
    watch := .still, timeText := fun _ => "", fuel := 5 }

/-- A configuration with a step limit. -/
def limitedTo (limit : UInt64) : Config :=
  { dataDir := "", machine := { heapSize := 1, maxSteps := limit } }

/-- A limit of one step on the command line replaces a configured limit of two, and the program does
not get to its end. -/
theorem twoInstructions_stopped :
    parseFlags runFlags ["-max-steps", "1", "a.lasm"] =
      .ok ([("max-steps", .uint64 1)], ["a.lasm"]) ∧
      (dispatch twoInstructions (limitedTo 2) "run" ["-max-steps", "1", "a.lasm"] : Outcome) =
        (programOnMachine .stored 5 [("max-steps", .uint64 1)]
          { stackSize := 100, heapSize := 1, maxSteps := 1 } "a.lasm"
          (twoInstructions.read "a.lasm")).outcome "run" ∧
      (dispatch twoInstructions (limitedTo 2) "run" ["-max-steps", "1", "a.lasm"] :
        Outcome).complaints =
        ["lanevm run: step limit exceeded (HALT at ip 1)"] := by
  have hwords : parseFlags runFlags ["-max-steps", "1", "a.lasm"] =
      .ok ([("max-steps", .uint64 1)], ["a.lasm"]) :=
    parseFlags_maxSteps 1 (by decide)
  have hrun := (dispatch_run twoInstructions (limitedTo 2) hwords rfl (by decide)).1
    (.inl (by decide))
  refine ⟨hwords, hrun, ?_⟩
  rw [hrun]
  decide +kernel

/-- A limit of zero on the command line leaves a configured limit of one step in force, so the
program does not get to its end. A machine without a limit runs it to its end. -/
theorem zero_keeps_configured :
    parseFlags runFlags ["-max-steps", "0", "a.lasm"] =
      .ok ([("max-steps", .uint64 0)], ["a.lasm"]) ∧
      (dispatch twoInstructions (limitedTo 1) "run" ["-max-steps", "0", "a.lasm"] : Outcome) ≠
        (programOnMachine .stored 5 [("max-steps", .uint64 0)]
          { stackSize := 100, heapSize := 1, maxSteps := 0 } "a.lasm"
          (twoInstructions.read "a.lasm")).outcome "run" := by
  have hwords : parseFlags runFlags ["-max-steps", "0", "a.lasm"] =
      .ok ([("max-steps", .uint64 0)], ["a.lasm"]) :=
    parseFlags_maxSteps 0 (by decide)
  have hstopped : ((programOnMachine .stored 5 [("max-steps", .uint64 0)]
      { stackSize := 100, heapSize := 1, maxSteps := 1 } "a.lasm"
      (twoInstructions.read "a.lasm")).outcome "run").status = 1 := by
    decide +kernel
  have hended : ((programOnMachine .stored 5 [("max-steps", .uint64 0)]
      { stackSize := 100, heapSize := 1, maxSteps := 0 } "a.lasm"
      (twoInstructions.read "a.lasm")).outcome "run").status = 0 := by
    decide +kernel
  have hrun := dispatch_run_arrived twoInstructions (limitedTo 1) hwords (by decide)
  refine ⟨hwords, fun heq => ?_⟩
  have hsame := congrArg Outcome.status (hrun.symm.trans heq)
  exact absurd (hstopped.symm.trans (hsame.trans hended)) (by decide)

end Cli

end Lanewise
