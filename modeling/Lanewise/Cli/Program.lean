import Lanewise.Cli.Basic

/-!
# Commands on programs

Running a program on the sequential engine or over many lanes, and turning program texts into images
and back.

## Main definitions

* `Cli.runCommand`, `Cli.lanesCommand`: runs.
* `Cli.asmCommand`, `Cli.disasmCommand`: images and listings.
-/

namespace Lanewise.Cli

/-! ### Runs -/

/-- An executor over the one program of a file. Its runs are not recorded. -/
def localExecutor (c : Config) (z : Image.Compressor) (fuel : Nat) (path : String)
    (contents : Option ByteArray) (device : Option Platform) :
      Except String (Executor Platform × Image) :=
  match Image.loadFile path contents with
  | .error e => .error e.message
  | .ok img =>
    let e : Executor Platform :=
      { config := executorConfig c, registry := .memory { compressor := z }, device,
        journal := none, fuel }
    match e.deploy img with
    | (.ok _, e) => .ok (e, img)
    | (.error err, _) => .error err.message

/-- The words that lanes have printed. -/
def printedLines (rows : List Run.Row) : List String :=
  (rows.zipIdx.map fun (row, lane) => (row.getD []).map fun w =>
    if 1 < rows.length then s!"[VM lane {lane}] " ++ w.text else "[VM] " ++ w.text).flatten

/-- The heaps after a run. -/
def heapLines (heaps : List Heap) : List String :=
  (heaps.zipIdx.map fun (h, i) =>
    [if 1 < heaps.length then s!"HEAP {i}:" else "HEAP:", Word.joined h.toList]).flatten

/-- What is said about a run. -/
def reportRun (showHeaps : Bool) : Except Executor.Error Execution → Report
  | .error e => .fail e.message
  | .ok x =>
    { lines := (if x.trace.isEmpty then [] else "TRACE:" :: x.trace) ++ printedLines x.printed ++
        (if showHeaps then heapLines x.heaps else [])
      failure := if x.success then none else some x.error }

/-- The flags of a sequential run. -/
def runFlags : List Flag :=
  [⟨"trace", .switch⟩, ⟨"stack", .int⟩, ⟨"heap", .int⟩, ⟨"init-heap", .switch⟩,
    ⟨"show-heap", .switch⟩, ⟨"max-steps", .uint64⟩, ⟨"platform", .int⟩, ⟨"placement", .text⟩,
    ⟨"remote", .text⟩]

/-- Where a sequential run takes place: on the host, or on a device with a placement of stacks. -/
def runPlace (c : Config) (fuel : Nat) (g : Given) : Except String (Option (Platform × Int)) := do
  let index := g.int "platform" (-1)
  if index < 0 then return none
  let placement ← placementNumber (g.text "placement" c.device.placement)
  let device ← selectDevice c fuel index (g.text "remote" "")
  return some (device, placement)

/-- Runs a program on the sequential engine. -/
def runProgram (c : Config) (z : Image.Compressor) (fuel : Nat) (g : Given) (path : String)
    (contents : Option ByteArray) : Report :=
  match runPlace c fuel g with
  | .error why => .fail why
  | .ok place =>
    match localExecutor c z fuel path contents (place.map (·.1)) with
    | .error why => .fail why
    | .ok (e, img) =>
      reportRun (g.switch "show-heap" true) (e.runSequential {}
        { program := img.id, stackSize := g.int "stack" c.machine.stackSize
          heapSize := g.int "heap" c.machine.heapSize, initHeap := g.switch "init-heap" false
          trace := g.switch "trace" false, maxSteps := g.uint64 "max-steps" c.machine.maxSteps
          onDevice := place.isSome, placement := place.map (·.2) }).1

/-- The flags of a run over lanes. -/
def lanesFlags : List Flag :=
  [⟨"lanes", .int⟩, ⟨"group", .int⟩, ⟨"placement", .text⟩, ⟨"platform", .int⟩, ⟨"remote", .text⟩,
    ⟨"heap", .int⟩, ⟨"init-heaps", .switch⟩, ⟨"trace", .switch⟩, ⟨"show-heap", .switch⟩]

/-- Runs a program over many lanes. -/
def runKernel (c : Config) (z : Image.Compressor) (fuel : Nat) (g : Given) (path : String)
    (contents : Option ByteArray) : Report :=
  let lanes := g.int "lanes" 16
  let heap := g.int "heap" 0
  let start : Except String (Int × Executor Platform × Image) := do
    let placement ← placementNumber (g.text "placement" c.device.placement)
    let device ← selectDevice c fuel (g.int "platform" c.device.platform) (g.text "remote" "")
    return (placement, ← localExecutor c z fuel path contents (some device))
  match start with
  | .error why => .fail why
  | .ok (placement, e, img) =>
    reportRun (g.switch "show-heap" true) (e.runLanes {}
      { program := img.id, lanes, groupSize := g.int "group" 0, stackSize := c.machine.stackSize
        heapSize := if heap = 0 then lanes else heap, initHeaps := g.switch "init-heaps" true
        placement := some placement, trace := g.switch "trace" false
        maxSteps := c.machine.maxSteps }).1

variable {m : Type → Type} [Monad m]

/-- Runs the program in the one file that has been named. -/
def onFile (w : World m) (run : String → Option ByteArray → Report) : List String → m Report
  | [path] => do return run path (← w.read path)
  | _ => pure (.fail wrongNumber)

/-- Runs a program on the sequential engine. -/
def runCommand (w : World m) (c : Config) (g : Given) (words : List String) : m Report :=
  onFile w (runProgram c w.compressor w.fuel g) words

/-- Runs a program over many lanes. -/
def lanesCommand (w : World m) (c : Config) (g : Given) (words : List String) : m Report :=
  onFile w (runKernel c w.compressor w.fuel g) words

/-! ### Images -/

/-- The flags of the assembler. -/
def asmFlags : List Flag :=
  [⟨"compress", .switch⟩]

/-- Writes the image of a program to a file. -/
def asmCommand (w : World m) (g : Given) : List String → m Report
  | [source, target] => do
    match Image.loadFile source (← w.read source) with
    | .error e => return .fail e.message
    | .ok img =>
      match img.encode w.compressor (g.switch "compress" false) with
      | .error e => return .fail e.message
      | .ok data =>
        if ← w.write target data then
          return { lines := [target ++ ": " ++ toString img.program.size ++ " words, entry " ++
            toString img.entry ++ ", id " ++ img.id.text] }
        else return .fail ("open " ++ target ++ ": no such file or directory")
  | _ => pure (.fail wrongNumber)

/-- Prints the listing of a program. -/
def disasmCommand (w : World m) (words : List String) : m Report :=
  onFile w (fun path contents =>
    match Image.loadFile path contents with
    | .error e => .fail e.message
    | .ok img =>
      { lines := ("; " ++ img.id.text ++ " entry " ++ toString img.entry) ::
          img.program.lines.toList.map (·.text) }) words

end Lanewise.Cli
