import Lanewise.Rpc.Params

/-!
# Methods of the server

## Main definitions

* `Rpc.Server`: the server with its executor.
* `Rpc.Server.call`: a call of a method by its name.
-/

namespace Lanewise.Rpc

/-- What a server is asked for. -/
structure Config where
  /-- The greatest number of bytes of a body. -/
  maxRequestSize : Int64 := 10 * 1024 * 1024
  /-- Whether pages from elsewhere may call. -/
  crossOrigin : Bool := true
  /-- The places from which pages may call; all places if there are none. -/
  origins : List String := []
  version : String := "dev"
deriving Repr, Inhabited

/-- A server. -/
structure Server (σ : Type) where
  executor : Executor σ
  config : Config := {}
  healthy : Bool := true

/-- The greatest number of runs in a list. -/
def maxRunsLimit : Nat := 1000

namespace Server

variable {σ : Type} [Backend σ]

/-- The answer of a method and the server after it. -/
abbrev Answer (σ : Type) := Except Error Json × Server σ

/-- An answer that leaves the server as it is. -/
def stay (s : Server σ) (answer : Except Error Json) : Answer σ :=
  (answer, s)

/-- The program with a given text. -/
def programId (text : String) : Except Error ProgramId :=
  match ProgramId.parse text with
  | .ok id => .ok id
  | .error e => .error (.invalidParams ("invalid program id: " ++ e.message))

/-- The error of a run. -/
def executionError (id : ProgramId) (e : Executor.Error) : Error :=
  match e with
  | .programNotFound _ => .programNotFound id.text
  | .noDevice => .backendUnavailable e.message
  | .device (.unavailable _) => .backendUnavailable e.message
  | .invalidRequest _ => .invalidParams e.message
  | e => .internal ("execution failed: " ++ e.message)

/-- The name of the device, if there is one. -/
def backendField (s : Server σ) : List (String × Json) :=
  match s.executor.device with
  | some d => [("backend", .string (Backend.name d))]
  | none => []

/-- Whether the server is healthy. -/
def getHealth (s : Server σ) : Except Error Json :=
  if s.healthy then .ok (.string "ok") else .error .unhealthy

/-- The version of the server. -/
def getVersion (s : Server σ) : Json :=
  .object (("lanevm", .string s.config.version) :: s.backendField)

/-- Figures about programs and runs. -/
def getStats (s : Server σ) : Except Error Json := do
  let programs ← match s.executor.registry.count with
    | .ok n => pure n
    | .error e => throw (.internal ("count programs: " ++ e.message))
  let runs ← match s.executor.journal with
    | none => pure []
    | some j =>
      match j.store.stats with
      | .ok stats => pure [("runs", stats.json)]
      | .error e => throw (.internal ("run stats: " ++ e.message))
  return .object ([("programs", .ofNat programs.toNat)] ++ runs ++ s.backendField)

/-! ### Programs -/

/-- The image of a program that is given as a text or as data. -/
def imageOf (data : String) (o : PutOptions) : Except Error Image := do
  let encoding ← match Encoding.parse o.encoding with
    | .ok e => pure e
    | .error e => throw (.invalidParams e.message)
  let img ←
    if encoding = .source then
      match assemble data.toUTF8.toList with
      | .ok x => pure ({ program := x.program, entry := x.entry } : Image)
      | .error e => throw (.programRejected e.message)
    else match Encoding.decode data encoding.name with
      | .error e => throw (.invalidParams ("decode program: " ++ e.message))
      | .ok raw =>
        match Image.load raw with
        | .ok img => pure img
        | .error e => throw (.programRejected e.message)
  let img := if o.compress then { img with compressed := true } else img
  match img.program.checkEntry img.entry with
  | .ok () => return img
  | .error e => throw (.programRejected e.message)

/-- What is said about a program. -/
def programJson (id : ProgramId) (words : Nat) (entry : Int) (compressed : Bool)
    (more : List (String × Json)) : Json :=
  .object ([("id", .string id.text), ("words", .ofNat words), ("entry", .ofInt entry),
    ("compressed", .bool compressed)] ++ more)

/-- Stores a program. -/
def putProgram (s : Server σ) (params : Json) : Answer σ :=
  let input := do
    let items ← positional params 1 2
    let data ← param items 0 .text
    let o ← param items 1 putOptions
    imageOf data o
  match input with
  | .error e => s.stay (.error e)
  | .ok img =>
    let (answer, executor) := s.executor.deploy img
    let s := { s with executor }
    match answer with
    | .error e => s.stay (.error (.internal ("store program: " ++ e.message)))
    | .ok id => s.stay (.ok (programJson id img.program.size img.entry img.compressed []))

/-- The size and the data of an image. -/
def imageFields (z : Image.Compressor) (img : Image) : Except Error (List (String × Json)) :=
  match img.encode z img.compressed with
  | .ok raw => .ok [("size", .ofNat raw.size), ("image", .string (Base64.encode raw.toList))]
  | .error e => .error (.internal ("encode image: " ++ e.message))

/-- A stored program and its listing. -/
def getProgram (s : Server σ) (params : Json) : Answer σ :=
  let input := do
    let items ← positional params 1 2
    let text ← param items 0 .text
    let withImage ← param items 1 withImage
    return (← programId text, withImage)
  match input with
  | .error e => s.stay (.error e)
  | .ok (id, withImage) =>
    let (answer, executor) := s.executor.load id
    let s := { s with executor }
    match answer with
    | .error e => s.stay (.error (executionError id e))
    | .ok img =>
      let listing := img.program.listing
      let more := if listing.isEmpty then [] else [("disassembly", Json.string listing)]
      let image := if withImage then imageFields s.executor.registry.compressor img else .ok []
      s.stay (image.map fun image =>
        programJson id img.program.size img.entry img.compressed (more ++ image))

/-- Every stored program. -/
def listPrograms (s : Server σ) : Except Error Json :=
  match s.executor.registry.list with
  | .error e => .error (.internal ("list programs: " ++ e.message))
  | .ok es => .ok (.array (es.map fun e =>
      programJson e.id e.words e.entry e.compressed
        (if e.size = 0 then [] else [("size", .ofNat e.size)])))

/-! ### Runs -/

/-- The placement with a given name, if one is given. -/
def placement (name : String) : Except Error (Option Int) :=
  if name.isEmpty then .ok none
  else match Placement.parse name with
    | .ok p => .ok (some p.number)
    | .error e => .error (.invalidParams e)

/-- The answer to a run. -/
def executed (s : Server σ) (id : ProgramId) (r : Except Executor.Error Execution × Executor σ) :
    Answer σ :=
  let s := { s with executor := r.2 }
  match r.1 with
  | .ok x => s.stay (.ok x.json)
  | .error e => s.stay (.error (executionError id e))

/-- Runs a program on a sequential engine. -/
def runProgram (s : Server σ) (params : Json) : Answer σ :=
  let input := do
    let items ← positional params 1 2
    let text ← param items 0 .text
    let o ← param items 1 sequentialOptions
    let program ← programId text
    return o.request program (← placement o.placement)
  match input with
  | .error e => s.stay (.error e)
  | .ok r => s.executed r.program (s.executor.runSequential {} r)

/-- Checks the sizes of a run over lanes. -/
def checkLanes (r : LaneOptions) : Except Error Unit := do
  if r.lanes ≤ 0 then throw (.invalidParams "lanes must be positive")
  if maxLanes < r.lanes then throw (.invalidParams s!"lanes must be at most {maxLanes}")
  if r.heapCount < 0 ∨ maxHeapCount < r.heapCount ∨ maxHeapCount < r.heaps.length then
    throw (.invalidParams s!"heap count must be between 0 and {maxHeapCount}")
  if r.heapSize < 0 ∨ maxHeapSize < r.heapSize then
    throw (.invalidParams s!"heap size must be between 0 and {maxHeapSize}")

/-- Runs a program over lanes. -/
def runLanes (s : Server σ) (params : Json) : Answer σ :=
  let input := do
    let items ← positional params 2 2
    let text ← param items 0 .text
    let o ← param items 1 laneOptions
    let program ← programId text
    checkLanes o
    return o.request program (← placement o.placement)
  match input with
  | .error e => s.stay (.error e)
  | .ok r => s.executed r.program (s.executor.runLanes {} r)

/-- The record of a run. -/
def getRun (s : Server σ) (params : Json) : Except Error Json := do
  let items ← positional params 1 1
  let id ← param items 0 .text
  match s.executor.journal with
  | none => throw (.runNotFound id)
  | some j =>
    match j.store.find id with
    | .ok r => return r.json
    | .error .notFound => throw (.runNotFound id)
    | .error e => throw (.internal ("get run: " ++ e.message))

/-- Records of runs, the newest first. -/
def getRuns (s : Server σ) (params : Json) : Except Error Json := do
  let items ← positional params 0 1
  let o ← param items 0 runsOptions
  if o.limit < 0 ∨ maxRunsLimit < o.limit then
    throw (.invalidParams s!"limit must be between 0 and {maxRunsLimit}")
  match s.executor.journal with
  | none => return .array []
  | some j =>
    let program ← if o.program.isEmpty then pure none else (programId o.program).map some
    match j.store.list { program, limit := o.limit, before := o.before } with
    | .ok rs => return .array (rs.map Run.Record.json)
    | .error e => throw (.internal ("list runs: " ++ e.message))

/-- Calls a method. -/
def call (s : Server σ) (method : String) (params : Json) : Answer σ :=
  match method with
  | "getHealth" => s.stay s.getHealth
  | "getVersion" => s.stay (.ok s.getVersion)
  | "getStats" => s.stay s.getStats
  | "putProgram" => s.putProgram params
  | "getProgram" => s.getProgram params
  | "listPrograms" => s.stay s.listPrograms
  | "runProgram" => s.runProgram params
  | "runLanes" => s.runLanes params
  | "getRun" => s.stay (s.getRun params)
  | "getRuns" => s.stay (s.getRuns params)
  | name => s.stay (.error (.methodNotFound name))

end Server

end Lanewise.Rpc
