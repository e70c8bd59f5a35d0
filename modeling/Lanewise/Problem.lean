import Lanewise.Bench.Measure
import Lanewise.Config.File
import Lanewise.Executor.Basic
import Lanewise.Rpc.ProgramData

/-!
# Problems

Every part of the library refuses in a type of its own. A problem is what all of these have in
common for somebody outside: a stable word for the kind of refusal, its text, and the faults of the
machines behind it.

## Main definitions

* `Problem`: the kind, the text and the faults.
* `Refusal`: the errors that are problems; `problem` is the problem of an error.
-/

namespace Lanewise

/-- A refusal as it is told outside. -/
structure Problem where
  /-- A word that stays the same whatever the text says. -/
  kind : String
  message : String
  /-- The fault of the one machine that ran. -/
  fault : Option Fault := none
  /-- The faults of lanes, in the order of the lanes. -/
  faults : List Fault := []
deriving Repr, Inhabited

/-- The errors that are problems. -/
class Refusal (ε : Type) where
  /-- The problem of an error. -/
  problem : ε → Problem

export Refusal (problem)

/-! ### Programs -/

/-- The kind of a bad program. -/
def Program.Error.kind : Program.Error → String
  | .empty => "empty_program"
  | .entry .. => "invalid_entry"
  | .encoding _ => "invalid_encoding"

instance : Refusal Program.Error := ⟨fun e => { kind := e.kind, message := e.message }⟩

/-- The kind of words that are no instruction. -/
def Instruction.Error.kind : Instruction.Error → String
  | .ipOutOfRange _ => "ip_out_of_range"
  | .unknownOpcode .. => "unknown_opcode"
  | .truncated .. => "truncated_instruction"

instance : Refusal Instruction.Error := ⟨fun e => { kind := e.kind, message := e.message }⟩

/-- The kind of a program that an engine does not run. -/
def Program.Refusal.kind : Program.Refusal → String
  | .empty => "empty_program"
  | .instruction e => e.kind
  | .notAllowed .. => "opcode_not_allowed"

instance : Refusal Program.Refusal := ⟨fun e => { kind := e.kind, message := e.message }⟩

/-- The kind of source text that is no program. -/
def Assembly.Error.kind : Assembly.Error → String
  | .lineTooLong => "other"
  | .line _ (.program e) => e.kind
  | .line _ (.unknownMnemonic _) => "unknown_mnemonic"
  | .line .. => "syntax"

instance : Refusal Assembly.Error := ⟨fun e => { kind := e.kind, message := e.message }⟩

instance : Refusal ProgramId.Error := ⟨fun e =>
  { kind := match e with
      | .length => "invalid_program_id"
      | .base58 _ => "other"
    message := e.message }⟩

/-! ### Images -/

/-- The kind of data that are no image. -/
def Image.Error.kind : Image.Error → String
  | .program e => e.kind
  | .tooManyWords _ | .tooLarge _ | .payloadTooLarge _ => "too_large"
  | .version _ => "unsupported_version"
  | .digest => "checksum"
  | _ => "invalid_image"

instance : Refusal Image.Error := ⟨fun e => { kind := e.kind, message := e.message }⟩

instance : Refusal Image.FileError := ⟨fun e =>
  { kind := match e with
      | .image e => e.kind
      | .assembly e | .assemblyIn _ e => e.kind
      | .unknownExtension _ => "unknown_extension"
      | .missing _ => "other"
      | .fileTooLarge .. => "too_large"
    message := e.message }⟩

instance : Refusal Encoding.Error := ⟨fun e =>
  { kind := match e with
      | .image e => e.kind
      | _ => "other"
    message := e.message }⟩

/-! ### Machines and devices -/

/-- The kind of a refusal to build or run a machine. -/
def Machine.Error.kind : Machine.Error → String
  | .program e => e.kind
  | .config _ => "invalid_config"
  | .notRunnable => "not_running"

instance : Refusal Machine.Error := ⟨fun e => { kind := e.kind, message := e.message }⟩

instance : Refusal Fault := ⟨fun f =>
  { kind := match f.reason with
      | .kind k => k.name
      | .other _ => "other"
    message := f.message, fault := some f }⟩

instance : Refusal Device.Error := ⟨fun e =>
  { kind := match e with
      | .laneFault _ => "lane_fault"
      | .unavailable _ => "backend_unavailable"
      | .compileFailure _ => "compile_failure"
      | .launchFailure _ => "launch_failure"
      | .poolClosed => "pool_closed"
      | _ => "other"
    message := e.message
    faults := match e with
      | .laneFault fs => fs
      | _ => [] }⟩

instance : Refusal LaneEngine.Error := ⟨fun e =>
  match e with
  | .device e => problem e
  | .program e => problem e
  | .layout .. => { kind := "invalid_config", message := e.message }
  | .noDevice => { kind := "lanes_no_backend", message := e.message }
  | .selector _ => { kind := "lanes_heap_selector", message := e.message }
  | .values .. => { kind := "heap_index_out_of_range", message := e.message }⟩

/-! ### Stores and executors -/

/-- The kind of a refusal of a registry. -/
def Registry.Error.kind : Registry.Error → String
  | .notFound => "program_not_found"
  | .closed => "db_closed"
  | .corrupted .. => "corrupted"
  | .image e => e.kind
  | .noFile => "other"

instance : Refusal Registry.Error := ⟨fun e => { kind := e.kind, message := e.message }⟩

instance : Refusal Run.Store.Error := ⟨fun e =>
  { kind := match e with
      | .closed => "runs_closed"
      | .notFound => "run_not_found"
      | _ => "other"
    message := e.message }⟩

instance : Refusal Executor.Error := ⟨fun e =>
  match e with
  | .device e => problem e
  | .programNotFound _ => { kind := "executor_program_not_found", message := e.message }
  | .loadFailed .. => { kind := "program_load_failed", message := e.message }
  | .noDevice => { kind := "no_backend", message := e.message }
  | .invalidRequest _ => { kind := "invalid_request", message := e.message }
  | .cancelled => { kind := "canceled", message := e.message }
  | .unfinished => { kind := "other", message := e.message }⟩

/-! ### Benchmarks -/

instance : Refusal Bench.Failure := ⟨fun e =>
  match e with
  | .machine e => problem e
  | .fault f => problem f
  | .device e => problem e
  | .engine e => problem e
  | .unfinished => { kind := "other", message := e.message }⟩

instance {ε : Type} [Refusal ε] : Refusal (Bench.Error ε) := ⟨fun e =>
  let message := e.message fun e => (problem e).message
  match e with
  | .noIterations => { kind := "no_iterations", message }
  | .cancelled => { kind := "canceled", message }
  | .sample _ _ e => { problem e with message }⟩

/-! ### Configurations -/

instance : Refusal Config.LoadError := ⟨fun e =>
  match e with
  | .missing _ => { kind := "other", message := e.message }
  | .unknownFormat _ => { kind := "unknown_format", message := e.message }
  | .unreadable _ => { kind := "parse", message := "" }
  | .invalid .. => { kind := "invalid_config_file", message := e.message }⟩

end Lanewise
