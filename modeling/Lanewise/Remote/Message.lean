import Lanewise.Cbor.Parser
import Lanewise.Remote.Server

/-!
# Messages between clients and servers

Every message is a CBOR map from small numbers to fields. A list that was never given differs from
an empty list in the encoding, so lists of messages are optional. A field that is missing has its
default when a message is read; a field that has the wrong form makes the message unreadable.

## Main definitions

* `Remote.PrepareRequest`, `Remote.ExecuteRequest`, `Remote.ExecuteResponse`, `Remote.Info`: the
  messages, each with `cbor` and `ofCbor?`.
* `Remote.Passage`: a way that messages take, with the greatest sizes on it.
-/

namespace Lanewise.Remote

/-- Rows of words, each of which may never have been given. -/
abbrev Rows := List (Option (List Word))

/-- The encoding of rows. -/
def Rows.cbor (rows : Rows) : Cbor :=
  .array (rows.map (Cbor.ofListOrNull fun w => .ofInt w.toInt))

/-- The rows with a given encoding. -/
def Rows.ofCbor? (v : Cbor) : Option Rows :=
  Cbor.list? (Cbor.listOrNull? Cbor.word? 0) none v

/-- Rows, all of which have been given. -/
def Rows.ofArrays (rows : Array (Array Word)) : Rows :=
  rows.toList.map fun r => some r.toList

/-- The rows as arrays of words. -/
def Rows.arrays (rows : Rows) : Array (Array Word) :=
  (rows.map fun r => (r.getD []).toArray).toArray

/-- Asks a server to prepare a kernel. -/
structure PrepareRequest where
  source : String := ""
  binary : List UInt8 := []
  entry : Int := 0
  stackSize : Int := 0
  heaps : Option (List Int) := none
  placement : Int := 0
  trace : Bool := false
  maxSteps : UInt64 := 0
  mode : UInt8 := 0
deriving DecidableEq, Repr, Inhabited

namespace PrepareRequest

/-- The encoding of a request. -/
def cbor (r : PrepareRequest) : Cbor :=
  .ofFields [Cbor.present 1 (.ofFields [
    Cbor.omitted r.source.isEmpty 1 (.ofString r.source),
    Cbor.omitted r.binary.isEmpty 2 (.bytes r.binary),
    Cbor.present 3 (.ofInt r.entry),
    Cbor.present 4 (.ofInt r.stackSize),
    Cbor.present 5 (.ofListOrNull .ofInt r.heaps),
    Cbor.present 6 (.ofInt r.placement),
    Cbor.omitted (!r.trace) 7 (.ofBool r.trace),
    Cbor.omitted (r.maxSteps == 0) 8 (.uint r.maxSteps.toNat),
    Cbor.omitted (r.mode == 0) 9 (.uint r.mode.toNat)])]

/-- The kernel with a given encoding. -/
def ofKernelCbor? (v : Cbor) : Option PrepareRequest := do
  let ms ← v.message?
  return {
    source := ← Cbor.field ms 1 Cbor.string? ""
    binary := ← Cbor.field ms 2 Cbor.bytes? []
    entry := ← Cbor.field ms 3 Cbor.int? 0
    stackSize := ← Cbor.field ms 4 Cbor.int? 0
    heaps := ← Cbor.field ms 5 (Cbor.listOrNull? Cbor.int? 0) none
    placement := ← Cbor.field ms 6 Cbor.int? 0
    trace := ← Cbor.field ms 7 Cbor.bool? false
    maxSteps := ← Cbor.field ms 8 Cbor.uint64? 0
    mode := ← Cbor.field ms 9 Cbor.byte? 0 }

/-- The request with a given encoding. -/
def ofCbor? (v : Cbor) : Option PrepareRequest := do
  Cbor.field (← v.message?) 1 ofKernelCbor? {}

/-- The request for a kernel. -/
def ofKernel (k : Kernel) : PrepareRequest :=
  { source := k.source, binary := k.binary.toList, entry := k.entry, stackSize := k.stackSize,
    heaps := some k.heaps, placement := k.placement, trace := k.trace, maxSteps := k.maxSteps,
    mode := k.mode.bits }

/-- The kernel of a request. -/
def kernel (r : PrepareRequest) : Kernel :=
  { source := r.source, binary := ⟨r.binary.toArray⟩, entry := r.entry, stackSize := r.stackSize,
    heaps := r.heaps.getD [], placement := r.placement, trace := r.trace, maxSteps := r.maxSteps,
    mode := ⟨r.mode⟩ }

end PrepareRequest

/-- The encoding of the answer to a request for a kernel, and of a request to release one: the
handle alone. -/
def handleCbor (id : String) : Cbor :=
  .ofFields [Cbor.present 1 (.ofString id)]

/-- The handle of a message that consists of one. -/
def handleOfCbor? (v : Cbor) : Option String := do
  Cbor.field (← v.message?) 1 Cbor.string? ""

/-- The encoding of a message that says nothing. -/
def emptyCbor : Cbor :=
  .ofFields []

/-- Asks a server to run a launch. -/
structure ExecuteRequest where
  handle : String := ""
  heaps : Option Rows := none
  lanes : Int := 0
  groupSize : Int := 0
deriving DecidableEq, Repr, Inhabited

namespace ExecuteRequest

/-- The encoding of a request. -/
def cbor (r : ExecuteRequest) : Cbor :=
  .ofFields [Cbor.present 1 (.ofString r.handle), Cbor.present 2 (.ofFields [
    Cbor.present 1 ((r.heaps.map Rows.cbor).getD .null),
    Cbor.present 2 (.ofInt r.lanes),
    Cbor.omitted (r.groupSize == 0) 3 (.ofInt r.groupSize)])]

/-- The heaps, the number of lanes and the group size with a given encoding. -/
def launchOfCbor? (v : Cbor) : Option (Option Rows × Int × Int) := do
  let ms ← v.message?
  return (← Cbor.field ms 1 (fun v => (Rows.ofCbor? v).map some) none,
    ← Cbor.field ms 2 Cbor.int? 0, ← Cbor.field ms 3 Cbor.int? 0)

/-- The request for a launch through a handle. -/
def ofLaunch (handle : String) (l : Launch) : ExecuteRequest :=
  { handle, heaps := some (.ofArrays l.heaps), lanes := l.lanes, groupSize := l.groupSize }

/-- The request with a given encoding. -/
def ofCbor? (v : Cbor) : Option ExecuteRequest := do
  let ms ← v.message?
  let handle ← Cbor.field ms 1 Cbor.string? ""
  let (heaps, lanes, groupSize) ← Cbor.field ms 2 launchOfCbor? (none, 0, 0)
  return { handle, heaps, lanes, groupSize }

end ExecuteRequest

/-- The completion of a launch as it is sent, with the time it took in nanoseconds. -/
structure Report where
  heaps : Option Rows := none
  elapsed : Int := 0
  printed : Rows := []
  steps : UInt64 := 0
  groups : Int := 0
  trace : List String := []
deriving DecidableEq, Repr, Inhabited

namespace Report

/-- The encoding of a report. -/
def cbor (r : Report) : Cbor :=
  .ofFields [
    Cbor.present 1 ((r.heaps.map Rows.cbor).getD .null),
    Cbor.present 2 (.ofInt r.elapsed),
    Cbor.omitted r.printed.isEmpty 3 r.printed.cbor,
    Cbor.present 4 (.uint r.steps.toNat),
    Cbor.present 5 (.ofInt r.groups),
    Cbor.omitted r.trace.isEmpty 6 (.array (r.trace.map .ofString))]

/-- The report of a completion. -/
def ofCompletion (c : Completion) (elapsed : Duration) : Report :=
  { heaps := some (.ofArrays c.heaps), elapsed := elapsed.toInt, printed := .ofArrays c.printed
    steps := c.steps, groups := c.groups, trace := c.trace.toList }

/-- The report with a given encoding. -/
def ofCbor? (v : Cbor) : Option Report := do
  let ms ← v.message?
  return {
    heaps := ← Cbor.field ms 1 (fun v => (Rows.ofCbor? v).map some) none
    elapsed := ← Cbor.field ms 2 Cbor.int? 0
    printed := ← Cbor.field ms 3 Rows.ofCbor? []
    steps := ← Cbor.field ms 4 Cbor.uint64? 0
    groups := ← Cbor.field ms 5 Cbor.int? 0
    trace := ← Cbor.field ms 6 (Cbor.list? Cbor.string? "") [] }

end Report

namespace WireFault

/-- The encoding of a fault. -/
def cbor (f : WireFault) : Cbor :=
  .ofFields [
    Cbor.present 1 (.ofInt f.lane.toInt),
    Cbor.present 2 (.ofInt f.ip),
    Cbor.present 3 (.ofInt f.opcode.toInt),
    Cbor.omitted f.mnemonic.isEmpty 4 (.ofString f.mnemonic),
    Cbor.present 5 (.ofString f.kind),
    Cbor.omitted f.detail.isEmpty 6 (.ofString f.detail)]

/-- The fault with a given encoding. -/
def ofCbor? (v : Cbor) : Option WireFault := do
  let ms ← v.message?
  return {
    lane := ← Cbor.field ms 1 Cbor.word? 0
    ip := ← Cbor.field ms 2 Cbor.int? 0
    opcode := ← Cbor.field ms 3 Cbor.word? 0
    mnemonic := ← Cbor.field ms 4 Cbor.string? ""
    kind := ← Cbor.field ms 5 Cbor.string? ""
    detail := ← Cbor.field ms 6 Cbor.string? "" }

end WireFault

/-- The answer to a launch. -/
structure ExecuteResponse where
  done : Option Report := none
  faults : List WireFault := []
deriving DecidableEq, Repr, Inhabited

namespace ExecuteResponse

/-- The encoding of an answer. -/
def cbor (r : ExecuteResponse) : Cbor :=
  .ofFields [
    r.done.map fun d => (1, d.cbor),
    Cbor.omitted r.faults.isEmpty 2 (.array (r.faults.map WireFault.cbor))]

/-- The answer of a server, with the time that the launch took. -/
def ofReply (elapsed : Duration) : Reply → ExecuteResponse
  | .done c => { done := some (.ofCompletion c elapsed) }
  | .faults fs => { faults := fs }

/-- The answer with a given encoding. -/
def ofCbor? (v : Cbor) : Option ExecuteResponse := do
  let ms ← v.message?
  return {
    done := ← Cbor.field ms 1 (fun v => (Report.ofCbor? v).map some) none
    faults := ← Cbor.field ms 2 (Cbor.list? WireFault.ofCbor? {}) [] }

end ExecuteResponse

namespace Info

/-- The encoding of a description. -/
def cbor (i : Info) : Cbor :=
  .ofFields [Cbor.present 1 (.ofString i.backend), Cbor.present 2 (.ofString i.version),
    Cbor.present 3 (.ofInt i.kernels)]

/-- The description with a given encoding. -/
def ofCbor? (v : Cbor) : Option Info := do
  let ms ← v.message?
  return {
    backend := ← Cbor.field ms 1 Cbor.string? ""
    version := ← Cbor.field ms 2 Cbor.string? ""
    kernels := ← Cbor.field ms 3 Cbor.int? 0 }

end Info

/-! ### Passages -/

/-- A way that messages take. -/
structure Passage where
  /-- The greatest number of bytes of a message that is sent. -/
  maxSent : Nat
  /-- The greatest number of bytes of a message that is received. -/
  maxReceived : Nat
  /-- What is said of a message that is too large to be sent. -/
  sending : String
  /-- What is said of a message that cannot be read. -/
  reading : String

/-- Why a message does not arrive. -/
def Passage.refusal? (p : Passage) (message : Cbor) : Option Status :=
  let size := message.encode.size
  if p.maxSent < size then some (.tooLarge p.sending size p.maxSent)
  else if p.maxReceived < size then some (.tooLarge "grpc: received" size p.maxReceived)
  else if message.short then none
  else some ⟨Status.internal, p.reading ++ Cbor.tooManyText⟩

end Lanewise.Remote
