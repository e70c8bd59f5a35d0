import Lanewise.Inspect
import Lanewise.Remote.Message

/-!
# Messages in a transcript

A transcript shows the messages between clients and servers as JSON. Every message can be written to
a transcript and read back from one; what a transcript leaves out has its default.

## Main definitions

* `Remote.Message`: the messages of the protocol.
* `Remote.Message.cbor`, `Remote.Message.ofCbor?`: messages as they are sent.
* `Remote.Message.json`, `Remote.Message.ofJson?`: messages in a transcript.
-/

namespace Lanewise.Remote

/-- The messages of the protocol. -/
inductive Message
  | infoRequest
  | infoResponse (info : Info)
  | prepareRequest (r : PrepareRequest)
  | prepareResponse (handle : String)
  | executeRequest (r : ExecuteRequest)
  | executeResponse (r : ExecuteResponse)

/-- Rows in a transcript. -/
def Rows.json (rows : Rows) : Json :=
  .ofHeaps rows.arrays

/-- The rows of a member, which may never have been given. -/
def Rows.ofMember (j : Json) (name : String) : Option Rows :=
  ((j.get? name).bind (·.items?)).map fun rows =>
    rows.map fun r => r.items?.map fun _ => r.toWords.toList

/-- A fault in a transcript. -/
def WireFault.json (f : WireFault) : Json :=
  .object [("lane", .ofWord f.lane), ("ip", .ofInt f.ip), ("op", .ofWord f.opcode),
    ("mnemonic", .string f.mnemonic), ("kind", .string f.kind), ("detail", .string f.detail)]

/-- The fault in a transcript. -/
def WireFault.ofJson (j : Json) : WireFault :=
  { lane := j.wordAt "lane", ip := j.intAt "ip", opcode := j.wordAt "op",
    mnemonic := j.stringAt "mnemonic", kind := j.stringAt "kind", detail := j.stringAt "detail" }

/-- The completion of a launch in a transcript, less its time. -/
def Report.json (r : Report) : Json :=
  .object [("heaps", (r.heaps.getD []).json), ("printed", r.printed.json),
    ("steps", .ofNat r.steps.toNat), ("groups", .ofInt r.groups), ("trace", .ofStrings r.trace)]

/-- The completion of a launch in a transcript. -/
def Report.ofJson (j : Json) : Report :=
  { heaps := Rows.ofMember j "heaps", elapsed := j.intAt "elapsed"
    printed := (Rows.ofMember j "printed").getD [], steps := j.uint64At "steps"
    groups := j.intAt "groups", trace := j.stringsAt "trace" }

/-- What a server says about itself. -/
def Info.json (i : Info) : Json :=
  .object
    [("backend", .string i.backend), ("version", .string i.version), ("kernels", .ofInt i.kernels)]

/-- A request for a kernel in a transcript. -/
def PrepareRequest.json (r : PrepareRequest) : Json :=
  .object [("source", .string r.source), ("binary", .string (Hex.encode ⟨r.binary.toArray⟩)),
    ("entry", .ofInt r.entry), ("stack_size", .ofInt r.stackSize),
    ("heaps", .array ((r.heaps.getD []).map .ofInt)), ("placement", .ofInt r.placement),
    ("trace", .bool r.trace), ("max_steps", .ofNat r.maxSteps.toNat), ("mode", .ofNat r.mode.toNat)]

/-- The request for a kernel in a transcript. -/
def PrepareRequest.ofJson (j : Json) : PrepareRequest :=
  { PrepareRequest.ofKernel (Kernel.ofJson j) with
    heaps := ((j.get? "heaps").bind (·.items?)).map fun _ => j.intsAt "heaps" }

namespace Message

/-- A message as it is sent. -/
def cbor : Message → Cbor
  | infoRequest => .ofFields []
  | infoResponse i => i.cbor
  | prepareRequest r => r.cbor
  | prepareResponse h => handleCbor h
  | executeRequest r => r.cbor
  | executeResponse r => r.cbor

/-- The message of a given kind that was sent. -/
def ofCbor? (kind : String) (v : Cbor) : Option Message :=
  match kind with
  | "info_request" => v.message?.map fun _ => infoRequest
  | "info_response" => (Info.ofCbor? v).map infoResponse
  | "prepare_request" => (PrepareRequest.ofCbor? v).map prepareRequest
  | "prepare_response" => (handleOfCbor? v).map prepareResponse
  | "execute_request" => (ExecuteRequest.ofCbor? v).map executeRequest
  | "execute_response" => (ExecuteResponse.ofCbor? v).map executeResponse
  | _ => none

/-- A message in a transcript. -/
def json : Message → Json
  | infoRequest => .object []
  | infoResponse i => i.json
  | prepareRequest r => r.json
  | prepareResponse h => .object [("handle", .string h)]
  | executeRequest r => .object [("handle", .string r.handle), ("heaps", (r.heaps.getD []).json),
      ("lanes", .ofInt r.lanes), ("group", .ofInt r.groupSize)]
  | executeResponse r => .object ([("faults", .array (r.faults.map WireFault.json))] ++
      match r.done with
      | none => []
      | some d => [("elapsed", .ofInt d.elapsed), ("done", d.json)])

/-- The message of a given kind in a transcript. -/
def ofJson? (kind : String) (j : Json) : Option Message :=
  match kind with
  | "info_request" => some infoRequest
  | "info_response" =>
    some (infoResponse ⟨j.stringAt "backend", j.stringAt "version", j.intAt "kernels"⟩)
  | "prepare_request" => some (prepareRequest (.ofJson (j.valueAt "kernel")))
  | "prepare_response" => some (prepareResponse (j.stringAt "handle"))
  | "execute_request" => some (executeRequest
      { handle := j.stringAt "handle", heaps := Rows.ofMember j "heaps", lanes := j.intAt "lanes",
        groupSize := j.intAt "group" })
  | "execute_response" => some (executeResponse
      { done := (j.get? "done").map Report.ofJson,
        faults := (j.itemsAt "faults").map WireFault.ofJson })
  | _ => none

end Message

end Lanewise.Remote
