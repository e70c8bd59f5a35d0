import Lanewise.Remote.Message

/-!
# Clients of device servers

A client is a device whose work is done by a server. A program that is given by its words is sent as
an uncompressed image. The client and the server share one state here, since requests are answered
one at a time.

What is asked and what is answered are messages. Each side bounds the size of the messages that it
sends and receives, and no list of a message that is read may be too long. A message that is refused
is refused behind the caller's back: what the server has done by then stays done.

## Main definitions

* `Remote.Client`: a client with the server it is connected to.
* `Remote.Exchange`: a request with its messages.
* `Remote.Client.exchange`: what becomes of a request.
-/

namespace Lanewise.Remote

/-- A client of a server. -/
structure Client (σ : Type) where
  endpoint : String
  server : Server σ
  /-- Whether the client has given up its connection. -/
  closed : Bool := false
  /-- The greatest number of bytes of a message, sent or received. -/
  maxMessage : Nat := 256 * 1024 * 1024
deriving Inhabited

/-! ### Requests -/

/-- A request: its message, what the server does, and the message of the answer. -/
structure Exchange (σ α : Type) where
  request : Cbor
  serve : Server σ → Except Status α × Server σ
  reply : Server σ → α → Cbor

namespace Exchange

variable {σ : Type} [Backend σ]

/-- The request for a description. -/
def info : Exchange σ Info where
  request := emptyCbor
  serve s := (.ok s.info, s)
  reply _ := Info.cbor

/-- The request to prepare a kernel. -/
def prepare (ctx : Context) (k : Kernel) : Exchange σ String where
  request := (PrepareRequest.ofKernel k).cbor
  serve s := s.prepare ctx k
  reply _ := handleCbor

/-- The request to run a launch. -/
def execute (ctx : Context) (h : Handle) (l : Launch) : Exchange σ Reply where
  request := (ExecuteRequest.ofLaunch h.id l).cbor
  serve s := s.execute ctx h.id l
  reply s r := (ExecuteResponse.ofReply (s.elapsed h.id l) r).cbor

/-- The request to release a kernel. -/
def release (h : Handle) : Exchange σ Unit where
  request := handleCbor h.id
  serve s := s.release h.id
  reply _ _ := emptyCbor

end Exchange

namespace Client

variable {σ α : Type}

/-- The name of the platform. -/
def name (c : Client σ) : String :=
  "remote:" ++ c.endpoint

/-- Why no request can be sent. -/
def refusal? (c : Client σ) (ctx : Context) : Option Status :=
  if ctx.cancelled then some ⟨Status.cancelled, Context.cancelledText⟩
  else if c.closed then some ⟨Status.cancelled, "the client connection is closing"⟩
  else if c.server.serving then none
  else some ⟨Status.unavailable, "connection refused"⟩

/-- The way of requests. -/
def outward (c : Client σ) : Passage where
  maxSent := c.maxMessage
  maxReceived := c.server.maxReceived
  sending := "trying to send"
  reading := "grpc: error unmarshalling request: "

/-- The way of answers. -/
def homeward (c : Client σ) : Passage where
  maxSent := c.server.maxSent
  maxReceived := c.maxMessage
  sending := "grpc: trying to send"
  reading := "grpc: failed to unmarshal the received message: "

/-- Sends a request and waits for the answer. -/
def exchange (c : Client σ) (ctx : Context) (x : Exchange σ α) : Except Device.Error α × Client σ :=
  match (c.refusal? ctx).or (c.outward.refusal? x.request) with
  | some s => (.error s.error, c)
  | none =>
    match x.serve c.server with
    | (.error s, server) => (.error s.error, { c with server })
    | (.ok a, server) =>
      match c.homeward.refusal? (x.reply c.server a) with
      | some s => (.error s.error, { c with server })
      | none => (.ok a, { c with server })

/-! ### Operations -/

/-- The kernel that is sent: words are replaced by their image. -/
def sent (k : Kernel) : Except Device.Error Kernel :=
  match k.program with
  | none => .ok k
  | some program =>
    if k.source.isEmpty && k.binary.isEmpty then
      match Image.encode { program, entry := k.entry } .stored false with
      | .ok binary => .ok { k with binary, program := none }
      | .error e => .error (.compileFailure e.message)
    else .error (.compileFailure "kernel needs exactly one of source, binary or program")

variable [Backend σ]

/-- Asks the server about itself. -/
def info (c : Client σ) (ctx : Context) : Except Device.Error Info :=
  (c.exchange ctx .info).1

/-- Prepares a kernel on the server. -/
def prepare (c : Client σ) (ctx : Context) (k : Kernel) : Except Device.Error Handle × Client σ :=
  match sent k with
  | .error e => (.error e, c)
  | .ok k =>
    let (answer, c) := c.exchange ctx (.prepare ctx k)
    (answer.map fun id => ⟨id, c.name⟩, c)

/-- What a client makes of the answer to a launch. -/
def completion : Reply → Except Device.Error Completion
  | .done r => .ok r
  | .faults [] => .error (.launchFailure "empty completion")
  | .faults fs => .error (.laneFault (fs.map WireFault.fault))

/-- Runs a launch on the server. -/
def execute (c : Client σ) (ctx : Context) (h : Handle) (l : Launch) :
    Except Device.Error Completion × Client σ :=
  let (answer, c) := c.exchange ctx (.execute ctx h l)
  (answer.bind completion, c)

/-- Releases a kernel on the server, whether or not a caller still waits. -/
def release (c : Client σ) (h : Handle) : Except Device.Error Unit × Client σ :=
  c.exchange {} (.release h)

/-- Gives up the connection. -/
def close (c : Client σ) : Client σ :=
  { c with closed := true }

instance : Backend (Client σ) where
  name := name
  prepare := prepare
  execute := execute
  release := release

end Client

end Lanewise.Remote
