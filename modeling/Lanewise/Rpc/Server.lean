import Lanewise.Http.Html
import Lanewise.Json.Parser
import Lanewise.Rpc.Method
import Lanewise.Text.Rune

/-!
# Remote procedure calls over HTTP

A request holds one call, or a batch of calls in an array. A body is a batch if its first byte is an
opening bracket. Calls of a batch are answered in order. Bytes of a body that are no text are read
as U+FFFD, which is no part of JSON but inside of strings.

## Main definitions

* `Rpc.Call`: a call.
* `Rpc.Server.respond`: the answer to a body.
* `Rpc.Server.handle`: the answer to a request.
-/

namespace Lanewise.Rpc

/-- The version of the protocol. -/
def protocolVersion : String := "2.0"

/-- One call. -/
structure Call where
  version : String := ""
  /-- What the caller knows the call by. -/
  id : Json := .null
  method : String := ""
  params : Json := .null
deriving Repr, Inhabited

/-- What a caller knows a call by. Its numbers have to be readable. -/
def callId : Json.Kind Json where
  name := "interface \x7b\x7d"
  zero := .null
  null _ := .null
  read j :=
    match j.normalized? with
    | some j => .ok j
    | none => .error ⟨"number", "float64", none⟩

/-- Parameters, which are read later. -/
def rawParams : Json.Kind Json where
  name := "json.RawMessage"
  zero := .null
  null _ := .null
  read := .ok

/-- Calls. -/
def Call.kind : Json.Kind Call :=
  .record "rpc" "Request" {} [
    .of "jsonrpc" .text (·.version) fun c v => { c with version := v },
    .of "id" callId (·.id) fun c v => { c with id := v },
    .of "method" .text (·.method) fun c v => { c with method := v },
    .of "params" rawParams (·.params) fun c v => { c with params := v }]

/-- The call in a JSON value. -/
def Call.ofJson? (j : Json) : Option Call :=
  (Call.kind.into {} j).toOption

/-- The answer to a call. -/
def answerJson (id : Json) (answer : Except Error Json) : Json :=
  .object ([("jsonrpc", .string protocolVersion), ("id", id)] ++
    match answer with
    | .ok j => [("result", j)]
    | .error e => [("error", e.json)])

namespace Server

variable {σ : Type} [Backend σ]

/-- Answers a call. -/
def dispatch (s : Server σ) (c : Call) : Json × Server σ :=
  if c.version = protocolVersion then
    let (answer, s) := s.call c.method c.params
    (answerJson c.id answer, s)
  else (answerJson c.id (.error .invalidRequest), s)

/-- Answers calls one after another. -/
def dispatchAll (s : Server σ) : List Call → List Json × Server σ
  | [] => ([], s)
  | c :: cs =>
    let (answer, s) := s.dispatch c
    let (answers, s) := dispatchAll s cs
    (answer :: answers, s)

/-- An answer to a body that holds no call. -/
def refuse (s : Server σ) (e : Error) : Json × Server σ :=
  (answerJson .null (.error e), s)

/-- What is read of a body: one byte more than it may have, so that a longer one is told from one
that fits. The number of bytes is a signed 64-bit integer, and the greatest bound has no
successor. -/
def received (c : Config) (body : List UInt8) : List UInt8 :=
  body.take (c.maxRequestSize + 1).toInt.toNat

/-- Answers what has been read of a body. -/
def answerBody (s : Server σ) (body : List UInt8) : Json × Server σ :=
  if body.head? = some 0x5B then
    match (Json.parse? (Text.lossy body)).bind fun j => j.items?.bind fun xs =>
      xs.mapM Call.ofJson? with
    | none => s.refuse .parse
    | some [] => s.refuse .invalidRequest
    | some cs =>
      let (answers, s) := s.dispatchAll cs
      (.array answers, s)
  else match (Json.parse? (Text.lossy body)).bind Call.ofJson? with
    | none => s.refuse .parse
    | some c => s.dispatch c

/-- Answers a body. -/
def respond (s : Server σ) (body : List UInt8) : Json × Server σ :=
  let body := received s.config body
  if s.config.maxRequestSize.toInt < body.length then s.refuse .tooLarge
  else s.answerBody body

/-- Answers a request that has come through. -/
def post (s : Server σ) (r : Http.Request) : Http.Response × Server σ :=
  if r.method ≠ "POST" then (.plain 405 "Method not allowed", s)
  else if r.contentType ≠ "" ∧ !r.contentType.startsWith "application/json" then
    let (j, s) := s.refuse .invalidRequest
    (.json j, s)
  else
    let (j, s) := s.respond r.body
    (.json j, s)

/-- Whether pages from a place may call. -/
def allows (c : Config) (origin : String) : Bool :=
  c.origins.isEmpty || c.origins.any fun o => o == origin || o == "*"

/-- The header fields that let pages from a place call. -/
def originHeaders (c : Config) (origin : String) : List (String × String) :=
  if origin.isEmpty || !allows c origin then []
  else
    [("access-control-allow-origin", origin), ("access-control-allow-methods", "POST, OPTIONS"),
      ("access-control-allow-headers", "Content-Type, Authorization"),
      ("access-control-max-age", "3600")]

/-- Answers a request. -/
def handle (s : Server σ) (r : Http.Request) : Http.Response × Server σ :=
  if !s.config.crossOrigin then Http.atCleanPath r [] s fun _ => s.post r
  else
    let headers := originHeaders s.config r.origin
    if r.method = "OPTIONS" then ({ status := 204, headers }, s)
    else
      let (response, s) := Http.atCleanPath r [] s fun _ => s.post r
      ({ response with headers := headers ++ response.headers }, s)

end Server

end Lanewise.Rpc
