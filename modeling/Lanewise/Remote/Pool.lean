import Lanewise.Remote.Client
import Lanewise.Text.Numeral

/-!
# Pools of remote devices

A pool spreads kernels over several clients, called its endpoints. Each kernel is prepared on the
next healthy endpoint in turn, and its launches go to the same endpoint: a handle of the pool is the
number of the endpoint, a slash, and the handle of the endpoint. An endpoint that turns out to be
unavailable is unhealthy until a health check reaches it.

## Main definitions

* `Remote.Pool`: a pool, with the log of changes of health.
* `Remote.Pool.pick`: the endpoint for the next kernel.
* `Remote.Pool.handle`, `Remote.Pool.split`: handles of the pool.
-/

namespace Lanewise.Remote

/-- A client of a pool. -/
structure Endpoint (σ : Type) where
  client : Client σ
  healthy : Bool := true
deriving Inhabited

/-- A pool of clients. -/
structure Pool (σ : Type) where
  endpoints : Array (Endpoint σ) := #[]
  /-- The number of turns taken so far. -/
  turn : UInt64 := 0
  closed : Bool := false
  /-- The changes of health so far: the endpoint and its new health. -/
  changes : List (String × Bool) := []
deriving Inhabited

namespace Pool

variable {σ : Type} [Backend σ]

/-- The name of the platform. -/
def name : String := "remote-pool"

/-- The number of healthy endpoints. -/
def healthyCount (p : Pool σ) : Nat :=
  p.endpoints.countP (·.healthy)

/-- Appends a client, which is taken to be healthy. -/
def add (p : Pool σ) (c : Client σ) : Pool σ :=
  { p with endpoints := p.endpoints.push { client := c } }

/-! ### Choosing an endpoint -/

/-- Why there is no endpoint for a kernel. -/
def noneHealthy : Device.Error :=
  .unavailable "no healthy device endpoints available"

/-- The first healthy endpoint of `n` that start at a signed 64-bit number, which counts modulo the
number of endpoints. A negative number has a negative remainder, which is no endpoint. -/
def search (p : Pool σ) (start : Int64) : (n : Nat) → Except Device.Error Nat
  | 0 => .error noneHealthy
  | n + 1 =>
    let index := start.toInt.tmod p.endpoints.size
    match index with
    | .negSucc _ => .error (.badTurn index)
    | .ofNat i =>
      if (p.endpoints[i]?.map (·.healthy)).getD false then .ok i else search p (start + 1) n

/-- The endpoint for the next kernel. Every attempt on an open pool takes a turn. -/
def pick (p : Pool σ) : Except Device.Error Nat × Pool σ :=
  if p.closed then (.error .poolClosed, p)
  else (p.search p.turn.toInt64 p.endpoints.size, { p with turn := p.turn + 1 })

/-! ### Health -/

/-- Sets the health of an endpoint and logs the change if it is one. -/
def setHealth (p : Pool σ) (i : Nat) (healthy : Bool) : Pool σ :=
  match p.endpoints[i]? with
  | none => p
  | some e =>
    if e.healthy = healthy then p
    else
      { p with
        endpoints := p.endpoints.setIfInBounds i { e with healthy }
        changes := p.changes ++ [(e.client.endpoint, healthy)] }

/-- Marks an endpoint unhealthy if its answer was that it is unavailable. -/
def observe {α : Type} (p : Pool σ) (i : Nat) : Except Device.Error α → Pool σ
  | .error (.unavailable _) => p.setHealth i false
  | _ => p

/-- Asks every endpoint about itself; an endpoint is healthy if it answers. -/
def checkHealth (p : Pool σ) (ctx : Context) : Pool σ :=
  p.endpoints.size.fold (fun i _ q =>
    match q.endpoints[i]? with
    | some e => q.setHealth i (e.client.info ctx).isOk
    | none => q) p

/-! ### Handles -/

/-- The handle of the pool for a handle of an endpoint. -/
def handle (index : Int) (h : Handle) : Handle :=
  ⟨toString index ++ "/" ++ h.id, name⟩

/-- The parts of a text before and after its first slash. -/
def cut (s : List Char) : Option (List Char × List Char) :=
  match s.dropWhile (· != '/') with
  | [] => none
  | _ :: rest => some (s.takeWhile (· != '/'), rest)

/-- The endpoint and its handle for a handle of the pool. -/
def split (h : Handle) : Except Device.Error (Int × Handle) :=
  match cut h.id.toList with
  | none => .error malformed
  | some (index, id) =>
    match Numeral.int64? index with
    | some i => .ok (i, ⟨String.ofList id, ""⟩)
    | none => .error malformed
where
  /-- What is said about a text that is no handle of the pool. -/
  malformed : Device.Error :=
    .launchFailure ("malformed pool handle " ++ Text.quote h.id)

/-- The endpoint that a handle of the pool names. -/
def route (p : Pool σ) (h : Handle) : Except Device.Error (Nat × Endpoint σ × Handle) := do
  let (index, inner) ← split h
  match index, p.endpoints[index.toNat]? with
  | .ofNat i, some e => return (i, e, inner)
  | _, _ => throw (.launchFailure s!"unknown endpoint {index}")

/-- Replaces the client of an endpoint. -/
def setClient (p : Pool σ) (i : Nat) (c : Client σ) : Pool σ :=
  { p with endpoints := p.endpoints.modify i fun e => { e with client := c } }

/-! ### Operations -/

/-- Prepares a kernel on the next healthy endpoint. -/
def prepare (p : Pool σ) (ctx : Context) (k : Kernel) : Except Device.Error Handle × Pool σ :=
  match p.pick with
  | (.error e, p) => (.error e, p)
  | (.ok i, p) =>
    match p.endpoints[i]? with
    | none => (.error (.badTurn i), p)
    | some e =>
      let (answer, client) := e.client.prepare ctx k
      let p := (p.setClient i client).observe i answer
      (answer.map (handle i), p)

/-- Runs a launch on the endpoint that prepared the kernel. -/
def execute (p : Pool σ) (ctx : Context) (h : Handle) (l : Launch) :
    Except Device.Error Completion × Pool σ :=
  match p.route h with
  | .error e => (.error e, p)
  | .ok (i, e, inner) =>
    let (answer, client) := e.client.execute ctx inner l
    (answer, (p.setClient i client).observe i answer)

/-- Releases a kernel on the endpoint that prepared it. -/
def release (p : Pool σ) (h : Handle) : Except Device.Error Unit × Pool σ :=
  match p.route h with
  | .error e => (.error e, p)
  | .ok (i, e, inner) =>
    let (answer, client) := e.client.release inner
    (answer, p.setClient i client)

/-- Closes the pool and the connections of its endpoints. -/
def close (p : Pool σ) : Pool σ :=
  { p with
    closed := true
    endpoints := p.endpoints.map fun e => { e with client := e.client.close } }

instance : Backend (Pool σ) where
  name _ := name
  prepare := prepare
  execute := execute
  release := release

end Pool

end Lanewise.Remote
