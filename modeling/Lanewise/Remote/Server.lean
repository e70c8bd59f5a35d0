import Lanewise.Device.Backend
import Lanewise.Duration
import Lanewise.Remote.Wire

/-!
# Device servers

A server offers a device to clients elsewhere. It gives its own handles to clients and remembers the
handles of the device behind them.

## Main definitions

* `Remote.Server`: a server and its device.
* `Remote.Server.prepare`, `Remote.Server.execute`, `Remote.Server.release`, `Remote.Server.info`,
  `Remote.Server.stop`: its requests.
-/

namespace Lanewise.Remote

/-- A server for a device with states in `σ`. -/
structure Server (σ : Type) where
  device : σ
  version : String := ""
  /-- The handles given to clients, each with the handle of the device. -/
  handles : List (String × Handle) := []
  /-- The number of handles given out so far. -/
  issued : Nat := 0
  /-- Whether the server accepts requests. -/
  serving : Bool := true
  /-- The greatest number of bytes of a message that is received. -/
  maxReceived : Nat := 4 * 1024 * 1024
  /-- The greatest number of bytes of a message that is sent. -/
  maxSent : Nat := 0x7fffffff
  /-- The time that a launch through a handle takes. It stands in the answer. -/
  elapsed : String → Launch → Duration := fun _ _ => 0
deriving Inhabited

/-- What a server says about itself. -/
structure Info where
  backend : String := ""
  version : String := ""
  kernels : Int := 0
deriving DecidableEq, Repr, Inhabited

/-- The answer to a launch: a completion, or the faults of lanes. -/
inductive Reply
  | done (c : Completion)
  | faults (fs : List WireFault)
deriving DecidableEq, Repr, Inhabited

namespace Server

variable {σ : Type} [Backend σ]

/-- What is said about a handle that was not given out. -/
def unknownHandle (id : String) : Status :=
  ⟨Status.notFound, "unknown handle " ++ id⟩

/-- The description of the server. -/
def info (s : Server σ) : Info :=
  ⟨Backend.name s.device, s.version, s.handles.length⟩

/-- Prepares a kernel. -/
def prepare (s : Server σ) (ctx : Context) (k : Kernel) : Except Status String × Server σ :=
  match Backend.prepare s.device ctx k with
  | (.error e, device) => (.error (.ofError e), { s with device })
  | (.ok h, device) =>
    let id := Handle.idOf s.issued
    (.ok id, { s with device, handles := s.handles ++ [(id, h)], issued := s.issued + 1 })

/-- Runs a launch. -/
def execute (s : Server σ) (ctx : Context) (id : String) (l : Launch) :
    Except Status Reply × Server σ :=
  match s.handles.lookup id with
  | none => (.error (unknownHandle id), s)
  | some h =>
    match Backend.execute s.device ctx h l with
    | (.ok c, device) => (.ok (.done c), { s with device })
    | (.error (.laneFault fs), device) => (.ok (.faults (fs.map .ofFault)), { s with device })
    | (.error e, device) => (.error (.ofError e), { s with device })

/-- Releases a kernel. The handle is gone even if the device fails to release the kernel. -/
def release (s : Server σ) (id : String) : Except Status Unit × Server σ :=
  match s.handles.lookup id with
  | none => (.error (unknownHandle id), s)
  | some h =>
    let handles := s.handles.filter (·.1 != id)
    match Backend.release s.device h with
    | (.ok (), device) => (.ok (), { s with device, handles })
    | (.error e, device) => (.error (.ofError e), { s with device, handles })

/-- Stops the server and releases its kernels. -/
def stop (s : Server σ) : Server σ :=
  { s with
    device := s.handles.foldl (fun device h => (Backend.release device h.2).2) s.device
    handles := []
    serving := false }

end Server

end Lanewise.Remote
