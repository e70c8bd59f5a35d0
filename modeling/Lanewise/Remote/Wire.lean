import Lanewise.Device.Launch

/-!
# Faults and refusals on the wire

A device server reports faulted lanes by the names of their kinds, and a refusal by a status: a
number and a text. What the far side makes of a status depends on the number only.

## Main definitions

* `Remote.WireFault`: a fault between server and client.
* `Remote.Status`: a refusal between server and client.
-/

namespace Lanewise.Remote

/-! ### Faults -/

/-- A fault as it is sent. -/
structure WireFault where
  lane : Word := 0
  ip : Int := 0
  opcode : Word := 0
  mnemonic : String := ""
  /-- The name of the kind. -/
  kind : String := ""
  detail : String := ""
deriving DecidableEq, Repr, Inhabited

namespace WireFault

/-- What is sent for a fault. A fault without detail sends its reason in that place. -/
def ofFault (f : Fault) : WireFault :=
  { lane := f.lane, ip := f.ip, opcode := f.opcode, mnemonic := f.mnemonic, kind := f.kindName
    detail := if f.detail.isEmpty then f.reasonText else f.detail }

/-- The fault that was sent. A name that is no kind becomes a reason of its own. -/
def fault (w : WireFault) : Fault :=
  { reason := .ofName w.kind, opcode := w.opcode, mnemonic := w.mnemonic, ip := w.ip,
    lane := w.lane, detail := w.detail }

end WireFault

/-! ### Refusals -/

/-- A refusal as it is sent. -/
structure Status where
  code : Nat
  message : String
deriving DecidableEq, Repr, Inhabited

namespace Status

/-- The caller does not wait any more. -/
def cancelled : Nat := 1

/-- The request makes no sense in any state. -/
def invalidArgument : Nat := 3

/-- The request names something that is not there. -/
def notFound : Nat := 5

/-- A message is larger than it may be. -/
def resourceExhausted : Nat := 8

/-- The request makes no sense in the present state. -/
def failedPrecondition : Nat := 9

/-- The server failed. -/
def internal : Nat := 13

/-- The server cannot be reached. -/
def unavailable : Nat := 14

/-- The number of the status for an error. -/
def codeFor : Device.Error → Nat
  | .unavailable _ => unavailable
  | .compileFailure _ => invalidArgument
  | .launchFailure _ => failedPrecondition
  | _ => internal

/-- A message of too many bytes; `what` says which side refuses it. -/
def tooLarge (what : String) (size limit : Nat) : Status :=
  ⟨resourceExhausted, what ++ s!" message larger than max ({size} vs. {limit})"⟩

/-- The status that a server sends for an error of its device. -/
def ofError (e : Device.Error) : Status :=
  ⟨codeFor e, e.message⟩

/-- The error that a client makes of a status. -/
def error (s : Status) : Device.Error :=
  if s.code = 0 then .unavailable ""
  else if s.code = invalidArgument then .compileFailure s.message
  else if s.code = failedPrecondition ∨ s.code = notFound ∨ s.code = internal then
    .launchFailure s.message
  else .unavailable s.message

end Status

end Lanewise.Remote
