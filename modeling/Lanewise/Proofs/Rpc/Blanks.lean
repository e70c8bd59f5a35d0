import Lanewise.Proofs.Rpc.Batch

/-!
# Blanks in front of a body

Blanks around a JSON text mean nothing, and a body that holds one call may have them in front. A
batch may not: whether a body is a batch is decided by its first byte, before it is read, and behind
a blank the first byte is no bracket. The array is then read as one call, which no array is, so the
body is refused as one that cannot be parsed, and nothing is done.

## Main definitions

* `Rpc.IsBatch`: the bodies that are read as batches.

## Main results

* `Rpc.Server.handle_congr`: an answer depends on the body through what is made of the body alone.
* `Rpc.Server.answerBody_blanks`, `Rpc.Server.answerBody_blanks_bracket`: what is made of a body
  behind blanks.
* `Rpc.Server.handle_blanks`: blanks change no answer, unless they stand in front of a batch.
* `Rpc.Server.spacedBatch_refused`: a batch behind a blank is refused.
-/

namespace Lanewise.Rpc

open Json (BlankBytes)

/-- The calls of a batch. -/
def batch? (body : List UInt8) : Option (List Call) :=
  (Json.parse? (Text.lossy body)).bind fun j => j.items?.bind fun xs => xs.mapM Call.ofJson?

/-- A body that begins with a bracket and holds calls in an array. -/
def IsBatch (body : List UInt8) : Prop :=
  body.head? = some 0x5B ∧ (batch? body).isSome = true

/-- Behind blanks nothing begins with a bracket. -/
theorem head?_blanks_append {w : List UInt8} (hw : BlankBytes w) (hne : w ≠ [])
    (body : List UInt8) :
    (w ++ body).head? ≠ some 0x5B := by
  intro hbracket
  obtain ⟨b, bs, rfl⟩ := List.exists_cons_of_ne_nil hne
  obtain rfl : b = 0x5B := Option.some.inj hbracket
  have hblank := hw 0x5B List.mem_cons_self
  revert hblank
  decide

namespace Server

variable {σ : Type} [Backend σ] {s : Server σ} {r : Http.Request} {body other : List UInt8}

/-- Requests that differ in their bodies are answered alike if the same is made of these. -/
theorem handle_congr (h : s.respond body = s.respond other) :
    s.handle { r with body := body } = s.handle { r with body := other } := by
  have hpost : s.post { r with body := body } = s.post { r with body := other } := by
    unfold post
    dsimp only
    rw [h]
  unfold handle
  rw [hpost]
  rfl

/-- What is made of a body that does not begin with a bracket. -/
theorem answerBody_of_single (hbracket : body.head? ≠ some 0x5B) :
    s.answerBody body =
      (((Json.parse? (Text.lossy body)).bind Call.ofJson?).map s.dispatch).getD
        (s.refuse .parse) := by
  rw [answerBody, if_neg hbracket]
  cases (Json.parse? (Text.lossy body)).bind Call.ofJson? with
  | none => rfl
  | some c => rfl

/-- A body that begins with a bracket and cannot be read as a batch is refused. -/
theorem answerBody_of_not_batch (hbracket : body.head? = some 0x5B) (hbatch : ¬IsBatch body) :
    s.answerBody body = s.refuse .parse := by
  have hnone : batch? body = none := by
    by_contra hsome
    exact hbatch ⟨hbracket, Option.isSome_iff_ne_none.2 hsome⟩
  unfold batch? at hnone
  rw [answerBody, if_pos hbracket, hnone]

/-- What begins with a bracket is no call. -/
theorem no_call_of_bracket (hbracket : body.head? = some 0x5B) :
    (Json.parse? (Text.lossy body)).bind Call.ofJson? = none := by
  cases hread : Json.parse? (Text.lossy body) with
  | none => rfl
  | some j =>
    obtain ⟨xs, rfl⟩ := Json.eq_array_of_parse? (Json.startsWith_lossy hbracket) hread
    rfl

variable {w : List UInt8}

/-- A body behind blanks that begins with a bracket is refused. -/
theorem answerBody_blanks_bracket (hw : BlankBytes w) (hne : w ≠ [])
    (hbracket : body.head? = some 0x5B) :
    s.answerBody (w ++ body) = s.refuse .parse := by
  rw [answerBody_of_single (head?_blanks_append hw hne body), Json.parse?_lossy_blanks_append hw,
    no_call_of_bracket hbracket, Option.map_none, Option.getD_none]

/-- Blanks in front of a body are passed over, if it is no batch. -/
theorem answerBody_blanks (hw : BlankBytes w) (hne : w ≠ []) (hbatch : ¬IsBatch body) :
    s.answerBody (w ++ body) = s.answerBody body := by
  by_cases hbracket : body.head? = some 0x5B
  · rw [answerBody_blanks_bracket hw hne hbracket, answerBody_of_not_batch hbracket hbatch]
  · rw [answerBody_of_single (head?_blanks_append hw hne body), answerBody_of_single hbracket,
      Json.parse?_lossy_blanks_append hw]

/-- Blanks in front of a body change neither the answer to a request nor the server after it,
whether the body can be read or not, as long as it is no batch. A batch behind blanks is refused as
a body that cannot be parsed, and the server is left as it is. -/
theorem handle_blanks (hw : BlankBytes w)
    (hsize : ((w.length + r.body.length : Nat) : Int) ≤ s.config.maxRequestSize.toInt) :
    (w = [] ∨ ¬IsBatch r.body → s.handle { r with body := w ++ r.body } = s.handle r) ∧
      (w ≠ [] → IsBatch r.body → s.respond (w ++ r.body) = s.refuse .parse) := by
  have hspaced : s.respond (w ++ r.body) = s.answerBody (received s.config (w ++ r.body)) :=
    respond_of_le (by rwa [List.length_append])
  have hplain : s.respond r.body = s.answerBody (received s.config r.body) :=
    respond_of_le (by omega)
  rw [received_eq (by rwa [List.length_append])] at hspaced
  rw [received_eq (by omega)] at hplain
  -- Under the greatest bound neither body is read, and no bytes are no call.
  have hempty : s.answerBody [] = s.refuse .parse := rfl
  refine ⟨fun h => ?_, fun hne hbatch => ?_⟩
  · by_cases hne : w = []
    · rw [hne, List.nil_append]
    refine handle_congr ?_
    rw [hspaced, hplain]
    split
    · rfl
    · exact answerBody_blanks hw hne (h.resolve_left hne)
  · rw [hspaced]
    split
    · exact hempty
    · exact answerBody_blanks_bracket hw hne hbatch.1

/-- A request for the health of a server. -/
def healthCall : Http.Request :=
  { method := "POST"
    body := Text.asciiBytes
      "\x7b\"jsonrpc\":\"2.0\",\"id\":\"a\",\"method\":\"getHealth\"\x7d".toList }

/-- The same call as a batch. -/
def healthBatch : Http.Request :=
  { healthCall with body := 0x5B :: healthCall.body ++ [0x5D] }

/-- Each of the four blanks. -/
def blanks : List UInt8 := [0x0D, 0x0A, 0x09, 0x20]

/-- The call may have blanks in front, and the batch may not. -/
theorem spacedCall_handled :
    BlankBytes blanks ∧ ¬IsBatch healthCall.body ∧ IsBatch healthBatch.body ∧
      empty.handle { healthCall with body := blanks ++ healthCall.body } = empty.handle healthCall ∧
      empty.respond (blanks ++ healthBatch.body) = empty.refuse .parse := by
  have hblank : BlankBytes blanks := by decide
  have hcall : ¬IsBatch healthCall.body := fun h => absurd h.1 (by decide +kernel)
  have hbatch : IsBatch healthBatch.body := ⟨by decide +kernel, by decide +kernel⟩
  exact ⟨hblank, hcall, hbatch, (handle_blanks hblank (by decide +kernel)).1 (.inr hcall),
    (handle_blanks (r := healthBatch) hblank (by decide +kernel)).2 (by decide) hbatch⟩

/-- Whether a response carries the answers to a batch. -/
def answersBatch (r : Http.Response) : Bool :=
  match r.body with
  | .json j => j.items?.isSome
  | .text _ => false

/-- The batch is answered, but behind a blank it is not. -/
theorem spacedBatch_refused :
    BlankBytes [0x20] ∧
      ((1 + healthBatch.body.length : Nat) : Int) ≤ empty.config.maxRequestSize.toInt ∧
      (empty.handle { healthBatch with body := [0x20] ++ healthBatch.body }).1 ≠
        (empty.handle healthBatch).1 := by
  refine ⟨by decide, by decide +kernel, fun h => ?_⟩
  have hspaced : answersBatch
      (empty.handle { healthBatch with body := [0x20] ++ healthBatch.body }).1 = false := by
    decide +kernel
  have hbatch : answersBatch (empty.handle healthBatch).1 = true := by decide +kernel
  rw [h, hbatch] at hspaced
  cases hspaced

end Server

end Lanewise.Rpc
