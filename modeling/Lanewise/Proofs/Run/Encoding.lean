import Lanewise.Proofs.Cbor.Fields
import Lanewise.Proofs.Run.Rereading

/-!
# The encoding of records

A record is stored as the bytes of a CBOR message. Reading the message back gives the record, with
the start that its text tells, or nothing, if a list has too many items or the text is not one of a
point in time. This is what a record that is read back was said to be, so the store finds, lists and
prunes what its file holds.

## Main results

* `Run.Record.ofCbor?_cbor`: the record of a message.
* `Run.Record.parse_encode`: the record of the bytes that are stored.
-/

namespace Lanewise.Run.Record

open Cbor

variable {r : Record}

/-! ### Messages -/

theorem ofFront_bytes (id : ProgramId) : ProgramId.ofFront id.bytes = id := by
  have hfront : (id.bytes ++ List.replicate 32 0).take 32 = id.bytes :=
    List.take_left' id.length_bytes
  simp only [ProgramId.ofFront, hfront]

theorem program?_bytes (id default : ProgramId) :
    orDefault (fun v => (v.bytesUpTo? (some 32)).map .ofFront) default (.bytes id.bytes) =
      some id :=
  congrArg some (ofFront_bytes id)

theorem rows?_rowCbor (rows : List Row) :
    orDefault (list? (listOrNull? word? 0) none) [] (.array (rows.map rowCbor)) = some rows :=
  rows?_array rows

/-- What is read of a start that has been written. -/
theorem time?_timeCbor (t : Timestamp) : orDefault time? .zero (timeCbor t) =
    if t.isZero then some .zero else (Timestamp.parse t.text).toOption := by
  unfold timeCbor
  split
  · rfl
  · change (string? (ofString t.text)).bind (fun s => (Timestamp.parse s).toOption) = _
    have htext : string? (ofString t.text) = some t.text := string?_ofString t.text ""
    rw [htext, Option.bind_some]

theorem bind_eq_map {α β : Type} {x y : Option α} {f : α → Option β} {g : α → β} (h : x = y)
    (hf : ∀ a, f a = some (g a)) : (x >>= f) = y.map g := by
  rw [h]
  cases y with
  | none => rfl
  | some a => exact hf a

/-- The record of a message is the record that was written, with the start that its text tells. -/
theorem ofCbor?_cbor (r : Record) : ofCbor? r.cbor =
    (if r.started.isZero then some .zero else (Timestamp.parse r.started.text).toOption).map
      fun t => { r with started := t } := by
  rw [ofCbor?, cbor, message?_ofFields]
  refine bind_of_some rfl ?_
  refine bind_of_some (show _ = some r.id by simp) ?_
  refine bind_of_some (show _ = some r.seq by simp) ?_
  refine bind_of_some (show _ = some r.program by simp [program?_bytes]) ?_
  refine bind_of_some (show _ = some r.mode by simp) ?_
  refine bind_of_some (show _ = some r.status by simp) ?_
  refine bind_of_some (show _ = some r.platform by simp) ?_
  refine bind_of_some (show _ = some r.placement by simp) ?_
  refine bind_of_some (show _ = some r.lanes by simpa using Eq.symm) ?_
  refine bind_of_some (show _ = some r.groupSize by simpa using Eq.symm) ?_
  refine bind_eq_map (show _ = (if r.started.isZero then some .zero
    else (Timestamp.parse r.started.text).toOption) by simp [time?_timeCbor]) fun t => ?_
  refine bind_of_some (show _ = some r.elapsed by simp) ?_
  refine bind_of_some (show _ = some r.steps by simp) ?_
  refine bind_of_some (show _ = some r.printed by simp [rows?_rowCbor]) ?_
  refine bind_of_some (show _ = some r.error by simp) ?_
  rfl

/-- A message is read back as it was said to be, if its lists are short. -/
theorem ofCbor?_cbor_of_short (h : r.short = true) : ofCbor? r.cbor = r.reread.toOption := by
  rw [ofCbor?_cbor, reread, h, Bool.not_true, if_neg Bool.false_ne_true]
  split
  · rfl
  · cases Timestamp.parse r.started.text <;> rfl

/-! ### Bytes -/

theorem written_timeCbor (d : Nat) (t : Timestamp) : Written d (timeCbor t) := by
  unfold timeCbor
  split
  · exact .simple (by decide)
  · exact written_ofString d t.text

/-- A record is written as a value that can be read. -/
theorem written_cbor (d : Nat) (r : Record) : Written (d + 3) r.cbor := by
  have hint (i : Int64) : Written (d + 2) (ofInt i.toInt) := written_ofInt i.le_toInt i.toInt_lt
  refine written_ofFields ?_
  simp only [List.forall_mem_cons]
  exact ⟨.present (by decide) (written_ofString _ _), .present (by decide) (.uint r.seq.toNat_lt),
    .present (by decide) (.bytes _ _), .present (by decide) (written_ofString _ _),
    .present (by decide) (written_ofString _ _), .omitted (by decide) (written_ofString _ _),
    .omitted (by decide) (written_ofString _ _), .omitted (by decide) (hint _),
    .omitted (by decide) (hint _), .present (by decide) (written_timeCbor _ _),
    .present (by decide) (hint _), .present (by decide) (.uint r.steps.toNat_lt),
    .omitted (by decide) (written_rows d r.printed),
    .omitted (by decide) (written_ofString _ _), List.forall_mem_nil _⟩

theorem short_row (row : Row) : (rowCbor row).short = decide ((row.getD []).length ≤ maxItems) := by
  cases row with
  | none => rfl
  | some ws =>
    have hitems : shortItems (ws.map fun w => ofInt w.toInt) = true := by
      induction ws with
      | nil => rfl
      | cons w ws ih => rw [List.map_cons, shortItems, short_ofInt, ih]; rfl
    change (decide ((ws.map fun w => ofInt w.toInt).length ≤ maxItems) && _) = _
    rw [hitems, List.length_map, Bool.and_true]
    rfl

/-- A message has no list that is too long if the record has none. -/
theorem short_cbor (r : Record) : r.cbor.short = r.short := by
  have htime : (timeCbor r.started).short = true := by
    unfold timeCbor
    split <;> rfl
  have hrows : shortItems (r.printed.map rowCbor) =
      r.printed.all fun row => decide ((row.getD []).length ≤ maxItems) := by
    induction r.printed with
    | nil => rfl
    | cons row rows ih => rw [List.map_cons, shortItems, short_row, ih, List.all_cons]
  have hprinted : (r.printed.isEmpty || (Cbor.array (r.printed.map rowCbor)).short) = r.short := by
    rw [Record.short, ← hrows]
    cases r.printed with
    | nil => rfl
    | cons row rows =>
      change (decide (((row :: rows).map rowCbor).length ≤ maxItems) && _) = _
      rw [List.length_map]
  have hcount : 14 ≤ maxItems := by decide
  rw [cbor, short_ofFields]
  · simp only [List.all_cons, List.all_nil, short_present, short_omitted, short_ofString,
      short_ofInt, short_uint, short_bytes, htime, hprinted, Bool.or_true, Bool.true_and,
      Bool.and_true]
  · exact hcount

/-- What is stored of a record is read back as it was said to be. -/
theorem parse_encode (hsize : r.cbor.encode.size < 0x10000000000000000) :
    (Cbor.parse? r.cbor.encode).bind ofCbor? = r.reread.toOption := by
  rw [parse?_encode (written_cbor _ r) hsize, short_cbor]
  cases hshort : r.short with
  | true => exact ofCbor?_cbor_of_short hshort
  | false =>
    rw [reread_of_not_short hshort]
    rfl

end Lanewise.Run.Record
