import Lanewise.Proofs.Text.Base58
import Lanewise.Proofs.Text.Base64
import Lanewise.Rpc.ProgramData

/-!
# Program data on its way

The data of a program is text. In base 64 the bytes are read back from it even if lines have been
broken on the way. In base 58 they are read back too, except that the text of no bytes is empty and
an empty text is refused.

## Main results

* `Encoding.decode_encode_data`: bytes are read back from their data.
-/

namespace Lanewise.Encoding

theorem ofName?_name (e : Encoding) : ofName? e.name = some e := by
  cases e <;> decide +kernel

theorem encode_base58 (z : Image.Compressor) (data : ByteArray) :
    encode z data base58.name = .ok (Base58.encode data.toList) := by
  rw [encode, ofName?_name]

theorem encode_base64 (z : Image.Compressor) (data : ByteArray) :
    encode z data base64.name = .ok (Base64.encode data.toList) := by
  rw [encode, ofName?_name]

/-- Data in base 64 is read if it is the text of bytes, wherever lines have been broken. -/
theorem decode_base64 {data : ByteArray} {text : String}
    (h : Base64.Broken (Base64.encode data.toList).toList text.toList) :
    decode text base64.name = .ok data := by
  rw [decode, ofName?_name]
  dsimp only
  rw [Base64.decode?_of_broken h]

/-- Data in base 58 is read if there are bytes. -/
theorem decode_base58 (data : ByteArray) :
    decode (Base58.encode data.toList) base58.name =
      if data.size = 0 then .error (.base58 .empty) else .ok data := by
  rw [decode, ofName?_name]
  dsimp only
  by_cases hsize : data.size = 0
  · have hnil : data.toList = [] :=
      List.eq_nil_of_length_eq_zero (by rw [Bytes.length_toList, hsize])
    have hempty : Base58.decode "" = .error .empty := rfl
    rw [if_pos hsize, hnil, Base58.encode_nil, hempty]
  · have hne : data.toList ≠ [] :=
      fun hnil => hsize (by rw [← Bytes.length_toList, hnil, List.length_nil])
    rw [if_neg hsize, Base58.decode_encode hne]
    refine congrArg Except.ok (Bytes.ext_toList ?_)
    rw [Bytes.toList_eq]

/-- Bytes are read back from their data, in base 64 also after line breaks have been put in, and in
base 58 if there are bytes at all. -/
theorem decode_encode_data (z : Image.Compressor) (data : ByteArray) :
    (∃ text, encode z data base64.name = .ok text ∧ decode text base64.name = .ok data ∧
      ∀ broken : String, Base64.Broken text.toList broken.toList →
        decode broken base64.name = .ok data) ∧
    ∃ text, encode z data base58.name = .ok text ∧
      decode text base58.name = if data.size = 0 then .error (.base58 .empty) else .ok data :=
  ⟨⟨_, encode_base64 z data, decode_base64 (.refl _), fun _ => decode_base64⟩,
    _, encode_base58 z data, decode_base58 data⟩

/-- A group that is broken in the middle, in front of its mark and behind it. -/
theorem decode_brokenGroup :
    Base64.Broken "AP8=".toList "A\r\nP8\n=\n".toList ∧
      decode "A\r\nP8\n=\n" base64.name = .ok ⟨#[0, 255]⟩ := by
  have hbroken : Base64.Broken "AP8=".toList "A\r\nP8\n=\n".toList := by
    have htext : "AP8=".toList = ['A', 'P', '8', '='] := by decide +kernel
    have hlines : "A\r\nP8\n=\n".toList = ['A', '\r', '\n', 'P', '8', '\n', '=', '\n'] := by
      decide +kernel
    rw [htext, hlines]
    exact .keep _ (.insert (.inl rfl) (.insert (.inr rfl) (.keep _ (.keep _ (.insert (.inr rfl)
      (.keep _ (.insert (.inr rfl) .nil)))))))
  obtain ⟨text, htext, -, hall⟩ := (decode_encode_data .stored ⟨#[0, 255]⟩).1
  have hencode : encode .stored ⟨#[0, 255]⟩ base64.name = .ok "AP8=" := by
    rw [encode_base64]
    exact congrArg Except.ok (by decide +kernel)
  obtain rfl : text = "AP8=" := Except.ok.inj (htext.symm.trans hencode)
  exact ⟨hbroken, hall _ hbroken⟩

end Lanewise.Encoding
