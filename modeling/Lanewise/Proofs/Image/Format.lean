import Lanewise.Image
import Lanewise.Proofs.Device.Acceptance

/-!
# The format of images

Bytes hold an image in one way only. The header is read field by field, each check leaves one value
or a range of values for its field, and what passes all of them is exactly what `Image.Format`
lists. Writing lays out the same fields one after another, so the two agree: an image that was
written is read back, and bytes that hold an uncompressed image are the bytes that it is written as.
A compressor gives back what it was given, so the first half holds for compressed images too; the
second half does not, since other payloads unpack to the same words.

## Main definitions

* `Image.Format`: the bytes of an image, field by field.
* `Image.layout`: the bytes that are written for given fields.

## Main results

* `Image.load_eq_ok_iff_format`: these bytes are read, and no others.
* `Image.load_encode`, `Image.encode_load`: writing and reading are inverse to each other.
* `Image.format_canonical`: all of this, and the digest in the header is the content address.
-/

namespace Lanewise

open Bytes

theorem Blake3.size_digest (data : ByteArray) : (Blake3.digest data).size = 32 := by
  have hpush (out : ByteArray) (w : UInt32) : (pushWord out w).size = out.size + 4 := by
    simp [pushWord, ByteArray.size_push]
  have hfold (ws : List UInt32) (out : ByteArray) :
      (ws.foldl pushWord out).size = out.size + 4 * ws.length := by
    induction ws generalizing out with
    | nil => rfl
    | cons w ws ih =>
      rw [List.foldl_cons, ih, hpush, List.length_cons]
      omega
  rw [digest, ← Vector.foldl_toList, hfold, Vector.length_toList]
  rfl

theorem ProgramId.bytes_ofFront {bs : List UInt8} (h : bs.length = 32) : (ofFront bs).bytes = bs :=
  List.take_left' h

namespace Image

/-- The bytes of a field: so many bytes from an offset on. -/
def field (data : ByteArray) (start length : Nat) : List UInt8 :=
  (data.toList.drop start).take length

/-- The bytes behind the header, decompressed if the image is compressed. -/
def payload (data : ByteArray) (compressed : Bool) : Except Error ByteArray :=
  if compressed then decompress (data.extract 48 data.size) (4 * maxWords)
  else .ok (data.extract 48 data.size)

/-- The bytes of an image, field by field: the mark, the version, the flags, the entry, the number
of words, the digest, and the payload. -/
structure Format (data : ByteArray) (img : Image) : Prop where
  size_ge : 48 ≤ data.size
  size_le : data.size ≤ 16 * 1024 * 1024
  mark_eq : field data 0 4 = [0x4C, 0x56, 0x4D, 0x49]
  version_eq : number (field data 4 2) = 1
  flags_eq : number (field data 6 2) = if img.compressed then 1 else 0
  entry_eq : (number (field data 8 4) : Int) = img.entry
  entry_lt : img.entry < img.program.words.size
  count_eq : number (field data 12 4) = img.program.words.size
  count_le : img.program.words.size ≤ 4 * 1024 * 1024
  /-- The payload is the words, and the header holds its digest. -/
  payload_eq : ∃ raw, payload data img.compressed = .ok raw ∧
    raw.toList = img.program.words.toList.flatMap Word.bytes ∧
    field data 16 32 = (Blake3.digest raw).toList

variable {data : ByteArray} {img : Image} {z : Compressor}

theorem isImage_iff : isImage data = true ↔ field data 0 4 = [0x4C, 0x56, 0x4D, 0x49] := by
  have hmark : mark = [0x4C, 0x56, 0x4D, 0x49] := by
    rw [mark, toList_eq]
    decide +kernel
  rw [isImage, beq_iff_eq, hmark, toList_extract, field]

/-- The image whose payload has been read, if it is what the header says. -/
def accept (data raw : ByteArray) : Except Error Image :=
  if raw.size ≠ 4 * numberAt data 12 4 then .error (.payloadSize raw.size (numberAt data 12 4))
  else if (Blake3.digest raw).data ≠ (data.extract 16 48).data then .error .digest
  else match Program.decode raw with
    | .error e => .error (.unusable e)
    | .ok program =>
      match program.checkEntry (numberAt data 8 4) with
      | .error e => .error (.unusable e)
      | .ok () =>
        .ok { program, entry := numberAt data 8 4, compressed := numberAt data 6 2 = 1 }

theorem accept_eq_ok_iff {raw : ByteArray} :
    accept data raw = .ok img ↔
      raw.size = 4 * numberAt data 12 4 ∧ Blake3.digest raw = data.extract 16 48 ∧
      raw = img.program.encode ∧ img.entry = numberAt data 8 4 ∧ img.entry < img.program.size ∧
      img.compressed = decide (numberAt data 6 2 = 1) := by
  have hdigest : ¬(Blake3.digest raw).data ≠ (data.extract 16 48).data ↔
      Blake3.digest raw = data.extract 16 48 :=
    ⟨fun h => ByteArray.ext (Decidable.not_not.1 h), fun h => Decidable.not_not.2 (by rw [h])⟩
  rw [accept, guard_eq_ok_iff, guard_eq_ok_iff, Decidable.not_not, hdigest]
  refine and_congr_right fun _ => and_congr_right fun _ => ?_
  cases hdecode : Program.decode raw with
  | error e =>
    simp only [reduceCtorEq, false_iff]
    rintro ⟨hraw, -⟩
    rw [Program.decode_eq_ok_iff.2 hraw] at hdecode
    cases hdecode
  | ok program =>
    obtain rfl := Program.decode_eq_ok_iff.1 hdecode
    dsimp only
    cases hentry : program.checkEntry (numberAt data 8 4) with
    | error e =>
      simp only [reduceCtorEq, false_iff]
      rintro ⟨hprogram, hentry', hlt, -⟩
      rw [Program.encode_injective hprogram, ← hentry',
        Program.checkEntry_eq_ok_iff.2 ⟨by omega, hlt⟩] at hentry
      cases hentry
    | ok =>
      have hlt := (Program.checkEntry_eq_ok_iff.1 hentry).2
      simp only [Except.ok.injEq]
      constructor
      · rintro rfl
        exact ⟨rfl, rfl, hlt, rfl⟩
      · rintro ⟨hprogram, hentry', -, hcompressed⟩
        rw [Program.encode_injective hprogram, ← hentry', ← hcompressed]

/-- What reading an image checks. -/
theorem load_eq_ok_iff :
    load data = .ok img ↔
      data.size ≤ maxSize ∧ headerSize ≤ data.size ∧ isImage data = true ∧
      numberAt data 4 2 = 1 ∧ numberAt data 6 2 ≤ 1 ∧ numberAt data 12 4 ≤ maxWords ∧
      ∃ raw, payload data (numberAt data 6 2 = 1) = .ok raw ∧ accept data raw = .ok img := by
  simp only [load, bind, Except.bind, pure, Except.pure, throw, throwThe, MonadExceptOf.throw]
  rw [guard_eq_ok_iff, guard_eq_ok_iff, guard_eq_ok_iff, guard_eq_ok_iff, guard_eq_ok_iff,
    guard_eq_ok_iff, Nat.not_lt, Nat.not_lt, Nat.not_lt, Nat.not_lt, Decidable.not_not,
    Bool.not_eq_true', Bool.not_eq_false]
  refine and_congr_right fun _ => and_congr_right fun _ => and_congr_right fun _ =>
    and_congr_right fun _ => and_congr_right fun _ => and_congr_right fun _ => ?_
  have hsize : headerSize = 48 := rfl
  by_cases hflag : numberAt data 6 2 = 1
  · rw [if_pos hflag, payload, decide_eq_true hflag, if_pos rfl, hsize]
    generalize decompress (data.extract 48 data.size) (4 * maxWords) = unpacked
    cases unpacked with
    | error e => simp only [reduceCtorEq, false_and, exists_false]
    | ok raw =>
      cases hdecode : Program.decode raw with
      | error e => simp only [Except.ok.injEq, exists_eq_left', accept, hdecode]
      | ok program =>
        cases hentry : program.checkEntry (numberAt data 8 4) with
        | error e => simp only [Except.ok.injEq, exists_eq_left', accept, hdecode, hentry]
        | ok =>
          simp only [Except.ok.injEq, exists_eq_left', accept, hdecode, hentry, hflag, decide_true]
  · rw [if_neg hflag, payload, decide_eq_false hflag, if_neg Bool.false_ne_true, hsize]
    cases hdecode : Program.decode (data.extract 48 data.size) with
    | error e => simp only [Except.ok.injEq, exists_eq_left', accept, hdecode]
    | ok program =>
      cases hentry : program.checkEntry (numberAt data 8 4) with
      | error e => simp only [Except.ok.injEq, exists_eq_left', accept, hdecode, hentry]
      | ok =>
        simp only [Except.ok.injEq, exists_eq_left', accept, hdecode, hentry, hflag, decide_false]

theorem numberAt_eq_field {start length : Nat} (h : start + length ≤ data.size) :
    numberAt data start length = number (field data start length) :=
  Bytes.numberAt_eq h

theorem toList_digestField : (data.extract 16 48).toList = field data 16 32 :=
  toList_extract data 16 48

theorem eq_encode {p : Program} {raw : ByteArray}
    (h : raw.toList = p.words.toList.flatMap Word.bytes) :
    raw = p.encode :=
  ext_toList (h.trans p.encode_toList.symm)

/-- Reading bytes succeeds exactly for the images that these bytes hold, field by field. -/
theorem load_eq_ok_iff_format : load data = .ok img ↔ Format data img := by
  have hmaxSize : maxSize = 16 * 1024 * 1024 := rfl
  have hmaxWords : maxWords = 4 * 1024 * 1024 := rfl
  have hheader : headerSize = 48 := rfl
  rw [load_eq_ok_iff, isImage_iff]
  constructor
  · rintro ⟨hle, hge, hmark, hversion, hflags, hcount, raw, hraw, haccept⟩
    obtain ⟨hsize, hdigest, rfl, hentry, hlt, hcompressed⟩ := accept_eq_ok_iff.1 haccept
    rw [Program.encode_size] at hsize
    rw [hheader] at hge
    rw [← hcompressed] at hraw
    rw [numberAt_eq_field (by omega)] at hversion hcount hsize hentry
    rw [numberAt_eq_field (by omega)] at hflags hcompressed
    have hwords : number (field data 12 4) = img.program.words.size := by
      rw [Program.size] at hsize
      omega
    refine
      { size_ge := hge, size_le := hle, mark_eq := hmark, version_eq := hversion, flags_eq := ?_
        entry_eq := hentry.symm, entry_lt := hlt, count_eq := hwords, count_le := hwords ▸ hcount
        payload_eq := ⟨_, hraw, img.program.encode_toList, ?_⟩ }
    · rw [hcompressed]
      by_cases hflag : number (field data 6 2) = 1
      · simp [hflag]
      · simp [hflag]
        omega
    · rw [hdigest, toList_digestField]
  · intro h
    have hge := h.size_ge
    obtain ⟨raw, hraw, hbytes, hdigest⟩ := h.payload_eq
    have hencode := eq_encode hbytes
    have hflags := h.flags_eq
    have hcompressed : img.compressed = decide (number (field data 6 2) = 1) := by
      rw [hflags]
      cases img.compressed <;> rfl
    have hone : number (field data 6 2) ≤ 1 := by
      rw [hflags]
      split <;> omega
    rw [numberAt_eq_field (by omega), numberAt_eq_field (by omega), numberAt_eq_field (by omega)]
    refine ⟨h.size_le, hge, h.mark_eq, h.version_eq, hone, ?_, raw, ?_, accept_eq_ok_iff.2 ?_⟩
    · rw [h.count_eq]
      exact h.count_le
    · rw [← hcompressed]
      exact hraw
    · rw [numberAt_eq_field (by omega), numberAt_eq_field (by omega), numberAt_eq_field (by omega)]
      refine ⟨?_, ext_toList ?_, hencode, h.entry_eq.symm, h.entry_lt, hcompressed⟩
      · rw [hencode, Program.encode_size, h.count_eq, Program.size]
      · rw [toList_digestField, hdigest]

/-! ### Writing -/

/-- The bytes of an image: the fields of the header one after another, then the payload. -/
def layout (flags entry words : Nat) (digest rest : List UInt8) : List UInt8 :=
  [0x4C, 0x56, 0x4D, 0x49] ++
    (digits 2 1 ++ (digits 2 flags ++ (digits 4 entry ++ (digits 4 words ++ (digest ++ rest)))))

/-- The payload of an image that holds given words. -/
def packed (z : Compressor) (raw : ByteArray) (compress : Bool) : ByteArray :=
  if compress then z.compress raw else raw

theorem toList_header (flags entry words : Nat) (digest payload : ByteArray) :
    (header flags entry words digest ++ payload).toList =
      layout flags entry words digest.toList payload.toList := by
  have hmark : (⟨mark.toArray⟩ : ByteArray).toList = [0x4C, 0x56, 0x4D, 0x49] := by
    rw [toList_eq, mark, toList_eq]
    decide +kernel
  simp only [header, toList_append, toList_pushNumber, hmark, layout, List.append_assoc]

theorem encode_eq_ok_iff {compress : Bool} :
    img.encode z compress = .ok data ↔
      0 ≤ img.entry ∧ img.entry < img.program.size ∧ img.program.size ≤ maxWords ∧
      data.size ≤ maxSize ∧
      data.toList = layout (if compress then 1 else 0) img.entry.toNat img.program.size
        (Blake3.digest img.program.encode).toList
          (packed z img.program.encode compress).toList := by
  rw [encode, ← toList_header]
  cases hentry : img.program.checkEntry img.entry with
  | error e =>
    simp only [reduceCtorEq, false_iff]
    rintro ⟨hnonneg, hlt, -⟩
    rw [Program.checkEntry_eq_ok_iff.2 ⟨hnonneg, hlt⟩] at hentry
    cases hentry
  | ok =>
    obtain ⟨hnonneg, hlt⟩ := Program.checkEntry_eq_ok_iff.1 hentry
    dsimp only
    rw [guard_eq_ok_iff, guard_eq_ok_iff, Nat.not_lt, Nat.not_lt, Except.ok.injEq]
    constructor
    · rintro ⟨hwords, hsize, rfl⟩
      exact ⟨hnonneg, hlt, hwords, hsize, rfl⟩
    · rintro ⟨-, -, hwords, hsize, hbytes⟩
      obtain rfl := ext_toList hbytes
      exact ⟨hwords, hsize, rfl⟩

/-- An uncompressed image can be written if its entry is valid and its words fit. -/
theorem exists_encode_iff :
    (∃ data, img.encode z false = .ok data) ↔
      0 ≤ img.entry ∧ img.entry < img.program.size ∧
        headerSize + 4 * img.program.size ≤ maxSize := by
  have hlength : (layout 0 img.entry.toNat img.program.size
      (Blake3.digest img.program.encode).toList img.program.encode.toList).length =
      headerSize + 4 * img.program.size := by
    simp only [layout, List.length_append, length_digits, length_toList, Blake3.size_digest,
      Program.encode_size, List.length_cons, List.length_nil, headerSize]
    omega
  simp only [encode_eq_ok_iff]
  constructor
  · rintro ⟨data, hnonneg, hlt, -, hsize, hbytes⟩
    have hbytes : data.toList = layout 0 _ _ _ img.program.encode.toList := hbytes
    rw [← hlength, ← hbytes, length_toList]
    exact ⟨hnonneg, hlt, hsize⟩
  · rintro ⟨hnonneg, hlt, hsize⟩
    have hwords : img.program.size ≤ maxWords := by
      rw [headerSize, maxSize] at hsize
      rw [maxWords]
      omega
    refine ⟨⟨(layout 0 img.entry.toNat img.program.size
      (Blake3.digest img.program.encode).toList img.program.encode.toList).toArray⟩,
      hnonneg, hlt, hwords, ?_, ?_⟩
    · rw [← length_toList, toList_eq, List.toList_toArray, hlength]
      exact hsize
    · rw [toList_eq]
      rfl

section

variable {flags entry words : Nat} {digest rest : List UInt8}

/-- The fields of bytes that are laid out as an image. -/
theorem fields_of_layout (h : data.toList = layout flags entry words digest rest)
    (hdigest : digest.length = 32) :
    field data 0 4 = [0x4C, 0x56, 0x4D, 0x49] ∧ field data 4 2 = digits 2 1 ∧
      field data 6 2 = digits 2 flags ∧ field data 8 4 = digits 4 entry ∧
      field data 12 4 = digits 4 words ∧ field data 16 32 = digest ∧
      data.extract 48 data.size = ⟨rest.toArray⟩ := by
  have hfront : data.toList.drop 16 = digest ++ rest := by
    rw [h]
    rfl
  have hrest : data.toList.drop 48 = rest := by
    rw [show 48 = 16 + 32 from rfl, ← List.drop_drop, hfront, List.drop_left' hdigest]
  have hsize : data.size = 48 + rest.length := by
    rw [← length_toList, h]
    simp [layout, hdigest]
    omega
  refine ⟨?_, ?_, ?_, ?_, ?_, ?_, ext_toList ?_⟩
  · rw [field, h]
    rfl
  · rw [field, h]
    rfl
  · rw [field, h]
    rfl
  · rw [field, h]
    rfl
  · rw [field, h]
    rfl
  · rw [field, hfront, List.take_left' hdigest]
  · rw [toList_extract, hrest, toList_eq, List.take_of_length_le (by omega)]

/-- Bytes with a header are its fields and what follows. -/
theorem toList_eq_fields (data : ByteArray) :
    data.toList = field data 0 4 ++ (field data 4 2 ++ (field data 6 2 ++ (field data 8 4 ++
      (field data 12 4 ++ (field data 16 32 ++ data.toList.drop 48))))) := by
  have hjoin (i n j : Nat) (hj : i + n = j) :
      field data i n ++ data.toList.drop j = data.toList.drop i := by
    rw [field, ← hj, ← List.drop_drop, List.take_append_drop]
  rw [hjoin 16 32 48 rfl, hjoin 12 4 16 rfl, hjoin 8 4 12 rfl, hjoin 6 2 8 rfl, hjoin 4 2 6 rfl,
    hjoin 0 4 4 rfl, List.drop_zero]

end

/-- A payload that was written is read back, compressed or not. -/
theorem payload_packed {p : Program} {compress : Bool} (hwords : p.size ≤ maxWords)
    (hrest : data.extract 48 data.size = packed z p.encode compress) :
    payload data compress = .ok p.encode := by
  have hsize := p.encode_size
  rw [payload, hrest]
  cases compress with
  | false => rfl
  | true =>
    rw [if_pos rfl, packed, if_pos rfl, z.decompress_compress _ (by omega)]

/-- Reading what was written gives the image back, marked as compressed if it was. -/
theorem load_encode {compress : Bool} (h : img.encode z compress = .ok data) :
    load data = .ok { img with compressed := compress } := by
  obtain ⟨hnonneg, hlt, hwords, hsize, hbytes⟩ := encode_eq_ok_iff.1 h
  have hdigest : (Blake3.digest img.program.encode).toList.length = 32 := by
    rw [length_toList, Blake3.size_digest]
  obtain ⟨hmark, hversion, hflags, hentry, hcount, hsum, hrest⟩ := fields_of_layout hbytes hdigest
  have hmax : maxWords = 4194304 := rfl
  have hpow : Nat.pow 256 4 = 4294967296 := rfl
  have hpayload := payload_packed hwords (hrest.trans (ext_toList (toList_eq _)))
  refine load_eq_ok_iff_format.2
    { size_ge := ?_, size_le := hsize, mark_eq := hmark, version_eq := ?_, flags_eq := ?_
      entry_eq := ?_, entry_lt := hlt, count_eq := ?_, count_le := hwords
      payload_eq := ⟨_, hpayload, img.program.encode_toList, hsum⟩ }
  · rw [← length_toList, hbytes]
    simp [layout, hdigest]
    omega
  · rw [hversion]
    rfl
  · rw [hflags]
    cases compress <;> rfl
  · rw [hentry, number_digits (by omega)]
    exact Int.toNat_of_nonneg hnonneg
  · rw [hcount, number_digits (by omega)]
    rfl

theorem field_eq_digits {start length v : Nat} (h : start + length ≤ data.size)
    (hv : number (field data start length) = v) : field data start length = digits length v := by
  have hlength : (field data start length).length = length := by
    rw [field, List.length_take, List.length_drop, length_toList]
    omega
  have hdigits := digits_number (field data start length)
  rwa [hlength, hv, eq_comm] at hdigits

/-- Bytes that hold an image which is not compressed are the bytes that it is written as. -/
theorem encode_load (h : load data = .ok img) (hplain : img.compressed = false) :
    img.encode z false = .ok data := by
  obtain ⟨hge, hle, hmark, hversion, hflags, hentry, hlt, hcount, hwords, raw, hraw, hbytes,
      hdigest⟩ :=
    load_eq_ok_iff_format.1 h
  have hencode := eq_encode hbytes
  rw [hplain] at hraw hflags
  have hrest : data.toList.drop 48 = raw.toList := by
    have hlength : (data.toList.drop 48).length = data.size - 48 := by
      rw [List.length_drop, length_toList]
    rw [← Except.ok.inj hraw, toList_extract, List.take_of_length_le (Nat.le_of_eq hlength)]
  have hfields := toList_eq_fields data
  rw [hmark, field_eq_digits (by omega) hversion, field_eq_digits (by omega) hflags,
    field_eq_digits (v := img.entry.toNat) (by omega) (by omega), field_eq_digits (by omega) hcount,
    hdigest, hrest, hencode] at hfields
  exact encode_eq_ok_iff.2 ⟨by omega, hlt, hwords, hle, hfields⟩

/-- The digest in the header is the content address of the program. -/
theorem id_bytes_eq_field (h : load data = .ok img) : img.id.bytes = field data 16 32 := by
  obtain ⟨raw, -, hbytes, hdigest⟩ := (load_eq_ok_iff_format.1 h).payload_eq
  have hencode := eq_encode hbytes
  have hlength : (Blake3.digest raw).toList.length = 32 := by
    rw [length_toList, Blake3.size_digest]
  rw [hdigest, id, Program.id, ← hencode, ProgramId.ofData, ProgramId.bytes_ofFront hlength]

/-- The format of images is exact and canonical. Bytes hold an image if and only if they have its
format. Whatever compresses, what an image is written as holds that image, bytes that hold an
uncompressed image are what it is written as, and the digest in the header is the content address of
the program. -/
theorem format_canonical (z : Compressor) (data : ByteArray) (img : Image) :
    (load data = .ok img ↔ Format data img) ∧
      (∀ compress, img.encode z compress = .ok data →
        load data = .ok { img with compressed := compress }) ∧
      (load data = .ok img → img.compressed = false → img.encode z false = .ok data) ∧
      (load data = .ok img → img.id.bytes = field data 16 32) :=
  ⟨load_eq_ok_iff_format, fun _ => load_encode, encode_load, id_bytes_eq_field⟩

/-- The image of a program that only halts. -/
def loneHalt : Image :=
  { program := ⟨#[16]⟩, entry := 0 }

/-- An image that is written, with each of its bytes but those of the digest. -/
theorem loneHalt_format_canonical :
    ∃ data, loneHalt.encode .stored false = .ok data ∧ load data = .ok loneHalt ∧
      Format data loneHalt ∧ loneHalt.id.bytes = field data 16 32 ∧
      field data 0 16 = [0x4C, 0x56, 0x4D, 0x49, 1, 0, 0, 0, 0, 0, 0, 0, 1, 0, 0, 0] ∧
      data.toList.drop 48 = [16, 0, 0, 0] := by
  have hsome : (loneHalt.encode .stored false).toOption.isSome = true := by decide +kernel
  obtain ⟨data, hdata⟩ := Option.isSome_iff_exists.1 hsome
  have hencode := ok_of_toOption_eq hdata
  obtain ⟨hformat, hload, -, hid⟩ := format_canonical .stored data loneHalt
  have hread : load data = .ok loneHalt := hload false hencode
  have hbytes := (encode_eq_ok_iff.1 hencode).2.2.2.2
  refine ⟨data, hencode, hread, hformat.1 hread, hid hread, ?_, ?_⟩
  · rw [field, hbytes]
    rfl
  · rw [hbytes]
    rw [layout, packed]
    decide +kernel

end Image

end Lanewise
