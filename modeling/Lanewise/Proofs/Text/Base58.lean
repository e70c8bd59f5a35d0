import Lanewise.ProgramId
import Lanewise.Proofs.Device.Acceptance

/-!
# Base 58 texts

Bytes and digits of base 58 are digits of a number, with zeros in front. Digits in any base are
determined by the number and by how many zeros there are, so a text that agrees with bytes in both
is the only text of these bytes and they are its only bytes. Writing and reading are the two
directions of this relation. In particular every identifier of a program has exactly one text.

## Main definitions

* `Base58.Spells`: a text and the bytes for which it stands.

## Main results

* `Base58.ofDigits_digitsOnto`, `Base58.eq_zeros_append_digitsOnto`: digits and numbers.
* `Base58.encode_eq_iff`, `Base58.decode_eq_ok_iff`: what is written and what is read.
* `Base58.mem_alphabet_of_decode`: what texts that are read consist of.
* `ProgramId.parse_eq_ok_iff`: the text of an identifier is the only one that names it.
-/

namespace Lanewise

namespace Base58

variable {base n : Nat} {acc ds : List Nat}

/-! ### Digits -/

theorem digitsOnto_zero : digitsOnto base 0 acc = acc := by
  rw [digitsOnto, dif_pos (.inl rfl)]

theorem digitsOnto_of_pos (hbase : 2 ≤ base) (hn : n ≠ 0) :
    digitsOnto base n acc = digitsOnto base (n / base) (n % base :: acc) := by
  rw [digitsOnto, dif_neg (by omega)]

/-- Reading the digits of a number gives the number. -/
theorem foldl_digitsOnto (hbase : 2 ≤ base) (n : Nat) (acc : List Nat) :
    (digitsOnto base n acc).foldl (fun n d => n * base + d) 0 =
      acc.foldl (fun n d => n * base + d) n := by
  induction n using Nat.strongRecOn generalizing acc with
  | ind n ih =>
    by_cases hn : n = 0
    · rw [hn, digitsOnto_zero]
    · rw [digitsOnto_of_pos hbase hn, ih _ (Nat.div_lt_self (by omega) hbase), List.foldl_cons,
        Nat.div_add_mod']

theorem ofDigits_digitsOnto (hbase : 2 ≤ base) (n : Nat) :
    ofDigits base (digitsOnto base n []) = n :=
  foldl_digitsOnto hbase n []

/-- The digits of a number that is read go on in front of the others. A number that begins with no
zero loses no digit. -/
theorem digitsOnto_foldl (hbase : 2 ≤ base) (hds : ∀ d ∈ ds, d < base) (n : Nat)
    (hfront : n = 0 → ds.head? ≠ some 0) (acc : List Nat) :
    digitsOnto base (ds.foldl (fun n d => n * base + d) n) acc = digitsOnto base n (ds ++ acc) := by
  induction ds generalizing n with
  | nil => rfl
  | cons d ds ih =>
    obtain ⟨hd, hds⟩ := List.forall_mem_cons.1 hds
    have hne : n * base + d ≠ 0 := by
      intro hzero
      have hn : n = 0 := by
        rcases Nat.eq_zero_or_pos n with hn | hn
        · exact hn
        · have := Nat.mul_pos hn (show 0 < base by omega)
          omega
      have hd : d = 0 := by omega
      exact hfront hn (by rw [hd]; rfl)
    have hdiv : (n * base + d) / base = n := by
      rw [Nat.mul_comm, Nat.mul_add_div (by omega), Nat.div_eq_of_lt hd, Nat.add_zero]
    have hmod : (n * base + d) % base = d := by
      rw [Nat.mul_comm, Nat.mul_add_mod, Nat.mod_eq_of_lt hd]
    rw [List.foldl_cons, ih hds _ fun h => absurd h hne, digitsOnto_of_pos hbase hne, hdiv, hmod]
    rfl

theorem digitsOnto_ofDigits (hbase : 2 ≤ base) (hds : ∀ d ∈ ds, d < base)
    (hfront : ds.head? ≠ some 0) :
    digitsOnto base (ofDigits base ds) [] = ds := by
  rw [ofDigits, digitsOnto_foldl hbase hds 0 fun _ => hfront, digitsOnto_zero, List.append_nil]

/-- Zeros in front do not count. -/
theorem ofDigits_replicate_append (base zeros : Nat) (ds : List Nat) :
    ofDigits base (List.replicate zeros 0 ++ ds) = ofDigits base ds := by
  have hzeros : (List.replicate zeros 0).foldl (fun n d => n * base + d) 0 = 0 := by
    induction zeros with
    | zero => rfl
    | succ zeros ih =>
      rw [List.replicate_succ, List.foldl_cons, Nat.zero_mul]
      exact ih
  rw [ofDigits, List.foldl_append, hzeros, ofDigits]

theorem lt_of_mem_digitsOnto (hbase : 2 ≤ base) (n : Nat) (hacc : ∀ d ∈ acc, d < base) :
    ∀ d ∈ digitsOnto base n acc, d < base := by
  induction n using Nat.strongRecOn generalizing acc with
  | ind n ih =>
    by_cases hn : n = 0
    · rwa [hn, digitsOnto_zero]
    · rw [digitsOnto_of_pos hbase hn]
      exact ih _ (Nat.div_lt_self (by omega) hbase)
        (List.forall_mem_cons.2 ⟨Nat.mod_lt _ (by omega), hacc⟩)

/-- The digits of a number do not begin with a zero. -/
theorem head?_digitsOnto (hbase : 2 ≤ base) (n : Nat) (hacc : n = 0 → acc.head? ≠ some 0) :
    (digitsOnto base n acc).head? ≠ some 0 := by
  induction n using Nat.strongRecOn generalizing acc with
  | ind n ih =>
    by_cases hn : n = 0
    · rw [hn, digitsOnto_zero]
      exact hacc hn
    · rw [digitsOnto_of_pos hbase hn]
      refine ih _ (Nat.div_lt_self (by omega) hbase) fun hdiv => ?_
      have hless := Nat.lt_of_div_eq_zero (by omega) hdiv
      rw [List.head?_cons, Nat.mod_eq_of_lt hless]
      exact fun heq => hn (Option.some.inj heq)

/-- A run in front of something else is as long as it is. -/
theorem length_takeWhile_replicate_append {α : Type} [DecidableEq α] {a : α} {rest : List α}
    (hrest : rest.head? ≠ some a) (n : Nat) :
    ((List.replicate n a ++ rest).takeWhile (· == a)).length = n := by
  have hrun : ∀ b ∈ List.replicate n a, (b == a) = true := fun b hb =>
    beq_iff_eq.2 (List.eq_of_mem_replicate hb)
  have hnone : rest.takeWhile (· == a) = [] := by
    cases rest with
    | nil => rfl
    | cons b rest =>
      exact List.takeWhile_cons_of_neg fun hb => hrest (congrArg some (beq_iff_eq.1 hb))
  rw [List.takeWhile_append_of_pos hrun, hnone, List.append_nil, List.length_replicate]

/-- The number of zeros in front of digits. -/
def zeros (ds : List Nat) : Nat :=
  (ds.takeWhile (· == 0)).length

theorem zeros_append_digitsOnto (hbase : 2 ≤ base) (z n : Nat) :
    zeros (List.replicate z 0 ++ digitsOnto base n []) = z :=
  length_takeWhile_replicate_append (head?_digitsOnto hbase n (by simp)) z

theorem ofDigits_append_digitsOnto (hbase : 2 ≤ base) (z n : Nat) :
    ofDigits base (List.replicate z 0 ++ digitsOnto base n []) = n := by
  rw [ofDigits_replicate_append, ofDigits_digitsOnto hbase]

/-- Digits are determined by their number and by how many zeros stand in front. -/
theorem eq_zeros_append_digitsOnto (hbase : 2 ≤ base) (hds : ∀ d ∈ ds, d < base) :
    ds = List.replicate (zeros ds) 0 ++ digitsOnto base (ofDigits base ds) [] := by
  induction ds with
  | nil => simp [zeros, ofDigits, digitsOnto]
  | cons d ds ih =>
    by_cases hd : d = 0
    · have hnumber : ofDigits base (d :: ds) = ofDigits base ds := by
        rw [hd]
        exact ofDigits_replicate_append base 1 ds
      have hzeros : zeros (d :: ds) = zeros ds + 1 := by simp [zeros, hd]
      rw [hnumber, hzeros, List.replicate_succ, List.cons_append,
        ← ih fun d' hd' => hds d' (List.mem_cons_of_mem d hd'), hd]
    · have hzeros : zeros (d :: ds) = 0 := by simp [zeros, hd]
      have hfront : (d :: ds).head? ≠ some 0 := by simp [hd]
      rw [hzeros, List.replicate_zero, List.nil_append, digitsOnto_ofDigits hbase hds hfront]

/-! ### Characters and bytes -/

theorem length_alphabet : alphabet.length = 58 := by
  decide +kernel

theorem digit_zero : digit 0 = '1' := by
  decide +kernel

theorem digit_eq {d : Nat} (hd : d < alphabet.length) : digit d = alphabet[d] := by
  rw [digit, List.getD_eq_getElem?_getD, List.getElem?_eq_getElem hd, Option.getD_some]

theorem idxOf_lt {c : Char} (hc : c ∈ alphabet) : alphabet.idxOf c < 58 := by
  rw [← length_alphabet]
  exact List.idxOf_lt_length_of_mem hc

theorem digit_idxOf {c : Char} (hc : c ∈ alphabet) : digit (alphabet.idxOf c) = c :=
  (digit_eq (List.idxOf_lt_length_of_mem hc)).trans (List.getElem_idxOf _)

theorem digit_mem {d : Nat} (hd : d < 58) : digit d ∈ alphabet := by
  rw [← length_alphabet] at hd
  rw [digit_eq hd]
  exact List.getElem_mem hd

/-- Every digit is read as its value, which is its place in the alphabet. -/
theorem value_digit {d : Nat} (hd : d < 58) :
    value (digit d) = .ok d ∧ alphabet.idxOf (digit d) = d := by
  have hall : ∀ d : Fin 58,
      (value (digit d)).toOption = some d.val ∧ alphabet.idxOf (digit d) = d := by decide +kernel
  obtain ⟨hvalue, hidx⟩ := hall ⟨d, hd⟩
  exact ⟨ok_of_toOption_eq hvalue, hidx⟩

theorem idxOf_digit {d : Nat} (hd : d < 58) : alphabet.idxOf (digit d) = d :=
  (value_digit hd).2

/-- The characters that are read are those of the alphabet. -/
theorem value_eq_ok_iff {c : Char} {d : Nat} :
    value c = .ok d ↔ c ∈ alphabet ∧ alphabet.idxOf c = d := by
  constructor
  · intro h
    unfold value at h
    split at h
    · cases h
    · split at h
      · next i hi =>
        obtain ⟨hlt, hc, -⟩ := List.findIdx?_eq_some_iff_getElem.1 hi
        have hdigit : digit i = c := (digit_eq hlt).trans (eq_of_beq hc)
        rw [length_alphabet] at hlt
        rw [← hdigit, idxOf_digit hlt]
        exact ⟨digit_mem hlt, Except.ok.inj h⟩
      · cases h
  · rintro ⟨hc, rfl⟩
    have hvalue := (value_digit (idxOf_lt hc)).1
    rwa [digit_idxOf hc] at hvalue

theorem mapM_value_eq_ok_iff {cs : List Char} :
    cs.mapM value = .ok ds ↔ (∀ c ∈ cs, c ∈ alphabet) ∧ cs.map alphabet.idxOf = ds := by
  induction cs generalizing ds with
  | nil => simp [pure, Except.pure]
  | cons c cs ih =>
    rw [List.mapM_cons, List.forall_mem_cons, List.map_cons]
    by_cases hc : c ∈ alphabet
    · rw [value_eq_ok_iff.2 ⟨hc, rfl⟩]
      cases hcs : cs.mapM value with
      | error e =>
        have hnot : ¬∀ c ∈ cs, c ∈ alphabet := fun hall => by
          rw [ih.2 ⟨hall, rfl⟩] at hcs
          cases hcs
        simp [hnot, bind, Except.bind]
      | ok values =>
        obtain ⟨hall, rfl⟩ := ih.1 hcs
        rw [and_iff_right ⟨hc, hall⟩]
        simp only [bind, Except.bind, pure, Except.pure, Except.ok.injEq]
    · cases hvalue : value c with
      | error e => simp [hc, bind, Except.bind]
      | ok d => exact absurd (value_eq_ok_iff.1 hvalue).1 hc

theorem zeros_idxOf {cs : List Char} (hcs : ∀ c ∈ cs, c ∈ alphabet) :
    zeros (cs.map alphabet.idxOf) = (cs.takeWhile (· == '1')).length := by
  have hone : ∀ c ∈ alphabet, (alphabet.idxOf c == 0) = (c == '1') := by
    intro c hc
    rw [Bool.eq_iff_iff, beq_iff_eq, beq_iff_eq]
    constructor
    · intro hzero
      rw [← digit_idxOf hc, hzero, digit_zero]
    · rintro rfl
      rw [← digit_zero, idxOf_digit (by decide)]
  induction cs with
  | nil => rfl
  | cons c cs ih =>
    obtain ⟨hc, hcs⟩ := List.forall_mem_cons.1 hcs
    have ih := ih hcs
    rw [zeros] at ih
    rw [zeros, List.map_cons, List.takeWhile_cons, List.takeWhile_cons, hone c hc]
    split
    · rw [List.length_cons, List.length_cons, ih]
    · rfl

theorem zeros_toNat (bytes : List UInt8) :
    zeros (bytes.map UInt8.toNat) = (bytes.takeWhile (· == 0)).length := by
  have hzero : ((fun n : Nat => n == 0) ∘ UInt8.toNat) = fun b : UInt8 => b == 0 := by
    funext b
    rw [Bool.eq_iff_iff, Function.comp_apply, beq_iff_eq, beq_iff_eq, ← UInt8.toNat_inj,
      UInt8.toNat_zero]
  rw [zeros, List.takeWhile_map, List.length_map, hzero]

theorem toNat_lt_of_mem {bytes : List UInt8} : ∀ d ∈ bytes.map UInt8.toNat, d < 256 := by
  intro d hd
  obtain ⟨b, -, rfl⟩ := List.mem_map.1 hd
  exact b.toNat_lt

theorem map_toNat_ofNat (hds : ∀ d ∈ ds, d < 256) : (ds.map UInt8.ofNat).map UInt8.toNat = ds := by
  rw [List.map_map]
  refine (List.map_congr_left fun d hd => ?_).trans (List.map_id ds)
  exact UInt8.toNat_ofNat_of_lt (hds d hd)

/-! ### Texts -/

/-- A text stands for bytes: it consists of digits, begins with a one for each zero byte in front,
and as a number it is the number of the bytes. -/
structure Spells (s : String) (bytes : List UInt8) : Prop where
  mem_alphabet : ∀ c ∈ s.toList, c ∈ alphabet
  ones : (s.toList.takeWhile (· == '1')).length = (bytes.takeWhile (· == 0)).length
  number : ofDigits 58 (s.toList.map alphabet.idxOf) = ofDigits 256 (bytes.map UInt8.toNat)

namespace Spells

variable {s t : String} {bytes : List UInt8}

theorem zeros_eq (h : Spells s bytes) :
    zeros (s.toList.map alphabet.idxOf) = zeros (bytes.map UInt8.toNat) := by
  rw [zeros_idxOf h.mem_alphabet, zeros_toNat, h.ones]

/-- Bytes have one text. -/
theorem toList_eq (h : Spells s bytes) :
    s.toList = (List.replicate (zeros (bytes.map UInt8.toNat)) 0 ++
      digitsOnto 58 (ofDigits 256 (bytes.map UInt8.toNat)) []).map digit := by
  have hdigits : ∀ d ∈ s.toList.map alphabet.idxOf, d < 58 := by
    intro d hd
    obtain ⟨c, hc, rfl⟩ := List.mem_map.1 hd
    exact idxOf_lt (h.mem_alphabet c hc)
  rw [← h.zeros_eq, ← h.number, ← eq_zeros_append_digitsOnto (by decide) hdigits, List.map_map]
  exact ((List.map_congr_left fun c hc => digit_idxOf (h.mem_alphabet c hc)).trans
    (List.map_id _)).symm

/-- A text has one sequence of bytes. -/
theorem toNat_eq (h : Spells s bytes) :
    bytes.map UInt8.toNat = List.replicate (zeros (s.toList.map alphabet.idxOf)) 0 ++
      digitsOnto 256 (ofDigits 58 (s.toList.map alphabet.idxOf)) [] := by
  rw [h.zeros_eq, h.number]
  exact eq_zeros_append_digitsOnto (by decide) toNat_lt_of_mem

end Spells

/-- Each text that is written stands for its bytes. -/
theorem spells_encode (bytes : List UInt8) : Spells (encode bytes) bytes := by
  have hdigits : ∀ d ∈ List.replicate (zeros (bytes.map UInt8.toNat)) 0 ++
      digitsOnto 58 (ofDigits 256 (bytes.map UInt8.toNat)) [], d < 58 :=
    List.forall_mem_append.2 ⟨fun d hd => by rw [List.eq_of_mem_replicate hd]; decide,
      lt_of_mem_digitsOnto (by decide) _ (List.forall_mem_nil _)⟩
  have htext : (encode bytes).toList = (List.replicate (zeros (bytes.map UInt8.toNat)) 0 ++
      digitsOnto 58 (ofDigits 256 (bytes.map UInt8.toNat)) []).map digit := by
    rw [encode, String.toList_ofList, zeros_toNat, List.map_append, List.map_replicate, digit_zero]
  have hmem : ∀ c ∈ (encode bytes).toList, c ∈ alphabet := by
    intro c hc
    rw [htext] at hc
    obtain ⟨d, hd, rfl⟩ := List.mem_map.1 hc
    exact digit_mem (hdigits d hd)
  have hvalues : (encode bytes).toList.map alphabet.idxOf =
      List.replicate (zeros (bytes.map UInt8.toNat)) 0 ++
        digitsOnto 58 (ofDigits 256 (bytes.map UInt8.toNat)) [] := by
    rw [htext, List.map_map]
    exact (List.map_congr_left fun d hd => idxOf_digit (hdigits d hd)).trans (List.map_id _)
  refine ⟨hmem, ?_, ?_⟩
  · rw [← zeros_idxOf hmem, hvalues, zeros_append_digitsOnto (by decide), zeros_toNat]
  · rw [hvalues, ofDigits_append_digitsOnto (by decide)]

/-- What is written is the only text that stands for the bytes. -/
theorem encode_eq_iff {s : String} {bytes : List UInt8} : encode bytes = s ↔ Spells s bytes := by
  constructor
  · rintro rfl
    exact spells_encode bytes
  · intro h
    exact String.toList_inj.1 ((spells_encode bytes).toList_eq.trans h.toList_eq.symm)

/-- A text that is not empty is read as the bytes for which it stands. -/
theorem decode_eq_ok_iff {s : String} {bytes : List UInt8} :
    decode s = .ok bytes ↔ s ≠ "" ∧ Spells s bytes := by
  simp only [decode, bind, Except.bind, pure, Except.pure, throw, throwThe, MonadExceptOf.throw]
  rw [guard_eq_ok_iff, List.isEmpty_iff, String.toList_eq_nil_iff]
  refine and_congr_right fun _ => ?_
  constructor
  · intro h
    cases hvalues : s.toList.mapM value with
    | error e => simp [hvalues] at h
    | ok ds =>
      obtain ⟨hmem, rfl⟩ := mapM_value_eq_ok_iff.1 hvalues
      rw [hvalues] at h
      have hbytes : bytes.map UInt8.toNat =
          List.replicate (s.toList.takeWhile (· == '1')).length 0 ++
            digitsOnto 256 (ofDigits 58 (s.toList.map alphabet.idxOf)) [] := by
        rw [← Except.ok.inj h, List.map_append, List.map_replicate,
          map_toNat_ofNat (lt_of_mem_digitsOnto (by decide) _ (List.forall_mem_nil _))]
        rfl
      refine ⟨hmem, ?_, ?_⟩
      · rw [← zeros_toNat, hbytes, zeros_append_digitsOnto (by decide)]
      · rw [hbytes, ofDigits_append_digitsOnto (by decide)]
  · intro h
    have hbytes : (bytes.map UInt8.toNat).map UInt8.ofNat = bytes := by
      rw [List.map_map]
      exact (List.map_congr_left fun b _ => UInt8.ofNat_toNat).trans (List.map_id bytes)
    rw [mapM_value_eq_ok_iff.2 ⟨h.mem_alphabet, rfl⟩]
    dsimp only
    rw [← hbytes, h.toNat_eq, List.map_append, List.map_replicate, zeros_idxOf h.mem_alphabet]
    rfl

/-- A text that is read is not empty and consists of digits. -/
theorem mem_alphabet_of_decode {s : String} {bs : List UInt8} (h : decode s = .ok bs) :
    s ≠ "" ∧ ∀ c ∈ s.toList, c ∈ alphabet := by
  obtain ⟨hne, hspells⟩ := decode_eq_ok_iff.1 h
  exact ⟨hne, hspells.mem_alphabet⟩

theorem encode_nil : encode [] = "" :=
  encode_eq_iff.2 ⟨fun _ h => by simp at h, rfl, rfl⟩

theorem encode_ne_empty {bytes : List UInt8} (hne : bytes ≠ []) : encode bytes ≠ "" := by
  intro heq
  have hbytes := (encode_eq_iff.1 heq).toNat_eq
  have hnone : digitsOnto 256 (ofDigits 58 []) [] = [] := digitsOnto_zero
  exact hne (List.map_eq_nil_iff.1 (hbytes.trans hnone))

/-- The text of bytes is read back. -/
theorem decode_encode {bytes : List UInt8} (hne : bytes ≠ []) : decode (encode bytes) = .ok bytes :=
  decode_eq_ok_iff.2 ⟨encode_ne_empty hne, spells_encode bytes⟩

end Base58

theorem ProgramId.ofBytes_eq_ok_iff {bytes : List UInt8} {id : ProgramId} :
    ofBytes bytes = .ok id ↔ bytes = id.bytes := by
  constructor
  · intro h
    unfold ofBytes ofBytes? at h
    split at h
    · next id' hid =>
      split at hid
      · rw [← Except.ok.inj h, ← Option.some.inj hid]
      · cases hid
    · cases h
  · rintro rfl
    rw [ofBytes, ofBytes?, dif_pos id.length_bytes]

/-- An identifier is named by a text that is read as its bytes. -/
theorem ProgramId.parse_eq_ok_iff_decode {s : String} {id : ProgramId} :
    parse s = .ok id ↔ Base58.decode s = .ok id.bytes := by
  unfold parse
  split
  · next e he => simp [he]
  · next bytes hbytes => rw [ofBytes_eq_ok_iff, hbytes, Except.ok.injEq]

theorem ProgramId.bytes_ne_nil (id : ProgramId) : id.bytes ≠ [] :=
  List.ne_nil_of_length_pos (by rw [id.length_bytes]; decide)

/-- The text of an identifier names it. -/
theorem ProgramId.parse_text (id : ProgramId) : parse id.text = .ok id :=
  parse_eq_ok_iff_decode.2 (Base58.decode_encode id.bytes_ne_nil)

/-- The text of an identifier is the only one that names it, and the only one that stands for its
bytes. -/
theorem ProgramId.parse_eq_ok_iff (s : String) (id : ProgramId) :
    (parse s = .ok id ↔ s = id.text) ∧ (s = id.text ↔ Base58.Spells s id.bytes) := by
  have htext : s = id.text ↔ Base58.Spells s id.bytes := by rw [eq_comm, text, Base58.encode_eq_iff]
  refine ⟨⟨fun h => ?_, ?_⟩, htext⟩
  · exact htext.2 (Base58.decode_eq_ok_iff.1 (parse_eq_ok_iff_decode.1 h)).2
  · rintro rfl
    exact id.parse_text

end Lanewise
