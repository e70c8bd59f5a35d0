import Lanewise.Text.Base64
import Lanewise.Proofs.Image.Bytes

/-!
# Base 64 texts

Three bytes and four digits of six bits are the same number of 24 bits, and one or two bytes at the
end are digits of such a number with zero bits below them. The text that is written for bytes
consists of such groups, and reading it group by group gives the bytes back. No line break is a
digit or a mark, so line breaks that are put into a text are the ones that are passed over when it
is read.

## Main definitions

* `Base64.Spells`: bytes and the characters of their groups.
* `Base64.Broken`: a text into which line breaks have been put.

## Main results

* `Base64.spells_encode`: what is written are the groups of the bytes.
* `Base64.decode?_of_broken`: the bytes are read back, wherever lines have been broken.
-/

namespace Lanewise.Base64

/-! ### Digits -/

theorem value?_digit {n : Nat} (hn : n < 64) : value? (digit n) = some n := by
  have hall : ∀ n : Fin 64, value? (digit n) = some n.val := by decide +kernel
  exact hall ⟨n, hn⟩

theorem pair?_digit {m n : Nat} (hm : m < 64) (hn : n < 64) :
    pair? (digit m) (digit n) = some (m * 64 + n) := by
  simp [pair?, value?_digit hm, value?_digit hn]

/-- A digit is neither a mark nor a line break. -/
theorem digit_ne {n : Nat} (hn : n < 64) : digit n ≠ '=' ∧ digit n ≠ '\r' ∧ digit n ≠ '\n' := by
  have hall : ∀ n : Fin 64, digit n ≠ '=' ∧ digit n ≠ '\r' ∧ digit n ≠ '\n' := by decide +kernel
  exact hall ⟨n, hn⟩

/-! ### Groups -/

/-- Bytes and the characters of their groups. A group of three bytes is the number of its four
digits; at the end, the bits that fill up a digit are zero. -/
inductive Spells : List UInt8 → List Char → Prop
  | nil : Spells [] []
  | one {a : UInt8} {m n : Nat} (hm : m < 64) (hn : n < 64) (h : a.toNat * 16 = m * 64 + n) :
    Spells [a] [digit m, digit n, '=', '=']
  | two {a b : UInt8} {m n o : Nat} (hm : m < 64) (hn : n < 64) (ho : o < 64)
    (h : (a.toNat * 256 + b.toNat) * 4 = (m * 64 + n) * 64 + o) :
    Spells [a, b] [digit m, digit n, digit o, '=']
  | three {a b c : UInt8} {bytes : List UInt8} {cs : List Char} {m n o p : Nat} (hm : m < 64)
    (hn : n < 64) (ho : o < 64) (hp : p < 64)
    (h : (a.toNat * 256 + b.toNat) * 256 + c.toNat = ((m * 64 + n) * 64 + o) * 64 + p)
    (rest : Spells bytes cs) :
    Spells (a :: b :: c :: bytes) (digit m :: digit n :: digit o :: digit p :: cs)

variable {bytes : List UInt8} {cs : List Char}

/-- By induction on the groups, whatever has been written before them. -/
theorem encodeOnto_spells (out : String) (bytes : List UInt8) :
    ∃ cs, (encodeOnto out bytes).toList = out.toList ++ cs ∧ Spells bytes cs := by
  fun_induction encodeOnto out bytes with
  | case1 out => exact ⟨[], by simp, .nil⟩
  | case2 out a n =>
    have ha : a.toNat < 256 := a.toNat_lt
    exact ⟨_, by simp, .one (m := n / 64) (n := n % 64) (by omega) (by omega) (by omega)⟩
  | case3 out a b n =>
    have ha : a.toNat < 256 := a.toNat_lt
    have hb : b.toNat < 256 := b.toNat_lt
    exact ⟨_, by simp, .two (m := n / 4096) (n := n / 64 % 64) (o := n % 64) (by omega) (by omega)
      (by omega) (by omega)⟩
  | case4 out a b c rest n ih =>
    have ha : a.toNat < 256 := a.toNat_lt
    have hb : b.toNat < 256 := b.toNat_lt
    have hc : c.toNat < 256 := c.toNat_lt
    obtain ⟨cs, htext, hrest⟩ := ih
    exact ⟨_, by simp [htext], .three (m := n / 262144) (n := n / 4096 % 64) (o := n / 64 % 64)
      (p := n % 64) (by omega) (by omega) (by omega) (by omega) (by omega) hrest⟩

/-- What is written are the groups of the bytes. -/
theorem spells_encode (bytes : List UInt8) : Spells bytes (encode bytes).toList := by
  obtain ⟨cs, htext, hspells⟩ := encodeOnto_spells "" bytes
  rwa [encode, htext, String.toList_empty, List.nil_append]

theorem Spells.not_break (h : Spells bytes cs) : ∀ c ∈ cs, c ≠ '\r' ∧ c ≠ '\n' := by
  induction h with
  | nil => simp
  | one hm hn => simp [digit_ne hm, digit_ne hn]
  | two hm hn ho => simp [digit_ne hm, digit_ne hn, digit_ne ho]
  | three hm hn ho hp _ _ ih =>
    simpa [digit_ne hm, digit_ne hn, digit_ne ho, digit_ne hp] using ih

theorem ofNat_eq {b : UInt8} {n : Nat} (h : n % 256 = b.toNat) : UInt8.ofNat n = b := by
  rw [← UInt8.toNat_inj, UInt8.toNat_ofNat', h]

/-- Groups are read one after another, whatever has been read before them. -/
theorem Spells.decodeOnto? (h : Spells bytes cs) (out : ByteArray) :
    ∃ all, decodeOnto? out cs = some all ∧ all.toList = out.toList ++ bytes := by
  induction h generalizing out with
  | nil => exact ⟨out, rfl, by simp⟩
  | @one a m n hm hn h =>
    have ha : a.toNat < 256 := a.toNat_lt
    have hbyte : UInt8.ofNat ((m * 64 + n) / 16) = a := ofNat_eq (by omega)
    exact ⟨out.push a, by simp [Base64.decodeOnto?, pair?_digit hm hn, hbyte], by simp⟩
  | @two a b m n o hm hn ho h =>
    have ha : a.toNat < 256 := a.toNat_lt
    have hb : b.toNat < 256 := b.toNat_lt
    have hfirst : UInt8.ofNat (((m * 64 + n) * 64 + o) / 1024) = a := ofNat_eq (by omega)
    have hsecond : UInt8.ofNat (((m * 64 + n) * 64 + o) / 4) = b := ofNat_eq (by omega)
    refine ⟨(out.push a).push b, ?_, by simp⟩
    simp [Base64.decodeOnto?, pair?_digit hm hn, value?_digit ho, (digit_ne ho).1, hfirst, hsecond]
  | @three a b c bytes cs m n o p hm hn ho hp h _ ih =>
    have ha : a.toNat < 256 := a.toNat_lt
    have hb : b.toNat < 256 := b.toNat_lt
    have hc : c.toNat < 256 := c.toNat_lt
    have hfirst : UInt8.ofNat (((m * 64 + n) * 4096 + (o * 64 + p)) / 65536) = a :=
      ofNat_eq (by omega)
    have hsecond : UInt8.ofNat (((m * 64 + n) * 4096 + (o * 64 + p)) / 256) = b :=
      ofNat_eq (by omega)
    have hthird : UInt8.ofNat ((m * 64 + n) * 4096 + (o * 64 + p)) = c := ofNat_eq (by omega)
    obtain ⟨all, hall, hbytes⟩ := ih (((out.push a).push b).push c)
    refine ⟨all, ?_, by simp [hbytes]⟩
    rw [Base64.decodeOnto?, pair?_digit hm hn, pair?_digit ho hp]
    · dsimp only
      rw [hfirst, hsecond, hthird, hall]
    -- No digit is a mark, so the group is none of those at the end.
    · exact fun hmark => absurd hmark (digit_ne ho).1
    · exact fun hmark => absurd hmark (digit_ne hp).1

/-! ### Line breaks -/

/-- A text into which carriage returns and line feeds have been put, any number of them at any
place. -/
inductive Broken : List Char → List Char → Prop
  | nil : Broken [] []
  | keep {text broken : List Char} (c : Char) (h : Broken text broken) :
    Broken (c :: text) (c :: broken)
  | insert {text broken : List Char} {c : Char} (hc : c = '\r' ∨ c = '\n')
    (h : Broken text broken) :
    Broken text (c :: broken)

theorem Broken.refl (text : List Char) : Broken text text := by
  induction text with
  | nil => exact .nil
  | cons c text ih => exact .keep c ih

/-- A text without line breaks is what is left of it when lines have been broken. -/
theorem Broken.filter_eq {text broken : List Char} (h : Broken text broken)
    (htext : ∀ c ∈ text, c ≠ '\r' ∧ c ≠ '\n') :
    broken.filter (fun c => c != '\r' && c != '\n') = text := by
  induction h with
  | nil => rfl
  | keep c _ ih =>
    obtain ⟨hc, htext⟩ := List.forall_mem_cons.1 htext
    rw [List.filter_cons_of_pos (by simp [hc]), ih htext]
  | insert hc _ ih =>
    rw [List.filter_cons_of_neg (by rcases hc with rfl | rfl <;> decide), ih htext]

/-- The bytes are read back, wherever lines have been broken. -/
theorem decode?_of_broken {bytes : ByteArray} {text : String}
    (h : Broken (encode bytes.toList).toList text.toList) : decode? text = some bytes := by
  have hspells := spells_encode bytes.toList
  obtain ⟨all, hall, hbytes⟩ := hspells.decodeOnto? .empty
  have hempty : ByteArray.empty.toList = [] := by
    rw [Bytes.toList_eq]
    rfl
  rw [hempty, List.nil_append] at hbytes
  rw [decode?, h.filter_eq hspells.not_break, hall, Bytes.ext_toList hbytes]

end Lanewise.Base64
