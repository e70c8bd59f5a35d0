import Lanewise.Program
import Lanewise.Zstd.Frame

/-!
# Bytes and the numbers they stand for

Byte sequences are compared through their lists of bytes. Numbers are stored with their least
significant byte first; the bytes of a number of known width and the number of known bytes determine
each other. A word is stored as its four bytes, so a program and its bytes determine each other too.

## Main definitions

* `Bytes.number`, `Bytes.digits`: the number of some bytes and the bytes of a number.
* `Word.bytes`: the four bytes of a word.

## Main results

* `Bytes.number_digits`, `Bytes.digits_number`: bytes and numbers determine each other.
* `Program.encode_toList`, `Program.decode_eq_ok_iff`: what the bytes of a program are.
-/

namespace Lanewise

namespace Bytes

/-! ### Lists of bytes -/

theorem toList_loop (b : ByteArray) (i : Nat) (r : List UInt8) :
    ByteArray.toList.loop b i r = r.reverse ++ b.data.toList.drop i := by
  fun_induction ByteArray.toList.loop b i r with
  | case1 i r h ih =>
    have hi : i < b.data.toList.length := h
    have hget : b.get! i = b.data.toList[i] := getElem!_pos b.data i h
    rw [ih, List.reverse_cons, List.append_assoc, List.drop_eq_getElem_cons hi, hget]
    rfl
  | case2 i r h =>
    have hi : b.data.toList.length ≤ i := Nat.le_of_not_lt h
    rw [List.drop_eq_nil_of_le hi, List.append_nil]

theorem toList_eq (b : ByteArray) : b.toList = b.data.toList := by
  rw [ByteArray.toList, toList_loop]
  rfl

@[simp] theorem length_toList (b : ByteArray) : b.toList.length = b.size := by
  rw [toList_eq, Array.length_toList, ByteArray.size_data]

theorem ext_toList {a b : ByteArray} (h : a.toList = b.toList) : a = b := by
  rw [toList_eq, toList_eq] at h
  exact ByteArray.ext (Array.toList_inj.1 h)

/-- Different texts have different bytes. -/
theorem toUTF8_toList_inj {s t : String} : s.toUTF8.toList = t.toUTF8.toList ↔ s = t := by
  constructor
  · intro h
    exact String.toByteArray_inj.1 (ext_toList h)
  · rintro rfl
    rfl

@[simp] theorem toList_append (a b : ByteArray) : (a ++ b).toList = a.toList ++ b.toList := by
  simp only [toList_eq, ByteArray.toList_data_append]

@[simp] theorem toList_push (b : ByteArray) (v : UInt8) : (b.push v).toList = b.toList ++ [v] := by
  simp only [toList_eq, ByteArray.data_push, Array.toList_push]

@[simp] theorem toList_extract (b : ByteArray) (i j : Nat) :
    (b.extract i j).toList = (b.toList.drop i).take (j - i) := by
  simp only [toList_eq, ByteArray.data_extract, Array.toList_extract, List.extract_eq_take_drop]

/-! ### Numbers -/

/-- The number of some bytes, the least significant first. -/
def number : List UInt8 → Nat
  | [] => 0
  | b :: bs => b.toNat + 256 * number bs

/-- The `n` low bytes of a number, the least significant first. -/
def digits : (n : Nat) → Nat → List UInt8
  | 0, _ => []
  | n + 1, v => UInt8.ofNat v :: digits n (v / 256)

@[simp] theorem length_digits (n v : Nat) : (digits n v).length = n := by
  induction n generalizing v with
  | zero => rfl
  | succ n ih => rw [digits, List.length_cons, ih]

theorem number_digits {n v : Nat} (h : v < Nat.pow 256 n) : number (digits n v) = v := by
  induction n generalizing v with
  | zero =>
    obtain rfl : v = 0 := Nat.lt_one_iff.1 h
    rfl
  | succ n ih =>
    have hlt : v / 256 < Nat.pow 256 n := Nat.div_lt_of_lt_mul (by rwa [Nat.mul_comm])
    rw [digits, number, ih hlt, UInt8.toNat_ofNat']
    omega

theorem digits_number (bs : List UInt8) : digits bs.length (number bs) = bs := by
  induction bs with
  | nil => rfl
  | cons b bs ih =>
    have hb : b.toNat < 256 := b.toNat_lt
    have hlow : UInt8.ofNat (b.toNat + 256 * number bs) = b := by
      apply UInt8.toNat_inj.1
      rw [UInt8.toNat_ofNat']
      omega
    have hhigh : (b.toNat + 256 * number bs) / 256 = number bs := by omega
    rw [List.length_cons, number, digits, hlow, hhigh, ih]

theorem byteAt_eq {data : ByteArray} {i : Nat} (h : i < data.toList.length) :
    Zstd.byteAt data data.size i = data.toList[i].toNat := by
  have hi : i < data.data.size := by rwa [length_toList] at h
  have hget : data.get! i = data.data[i] := getElem!_pos data.data i hi
  have hlt : i < data.size := hi
  simp only [Zstd.byteAt, if_pos hlt, hget, toList_eq, Array.getElem_toList]

/-- Reading a number reads the bytes at its place. -/
theorem numberAt_eq {data : ByteArray} {i n : Nat} (h : i + n ≤ data.size) :
    Zstd.numberAt data data.size i n = number ((data.toList.drop i).take n) := by
  induction n generalizing i with
  | zero => rfl
  | succ n ih =>
    have hi : i < data.toList.length := by
      rw [length_toList]
      omega
    rw [Zstd.numberAt, byteAt_eq hi, ih (by omega), List.drop_eq_getElem_cons hi,
      List.take_succ_cons, number]

@[simp] theorem toList_pushNumber (out : ByteArray) (v n : Nat) :
    (Zstd.pushNumber out v n).toList = out.toList ++ digits n v := by
  induction n generalizing out v with
  | zero => rw [Zstd.pushNumber, digits, List.append_nil]
  | succ n ih =>
    rw [Zstd.pushNumber, ih, toList_push, digits, List.append_assoc, List.singleton_append]

end Bytes

/-! ### Words -/

namespace Word

/-- The four bytes of a word, the least significant first. -/
def bytes (w : Word) : List UInt8 :=
  Bytes.digits 4 w.toUInt32.toNat

@[simp] theorem length_bytes (w : Word) : w.bytes.length = 4 :=
  Bytes.length_digits 4 _

theorem toList_pushBytes (out : ByteArray) (w : Word) :
    (pushBytes out w).toList = out.toList ++ w.bytes := by
  -- A byte of the word is a byte of its number shifted to the right.
  have hbyte (k : UInt32) (n : Nat) (hn : w.toUInt32.toNat >>> (k.toNat % 32) = n) :
      (w.toUInt32 >>> k).toUInt8 = UInt8.ofNat n := by
    apply UInt8.toNat_inj.1
    rw [UInt32.toNat_toUInt8, UInt32.toNat_shiftRight, UInt8.toNat_ofNat', hn]
  have h₀ : w.toUInt32.toUInt8 = UInt8.ofNat w.toUInt32.toNat := by
    apply UInt8.toNat_inj.1
    rw [UInt32.toNat_toUInt8, UInt8.toNat_ofNat']
  have h₁ := hbyte 8 (w.toUInt32.toNat / 256) (Nat.shiftRight_eq_div_pow _ 8)
  have h₂ := hbyte 16 (w.toUInt32.toNat / 256 / 256) <| by
    rw [Nat.div_div_eq_div_mul]
    exact Nat.shiftRight_eq_div_pow _ 16
  have h₃ := hbyte 24 (w.toUInt32.toNat / 256 / 256 / 256) <| by
    rw [Nat.div_div_eq_div_mul, Nat.div_div_eq_div_mul]
    exact Nat.shiftRight_eq_div_pow _ 24
  simp only [pushBytes, Bytes.toList_push, bytes, Bytes.digits, List.append_assoc, List.cons_append,
    List.nil_append, h₀, h₁, h₂, h₃]

theorem toUInt32_ofBytes (b₀ b₁ b₂ b₃ : UInt8) :
    (ofBytes b₀ b₁ b₂ b₃).toUInt32.toNat = Bytes.number [b₀, b₁, b₂, b₃] := by
  have h₀ : b₀.toNat < 256 := b₀.toNat_lt
  have h₁ : b₁.toNat < 256 := b₁.toNat_lt
  have h₂ : b₂.toNat < 256 := b₂.toNat_lt
  have h₃ : b₃.toNat < 256 := b₃.toNat_lt
  -- Below a shifted number there is room for a smaller one, so joining them adds them.
  have hor (a b i : Nat) (hb : b < 2 ^ i) : b ||| a <<< i = b + a <<< i := by
    rw [Nat.or_comm, ← Nat.shiftLeft_add_eq_or_of_lt hb, Nat.add_comm]
  have hround (u : UInt32) : u.toInt32.toUInt32 = u := rfl
  have e₁ : b₁.toNat <<< 8 % 2 ^ 32 = b₁.toNat <<< 8 := by omega
  have e₂ : b₂.toNat <<< 16 % 2 ^ 32 = b₂.toNat <<< 16 := by omega
  have e₃ : b₃.toNat <<< 24 % 2 ^ 32 = b₃.toNat <<< 24 := by omega
  simp only [ofBytes, Bytes.number, hround, UInt32.toNat_or, UInt32.toNat_shiftLeft,
    UInt8.toNat_toUInt32]
  change b₀.toNat ||| b₁.toNat <<< 8 % 2 ^ 32 ||| b₂.toNat <<< 16 % 2 ^ 32 |||
    b₃.toNat <<< 24 % 2 ^ 32 = _
  rw [e₁, e₂, e₃, hor _ _ 8 (by omega), hor _ _ 16 (by omega), hor _ _ 24 (by omega)]
  omega

theorem bytes_ofBytes (b₀ b₁ b₂ b₃ : UInt8) : (ofBytes b₀ b₁ b₂ b₃).bytes = [b₀, b₁, b₂, b₃] := by
  rw [bytes, toUInt32_ofBytes]
  exact Bytes.digits_number [b₀, b₁, b₂, b₃]

theorem ofBytes_of_bytes_eq {w : Word} {b₀ b₁ b₂ b₃ : UInt8} (h : w.bytes = [b₀, b₁, b₂, b₃]) :
    ofBytes b₀ b₁ b₂ b₃ = w := by
  have hnumber : (ofBytes b₀ b₁ b₂ b₃).toUInt32.toNat = w.toUInt32.toNat := by
    rw [toUInt32_ofBytes, ← h]
    exact Bytes.number_digits w.toUInt32.toNat_lt
  exact congrArg UInt32.toInt32 (UInt32.toNat_inj.1 hnumber)

end Word

/-! ### Programs -/

namespace Program

theorem toList_foldl_pushBytes (ws : List Word) (out : ByteArray) :
    (ws.foldl Word.pushBytes out).toList = out.toList ++ ws.flatMap Word.bytes := by
  induction ws generalizing out with
  | nil => rw [List.foldl_nil, List.flatMap_nil, List.append_nil]
  | cons w ws ih =>
    rw [List.foldl_cons, ih, Word.toList_pushBytes, List.flatMap_cons, List.append_assoc]

/-- The bytes of a program are the bytes of its words, one word after another. -/
theorem encode_toList (p : Program) : p.encode.toList = p.words.toList.flatMap Word.bytes := by
  rw [encode, ← Array.foldl_toList, toList_foldl_pushBytes, ByteArray.toList_empty, List.nil_append]

theorem length_flatMap_bytes (ws : List Word) : (ws.flatMap Word.bytes).length = 4 * ws.length := by
  induction ws with
  | nil => rfl
  | cons w ws ih =>
    rw [List.flatMap_cons, List.length_append, Word.length_bytes, ih, List.length_cons]
    omega

theorem encode_size (p : Program) : p.encode.size = 4 * p.size := by
  rw [← Bytes.length_toList, encode_toList, length_flatMap_bytes, Array.length_toList, size]

theorem wordsFrom_flatMap (ws : List Word) (acc : Array Word) :
    wordsFrom acc (ws.flatMap Word.bytes) = acc ++ ws := by
  induction ws generalizing acc with
  | nil => simp [wordsFrom]
  | cons w ws ih =>
    obtain ⟨b₀, b₁, b₂, b₃, hw⟩ : ∃ b₀ b₁ b₂ b₃, w.bytes = [b₀, b₁, b₂, b₃] := ⟨_, _, _, _, rfl⟩
    rw [List.flatMap_cons, hw]
    simp only [List.cons_append, List.nil_append, wordsFrom]
    rw [ih, Word.ofBytes_of_bytes_eq hw]
    simp

theorem flatMap_wordsFrom {bs : List UInt8} (h : bs.length % 4 = 0) (acc : Array Word) :
    (wordsFrom acc bs).toList.flatMap Word.bytes = acc.toList.flatMap Word.bytes ++ bs := by
  fun_induction wordsFrom acc bs with
  | case1 acc b₀ b₁ b₂ b₃ rest ih =>
    simp only [List.length_cons] at h
    rw [ih (by omega), Array.toList_push, List.flatMap_append, List.flatMap_singleton,
      Word.bytes_ofBytes, List.append_assoc]
    rfl
  | case2 bs acc hshort =>
    -- Fewer than four bytes are left, and their number is a multiple of four.
    have hnil : bs = [] := by
      rcases bs with _ | ⟨b₀, _ | ⟨b₁, _ | ⟨b₂, _ | ⟨b₃, rest⟩⟩⟩⟩
      · rfl
      · simp at h
      · simp at h
      · simp at h
      · exact absurd rfl (hshort b₀ b₁ b₂ b₃ rest)
    rw [hnil, List.append_nil]

/-- Reading bytes as a program undoes writing it, and nothing else can be read. -/
theorem decode_eq_ok_iff {data : ByteArray} {p : Program} :
    decode data = .ok p ↔ data = p.encode := by
  constructor
  · intro h
    rw [decode] at h
    by_cases hsize : data.size % 4 = 0
    · rw [if_pos hsize, Except.ok.injEq] at h
      rw [← h]
      apply Bytes.ext_toList
      rw [encode_toList, flatMap_wordsFrom (by rwa [Bytes.length_toList])]
      rfl
    · rw [if_neg hsize] at h
      cases h
  · rintro rfl
    rw [decode, encode_size, if_pos (Nat.mul_mod_right 4 _), encode_toList, wordsFrom_flatMap]
    simp

theorem encode_injective {p q : Program} (h : p.encode = q.encode) : p = q := by
  have hp : decode p.encode = .ok p := decode_eq_ok_iff.2 rfl
  have hq : decode p.encode = .ok q := decode_eq_ok_iff.2 h
  exact Except.ok.inj (hp.symm.trans hq)

end Program

end Lanewise
