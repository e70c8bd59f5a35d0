import Lanewise.Cbor.Parser
import Lanewise.Proofs.Image.Bytes
import Mathlib.Tactic.SplitIfs

/-!
# CBOR values are read back

The writer puts a head in front of what it writes, with a kind and a number, and nothing else tells
where a value ends. A reader that takes a value from the front of some bytes therefore has to stop
where the next value begins, and this is what an induction over the value shows, with what follows
left open.

A reader refuses lists with more items than a message may have. The writer does not look at them, so
the values that it writes are read back unless one of their lists is too long. The lengths in heads
are 64-bit numbers, which only something of such a size does not fit into.

## Main definitions

* `Cbor.bytesOf`: the bytes of a value.
* `Cbor.Written`: the values that are written here, by the depth of their nesting.

## Main results

* `Cbor.toList_encode`: what is written are the bytes of the value.
* `Cbor.parse?_encode`: what is written is read back unless a list is too long.
-/

namespace Lanewise.Cbor

/-! ### The bytes of a value -/

/-- The `n` low bytes of a number, most significant first. -/
def bigBytes (v : Nat) : (n : Nat) → List UInt8
  | 0 => []
  | n + 1 => UInt8.ofNat (v / Nat.pow 256 n) :: bigBytes v n

/-- The number of bytes behind the first one that a number in a head takes, by the logarithm, if it
does not fit into the first byte. -/
def widthOf? (n : Nat) : Option Nat :=
  if n < 24 then none
  else if n < 0x100 then some 0
  else if n < 0x10000 then some 1
  else if n < 0x100000000 then some 2
  else some 3

/-- The head of a value. -/
def headBytes (kind n : Nat) : List UInt8 :=
  match widthOf? n with
  | none => [UInt8.ofNat (kind * 32 + n)]
  | some w => UInt8.ofNat (kind * 32 + (24 + w)) :: bigBytes n (1 <<< w)

mutual

/-- The bytes of a value. -/
def bytesOf : Cbor → List UInt8
  | uint n => headBytes 0 n
  | nint n => headBytes 1 n
  | bytes b => headBytes 2 b.length ++ b
  | text cs => headBytes 3 cs.flatten.length ++ cs.flatten
  | array xs => headBytes 4 xs.length ++ itemBytes xs
  | map ms => headBytes 5 ms.length ++ memberBytes ms
  | tag n v => headBytes 6 n ++ bytesOf v
  | simple n => headBytes 7 n
  | float w bits => UInt8.ofNat (7 * 32 + 24 + Nat.log2 w) :: bigBytes bits w

/-- The bytes of items. -/
def itemBytes : List Cbor → List UInt8
  | [] => []
  | x :: xs => bytesOf x ++ itemBytes xs

/-- The bytes of members. -/
def memberBytes : List (Cbor × Cbor) → List UInt8
  | [] => []
  | (k, v) :: ms => bytesOf k ++ (bytesOf v ++ memberBytes ms)

end

theorem toList_pushBig (out : ByteArray) (v n : Nat) :
    (pushBig out v n).toList = out.toList ++ bigBytes v n := by
  induction n generalizing out with
  | zero => rw [pushBig, bigBytes, List.append_nil]
  | succ n ih =>
    rw [pushBig, ih, Bytes.toList_push, bigBytes, List.append_assoc, List.singleton_append]

theorem toList_pushHead (out : ByteArray) (kind n : Nat) :
    (pushHead out kind n).toList = out.toList ++ headBytes kind n := by
  unfold pushHead headBytes widthOf?
  dsimp only
  split_ifs <;> simp only [toList_pushBig, Bytes.toList_push, List.append_assoc] <;> rfl

theorem toList_pushBytes (out : ByteArray) (bs : List UInt8) :
    (pushBytes out bs).toList = out.toList ++ bs := by
  unfold pushBytes
  induction bs generalizing out with
  | nil => rw [List.foldl_nil, List.append_nil]
  | cons b bs ih =>
    rw [List.foldl_cons, ih, Bytes.toList_push, List.append_assoc, List.singleton_append]

mutual

theorem toList_push (out : ByteArray) : (v : Cbor) → (push out v).toList = out.toList ++ bytesOf v
  | uint n => toList_pushHead out 0 n
  | nint n => toList_pushHead out 1 n
  | bytes b => by rw [push, toList_pushBytes, toList_pushHead, bytesOf, List.append_assoc]
  | text cs => by rw [push, toList_pushBytes, toList_pushHead, bytesOf, List.append_assoc]
  | array xs => by rw [push, toList_pushItems, toList_pushHead, bytesOf, List.append_assoc]
  | map ms => by rw [push, toList_pushMembers, toList_pushHead, bytesOf, List.append_assoc]
  | tag n v => by rw [push, toList_push, toList_pushHead, bytesOf, List.append_assoc]
  | simple n => toList_pushHead out 7 n
  | float w bits => by
    rw [push, toList_pushBig, Bytes.toList_push, bytesOf, List.append_assoc, List.singleton_append]

theorem toList_pushItems (out : ByteArray) :
    (xs : List Cbor) → (pushItems out xs).toList = out.toList ++ itemBytes xs
  | [] => by rw [pushItems, itemBytes, List.append_nil]
  | x :: xs => by rw [pushItems, toList_pushItems, toList_push, itemBytes, List.append_assoc]

theorem toList_pushMembers (out : ByteArray) :
    (ms : List (Cbor × Cbor)) → (pushMembers out ms).toList = out.toList ++ memberBytes ms
  | [] => by rw [pushMembers, memberBytes, List.append_nil]
  | (k, v) :: ms => by
    rw [pushMembers, toList_pushMembers, toList_push, toList_push, memberBytes, List.append_assoc,
      List.append_assoc]

end

/-- What is written are the bytes of the value. -/
theorem toList_encode (v : Cbor) : v.encode.toList = bytesOf v := by
  rw [encode, toList_push, Bytes.toList_eq]
  rfl

/-! ### Heads -/

theorem bigNumber_bigBytes {v n : Nat} (h : v < Nat.pow 256 n) : bigNumber (bigBytes v n) = v := by
  have hfold (acc : Nat) : (bigBytes v n).foldl (fun n b => n * 256 + b.toNat) acc =
      acc * Nat.pow 256 n + v % Nat.pow 256 n := by
    clear h
    induction n generalizing acc with
    | zero =>
      have hone : Nat.pow 256 0 = 1 := rfl
      rw [bigBytes, List.foldl_nil, hone, Nat.mod_one, Nat.mul_one, Nat.add_zero]
    | succ n ih =>
      have hpow : Nat.pow 256 (n + 1) = Nat.pow 256 n * 256 := rfl
      have hbyte : (UInt8.ofNat (v / Nat.pow 256 n)).toNat = v / Nat.pow 256 n % 256 :=
        UInt8.toNat_ofNat'
      rw [bigBytes, List.foldl_cons, ih, hpow, Nat.mod_mul, hbyte, Nat.add_mul,
        Nat.mul_assoc, Nat.mul_comm 256, Nat.mul_comm (v / Nat.pow 256 n % _)]
      omega
  rw [bigNumber, hfold, Nat.zero_mul, Nat.zero_add, Nat.mod_eq_of_lt h]

theorem length_bigBytes (v n : Nat) : (bigBytes v n).length = n := by
  induction n with
  | zero => rfl
  | succ n ih => rw [bigBytes, List.length_cons, ih]

theorem take?_append (bs rest : List UInt8) : take? bs.length (bs ++ rest) = some (bs, rest) := by
  rw [take?, List.take_left, List.drop_left]
  exact if_pos rfl

theorem argument?_bigBytes {n w : Nat} (h : n < Nat.pow 256 (1 <<< w)) (hw : w < 4)
    (rest : List UInt8) :
    argument? (24 + w) (bigBytes n (1 <<< w) ++ rest) = some (some n, rest) := by
  have htake := take?_append (bigBytes n (1 <<< w)) rest
  rw [length_bigBytes] at htake
  rw [argument?, if_neg (by omega), if_pos (by omega), Nat.add_sub_cancel_left, htake]
  exact congrArg (fun m => some (some m, rest)) (bigNumber_bigBytes h)

/-- The head of a value begins with its kind, and its number is read back. -/
theorem exists_head (kind : Nat) {n : Nat} (hkind : kind < 8) (hn : n < 0x10000000000000000) :
    ∃ b more, headBytes kind n = b :: more ∧ b.toNat / 32 = kind ∧
      ∀ rest, argument? (b.toNat % 32) (more ++ rest) = some (some n, rest) := by
  unfold headBytes
  by_cases hsmall : n < 24
  · have hb : (UInt8.ofNat (kind * 32 + n)).toNat = kind * 32 + n := by
      rw [UInt8.toNat_ofNat']
      omega
    have hmod : (kind * 32 + n) % 32 = n := by omega
    refine ⟨_, [], by rw [widthOf?, if_pos hsmall], by omega, fun rest => ?_⟩
    rw [hb, hmod, argument?, if_pos hsmall, List.nil_append]
  · obtain ⟨w, hwidth, hw, hlt⟩ : ∃ w, widthOf? n = some w ∧ w < 4 ∧ n < Nat.pow 256 (1 <<< w) := by
      unfold widthOf?
      rw [if_neg hsmall]
      split_ifs with h1 h2 h3
      · exact ⟨0, rfl, by decide, h1⟩
      · exact ⟨1, rfl, by decide, h2⟩
      · exact ⟨2, rfl, by decide, h3⟩
      · exact ⟨3, rfl, by decide, hn⟩
    have hb : (UInt8.ofNat (kind * 32 + (24 + w))).toNat = kind * 32 + (24 + w) := by
      rw [UInt8.toNat_ofNat']
      omega
    have hmod : (kind * 32 + (24 + w)) % 32 = 24 + w := by omega
    refine ⟨_, _, by rw [hwidth], by omega, fun rest => ?_⟩
    rw [hb, hmod]
    exact argument?_bigBytes hlt hw rest

/-! ### Values -/

/-- A value as it is written here: numbers fit into a head, texts are whole, there are neither tags
nor fractions, and the values are not nested deeper than so. -/
inductive Written : (depth : Nat) → Cbor → Prop
  | uint {d n : Nat} (h : n < 0x10000000000000000) : Written d (uint n)
  | nint {d n : Nat} (h : n < 0x10000000000000000) : Written d (nint n)
  | bytes (d : Nat) (b : List UInt8) : Written d (bytes b)
  | text (d : Nat) (c : List UInt8) : Written d (text [c])
  | simple {d n : Nat} (h : n < 24) : Written d (simple n)
  | array {d : Nat} {xs : List Cbor} (hitems : ∀ x ∈ xs, Written d x) : Written (d + 1) (array xs)
  | map {d : Nat} {ms : List (Cbor × Cbor)} (hkeys : ∀ m ∈ ms, Written d m.1)
      (hvalues : ∀ m ∈ ms, Written d m.2) : Written (d + 1) (map ms)

/-- With enough fuel, a value in front of anything is read unless a list in it is too long. A value
with so few bytes has no length that a head cannot hold. -/
def Reads (d : Nat) (v : Cbor) : Prop :=
  (bytesOf v).length < 0x10000000000000000 → ∀ fuel rest, 2 * (bytesOf v).length ≤ fuel →
    value? fuel d (bytesOf v ++ rest) = if v.short then some (v, rest) else none

theorem headBytes_ne_nil (kind n : Nat) : 0 < (headBytes kind n).length := by
  unfold headBytes
  split <;> exact Nat.succ_pos _

theorem bytesOf_pos (v : Cbor) : 0 < (bytesOf v).length := by
  cases v <;> rw [bytesOf] <;>
    first
    | exact headBytes_ne_nil _ _
    | exact Nat.succ_pos _
    | exact List.length_append ▸ Nat.add_pos_left (headBytes_ne_nil _ _) _

theorem length_le_itemBytes (xs : List Cbor) : xs.length ≤ (itemBytes xs).length := by
  induction xs with
  | nil => exact Nat.le_refl 0
  | cons x xs ih =>
    have hpos := bytesOf_pos x
    rw [itemBytes, List.length_append, List.length_cons]
    omega

theorem length_le_memberBytes (ms : List (Cbor × Cbor)) : ms.length ≤ (memberBytes ms).length := by
  induction ms with
  | nil => exact Nat.le_refl 0
  | cons m ms ih =>
    have hpos := bytesOf_pos m.1
    rw [memberBytes, List.length_append, List.length_append, List.length_cons]
    omega

/-- By induction on the items, whatever has been read before them. -/
theorem items?_itemBytes {d : Nat} {xs : List Cbor} (hitems : ∀ x ∈ xs, Reads d x)
    (hsize : (itemBytes xs).length < 0x10000000000000000) (done : List Cbor) (rest : List UInt8)
    {fuel : Nat} (hfuel : 2 * (itemBytes xs).length + 1 ≤ fuel) :
    items? fuel d xs.length done (itemBytes xs ++ rest) =
      if shortItems xs then some (array (done.reverse ++ xs), rest) else none := by
  induction xs generalizing done fuel with
  | nil =>
    obtain ⟨fuel, rfl⟩ := Nat.exists_eq_succ_of_ne_zero (show fuel ≠ 0 by omega)
    rw [List.length_nil, items?, itemBytes, shortItems, if_pos rfl, List.append_nil,
      List.nil_append]
  | cons x xs ih =>
    obtain ⟨hx, hxs⟩ := List.forall_mem_cons.1 hitems
    have hpos := bytesOf_pos x
    rw [itemBytes, List.length_append] at hfuel hsize
    obtain ⟨fuel, rfl⟩ := Nat.exists_eq_succ_of_ne_zero (show fuel ≠ 0 by omega)
    rw [List.length_cons, items?, itemBytes, List.append_assoc, hx (by omega) fuel _ (by omega),
      shortItems]
    cases hshort : x.short with
    | false => rfl
    | true =>
      rw [if_pos rfl, Bool.true_and]
      dsimp only
      rw [ih hxs (by omega) (x :: done) (by omega), List.reverse_cons, List.append_assoc,
        List.singleton_append]

/-- By induction on the members, whatever has been read before them. -/
theorem members?_memberBytes {d : Nat} {ms : List (Cbor × Cbor)} (hkeys : ∀ m ∈ ms, Reads d m.1)
    (hvalues : ∀ m ∈ ms, Reads d m.2) (hsize : (memberBytes ms).length < 0x10000000000000000)
    (done : List (Cbor × Cbor)) (rest : List UInt8) {fuel : Nat}
    (hfuel : 2 * (memberBytes ms).length + 1 ≤ fuel) :
    members? fuel d ms.length done (memberBytes ms ++ rest) =
      if shortMembers ms then some (map (done.reverse ++ ms), rest) else none := by
  induction ms generalizing done fuel with
  | nil =>
    obtain ⟨fuel, rfl⟩ := Nat.exists_eq_succ_of_ne_zero (show fuel ≠ 0 by omega)
    rw [List.length_nil, members?, memberBytes, shortMembers, if_pos rfl, List.append_nil,
      List.nil_append]
  | cons m ms ih =>
    obtain ⟨k, v⟩ := m
    obtain ⟨hk, hks⟩ := List.forall_mem_cons.1 hkeys
    obtain ⟨hv, hvs⟩ := List.forall_mem_cons.1 hvalues
    have hkpos := bytesOf_pos k
    have hvpos := bytesOf_pos v
    rw [memberBytes, List.length_append, List.length_append] at hfuel hsize
    obtain ⟨fuel, rfl⟩ := Nat.exists_eq_succ_of_ne_zero (show fuel ≠ 0 by omega)
    rw [List.length_cons, members?, memberBytes, List.append_assoc, List.append_assoc,
      hk (by dsimp only; omega) fuel _ (by dsimp only; omega), shortMembers]
    cases hshort : k.short with
    | false => rfl
    | true =>
      rw [if_pos rfl, Bool.true_and]
      dsimp only
      rw [hv (by dsimp only; omega) fuel _ (by dsimp only; omega)]
      cases hshort' : v.short with
      | false => rfl
      | true =>
        rw [if_pos rfl, Bool.true_and]
        dsimp only
        rw [ih hks hvs (by omega) ((k, v) :: done) (by omega), List.reverse_cons, List.append_assoc,
          List.singleton_append]

/-- Fuel for a value is fuel for one step at least. -/
theorem exists_fuel {v : Cbor} {fuel : Nat} (h : 2 * (bytesOf v).length ≤ fuel) :
    ∃ less, fuel = less + 1 := by
  have hpos := bytesOf_pos v
  exact Nat.exists_eq_succ_of_ne_zero (by omega)

/-- A list is refused at its head if it is too long, and otherwise if something in it is. -/
theorem guard_eq {α : Type} {count room more : Nat} (hroom : count ≤ room) (ok : Bool) (a : α) :
    (if room + more < count ∨ maxItems < count then none else if ok = true then some a else none) =
      if (decide (count ≤ maxItems) && ok) = true then some a else none := by
  by_cases hmany : maxItems < count
  · rw [if_pos (.inr hmany), decide_eq_false (Nat.not_le.2 hmany), Bool.false_and,
      if_neg Bool.false_ne_true]
  · rw [if_neg (by omega), decide_eq_true (Nat.not_lt.1 hmany), Bool.true_and]

/-- By induction on the value. A value begins with the head that its kind has, and the reader goes
by it. -/
theorem Written.reads {d : Nat} {v : Cbor} (h : Written d v) : Reads d v := by
  induction h with
  | uint h =>
    intro _ fuel rest hfuel
    obtain ⟨fuel, rfl⟩ := exists_fuel hfuel
    obtain ⟨b, more, hhead, hb, hmore⟩ := exists_head 0 (by decide) h
    simp only [bytesOf, hhead, List.cons_append, value?, hb, hmore]
    rfl
  | nint h =>
    intro _ fuel rest hfuel
    obtain ⟨fuel, rfl⟩ := exists_fuel hfuel
    obtain ⟨b, more, hhead, hb, hmore⟩ := exists_head 1 (by decide) h
    simp only [bytesOf, hhead, List.cons_append, value?, hb, hmore]
    rfl
  | bytes d bs =>
    intro hsize fuel rest hfuel
    obtain ⟨fuel, rfl⟩ := exists_fuel hfuel
    rw [bytesOf, List.length_append] at hsize
    obtain ⟨b, more, hhead, hb, hmore⟩ := exists_head 2 (by decide) (Nat.lt_of_add_left_lt hsize)
    simp only [bytesOf, hhead, List.cons_append, List.append_assoc, value?, hb, hmore, bind,
      Option.bind, take?_append]
    rfl
  | text d c =>
    intro hsize fuel rest hfuel
    obtain ⟨fuel, rfl⟩ := exists_fuel hfuel
    rw [bytesOf, List.flatten_singleton, List.length_append] at hsize
    obtain ⟨b, more, hhead, hb, hmore⟩ := exists_head 3 (by decide) (Nat.lt_of_add_left_lt hsize)
    simp only [bytesOf, List.flatten_singleton, hhead, List.cons_append, List.append_assoc, value?,
      hb, hmore, bind, Option.bind, take?_append]
    rfl
  | @simple d n h =>
    intro _ fuel rest hfuel
    obtain ⟨fuel, rfl⟩ := exists_fuel hfuel
    have hhead : headBytes 7 n = [UInt8.ofNat (224 + n)] := by
      rw [headBytes, widthOf?, if_pos h]
    have hb : (UInt8.ofNat (224 + n)).toNat = 224 + n := by
      rw [UInt8.toNat_ofNat']
      omega
    have hkind : (224 + n) / 32 = 7 := by omega
    have hmod : (224 + n) % 32 = n := by omega
    simp only [bytesOf, hhead, List.cons_append, value?, hb, hkind, hmod, special?, if_pos h]
    rfl
  | @array d xs _ ih =>
    intro hsize fuel rest hfuel
    obtain ⟨fuel, rfl⟩ := exists_fuel hfuel
    have hcount := length_le_itemBytes xs
    rw [bytesOf, List.length_append] at hsize
    obtain ⟨b, more, hhead, hb, hmore⟩ := exists_head (n := xs.length) 4 (by decide) (by omega)
    rw [bytesOf, hhead, List.length_append, List.length_cons] at hfuel
    have hroom : 2 * (itemBytes xs).length + 1 ≤ fuel := by omega
    have hitems := items?_itemBytes ih (by omega) [] rest hroom
    simp only [bytesOf, hhead, List.cons_append, List.append_assoc, value?, hb, hmore, short,
      Nat.add_sub_cancel, List.length_append, hitems, if_neg (Nat.succ_ne_zero d), guard_eq hcount]
    rfl
  | @map d ms _ _ ihk ihv =>
    intro hsize fuel rest hfuel
    obtain ⟨fuel, rfl⟩ := exists_fuel hfuel
    have hcount := length_le_memberBytes ms
    rw [bytesOf, List.length_append] at hsize
    obtain ⟨b, more, hhead, hb, hmore⟩ := exists_head (n := ms.length) 5 (by decide) (by omega)
    rw [bytesOf, hhead, List.length_append, List.length_cons] at hfuel
    have hroom : 2 * (memberBytes ms).length + 1 ≤ fuel := by omega
    have hmembers := members?_memberBytes ihk ihv (by omega) [] rest hroom
    simp only [bytesOf, hhead, List.cons_append, List.append_assoc, value?, hb, hmore, short,
      Nat.add_sub_cancel, List.length_append, hmembers, if_neg (Nat.succ_ne_zero d),
      guard_eq hcount]
    rfl

theorem size_encode (v : Cbor) : v.encode.size = (bytesOf v).length := by
  rw [← Bytes.length_toList, toList_encode]

/-- What is written is read back unless a list is too long. -/
theorem parse?_encode {v : Cbor} (h : Written maxDepth v)
    (hsize : v.encode.size < 0x10000000000000000) :
    parse? v.encode = if v.short then some v else none := by
  rw [size_encode] at hsize
  have hread := h.reads hsize (2 * (bytesOf v).length + 2) [] (by omega)
  rw [List.append_nil] at hread
  rw [parse?, toList_encode, hread]
  cases v.short <;> rfl

end Lanewise.Cbor
