import Lanewise.Proofs.Image.Bytes
import Lanewise.Proofs.Store.Bucket
import Lanewise.Run.Store

/-!
# The keys of the run store

Keys of one length stand in the order of the numbers that they spell, so the keys of numbers stand
in the order of the numbers. Different numbers, identifiers and runs of programs have different
keys.

## Main definitions

* `Key.number`: the number that a key spells, the most significant byte first.

## Main results

* `Run.seqKey_lt_iff`: keys of numbers have their order.
* `Run.seqKey_inj`, `Run.idKey_inj`, `Run.programKey_inj`: keys are not shared.
* `Run.programKey_lt_iff`, `Run.programKey_startsWith_iff`: the keys of the runs of one program.
* `Run.seqOf_seqKey`, `Run.seqOf_programKey`: keys give their numbers back.
-/

namespace Lanewise

/-- The number that a key spells, the most significant byte first. -/
def Key.number : Key → Nat
  | [] => 0
  | b :: k => b.toNat * Nat.pow 256 k.length + number k

theorem Key.number_lt (k : Key) : k.number < Nat.pow 256 k.length := by
  induction k with
  | nil => exact Nat.one_pos
  | cons b k ih =>
    have hb : b.toNat < 256 := b.toNat_lt
    have hmul : (b.toNat + 1) * Nat.pow 256 k.length ≤ 256 * Nat.pow 256 k.length :=
      Nat.mul_le_mul_right _ hb
    have hpow : Nat.pow 256 (b :: k).length = 256 * Nat.pow 256 k.length := Nat.mul_comm ..
    rw [Nat.add_mul] at hmul
    rw [number, hpow]
    omega

theorem Key.lt_iff_number_lt {k k' : Key} (h : k.length = k'.length) :
    k < k' ↔ k.number < k'.number := by
  induction k generalizing k' with
  | nil =>
    obtain rfl := List.eq_nil_of_length_eq_zero h.symm
    exact iff_of_false (Key.lt_irrefl _) (Nat.lt_irrefl _)
  | cons b k ih =>
    cases k' with
    | nil => cases h
    | cons b' k' =>
      have hlength : k.length = k'.length := Nat.succ.inj h
      have hk := Key.number_lt k
      have hk' := Key.number_lt k'
      rw [List.cons_lt_cons_iff, ih hlength, number, number, hlength, UInt8.lt_iff_toNat_lt]
      rw [hlength] at hk
      -- The first bytes decide unless they agree, since what follows is less than one of their
      -- units.
      have hlt (x y : Nat) (hxy : x < y) :
          (x + 1) * Nat.pow 256 k'.length ≤ y * Nat.pow 256 k'.length :=
        Nat.mul_le_mul_right _ hxy
      simp only [Nat.add_mul, Nat.one_mul] at hlt
      rcases Nat.lt_trichotomy b.toNat b'.toNat with hb | hb | hb
      · have := hlt _ _ hb
        exact iff_of_true (.inl hb) (by omega)
      · rw [UInt8.toNat_inj.1 hb]
        constructor
        · rintro (h | ⟨-, h⟩) <;> omega
        · intro h
          exact .inr ⟨rfl, by omega⟩
      · have := hlt _ _ hb
        refine iff_of_false ?_ (by omega)
        rintro (h | ⟨rfl, -⟩) <;> omega

theorem ProgramId.bytes_inj {id id' : ProgramId} : id.bytes = id'.bytes ↔ id = id' := by
  refine ⟨fun h => ?_, congrArg bytes⟩
  obtain ⟨bytes, _⟩ := id
  obtain rfl : bytes = _ := h
  rfl

namespace Run

@[simp] theorem length_seqKey (n : UInt64) : (seqKey n).length = 8 := rfl

theorem number_seqKey (n : UInt64) : (seqKey n).number = n.toNat := by
  have hn := n.toNat_lt
  simp only [seqKey, Key.number, List.length_cons, List.length_nil, UInt64.toNat_toUInt8,
    UInt64.toNat_shiftRight, Nat.shiftRight_eq_div_pow, Nat.pow_eq]
  generalize n.toNat = m at hn ⊢
  -- Cutting off bytes one at a time keeps the divisors small.
  have hstep (k l : Nat) (h : k * 256 = l) : m / l = m / k / 256 := by
    rw [Nat.div_div_eq_div_mul, h]
  have h₂ := hstep 256 65536 rfl
  have h₃ := hstep 65536 16777216 rfl
  have h₄ := hstep 16777216 4294967296 rfl
  have h₅ := hstep 4294967296 1099511627776 rfl
  have h₆ := hstep 1099511627776 281474976710656 rfl
  have h₇ := hstep 281474976710656 72057594037927936 rfl
  simp
  rw [h₇, h₆, h₅, h₄, h₃, h₂]
  omega

/-- Keys of numbers stand in the order of the numbers. -/
theorem seqKey_lt_iff {n n' : UInt64} : seqKey n < seqKey n' ↔ n < n' := by
  have hlength := (length_seqKey n).trans (length_seqKey n').symm
  rw [Key.lt_iff_number_lt hlength, number_seqKey, number_seqKey, UInt64.lt_iff_toNat_lt]

theorem seqKey_inj {n n' : UInt64} : seqKey n = seqKey n' ↔ n = n' := by
  constructor
  · intro h
    rw [← UInt64.toNat_inj, ← number_seqKey, h, number_seqKey]
  · rintro rfl
    rfl

theorem idKey_inj {id id' : String} : idKey id = idKey id' ↔ id = id' :=
  Bytes.toUTF8_toList_inj

theorem programKey_inj {id id' : ProgramId} {n n' : UInt64} :
    programKey id n = programKey id' n' ↔ id = id' ∧ n = n' := by
  constructor
  · intro h
    obtain ⟨hid, hn⟩ := List.append_inj h (id.length_bytes.trans id'.length_bytes.symm)
    exact ⟨ProgramId.bytes_inj.1 hid, seqKey_inj.1 hn⟩
  · rintro ⟨rfl, rfl⟩
    rfl

/-! ### Keys of programs -/

theorem append_lt_append_iff {front k k' : Key} : front ++ k < front ++ k' ↔ k < k' := by
  induction front with
  | nil => exact Iff.rfl
  | cons b front ih =>
    rw [List.cons_append, List.cons_append, List.cons_lt_cons_iff, ih]
    exact ⟨fun h => h.elim (fun hb => absurd hb (UInt8.lt_irrefl b)) (·.2), fun h => .inr ⟨rfl, h⟩⟩

/-- The runs of a program stand in the order of their numbers. -/
theorem programKey_lt_iff {id : ProgramId} {n n' : UInt64} :
    programKey id n < programKey id n' ↔ n < n' :=
  append_lt_append_iff.trans seqKey_lt_iff

theorem programKey_startsWith (id : ProgramId) (n : UInt64) :
    (programKey id n).startsWith id.bytes = true :=
  List.isPrefixOf_iff_prefix.2 (List.prefix_append _ _)

/-- The keys that begin with the bytes of a program are those of its runs. -/
theorem programKey_startsWith_iff {id id' : ProgramId} {n : UInt64} :
    (programKey id n).startsWith id'.bytes = true ↔ id = id' := by
  constructor
  · intro h
    obtain ⟨rest, hrest⟩ := List.isPrefixOf_iff_prefix.1 h
    obtain ⟨hid, -⟩ := List.append_inj hrest (id'.length_bytes.trans id.length_bytes.symm)
    exact (ProgramId.bytes_inj.1 hid).symm
  · rintro rfl
    exact programKey_startsWith id n

/-- Reading a key byte by byte gives the number that it spells, as far as 64 bits go. -/
theorem toNat_foldl_bytes (k : Key) (n : UInt64) :
    (k.foldl (fun n b => n * 256 + b.toUInt64) n).toNat =
      (n.toNat * Nat.pow 256 k.length + k.number) % UInt64.size := by
  induction k generalizing n with
  | nil =>
    change n.toNat = (n.toNat * 1 + 0) % UInt64.size
    rw [Nat.mul_one, Nat.add_zero, Nat.mod_eq_of_lt n.toNat_lt]
  | cons b k ih =>
    have hb : (n * 256 + b.toUInt64).toNat = (n.toNat * 256 + b.toNat) % UInt64.size := by
      rw [UInt64.toNat_add, UInt64.toNat_mul]
      simp
    have hpow : Nat.pow 256 (k.length + 1) = 256 * Nat.pow 256 k.length := Nat.mul_comm ..
    rw [List.foldl_cons, ih, hb, Nat.add_mod, Nat.mul_mod, Nat.mod_mod, ← Nat.mul_mod,
      ← Nat.add_mod, List.length_cons, hpow, Key.number, Nat.add_mul, Nat.mul_assoc, Nat.add_assoc]

/-- The number at the end of a key, whatever stands in front of it. -/
theorem seqOf_append_seqKey (front : Key) (n : UInt64) : seqOf (front ++ seqKey n) = n := by
  have hlength : (front ++ seqKey n).length = front.length + 8 := List.length_append
  rw [seqOf, hlength, if_neg (by omega), Nat.add_sub_cancel, List.drop_left]
  apply UInt64.toNat_inj.1
  rw [toNat_foldl_bytes, number_seqKey, UInt64.toNat_zero, Nat.zero_mul, Nat.zero_add]
  exact Nat.mod_eq_of_lt n.toNat_lt

theorem seqOf_seqKey (n : UInt64) : seqOf (seqKey n) = n :=
  seqOf_append_seqKey [] n

theorem seqOf_programKey (id : ProgramId) (n : UInt64) : seqOf (programKey id n) = n :=
  seqOf_append_seqKey id.bytes n

end Run

end Lanewise
