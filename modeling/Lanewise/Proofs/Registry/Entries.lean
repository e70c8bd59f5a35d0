import Lanewise.Proofs.Registry.Contents
import Lanewise.Proofs.Store.Bucket
import Mathlib.Data.List.Nodup

/-!
# The entries of registries

A registry in memory keeps its programs in the order in which they were stored, one in a key-value
store in the order of its keys, next to a number that counts them. Both keep each program once, and
both show what they keep in the order of identifiers.

## Main definitions

* `Registry.Medium`: what keeps the programs of a registry.
* `Registry.Orderly`: every program is kept once, and the numbers of programs are right.
* `Registry.held`: what a registry keeps, in the order of identifiers.

## Main results

* `Registry.put_of_new`, `Registry.put_of_stored`, `Registry.delete_of_stored`,
  `Registry.delete_of_absent`: what storing and removing does to an open registry.
* `Registry.mem_held`, `Registry.held_sorted`, `Registry.list_eq`: what a registry lists.
-/

namespace Lanewise

/-- The order of identifiers is that of their bytes. -/
def ProgramId.Le (a b : ProgramId) : Prop :=
  a.bytes ≤ b.bytes

namespace ProgramId

instance : DecidableRel Le := fun a b => inferInstanceAs (Decidable (a.bytes ≤ b.bytes))

instance : IsTrans ProgramId Le := ⟨fun _ _ _ => List.le_trans⟩

instance : Std.Antisymm Le := ⟨fun _ _ hab hba => bytes_inj.1 (List.le_antisymm hab hba)⟩

instance : Std.Total Le := ⟨fun a b => List.le_total a.bytes b.bytes⟩

end ProgramId

namespace Registry

variable {r : Registry} {id : ProgramId} {img : Image}

/-- What keeps the programs of a registry. -/
inductive Medium
  | memory
  | store (onDisk : Bool)

/-- What keeps the programs of this registry. -/
def medium : Registry → Medium
  | memory _ => .memory
  | keyed k => .store k.onDisk

/-- A new registry. -/
def fresh (z : Image.Compressor) : Medium → Registry
  | .memory => .memory { compressor := z }
  | .store onDisk => .keyed { onDisk, compressor := z }

/-- Whether programs outlive their registry. -/
def Medium.lasting : Medium → Bool
  | .memory => false
  | .store onDisk => onDisk

/-! ### Counting -/

/-- The number of programs that a store has written down. -/
def Keyed.saved (k : Keyed) : UInt64 :=
  (k.data.get? countKey).elim 0 countOf

/-- The entries of a registry are in order, and its counters are right. -/
def Orderly (n : Nat) : Registry → Prop
  | memory m => (m.programs.map (·.1)).Nodup
  | keyed k => k.data.Sorted ∧
      (∀ e ∈ k.data.entries, e.1 = Keyed.countKey ∨ ∃ id, e.1 = Keyed.programKey id) ∧
      k.counted = UInt64.ofNat n ∧ k.saved = k.counted

theorem Keyed.toList_countBytes (n : UInt64) : (countBytes n).toList = Bytes.digits 8 n.toNat := by
  have hbyte (shift : UInt64) (hshift : shift.toNat < 64) :
      (n >>> shift).toUInt8 = UInt8.ofNat (n.toNat / Nat.pow 2 shift.toNat) := by
    apply UInt8.toNat_inj.1
    rw [UInt64.toNat_toUInt8, UInt64.toNat_shiftRight, UInt8.toNat_ofNat', Nat.mod_eq_of_lt hshift]
    exact congrArg (· % 256) (Nat.shiftRight_eq_div_pow _ _)
  rw [Bytes.toList_eq]
  change [n.toUInt8, _, _, _, _, _, _, _] = _
  rw [hbyte 8 (by decide), hbyte 16 (by decide), hbyte 24 (by decide), hbyte 32 (by decide),
    hbyte 40 (by decide), hbyte 48 (by decide), hbyte 56 (by decide)]
  simp only [Bytes.digits, Nat.div_div_eq_div_mul]
  rfl

theorem Keyed.foldl_reverse_eq (bs : List UInt8) :
    bs.reverse.foldl (fun n b => n * 256 + b.toUInt64) 0 = UInt64.ofNat (Bytes.number bs) := by
  induction bs with
  | nil => rfl
  | cons b bs ih =>
    have hb : b.toUInt64 = UInt64.ofNat b.toNat := by
      rw [← UInt8.toNat_toUInt64, UInt64.ofNat_toNat]
    rw [List.reverse_cons, List.foldl_append, ih, List.foldl_cons, List.foldl_nil, Bytes.number,
      UInt64.ofNat_add, UInt64.ofNat_mul, UInt64.mul_comm, UInt64.add_comm, hb]
    rfl

/-- A number that was written down can be read back. -/
theorem Keyed.countOf_countBytes (n : UInt64) : countOf (countBytes n) = n := by
  have hlt : n.toNat < Nat.pow 256 8 := n.toNat_lt
  rw [countOf, toList_countBytes, List.take_of_length_le (Nat.le_of_eq (Bytes.length_digits _ _)),
    foldl_reverse_eq, Bytes.number_digits hlt, UInt64.ofNat_toNat]

/-! ### Storing and removing -/

theorem get_eq_notFound (hopen : r.isClosed = false) (h : r.bytesOf id = none) :
    r.get id = .error .notFound := by
  cases r with
  | memory m =>
    dsimp only [isClosed, bytesOf] at hopen h
    rw [get, Memory.get, if_neg (Bool.eq_false_iff.1 hopen), h]
  | keyed k =>
    dsimp only [isClosed, bytesOf] at hopen h
    rw [get, Keyed.get, if_neg (Bool.eq_false_iff.1 hopen), h]

theorem put_eq_error {e : Image.Error} (hopen : r.isClosed = false)
    (h : img.encode r.compressor img.compressed = .error e) : r.put img = .error (.image e) := by
  cases r with
  | memory m =>
    dsimp only [compressor] at h
    rw [put, Memory.put, h, Except.map]
  | keyed k =>
    dsimp only [isClosed, compressor] at hopen h
    rw [put, Keyed.put, if_neg (Bool.eq_false_iff.1 hopen), h, Except.map]

theorem put_of_stored {data : ByteArray} (hopen : r.isClosed = false)
    (h : img.encode r.compressor img.compressed = .ok data) (hstored : (r.bytesOf img.id).isSome) :
    r.put img = .ok (img.id, r) := by
  cases r with
  | memory m =>
    dsimp only [isClosed, bytesOf, compressor] at hopen hstored h
    rw [put, Memory.put, h]
    dsimp only
    rw [if_neg (Bool.eq_false_iff.1 hopen), if_pos hstored, Except.map]
  | keyed k =>
    dsimp only [isClosed, bytesOf, compressor] at hopen hstored h
    rw [← Bucket.contains] at hstored
    rw [put, Keyed.put, if_neg (Bool.eq_false_iff.1 hopen), h]
    dsimp only
    rw [if_pos hstored, Except.map]

/-- A new image is stored. -/
theorem put_of_new {n : Nat} {data : ByteArray} (hopen : r.isClosed = false)
    (h : img.encode r.compressor img.compressed = .ok data) (hnew : r.bytesOf img.id = none)
    (horderly : r.Orderly n) :
    ∃ r', r.put img = .ok (img.id, r') ∧ r'.medium = r.medium ∧ r'.compressor = r.compressor ∧
      r'.Orderly (n + 1) := by
  cases r with
  | memory m =>
    dsimp only [isClosed, bytesOf, Orderly, compressor] at hopen hnew horderly h
    refine ⟨.memory { m with programs := m.programs ++ [(img.id, data)] }, ?_, rfl, rfl, ?_⟩
    · rw [put, Memory.put, h]
      dsimp only
      rw [if_neg (Bool.eq_false_iff.1 hopen), hnew]
      rfl
    · dsimp only [Orderly]
      rw [List.map_append, List.map_singleton, ← List.concat_eq_append]
      refine horderly.concat fun hmem => ?_
      obtain ⟨p, hp, hid⟩ := List.mem_map.1 hmem
      exact bne_iff_ne.1 (List.lookup_eq_none_iff.1 hnew p hp) hid.symm
  | keyed k =>
    obtain ⟨hsorted, hkeys, hcounted, hsaved⟩ := horderly
    dsimp only [isClosed, bytesOf, compressor] at hopen hnew h
    have hcontains : ¬k.data.contains (Keyed.programKey img.id) := by
      rw [Bucket.contains, hnew]
      exact Bool.noConfusion
    refine ⟨.keyed { k with
      data := (k.data.put (Keyed.programKey img.id) data).put Keyed.countKey
        (Keyed.countBytes (k.counted + 1))
      counted := k.counted + 1 }, ?_, rfl, rfl, (hsorted.put _ _).put _ _, ?_, ?_, ?_⟩
    · rw [put, Keyed.put, if_neg (Bool.eq_false_iff.1 hopen), h]
      dsimp only
      rw [if_neg hcontains]
      rfl
    · intro e he
      rcases Bucket.mem_insertInto he with rfl | he
      · exact .inl rfl
      · rcases Bucket.mem_insertInto he with rfl | he
        · exact .inr ⟨_, rfl⟩
        · exact hkeys e he
    · rw [hcounted, UInt64.ofNat_add]
      rfl
    · rw [Keyed.saved, Bucket.get?_put, if_pos rfl]
      exact Keyed.countOf_countBytes _

/-- Nothing is removed that is not stored. -/
theorem delete_of_absent (hopen : r.isClosed = false) (h : r.bytesOf id = none) :
    r.delete id = .ok r := by
  cases r with
  | memory m =>
    dsimp only [isClosed, bytesOf] at hopen h
    have hall : m.programs.filter (·.1 != id) = m.programs :=
      List.filter_eq_self.2 fun p hp =>
        bne_iff_ne.2 (bne_iff_ne.1 (List.lookup_eq_none_iff.1 h p hp)).symm
    rw [delete, Memory.delete, if_neg (Bool.eq_false_iff.1 hopen), hall, Except.map]
  | keyed k =>
    dsimp only [isClosed, bytesOf] at hopen h
    have hcontains : ¬k.data.contains (Keyed.programKey id) := by
      rw [Bucket.contains, h]
      exact Bool.noConfusion
    rw [delete, Keyed.delete, if_neg (Bool.eq_false_iff.1 hopen), if_neg hcontains, Except.map]

/-- A program that is stored is removed. -/
theorem delete_of_stored {n : Nat} (hopen : r.isClosed = false) (hstored : (r.bytesOf id).isSome)
    (horderly : r.Orderly (n + 1)) :
    ∃ r', r.delete id = .ok r' ∧ r'.isClosed = false ∧ r'.medium = r.medium ∧
      r'.compressor = r.compressor ∧ r'.Orderly n ∧
      ∀ id', r'.bytesOf id' = if id' = id then none else r.bytesOf id' := by
  cases r with
  | memory m =>
    dsimp only [isClosed, bytesOf, Orderly] at hopen hstored horderly
    refine ⟨.memory { m with programs := m.programs.filter (·.1 != id) }, ?_, hopen, rfl, rfl, ?_,
      ?_⟩
    · rw [delete, Memory.delete, if_neg (Bool.eq_false_iff.1 hopen), Except.map]
    · exact horderly.sublist (List.filter_sublist.map _)
    · intro id'
      dsimp only [bytesOf]
      split
      · next heq => exact heq ▸ lookup_filter_self
      · next hne => exact lookup_filter_ne hne
  | keyed k =>
    obtain ⟨hsorted, hkeys, hcounted, hsaved⟩ := horderly
    dsimp only [isClosed, bytesOf] at hopen hstored
    rw [← Bucket.contains] at hstored
    refine ⟨.keyed { k with
      data :=
        (k.data.erase (Keyed.programKey id)).put Keyed.countKey (Keyed.countBytes (k.counted - 1))
      counted := k.counted - 1 }, ?_, hopen, rfl, rfl, ⟨(hsorted.erase _).put _ _, ?_, ?_, ?_⟩, ?_⟩
    · rw [delete, Keyed.delete, if_neg (Bool.eq_false_iff.1 hopen), if_pos hstored, Except.map]
    · intro e he
      rcases Bucket.mem_insertInto he with rfl | he
      · exact .inl rfl
      · exact hkeys e (List.mem_filter.1 he).1
    · dsimp only
      rw [hcounted, UInt64.ofNat_add]
      exact UInt64.add_sub_cancel _ _
    · rw [Keyed.saved, Bucket.get?_put, if_pos rfl]
      exact Keyed.countOf_countBytes _
    · intro id'
      dsimp only [bytesOf]
      rw [Bucket.get?_put, if_neg (Keyed.programKey_ne_countKey id'), Bucket.get?_erase]
      simp only [Keyed.programKey_inj]

/-! ### Listing -/

/-- What a registry keeps, in the order of identifiers. -/
def held : Registry → List (ProgramId × ByteArray)
  | memory m => m.programs.mergeSort fun a b => Memory.idLe a.1 b.1
  | keyed k => (k.data.startingWith Keyed.programMark).filterMap fun e =>
      (ProgramId.ofBytes? (e.1.drop 1)).map (·, e.2)

theorem Memory.idLe_iff {a b : ProgramId} : idLe a b = true ↔ a.Le b := by
  rw [idLe, Bool.not_eq_true', decide_eq_false_iff_not, List.not_lt, ProgramId.Le]

theorem Keyed.ofBytes?_drop_programKey (id : ProgramId) :
    ProgramId.ofBytes? ((programKey id).drop 1) = some id := by
  rw [programKey, programMark, List.singleton_append, List.drop_one, List.tail_cons,
    ProgramId.ofBytes?, dif_pos id.length_bytes]

theorem Keyed.programKey_lt {a b : ProgramId} (h : programKey a < programKey b) :
    a.bytes < b.bytes := by
  rw [programKey, programKey, programMark, List.singleton_append, List.singleton_append,
    List.cons_lt_cons_iff] at h
  exact (h.resolve_left (UInt8.lt_irrefl 1)).2

/-- The range of the programs has no other entries. -/
theorem Keyed.mem_programs {k : Keyed} {n : Nat} (h : (keyed k).Orderly n) {e : Key × ByteArray} :
    e ∈ k.data.startingWith programMark ↔ e ∈ k.data.entries ∧ ∃ id, e.1 = programKey id := by
  obtain ⟨hsorted, hkeys, -⟩ := h
  rw [hsorted.startingWith_eq, List.mem_filter]
  refine and_congr_right fun he => ?_
  constructor
  · intro hstarts
    rcases hkeys e he with hcount | hid
    · rw [hcount] at hstarts
      cases hstarts
    · exact hid
  · rintro ⟨id, hid⟩
    rw [hid]
    rfl

theorem mem_held {n : Nat} {data : ByteArray} (h : r.Orderly n) :
    (id, data) ∈ r.held ↔ r.bytesOf id = some data := by
  cases r with
  | memory m =>
    rw [held, (List.mergeSort_perm _ _).mem_iff, bytesOf, lookup_eq_some_iff_mem h]
  | keyed k =>
    rw [held, bytesOf, h.1.get?_eq_some_iff, List.mem_filterMap]
    constructor
    · rintro ⟨e, he, hpair⟩
      obtain ⟨hentry, id', hkey⟩ := (Keyed.mem_programs h).1 he
      rw [hkey, Keyed.ofBytes?_drop_programKey, Option.map_some, Option.some.injEq,
        Prod.mk.injEq] at hpair
      obtain ⟨rfl, rfl⟩ := hpair
      rwa [← hkey]
    · intro hentry
      refine ⟨_, (Keyed.mem_programs h).2 ⟨hentry, id, rfl⟩, ?_⟩
      rw [Keyed.ofBytes?_drop_programKey, Option.map_some]

/-- What is kept is in the strict order of identifiers. -/
theorem held_sorted {n : Nat} (h : r.Orderly n) :
    r.held.Pairwise fun e e' => e.1.bytes < e'.1.bytes := by
  cases r with
  | memory m =>
    have hle : (m.programs.mergeSort fun a b => Memory.idLe a.1 b.1).Pairwise
        fun e e' => e.1.Le e'.1 := by
      refine (List.pairwise_mergeSort ?_ ?_ _).imp fun h => Memory.idLe_iff.1 h
      · intro e₁ e₂ e₃ h₁₂ h₂₃
        exact Memory.idLe_iff.2
          (trans_of ProgramId.Le (Memory.idLe_iff.1 h₁₂) (Memory.idLe_iff.1 h₂₃))
      · intro e e'
        rw [Bool.or_eq_true, Memory.idLe_iff, Memory.idLe_iff]
        exact total_of ProgramId.Le e.1 e'.1
    have hdistinct : (m.programs.mergeSort fun a b => Memory.idLe a.1 b.1).Pairwise
        fun e e' => e.1 ≠ e'.1 :=
      List.pairwise_map.1 (((List.mergeSort_perm _ _).map _).nodup_iff.2 h)
    refine (hle.and hdistinct).imp ?_
    rintro e e' ⟨hle, hne⟩
    exact Std.lt_of_le_of_ne hle fun heq => hne (ProgramId.bytes_inj.1 heq)
  | keyed k =>
    have hrange : (k.data.startingWith Keyed.programMark).Pairwise fun e e' => e.1 < e'.1 := by
      rw [h.1.startingWith_eq]
      exact h.1.filter _
    refine List.pairwise_filterMap.2 (hrange.imp_of_mem ?_)
    intro e e' he he' hlt p hp p' hp'
    obtain ⟨-, id, hid⟩ := (Keyed.mem_programs h).1 he
    obtain ⟨-, id', hid'⟩ := (Keyed.mem_programs h).1 he'
    rw [hid, hid'] at hlt
    rw [hid, Keyed.ofBytes?_drop_programKey, Option.map_some, Option.some.injEq] at hp
    rw [hid', Keyed.ofBytes?_drop_programKey, Option.map_some, Option.some.injEq] at hp'
    rw [← hp, ← hp']
    exact Keyed.programKey_lt hlt

theorem mapM_eq_ok {ε α β : Type} {f : α → Except ε β} {g : α → β} {l : List α}
    (h : ∀ a ∈ l, f a = .ok (g a)) : l.mapM f = .ok (l.map g) := by
  induction l with
  | nil => rfl
  | cons a l ih =>
    obtain ⟨ha, hl⟩ := List.forall_mem_cons.1 h
    rw [List.mapM_cons, ha, ih hl]
    rfl

/-- Every program that can be read is listed. -/
theorem list_eq {f : ProgramId × ByteArray → Image} (hopen : r.isClosed = false)
    (hload : ∀ e ∈ r.held, Image.load e.2 = .ok (f e)) :
    r.list = .ok (r.held.map fun e => .ofImage e.1 (f e) e.2.size) := by
  cases r with
  | memory m =>
    dsimp only [isClosed] at hopen
    rw [list, Memory.list, if_neg (Bool.eq_false_iff.1 hopen)]
    refine mapM_eq_ok fun e he => ?_
    rw [Memory.describe, hload e he]
  | keyed k =>
    dsimp only [isClosed, held] at hopen hload
    rw [list, Keyed.list, if_neg (Bool.eq_false_iff.1 hopen), held, List.map_filterMap]
    have hdescribe : ∀ e ∈ k.data.startingWith Keyed.programMark, Keyed.describe? e =
        .ok (((ProgramId.ofBytes? (e.1.drop 1)).map (·, e.2)).map fun e =>
          Entry.ofImage e.1 (f e) e.2.size) := by
      intro e he
      rw [Keyed.describe?]
      cases hid : ProgramId.ofBytes? (e.1.drop 1) with
      | none => rfl
      | some id =>
        have hmem := hload (id, e.2) (List.mem_filterMap.2 ⟨e, he, by rw [hid, Option.map_some]⟩)
        simp only [Keyed.load, hmem, Except.map, Option.map_some]
    rw [mapM_eq_ok hdescribe, Except.map, List.filterMap_map]
    rfl

end Registry

end Lanewise
