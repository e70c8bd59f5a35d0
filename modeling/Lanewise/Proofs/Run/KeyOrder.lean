import Lanewise.Proofs.Run.History

/-!
# The order of the keys of runs

A run of a program is kept in the index of programs under the bytes of the program and of its
number. All programs have the same number of bytes, and the bytes of a number stand with the most
significant one first. So the bytes of two keys compare like programs and numbers, programs first,
and a key tells the program and the number that it was made from. Among the keys of any runs those
of one program are one block, in the order of the numbers: whoever goes through the index from a key
of the program meets its runs one after another, and the first key that begins otherwise ends them.

## Main definitions

* `Run.StandTogether`: the runs of a program are one block of a list of keys.

## Main results

* `Run.programKey_lt_programKey_iff`: keys compare like programs and numbers.
* `Run.standTogether_keys`, `Run.Store.Indexed.standTogether`: the runs of one program in an index.
* `Run.keys_order_runs`: all that the index relies on.
-/

namespace Lanewise

/-- After fronts of the same length the rests of two keys matter only if the fronts agree. -/
theorem Key.append_lt_append_iff {front front' k k' : Key} (h : front.length = front'.length) :
    front ++ k < front' ++ k' ↔ front < front' ∨ front = front' ∧ k < k' := by
  induction front generalizing front' with
  | nil =>
    obtain rfl := List.eq_nil_of_length_eq_zero h.symm
    exact ⟨fun hlt => .inr ⟨rfl, hlt⟩, fun hlt => (hlt.resolve_left (Key.lt_irrefl _)).2⟩
  | cons c front ih =>
    cases front' with
    | nil => cases h
    | cons c' front' =>
      rw [List.cons_append, List.cons_append, List.cons_lt_cons_iff, List.cons_lt_cons_iff,
        ih (Nat.succ.inj h), List.cons.injEq]
      constructor
      · rintro (hc | ⟨rfl, hfront | ⟨rfl, hk⟩⟩)
        · exact .inl (.inl hc)
        · exact .inl (.inr ⟨rfl, hfront⟩)
        · exact .inr ⟨⟨rfl, rfl⟩, hk⟩
      · rintro ((hc | ⟨rfl, hfront⟩) | ⟨⟨rfl, rfl⟩, hk⟩)
        · exact .inl hc
        · exact .inr ⟨rfl, .inl hfront⟩
        · exact .inr ⟨rfl, .inr ⟨rfl, hk⟩⟩

namespace Run

variable {id id' : ProgramId} {n n' : UInt64}

/-- The keys of runs compare like their programs, and for one program like their numbers. -/
theorem programKey_lt_programKey_iff :
    programKey id n < programKey id' n' ↔ id.bytes < id'.bytes ∨ id = id' ∧ n < n' := by
  have hlength : id.bytes.length = id'.bytes.length := id.length_bytes.trans id'.length_bytes.symm
  rw [programKey, programKey, Key.append_lt_append_iff hlength, ProgramId.bytes_inj, seqKey_lt_iff]

/-- The runs of a program are one block of a list of keys, in the ascending order of their
numbers. -/
def StandTogether (keys : List Key) (id : ProgramId) : Prop :=
  ∃ (before : List Key) (numbers : List UInt64) (after : List Key),
    keys = before ++ numbers.map (programKey id) ++ after ∧ numbers.Pairwise (· < ·) ∧
      ∀ k ∈ before ++ after, ¬k.startsWith id.bytes

/-- In a sorted bucket of runs those of one program stand together. -/
theorem standTogether_keys {α : Type} {b : Bucket α} (h : b.Sorted)
    (hruns : ∀ k ∈ b.keys, ∃ id n, k = programKey id n) (id : ProgramId) :
      StandTogether b.keys id := by
  obtain ⟨before, after, hsplit, hothers⟩ := h.startingWith_block id.bytes
  have hkey (e : Key × α) (he : e ∈ b.startingWith id.bytes) : e.1 = programKey id (seqOf e.1) := by
    rw [h.startingWith_eq] at he
    obtain ⟨hmem, hstarts⟩ := List.mem_filter.1 he
    obtain ⟨id', n, hkey⟩ := hruns e.1 (List.mem_map_of_mem hmem)
    rw [hkey] at hstarts ⊢
    rw [programKey_startsWith_iff.1 hstarts, seqOf_programKey]
  refine ⟨before.map (·.1), (b.startingWith id.bytes).map fun e => seqOf e.1, after.map (·.1), ?_,
    ?_, ?_⟩
  · have hkeys : (b.startingWith id.bytes).map (·.1) =
        ((b.startingWith id.bytes).map fun e => seqOf e.1).map (programKey id) := by
      rw [List.map_map]
      exact List.map_congr_left hkey
    rw [Bucket.keys, hsplit, List.map_append, List.map_append, hkeys]
  · have hblock : (b.startingWith id.bytes).Pairwise fun e e' => e.1 < e'.1 := by
      rw [h.startingWith_eq]
      exact h.filter _
    refine List.pairwise_map.2 (hblock.imp_of_mem fun he he' hlt => ?_)
    rw [hkey _ he, hkey _ he'] at hlt
    exact programKey_lt_iff.1 hlt
  · intro k hk
    rw [← List.map_append] at hk
    obtain ⟨e, he, rfl⟩ := List.mem_map.1 hk
    exact hothers e he

/-- In a store whose buckets and records agree, the runs of each program stand together. -/
theorem Store.Indexed.standTogether {s : Store} (h : s.Indexed) (id : ProgramId) :
    StandTogether s.byProgram.keys id := by
  refine standTogether_keys h.byProgram_sorted (fun k hk => ?_) id
  obtain ⟨e, he, rfl⟩ := List.mem_map.1 hk
  obtain ⟨r, -, rfl⟩ := List.mem_map.1 (h.byProgram_perm.mem_iff.1 he)
  exact ⟨r.program, r.seq, rfl⟩

/-- The keys of runs have the lexicographic order of programs and numbers, and keys of numbers that
of the numbers. Both give the number back, and only the keys of its own runs begin like a program.
So in every index of runs those of one program are one block, in the order of their numbers. -/
theorem keys_order_runs :
    (∀ id id' n n',
      (programKey id n < programKey id' n' ↔ id.bytes < id'.bytes ∨ id = id' ∧ n < n') ∧
      (programKey id n = programKey id' n' ↔ id = id' ∧ n = n')) ∧
    (∀ n n', seqKey n < seqKey n' ↔ n < n') ∧
    (∀ id n, seqOf (seqKey n) = n ∧ seqOf (programKey id n) = n) ∧
    (∀ id id' n, (programKey id n).startsWith id'.bytes = true ↔ id = id') ∧
    ∀ b : Bucket Unit, b.Sorted → (∀ k ∈ b.keys, ∃ id n, k = programKey id n) →
      ∀ id, StandTogether b.keys id :=
  ⟨fun _ _ _ _ => ⟨programKey_lt_programKey_iff, programKey_inj⟩, fun _ _ => seqKey_lt_iff,
    fun id n => ⟨seqOf_seqKey n, seqOf_programKey id n⟩, fun _ _ _ => programKey_startsWith_iff,
    fun _ hsorted hruns => standTogether_keys hsorted hruns⟩

/-- Runs of two programs, put into an index out of order: the numbers differ in more than one
byte. -/
theorem twoPrograms_order :
    let last : ProgramId := ⟨List.replicate 32 255, rfl⟩
    let b : Bucket Unit :=
      (((({} : Bucket Unit).put (programKey last 1) ()).put (programKey .zero 256) ()).put
      (programKey .zero 255) ()).put (programKey last 0) ()
    b.Sorted ∧ (∀ k ∈ b.keys, ∃ id n, k = programKey id n) ∧
      b.keys = [programKey .zero 255, programKey .zero 256, programKey last 0, programKey last 1] ∧
      StandTogether b.keys .zero := by
  intro last b
  have hsorted : b.Sorted :=
    (((show ({} : Bucket Unit).Sorted from .nil).put _ _ |>.put _ _).put _ _).put _ _
  have hkeys : b.keys =
      [programKey .zero 255, programKey .zero 256, programKey last 0, programKey last 1] := by
    decide +kernel
  have hruns : ∀ k ∈ b.keys, ∃ id n, k = programKey id n := by
    rw [hkeys]
    simp only [List.forall_mem_cons]
    exact ⟨⟨_, _, rfl⟩, ⟨_, _, rfl⟩, ⟨_, _, rfl⟩, ⟨_, _, rfl⟩, fun k hk => by cases hk⟩
  exact ⟨hsorted, hruns, hkeys, keys_order_runs.2.2.2.2 b hsorted hruns .zero⟩

end Run

end Lanewise
