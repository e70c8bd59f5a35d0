import Lanewise.Proofs.Device.Acceptance
import Lanewise.Proofs.Run.Keys

/-!
# The history of a run store

A run store holds its records in three buckets and counts them on disk and in memory. Whatever
happens to it, these agree: each bucket has one entry for each record and no others, both sets of
counters are those of the records, and the records are the newest of all that were ever stored.

Numbers are given out in order and never again, as long as they last: a number has 64 bits, and
after the greatest one the store would start from zero and overwrite what it holds. Therefore
histories are bounded by the number of records that they store.

## Main definitions

* `Run.Store.records`: the records in a store, the oldest first.
* `Run.Store.Indexed`: buckets and counters agree about the records.
* `Run.Store.Consistent`: so do disk and memory, and the numbers are those of the records given so
  far.
* `Run.Store.surplus`, `Run.Store.kept`, `Run.Store.Pruned`: what pruning removes and leaves.
* `Run.Event`, `Run.Journal.act`, `Run.Journal.replay`: histories of a store.

## Main results

* `Run.Store.Consistent.insert`, `Run.Store.Consistent.prune`: storing and pruning keep the store
  consistent.
* `Run.Store.Consistent.prune_eq`: how pruning ends.
* `Run.Journal.replay_consistent`: every history keeps it consistent.
-/

namespace Lanewise.Run

namespace Store

variable {s s' : Store} {r r' : Record} {given : List Record}

/-- The records in a store, the oldest first. -/
def records (s : Store) : List Record :=
  s.runs.entries.map (·.2)

/-- Buckets and counters agree about the records. -/
structure Indexed (s : Store) : Prop where
  /-- Each record is kept under its own number. -/
  runs_eq : s.runs.entries = s.records.map fun r => (seqKey r.seq, r)
  ascending : s.records.Pairwise fun r r' => r.seq < r'.seq
  ids_distinct : s.records.Pairwise fun r r' => r.id ≠ r'.id
  ids_sorted : s.ids.Sorted
  ids_perm : s.ids.entries.Perm (s.records.map fun r => (idKey r.id, seqKey r.seq))
  byProgram_sorted : s.byProgram.Sorted
  byProgram_perm :
    s.byProgram.entries.Perm (s.records.map fun r => (programKey r.program r.seq, ()))
  runs_count : s.cached.runs.toNat = s.records.length
  faulted_count : s.cached.faulted.toNat = s.records.countP (·.isFault)

/-- A store that agrees with itself and with the records that it was given since it was empty. -/
structure Consistent (s : Store) (given : List Record) : Prop where
  indexed : s.Indexed
  /-- The counters in memory are those on disk. -/
  saved_eq : s.saved = s.cached
  /-- Records are numbered from one on. -/
  numbers : given.map (·.seq.toNat) = List.range' 1 given.length
  latest_eq : s.cached.latest.toNat = given.length
  /-- What is left are the newest records. -/
  suffix : s.records <:+ given

theorem Consistent.empty (size : Int) : Consistent { size } [] where
  indexed :=
    { runs_eq := rfl, ascending := .nil, ids_distinct := .nil, ids_sorted := .nil, ids_perm := .nil
      byProgram_sorted := .nil, byProgram_perm := .nil, runs_count := rfl, faulted_count := rfl }
  saved_eq := rfl
  numbers := rfl
  latest_eq := rfl
  suffix := List.suffix_refl _

/-- Only the buckets and the counters in memory matter. -/
theorem Indexed.of_eq (h : s.Indexed) (hruns : s'.runs = s.runs) (hids : s'.ids = s.ids)
    (hprogram : s'.byProgram = s.byProgram) (hcached : s'.cached = s.cached) : s'.Indexed := by
  cases s
  cases s'
  dsimp only at hruns hids hprogram hcached
  subst hruns hids hprogram hcached
  exact ⟨h.runs_eq, h.ascending, h.ids_distinct, h.ids_sorted, h.ids_perm, h.byProgram_sorted,
    h.byProgram_perm, h.runs_count, h.faulted_count⟩

theorem Indexed.contains_iff (h : s.Indexed) {id : String} :
    s.ids.contains (idKey id) = true ↔ ∃ r ∈ s.records, r.id = id := by
  rw [Bucket.contains_iff]
  constructor
  · rintro ⟨e, he, hkey⟩
    obtain ⟨r, hr, rfl⟩ := List.mem_map.1 (h.ids_perm.mem_iff.1 he)
    exact ⟨r, hr, idKey_inj.1 hkey⟩
  · rintro ⟨r, hr, rfl⟩
    exact ⟨_, h.ids_perm.mem_iff.2 (List.mem_map.2 ⟨r, hr, rfl⟩), rfl⟩

/-! ### Storing -/

/-- The store with one more record. -/
def extend (s : Store) (r : Record) : Store :=
  { s with
    runs := s.runs.put (seqKey r.seq) r
    ids := s.ids.put (idKey r.id) (seqKey r.seq)
    byProgram := s.byProgram.put (programKey r.program r.seq) ()
    saved := Counters.after s.cached r
    cached := Counters.after s.cached r }

theorem insert_eq_ok_iff :
    s.insert r = .ok (r', s') ↔
      s.closed = false ∧ s.ids.contains (idKey r.id) = false ∧
      (idKey r.id).length ≤ maxKeyLength ∧ r' = { r with seq := s.cached.latest + 1 } ∧
      s' = s.extend r' := by
  rw [insert, guard_eq_ok_iff, guard_eq_ok_iff, guard_eq_ok_iff, Bool.not_eq_true,
    Bool.not_eq_true, Nat.not_lt, Except.ok.injEq, Prod.mk.injEq]
  refine and_congr_right fun _ => and_congr_right fun _ => and_congr_right fun _ => ?_
  constructor
  · rintro ⟨rfl, rfl⟩
    exact ⟨rfl, rfl⟩
  · rintro ⟨rfl, rfl⟩
    exact ⟨rfl, rfl⟩

theorem Indexed.extend (h : s.Indexed) (hseq : ∀ r' ∈ s.records, r'.seq < r.seq)
    (hid : s.ids.contains (idKey r.id) = false) (hfew : s.records.length + 1 < UInt64.size) :
    (s.extend r).Indexed ∧ (s.extend r).records = s.records ++ [r] := by
  have hkeys : ∀ e ∈ s.runs.entries, e.1 < seqKey r.seq := by
    intro e he
    rw [h.runs_eq] at he
    obtain ⟨r', hr', rfl⟩ := List.mem_map.1 he
    exact seqKey_lt_iff.2 (hseq r' hr')
  have hentries : (s.extend r).runs.entries = s.runs.entries ++ [(seqKey r.seq, r)] :=
    Bucket.entries_put_of_lt hkeys
  have hrecords : (s.extend r).records = s.records ++ [r] := by
    rw [records, hentries, List.map_append]
    rfl
  have hids : ∀ r' ∈ s.records, r'.id ≠ r.id := by
    intro r' hr' heq
    rw [h.contains_iff.2 ⟨r', hr', heq⟩] at hid
    cases hid
  have hidKeys : ∀ e ∈ s.ids.entries, e.1 ≠ idKey r.id := by
    intro e he
    obtain ⟨r', hr', rfl⟩ := List.mem_map.1 (h.ids_perm.mem_iff.1 he)
    exact fun heq => hids r' hr' (idKey_inj.1 heq)
  have hprogramKeys : ∀ e ∈ s.byProgram.entries, e.1 ≠ programKey r.program r.seq := by
    intro e he
    obtain ⟨r', hr', rfl⟩ := List.mem_map.1 (h.byProgram_perm.mem_iff.1 he)
    exact fun heq => UInt64.ne_of_lt (hseq r' hr') (programKey_inj.1 heq).2
  have hsize : UInt64.size = 18446744073709551616 := rfl
  have hfaults : s.records.countP (·.isFault) ≤ s.records.length := List.countP_le_length
  have hruns := h.runs_count
  have hfaulted := h.faulted_count
  refine ⟨?_, hrecords⟩
  constructor
  case runs_eq =>
    rw [hrecords, hentries, h.runs_eq, List.map_append]
    rfl
  case ascending =>
    rw [hrecords]
    refine List.pairwise_append.2 ⟨h.ascending, List.pairwise_singleton _ _, ?_⟩
    intro r' hr' r'' hr''
    rw [List.mem_singleton.1 hr'']
    exact hseq r' hr'
  case ids_distinct =>
    rw [hrecords]
    refine List.pairwise_append.2 ⟨h.ids_distinct, List.pairwise_singleton _ _, ?_⟩
    intro r' hr' r'' hr''
    rw [List.mem_singleton.1 hr'']
    exact hids r' hr'
  case ids_sorted => exact h.ids_sorted.put _ _
  case ids_perm =>
    rw [hrecords, List.map_append]
    exact (Bucket.put_perm hidKeys).trans ((h.ids_perm.cons _).trans
      (List.perm_append_singleton _ _).symm)
  case byProgram_sorted => exact h.byProgram_sorted.put _ _
  case byProgram_perm =>
    rw [hrecords, List.map_append]
    exact (Bucket.put_perm hprogramKeys).trans ((h.byProgram_perm.cons _).trans
      (List.perm_append_singleton _ _).symm)
  case runs_count =>
    rw [hrecords, List.length_append, List.length_singleton]
    change (s.cached.runs + 1).toNat = _
    rw [UInt64.toNat_add, UInt64.toNat_one]
    omega
  case faulted_count =>
    rw [hrecords, List.countP_append, List.countP_singleton]
    change (if r.isFault = true then s.cached.faulted + 1 else s.cached.faulted).toNat = _
    split
    · rw [UInt64.toNat_add, UInt64.toNat_one]
      omega
    · omega

/-- A record has one of the numbers that have been given out. -/
theorem Consistent.seq_mem (h : s.Consistent given) (hr : r ∈ s.records) :
    1 ≤ r.seq.toNat ∧ r.seq.toNat ≤ given.length := by
  have hmem : r.seq.toNat ∈ given.map (·.seq.toNat) := List.mem_map_of_mem (h.suffix.subset hr)
  rw [h.numbers, List.mem_range'_1] at hmem
  omega

theorem Consistent.seq_le (h : s.Consistent given) (hr : r ∈ s.records) :
    r.seq.toNat ≤ given.length :=
  (h.seq_mem hr).2

theorem Consistent.seq_ne_zero (h : s.Consistent given) (hr : r ∈ s.records) : r.seq ≠ 0 := by
  intro hzero
  have hpos := (h.seq_mem hr).1
  rw [hzero] at hpos
  exact absurd hpos (by decide)

/-- The next record is put at the end. -/
theorem Consistent.extend (h : s.Consistent given) (hid : s.ids.contains (idKey r.id) = false)
    (hseq : r.seq = s.cached.latest + 1) (hfew : given.length + 1 < UInt64.size) :
    (s.extend r).Indexed ∧ (s.extend r).records = s.records ++ [r] ∧
      r.seq.toNat = given.length + 1 := by
  have hsize : UInt64.size = 18446744073709551616 := rfl
  have hlatest := h.latest_eq
  have hlength := h.suffix.length_le
  have hnext : r.seq.toNat = given.length + 1 := by
    rw [hseq, UInt64.toNat_add, UInt64.toNat_one]
    omega
  have hless : ∀ r' ∈ s.records, r'.seq < r.seq := by
    intro r' hr'
    have hle := h.seq_le hr'
    rw [UInt64.lt_iff_toNat_lt]
    omega
  obtain ⟨hindexed, hrecords⟩ := h.indexed.extend hless hid (by omega)
  exact ⟨hindexed, hrecords, hnext⟩

/-- Storing a record keeps the store consistent. -/
theorem Consistent.insert (h : s.Consistent given) (hinsert : s.insert r = .ok (r', s'))
    (hfew : given.length + 1 < UInt64.size) : s'.Consistent (given ++ [r']) := by
  obtain ⟨-, hid, -, rfl, rfl⟩ := insert_eq_ok_iff.1 hinsert
  obtain ⟨hindexed, hrecords, hnext⟩ :=
    h.extend (r := { r with seq := s.cached.latest + 1 }) hid rfl hfew
  refine ⟨hindexed, rfl, ?_, ?_, ?_⟩
  · rw [List.map_append, h.numbers, List.length_append, List.length_singleton, List.map_singleton,
      hnext, List.range'_1_concat, Nat.add_comm 1]
  · rw [List.length_append, List.length_singleton]
    exact hnext
  · obtain ⟨gone, hgone⟩ := h.suffix
    exact ⟨gone, by rw [hrecords, ← List.append_assoc, hgone]⟩

/-! ### Pruning -/

theorem Indexed.remove {rest : List Record} (h : s.Indexed) (hrecords : s.records = r :: rest) :
    (s.remove (seqKey r.seq, r)).Indexed ∧ (s.remove (seqKey r.seq, r)).records = rest := by
  obtain ⟨hruns, hasc, hdistinct, hidsSorted, hids, hprogSorted, hprog, hcount, hfaulted⟩ := h
  rw [hrecords] at hruns hasc hdistinct hids hprog hcount hfaulted
  obtain ⟨hseq, hasc⟩ := List.pairwise_cons.1 hasc
  obtain ⟨hid, hdistinct⟩ := List.pairwise_cons.1 hdistinct
  have hentries :
      (s.remove (seqKey r.seq, r)).runs.entries = rest.map fun r => (seqKey r.seq, r) := by
    refine Bucket.entries_erase_head hruns ?_
    intro e he heq
    obtain ⟨r', hr', rfl⟩ := List.mem_map.1 he
    exact UInt64.ne_of_lt (hseq r' hr') (seqKey_inj.1 heq).symm
  have hrest : (s.remove (seqKey r.seq, r)).records = rest := by
    rw [records, hentries, List.map_map]
    exact List.map_id _
  have hfaults : rest.countP (·.isFault) ≤ rest.length := List.countP_le_length
  refine ⟨?_, hrest⟩
  constructor
  case runs_eq => rw [hrest, hentries]
  case ascending => rwa [hrest]
  case ids_distinct => rwa [hrest]
  case ids_sorted => exact hidsSorted.erase _
  case ids_perm =>
    rw [hrest]
    refine Bucket.erase_perm hids ?_
    intro e he heq
    obtain ⟨r', hr', rfl⟩ := List.mem_map.1 he
    exact hid r' hr' (idKey_inj.1 heq).symm
  case byProgram_sorted => exact hprogSorted.erase _
  case byProgram_perm =>
    rw [hrest]
    refine Bucket.erase_perm hprog ?_
    intro e he heq
    obtain ⟨r', hr', rfl⟩ := List.mem_map.1 he
    exact UInt64.ne_of_lt (hseq r' hr') (programKey_inj.1 heq).2.symm
  case runs_count =>
    rw [List.length_cons] at hcount
    rw [hrest]
    change (s.cached.runs - 1).toNat = _
    rw [UInt64.toNat_sub_of_le _ _ (by rw [UInt64.le_iff_toNat_le, UInt64.toNat_one]; omega),
      UInt64.toNat_one]
    omega
  case faulted_count =>
    rw [List.countP_cons] at hfaulted
    rw [hrest]
    change (if r.isFault = true then s.cached.faulted - 1 else s.cached.faulted).toNat = _
    split at hfaulted
    · rw [if_pos ‹_›, UInt64.toNat_sub_of_le _ _
        (by rw [UInt64.le_iff_toNat_le, UInt64.toNat_one]; omega), UInt64.toNat_one]
      omega
    · rw [if_neg ‹_›]
      omega

/-- Removing the oldest records one after another leaves the others. -/
theorem Indexed.foldl_remove {gone kept : List Record} (h : s.Indexed)
    (hrecords : s.records = gone ++ kept)
    (hs' : s' = (gone.map fun r => (seqKey r.seq, r)).foldl Store.remove s) :
    s'.Indexed ∧ s'.records = kept ∧ s'.cached.latest = s.cached.latest ∧ s'.saved = s.saved ∧
      s'.size = s.size ∧ s'.closed = s.closed := by
  induction gone generalizing s with
  | nil =>
    subst hs'
    exact ⟨h, hrecords, rfl, rfl, rfl, rfl⟩
  | cons r gone ih =>
    obtain ⟨hindexed, hrest⟩ := h.remove hrecords
    obtain ⟨hkept, hleft, hlatest, hsaved, hsize, hclosed⟩ := ih hindexed hrest hs'
    exact ⟨hkept, hleft, hlatest, hsaved, hsize, hclosed⟩

/-- The records that pruning removes: all but the newest. -/
def surplus (s : Store) (keep : UInt64) : List Record :=
  s.records.take (s.records.length - keep.toNat)

/-- The records that pruning leaves. -/
def kept (s : Store) (keep : UInt64) : List Record :=
  s.records.drop (s.records.length - keep.toNat)

/-- The first record of the surplus that cannot be read back, by its number, and why. -/
def surplusDefect? (s : Store) (keep : UInt64) : Option (UInt64 × Record.Defect) :=
  (s.surplus keep).findSome? fun r => r.defect?.map (r.seq, ·)

theorem surplus_append_kept (s : Store) (keep : UInt64) :
    s.surplus keep ++ s.kept keep = s.records :=
  List.take_append_drop _ _

theorem length_surplus (s : Store) (keep : UInt64) :
    (s.surplus keep).length = s.records.length - keep.toNat := by
  rw [surplus, List.length_take]
  omega

theorem length_kept (s : Store) (keep : UInt64) :
    (s.kept keep).length = min s.records.length keep.toNat := by
  rw [kept, List.length_drop]
  omega

/-- A store from which the surplus has been removed, with what pruning leaves alone. -/
structure Pruned (s : Store) (keep : UInt64) (given : List Record) (s' : Store) : Prop where
  consistent : s'.Consistent given
  records_eq : s'.records = s.kept keep
  latest_eq : s'.cached.latest = s.cached.latest
  size_eq : s'.size = s.size
  closed_eq : s'.closed = s.closed

/-- A store that has no surplus stays as it is. Otherwise the surplus is removed, unless a record of
it cannot be read. -/
theorem Consistent.prune_eq (h : s.Consistent given) (keep : UInt64) (hopen : s.closed = false) :
    (∃ seq why, s.surplusDefect? keep = some (seq, why) ∧
        s.prune keep = .error (.unreadable ("decode run " ++ toString seq ++ ": ") why)) ∨
      s.surplusDefect? keep = none ∧
        ∃ s', s.prune keep = .ok (UInt64.ofNat (s.surplus keep).length, s') ∧
        s.Pruned keep given s' := by
  have hcount := h.indexed.runs_count
  rw [Store.prune, if_neg (Bool.eq_false_iff.1 hopen)]
  by_cases hfew : s.cached.runs ≤ keep
  · have hnone : s.records.length - keep.toNat = 0 := by
      rw [UInt64.le_iff_toNat_le] at hfew
      omega
    have hsurplus : s.surplus keep = [] := by rw [surplus, hnone, List.take_zero]
    rw [if_pos hfew, surplusDefect?, hsurplus]
    refine .inr ⟨rfl, s, rfl, h, ?_, rfl, rfl, rfl⟩
    rw [kept, hnone, List.drop_zero]
  · have hexcess : (s.cached.runs - keep).toNat = s.records.length - keep.toNat := by
      rw [UInt64.not_le] at hfew
      rw [UInt64.toNat_sub_of_le _ _ (UInt64.le_of_lt hfew), hcount]
    have hvictims : s.runs.entries.take (s.cached.runs - keep).toNat =
        (s.surplus keep).map fun r => (seqKey r.seq, r) := by
      rw [hexcess, surplus, List.map_take, ← h.indexed.runs_eq]
    obtain ⟨hindexed, hrecords, hlatest, hsaved, hsize, hclosed⟩ :=
      h.indexed.foldl_remove (s.surplus_append_kept keep).symm rfl
    rw [if_neg hfew, hvictims]
    dsimp only
    have hdefect : ((s.surplus keep).map fun r => (seqKey r.seq, r)).findSome?
        (fun e => e.2.defect?.map (e.1, ·)) =
          (s.surplusDefect? keep).map fun d => (seqKey d.1, d.2) := by
      rw [List.findSome?_map, surplusDefect?, List.map_findSome?]
      congr 1
      funext r
      simp only [Function.comp_apply, Option.map_map, Function.comp_def]
    rw [hdefect, List.length_map]
    cases hfind : s.surplusDefect? keep with
    | some d =>
      have hseq : seqOf (seqKey d.1) = d.1 := seqOf_seqKey d.1
      refine .inl ⟨d.1, d.2, rfl, ?_⟩
      simp only [Option.map_some, hseq]
    | none =>
      refine .inr ⟨rfl, ?_⟩
      simp only [Option.map_none]
      refine ⟨_, rfl, ?_, hrecords, hlatest, hsize, hclosed⟩
      refine
        { indexed := hindexed.of_eq rfl rfl rfl rfl, saved_eq := ?_, numbers := h.numbers
          latest_eq := ?_, suffix := ?_ }
      · dsimp only
        rw [hsaved, h.saved_eq, ← hlatest]
      · dsimp only
        rw [hlatest, h.latest_eq]
      · exact hrecords ▸ (List.drop_suffix _ _).trans h.suffix

/-- Pruning keeps the store consistent. -/
theorem Consistent.prune {keep n : UInt64} (h : s.Consistent given)
    (hprune : s.prune keep = .ok (n, s')) : s'.Consistent given := by
  have hopen := hprune
  rw [Store.prune, guard_eq_ok_iff] at hopen
  rcases h.prune_eq keep (Bool.eq_false_iff.2 hopen.1) with
      ⟨seq, why, -, heq⟩ | ⟨-, s'', heq, hpruned⟩
  · cases heq.symm.trans hprune
  · cases heq.symm.trans hprune
    exact hpruned.consistent

end Store

/-! ### Histories -/

/-- What can happen to a store. It can be opened again without having been closed, as after a
crash. -/
inductive Event
  | put (r : Record)
  | prune (keep : UInt64)
  | close
  | reopen
deriving Repr

namespace Journal

/-- The journal after an event, and the record that was stored, if there is one. -/
def act (j : Journal) : Event → Journal × List Record
  | .put r => ((j.insert r).2, (j.insert r).1.toOption.toList)
  | .prune keep =>
    match j.store.prune keep with
    | .ok (_, store) => ({ j with store }, [])
    | .error _ => (j, [])
  | .close =>
    match j.store.close with
    | .ok store => ({ j with store }, [])
    | .error _ => (j, [])
  | .reopen => ({ j with store := j.store.reopen }, [])

/-- The journal after some events, and the records that were stored, in their order. -/
def replay (j : Journal) : List Event → Journal × List Record
  | [] => (j, [])
  | e :: events =>
    (((j.act e).1.replay events).1, (j.act e).2 ++ ((j.act e).1.replay events).2)

variable {j : Journal} {given : List Record}

theorem insert_eq_ok {r r' : Record} {s : Store}
    (h : j.store.insert (stamped r (j.stamp (j.attempts + 1))) = .ok (r', s)) :
    j.insert r = (.ok r', { j with store := s, attempts := j.attempts + 1 }) := by
  rw [insert, h]

theorem insert_eq_error {r : Record} {e : Store.Error}
    (h : j.store.insert (stamped r (j.stamp (j.attempts + 1))) = .error e) :
    j.insert r = (.error e, { j with attempts := j.attempts + 1 }) := by
  rw [insert, h]

/-- No event makes a store inconsistent. -/
theorem act_consistent (h : j.store.Consistent given) (e : Event)
    (hfew : given.length + (j.act e).2.length < UInt64.size) :
    (j.act e).1.store.Consistent (given ++ (j.act e).2) := by
  cases e with
  | put r =>
    rw [act] at hfew ⊢
    cases hinsert : j.store.insert (stamped r (j.stamp (j.attempts + 1))) with
    | error e =>
      rw [insert_eq_error hinsert]
      exact (List.append_nil given).symm ▸ h
    | ok stored =>
      rw [insert_eq_ok hinsert] at hfew ⊢
      exact h.insert hinsert hfew
  | prune keep =>
    rw [act]
    cases hprune : j.store.prune keep with
    | error e => exact (List.append_nil given).symm ▸ h
    | ok pruned => exact (List.append_nil given).symm ▸ h.prune hprune
  | close =>
    rw [act, Store.close]
    cases j.store.closed with
    | true => exact (List.append_nil given).symm ▸ h
    | false =>
      exact (List.append_nil given).symm ▸
        ⟨h.indexed.of_eq rfl rfl rfl rfl, h.saved_eq, h.numbers, h.latest_eq, h.suffix⟩
  | reopen =>
    have hsaved := h.saved_eq
    rw [act, Store.reopen, hsaved, List.append_nil]
    exact ⟨h.indexed.of_eq rfl rfl rfl rfl, rfl, h.numbers, h.latest_eq, h.suffix⟩

theorem replay_consistent_from (h : j.store.Consistent given) (events : List Event)
    (hfew : given.length + (j.replay events).2.length < UInt64.size) :
    (j.replay events).1.store.Consistent (given ++ (j.replay events).2) := by
  induction events generalizing j given with
  | nil => exact (List.append_nil given).symm ▸ h
  | cons e events ih =>
    rw [replay, List.length_append] at hfew
    have hact := act_consistent h e (by omega)
    rw [replay, ← List.append_assoc]
    exact ih hact (by rw [List.length_append]; omega)

/-- Storing fails for three reasons. -/
theorem insert_fails_iff (h : j.store.Indexed) {r : Record} {id : String}
    (hid : (stamped r (j.stamp (j.attempts + 1))).id = id) :
    (∃ e j', j.insert r = (.error e, j')) ↔
      j.store.closed = true ∨ (∃ r' ∈ j.store.records, r'.id = id) ∨
        maxKeyLength < (idKey id).length := by
  rw [← h.contains_iff, ← hid]
  constructor
  · rintro ⟨e, j', hinsert⟩
    refine Decidable.by_contra fun hno => ?_
    simp only [not_or, Bool.not_eq_true, Nat.not_lt] at hno
    obtain ⟨hopen, hnew, hshort⟩ := hno
    rw [insert_eq_ok (Store.insert_eq_ok_iff.2 ⟨hopen, hnew, hshort, rfl, rfl⟩)] at hinsert
    cases hinsert
  · intro hfails
    cases hinsert : j.store.insert (stamped r (j.stamp (j.attempts + 1))) with
    | error e => exact ⟨e, _, insert_eq_error hinsert⟩
    | ok stored =>
      obtain ⟨hopen, hnew, hshort, -, -⟩ := Store.insert_eq_ok_iff.1 hinsert
      rw [hopen, hnew] at hfails
      rcases hfails with hclosed | hstored | hlong
      · cases hclosed
      · cases hstored
      · omega

/-- An attempt that fails uses up its stamp and changes nothing else. -/
theorem insert_error {r : Record} {e : Store.Error} {j' : Journal}
    (h : j.insert r = (.error e, j')) :
    j' = { j with attempts := j.attempts + 1 } := by
  cases hinsert : j.store.insert (stamped r (j.stamp (j.attempts + 1))) with
  | error e' =>
    rw [insert_eq_error hinsert] at h
    cases h
    rfl
  | ok stored =>
    rw [insert_eq_ok hinsert] at h
    cases h

/-- After every history of a new store that gives out fewer numbers than there are, each bucket has
the entries of the stored records and no others, disk and memory have their counts, and the greatest
number ever given is known, even if its record is gone. A record is then refused if the store is
closed, if its identifier is stored, or if it is too long for a key, and a refusal leaves the store
as it was. -/
theorem replay_consistent {stamp : Nat → Stamp} {size : Int} {events : List Event}
    (h : replay { store := { size }, stamp } events = (j, given))
    (hfew : given.length < UInt64.size) :
    j.store.Consistent given ∧
      (∀ r id, (stamped r (j.stamp (j.attempts + 1))).id = id →
        ((∃ e j', j.insert r = (.error e, j')) ↔
          j.store.closed = true ∨ (∃ r' ∈ j.store.records, r'.id = id) ∨
            maxKeyLength < (idKey id).length)) ∧
      ∀ r e j', j.insert r = (.error e, j') → j' = { j with attempts := j.attempts + 1 } := by
  have hafter : j = (replay { store := { size }, stamp } events).1 := by rw [h]
  have hgiven : given = (replay { store := { size }, stamp } events).2 := by rw [h]
  have hconsistent : j.store.Consistent given := by
    rw [hgiven] at hfew
    have hreplay := replay_consistent_from (j := { store := { size }, stamp })
      (Store.Consistent.empty size) events (by rw [List.length_nil]; omega)
    rwa [List.nil_append, ← hafter, ← hgiven] at hreplay
  exact ⟨hconsistent, fun r id hid => insert_fails_iff hconsistent.indexed hid,
    fun r e j' => insert_error⟩

/-- Two runs are stored and pruned, and after the store was closed and opened again a third one is
stored. An identifier that is taken and a closed store are refused; the identifier is free again
after pruning, but its number is not. -/
def prunedAndReopened : List Event :=
  [.put { id := "a", status := "ok" }, .put { id := "a", status := "ok" },
    .put { id := "b", status := "faulted" }, .prune 0, .close, .put { id := "c" }, .reopen,
    .put { id := "a", status := "failed" }]

theorem prunedAndReopened_consistent :
    ∃ j given, replay { store := {}, stamp := fun _ => default } prunedAndReopened = (j, given) ∧
      given.map (fun r => (r.seq, r.id)) = [(1, "a"), (2, "b"), (3, "a")] ∧
      j.store.records.map (fun r => (r.seq, r.id)) = [(3, "a")] ∧
      j.store.saved = { latest := 3, runs := 1, faulted := 1 } ∧ j.store.Consistent given :=
  have h : replay { store := {}, stamp := fun _ => default } prunedAndReopened = (_, _) :=
    (Prod.eta _).symm
  ⟨_, _, h, by decide +kernel, by decide +kernel, by decide +kernel,
    (replay_consistent h (by decide +kernel)).1⟩

end Journal

end Lanewise.Run
