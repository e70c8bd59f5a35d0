import Lanewise.Proofs.Run.History
import Lanewise.Proofs.Run.Rereading
import Mathlib.Data.List.Basic

/-!
# What a run store lists

A list of records goes backwards, either through all records or through the entries that the index
of programs has for one of them. Both ways lead to the same: the records that a query asks for, the
newest first and cut to their first ones. The index is one bucket for all programs, and the runs of
a program stand together in it, so the way backwards begins below a bound that begins like them, and
ends with the first key that does not.

Records are read back when they are listed. A record that cannot be read back stands in the way of
every list that it belongs to, and the newest of these is the one that the answer tells.

## Main definitions

* `Run.Store.Query.admits`, `Run.Store.matching`: the records that a query asks for.
* `Run.Store.Lists`: a store answers queries as its records demand.

## Main results

* `Run.Store.Indexed.newest_eq`, `Run.Store.Indexed.ofProgram_eq`: the two ways backwards.
* `Run.Store.matching_before_last`: where a list goes on behind its first records.
* `Run.Journal.replay_lists`: after every history a store lists what it should.
-/

namespace Lanewise.Run

namespace Store

variable {s : Store} {r : Record} {given : List Record}

/-- A record is one of those that a query asks for. -/
def Query.admits (q : Query) (r : Record) : Bool :=
  (q.before == 0 || r.seq < q.before) && q.program.all fun id => r.program = id

/-- The records that a query asks for, the newest first. -/
def matching (s : Store) (q : Query) : List Record :=
  (s.records.filter q.admits).reverse

/-- A store answers queries as its records demand. -/
structure Lists (s : Store) : Prop where
  /-- A store that is closed lists and counts nothing. -/
  closed_refuses : s.closed = true →
    (∀ q, s.list q = .error .closed) ∧ ∀ id, s.countOf id = .error .closed
  descending : ∀ q, (s.matching q).Pairwise fun r r' => r'.seq < r.seq
  list_eq : s.closed = false → ∀ q, s.list q =
    (((s.matching q).take q.count).mapM Record.reread).mapError (.unreadable "decode run: ")
  /-- Legible records are listed as they are. -/
  list_of_legible : s.closed = false → ∀ q, (∀ r ∈ (s.matching q).take q.count, r.Legible) →
    s.list q = .ok ((s.matching q).take q.count)
  count_eq : s.closed = false → ∀ id, s.countOf id = .ok (s.records.countP (·.program = id))

/-! ### The two ways backwards -/

theorem Indexed.runs_sorted (h : s.Indexed) : s.runs.Sorted := by
  rw [Bucket.Sorted, h.runs_eq]
  exact List.pairwise_map.2 (h.ascending.imp seqKey_lt_iff.2)

theorem Indexed.get?_runs (h : s.Indexed) (hr : r ∈ s.records) :
    s.runs.get? (seqKey r.seq) = some r := by
  refine h.runs_sorted.get?_eq_some_iff.2 ?_
  rw [h.runs_eq]
  exact List.mem_map.2 ⟨r, hr, rfl⟩

/-- The way through all records. -/
theorem Indexed.newest_eq (h : s.Indexed) {q : Query} (hq : q.program = none) :
    s.newest q.before = s.matching q := by
  have hadmits : q.admits = fun r => q.before == 0 || decide (r.seq < q.before) := by
    funext r
    rw [Query.admits, hq, Option.all_none, Bool.and_true]
  rw [matching, hadmits]
  unfold newest
  by_cases hzero : q.before = 0
  · rw [if_pos hzero, Bucket.descending, List.map_reverse, hzero]
    exact congrArg List.reverse (List.filter_eq_self.2 fun _ _ => rfl).symm
  · rw [if_neg hzero, h.runs_sorted.below_eq, h.runs_eq, List.filter_map, List.map_reverse,
      List.map_map]
    refine congrArg List.reverse ((List.map_id _).trans (List.filter_congr fun r _ => ?_))
    rw [beq_eq_false_iff_ne.2 hzero, Bool.false_or]
    exact decide_eq_decide.2 seqKey_lt_iff

/-- The index has the runs of a program in the order of their numbers. -/
theorem Indexed.byProgram_eq (h : s.Indexed) (id : ProgramId) :
    s.byProgram.entries.filter (·.1.startsWith id.bytes) =
      (s.records.filter (·.program = id)).map fun r => (programKey id r.seq, ()) := by
  have hperm : (s.byProgram.entries.filter (·.1.startsWith id.bytes)).Perm
      ((s.records.filter (·.program = id)).map fun r => (programKey id r.seq, ())) := by
    refine (h.byProgram_perm.filter _).trans (List.Perm.of_eq ?_)
    rw [List.filter_map]
    have hstarts :
        s.records.filter ((·.1.startsWith id.bytes) ∘ fun r => (programKey r.program r.seq, ())) =
        s.records.filter (·.program = id) :=
      List.filter_congr fun r _ => Bool.eq_iff_iff.2
        (programKey_startsWith_iff.trans decide_eq_true_iff.symm)
    rw [hstarts]
    refine List.map_congr_left fun r hr => ?_
    rw [of_decide_eq_true (List.mem_filter.1 hr).2]
  refine hperm.eq_of_pairwise (fun e e' _ _ hlt hgt => ?_) (h.byProgram_sorted.filter _) ?_
  · exact absurd (Key.lt_trans hlt hgt) (Key.lt_irrefl e.1)
  · exact List.pairwise_map.2 ((h.ascending.filter _).imp programKey_lt_iff.2)

/-- The way through the runs of a program. Where no bound is given it begins below the greatest
number, which no record has. -/
theorem Indexed.ofProgram_eq (h : s.Indexed) (hfew : ∀ r ∈ s.records, r.seq.toNat + 1 < UInt64.size)
    {q : Query} {id : ProgramId} (hq : q.program = some id) :
      s.ofProgram id q.before = s.matching q := by
  have hadmits : q.admits = fun r =>
      (q.before == 0 || decide (r.seq < q.before)) && decide (r.program = id) := by
    funext r
    rw [Query.admits, hq, Option.all_some]
  rw [matching, hadmits]
  generalize q.before = before
  obtain ⟨last, hbound, hlast⟩ : ∃ last,
      (id.bytes ++ if before = 0 then List.replicate 8 255 else seqKey before) =
      programKey id last ∧ ∀ r ∈ s.records, (r.seq < last ↔ before = 0 ∨ r.seq < before) := by
    by_cases hzero : before = 0
    · refine ⟨UInt64.ofNat (UInt64.size - 1), by rw [if_pos hzero]; rfl, fun r hr => ?_⟩
      have hless := hfew r hr
      refine iff_of_true ?_ (.inl hzero)
      rw [UInt64.lt_iff_toNat_lt, UInt64.toNat_ofNat_of_lt' (by decide)]
      omega
    · exact ⟨before, by rw [if_neg hzero]; rfl, fun r _ => (or_iff_right hzero).symm⟩
  have hentries : (s.byProgram.below (programKey id last)).takeWhile (·.1.startsWith id.bytes) =
      ((s.records.filter fun r => (before == 0 || decide (r.seq < before)) &&
        decide (r.program = id)).map
        fun r => (programKey id r.seq, ())).reverse := by
    rw [h.byProgram_sorted.below_eq, Bucket.takeWhile_startsWith_of_lt
      (List.pairwise_reverse.2 (h.byProgram_sorted.filter _)) (programKey_startsWith id last)
      fun e he => of_decide_eq_true (List.mem_filter.1 (List.mem_reverse.1 he)).2,
      List.filter_reverse, List.filter_comm, h.byProgram_eq, List.filter_map, List.filter_filter]
    refine congrArg (List.reverse ∘ List.map _) (List.filter_congr fun r hr => ?_)
    refine congrArg (· && _) ?_
    rw [Bool.eq_iff_iff, Function.comp_apply, decide_eq_true_iff, Bool.or_eq_true, beq_iff_eq,
      decide_eq_true_iff]
    exact programKey_lt_iff.trans (hlast r hr)
  rw [ofProgram, hbound, hentries, List.filterMap_reverse, List.filterMap_map]
  refine congrArg List.reverse ((List.filterMap_congr fun r hr => ?_).trans List.filterMap_some)
  rw [Function.comp_apply, seqOf_programKey]
  exact h.get?_runs (List.mem_filter.1 hr).1

/-! ### Lists and counts -/

theorem Consistent.list_eq (h : s.Consistent given) (hfew : given.length + 1 < UInt64.size)
    (hopen : s.closed = false) (q : Query) : s.list q =
      (((s.matching q).take q.count).mapM Record.reread).mapError (.unreadable "decode run: ") := by
  rw [list, if_neg (Bool.eq_false_iff.1 hopen)]
  cases hprogram : q.program with
  | none =>
    dsimp only
    rw [h.indexed.newest_eq hprogram]
  | some id =>
    have hless (r : Record) (hr : r ∈ s.records) : r.seq.toNat + 1 < UInt64.size := by
      have := h.seq_le hr
      omega
    dsimp only
    rw [h.indexed.ofProgram_eq hless hprogram]

theorem Consistent.lists (h : s.Consistent given) (hfew : given.length + 1 < UInt64.size) :
    s.Lists where
  closed_refuses hclosed := ⟨fun q => if_pos hclosed, fun id => if_pos hclosed⟩
  descending q := List.pairwise_reverse.2 (h.indexed.ascending.filter _)
  list_eq hopen q := h.list_eq hfew hopen q
  list_of_legible hopen q hlegible := by
    rw [h.list_eq hfew hopen, Record.mapM_reread_of_legible hlegible]
    rfl
  count_eq hopen id := by
    have hlength := congrArg List.length (h.indexed.byProgram_eq id)
    rw [List.length_map, ← List.countP_eq_length_filter (l := s.records)] at hlength
    rw [countOf, if_neg (Bool.eq_false_iff.1 hopen), h.indexed.byProgram_sorted.startingWith_eq,
      hlength]

/-! ### Page after page -/

section

variable {q : Query} {k : Nat}

theorem matching_of_le {n : UInt64} (hn : n ≠ 0) (hbound : q.before = 0 ∨ n ≤ q.before) :
    s.matching { q with before := n } = (s.matching q).filter (·.seq < n) := by
  rw [matching, matching, List.filter_reverse, List.filter_filter]
  refine congrArg List.reverse (List.filter_congr fun r _ => ?_)
  have hless : r.seq < n → (q.before == 0 || decide (r.seq < q.before)) = true := fun hr => by
    rw [Bool.or_eq_true, beq_iff_eq, decide_eq_true_iff]
    exact hbound.imp_right (UInt64.lt_of_lt_of_le hr)
  simp only [Query.admits, beq_eq_false_iff_ne.2 hn, Bool.false_or]
  by_cases hr : r.seq < n
  · rw [decide_eq_true hr, Bool.true_and, Bool.true_and, hless hr, Bool.true_and]
  · rw [decide_eq_false hr, Bool.false_and, Bool.false_and]

/-- Before the last record of a page come those behind the page. -/
theorem matching_before_last (hdescending : (s.matching q).Pairwise fun r r' => r'.seq < r.seq)
    (hlast : ((s.matching q).take k).getLast? = some r) (hr : r.seq ≠ 0) :
    s.matching { q with before := r.seq } = (s.matching q).drop k := by
  obtain ⟨front, hfront⟩ := List.getLast?_eq_some_iff.1 hlast
  have hmem : r ∈ s.matching q :=
    List.mem_of_mem_take (hfront ▸ List.mem_append_right front (List.mem_singleton_self r))
  have hbound : q.before = 0 ∨ r.seq ≤ q.before := by
    have hadmits := (List.mem_filter.1 (List.mem_reverse.1 hmem)).2
    rw [Query.admits, Bool.and_eq_true, Bool.or_eq_true, beq_iff_eq, decide_eq_true_iff] at hadmits
    exact hadmits.1.imp_right UInt64.le_of_lt
  rw [matching_of_le hr hbound]
  rw [← List.take_append_drop k (s.matching q), hfront] at hdescending
  obtain ⟨hpage, -, hbehind⟩ := List.pairwise_append.1 hdescending
  have hgone : ((s.matching q).take k).filter (·.seq < r.seq) = [] := by
    rw [hfront]
    refine List.filter_eq_nil_iff.2 fun r' hr' => ?_
    rw [decide_eq_true_iff, UInt64.not_lt]
    rcases List.mem_append.1 hr' with hr' | hr'
    · exact UInt64.le_of_lt
        ((List.pairwise_append.1 hpage).2.2 r' hr' r (List.mem_singleton_self r))
    · rw [List.mem_singleton.1 hr']
      exact UInt64.le_refl _
  have hkept : ((s.matching q).drop k).filter (·.seq < r.seq) = (s.matching q).drop k :=
    List.filter_eq_self.2 fun r' hr' => decide_eq_true
      (hbehind r (List.mem_append_right front (List.mem_singleton_self r)) r' hr')
  conv_lhs => rw [← List.take_append_drop k (s.matching q), List.filter_append, hgone, hkept]
  rfl

end

end Store

namespace Journal

variable {j : Journal} {given : List Record}

/-- After every history of a new store that leaves the greatest number unused, a list has the
records that the query asks for, in the descending order of their numbers and cut to its first ones,
as they are read back. So they are listed as they were stored if they are legible, and if one of
them cannot be read back, the answer tells why. The runs of a program are counted by its records. A
store that is closed refuses. -/
theorem replay_lists {stamp : Nat → Stamp} {size : Int} {events : List Event}
    (h : replay { store := { size }, stamp } events = (j, given))
    (hfew : given.length + 1 < UInt64.size) : j.store.Lists := by
  have hconsistent := replay_consistent_from (j := { store := { size }, stamp })
    (Store.Consistent.empty size) events (by rw [h, List.length_nil]; dsimp only; omega)
  rw [h, List.nil_append] at hconsistent
  exact hconsistent.lists hfew

/-- Three runs of the first program of all and one of the last. -/
def twoPrograms : List Event :=
  [.put { id := "a", status := "ok" }, .put { id := "b", program := ⟨List.replicate 32 255, rfl⟩ },
    .put { id := "c", status := "ok" }, .put { id := "d", status := "faulted" }]

/-- Below the last run there are two of the first program. -/
theorem twoPrograms_lists :
    ∃ j given, replay { store := {}, stamp := fun _ => default } twoPrograms = (j, given) ∧
      (j.store.list { program := some .zero, before := 4 }).toOption.map (·.map (·.id)) =
      some ["c", "a"] ∧
      (j.store.list { limit := 3 }).toOption.map (·.map (·.id)) = some ["d", "c", "b"] ∧
      (j.store.countOf .zero).toOption = some 3 ∧ j.store.Lists :=
  have h : replay { store := {}, stamp := fun _ => default } twoPrograms = (_, _) :=
    (Prod.eta _).symm
  ⟨_, _, h, by decide +kernel, by decide +kernel, by decide +kernel,
    replay_lists h (by decide +kernel)⟩

/-- A run that printed more words than a list may have items when it is read. -/
def longRow : Record :=
  { id := "a", status := "ok", printed := [some (List.replicate 131073 0)] }

/-- The record is stored, but it cannot be read back. -/
theorem longRow_stored :
    ∃ r j, replay { store := {}, stamp := fun _ => default } [.put longRow] = (j, [r]) ∧
      j.store.Consistent [r] ∧ j.store.closed = false ∧ j.store.records = [r] ∧ r.seq = 1 ∧
      r.reread = .error .tooMany := by
  let r : Record := { stamped longRow default with seq := 1 }
  have hstore : Store.insert {} (stamped longRow default) = .ok (r, Store.extend {} r) :=
    Store.insert_eq_ok_iff.2 ⟨rfl, rfl, by decide +kernel, rfl, rfl⟩
  have hinsert := insert_eq_ok (j := { store := {}, stamp := fun _ => default }) hstore
  have hlong : r.short = false := by
    have hrow : (List.replicate 131073 (0 : Word)).length = 131073 := List.length_replicate
    change (decide (1 ≤ Cbor.maxItems) &&
      (decide ((List.replicate 131073 (0 : Word)).length ≤ Cbor.maxItems) && true)) = false
    rw [hrow]
    rfl
  refine ⟨r, { store := Store.extend {} r, stamp := fun _ => default, attempts := 1 }, ?_,
    (Store.Consistent.empty 0).insert hstore (by decide), rfl, rfl, rfl,
    Record.reread_of_not_short hlong⟩
  rw [replay, act, hinsert]
  rfl

/-- The record is stored, but no list shows it. -/
theorem longRow_not_listed :
    ∃ r j, replay { store := {}, stamp := fun _ => default } [.put longRow] = (j, [r]) ∧
      j.store.closed = false ∧ j.store.records = [r] ∧ j.store.matching {} = [r] ∧
      j.store.list {} = .error (.unreadable "decode run: " .tooMany) := by
  obtain ⟨r, j, hreplay, hconsistent, hopen, hrecords, -, hreread⟩ := longRow_stored
  have hmatching : j.store.matching {} = [r] := by
    rw [Store.matching, hrecords]
    rfl
  refine ⟨r, j, hreplay, hopen, hrecords, hmatching, ?_⟩
  have hpage : [r].take (Store.Query.count {}) = [r] := rfl
  rw [hconsistent.list_eq (by rw [List.length_singleton]; decide) hopen, hmatching, hpage,
    Record.mapM_reread_cons, hreread]
  rfl

end Journal

end Lanewise.Run
