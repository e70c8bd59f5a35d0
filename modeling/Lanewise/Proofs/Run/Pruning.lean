import Lanewise.Proofs.Run.Listing
import Mathlib.Order.Bounds.Defs

/-!
# What pruning leaves

Pruning takes the oldest records, as many as there are too many, and takes each of them out of three
buckets. What is left is found, listed and counted as before. What is gone is not found, and its
identifier may be used again, but its number is not: the figures still know the greatest number ever
given.

A record is read back before it is removed, so one that cannot be read back keeps all of the surplus
in the store. A surplus of legible records is removed.

## Main definitions

* `Run.Store.Prunes`: a store from which all but the newest records have been removed.

## Main results

* `Run.Store.Indexed.find_of_mem`, `Run.Store.Indexed.find_of_forall_ne`: what identifiers find.
* `Run.Journal.replay_prune`: how pruning ends after every history.
-/

namespace Lanewise.Run

namespace Store

variable {s s' : Store} {r : Record} {given : List Record} {keep n : UInt64}

/-- A store from which `n` records have been removed, so that at most `keep` are left. -/
structure Prunes (s : Store) (keep n : UInt64) (s' : Store) : Prop where
  isOpen : s'.closed = false
  removed_count : n.toNat = s.records.length - keep.toNat
  kept_count : s'.records.length = min s.records.length keep.toNat
  /-- No record is lost, and those that are left are unchanged. -/
  records_eq : s.records = s.surplus keep ++ s'.records
  newer : ∀ r ∈ s.surplus keep, ∀ r' ∈ s'.records, r.seq < r'.seq
  lists : s'.Lists
  found : ∀ r ∈ s'.records, s'.find r.id = r.reread.mapError (.unreadable "")
  /-- Legible records are found as they are. -/
  found_of_legible : ∀ r ∈ s'.records, r.Legible → s'.find r.id = .ok r
  gone : ∀ r ∈ s.surplus keep, s'.find r.id = .error .notFound
  /-- A record with an identifier that is gone can be stored. -/
  free : ∀ r ∈ s.surplus keep, ∀ x :
    Record, x.id = r.id → ∃ stored s'', s'.insert x = .ok (stored, s'')
  stats_eq : ∃ before after, s.stats = .ok before ∧ s'.stats = .ok after ∧
    after.runs.toNat = s'.records.length ∧ after.faulted.toNat = s'.records.countP (·.isFault) ∧
    (if s'.records = [] then after.oldest = 0
      else IsLeast {seq | ∃ r ∈ s'.records, r.seq = seq} after.oldest) ∧
    after.latest = before.latest

/-! ### Identifiers -/

/-- The identifier of a record finds it. -/
theorem Indexed.find_of_mem (h : s.Indexed) (hopen : s.closed = false) (hr : r ∈ s.records) :
    s.find r.id = r.reread.mapError (.unreadable "") := by
  have hids : s.ids.get? (idKey r.id) = some (seqKey r.seq) :=
    h.ids_sorted.get?_eq_some_iff.2 (h.ids_perm.mem_iff.2 (List.mem_map.2 ⟨r, hr, rfl⟩))
  rw [find, if_neg (Bool.eq_false_iff.1 hopen), hids, Option.bind_some, h.get?_runs hr]

theorem Indexed.contains_eq_false (h : s.Indexed) {id : String} (hid : ∀ r ∈ s.records, r.id ≠ id) :
    s.ids.contains (idKey id) = false := by
  refine Bool.eq_false_iff.2 fun htaken => ?_
  obtain ⟨r, hr, heq⟩ := h.contains_iff.1 htaken
  exact hid r hr heq

/-- The identifier of no record finds nothing. -/
theorem Indexed.find_of_forall_ne (h : s.Indexed) (hopen : s.closed = false) {id : String}
    (hid : ∀ r ∈ s.records, r.id ≠ id) : s.find id = .error .notFound := by
  have hids : s.ids.get? (idKey id) = none := by
    refine Option.eq_none_iff_forall_ne_some.2 fun key hkey => ?_
    obtain ⟨r, hr, heq⟩ :=
      List.mem_map.1 (h.ids_perm.mem_iff.1 (h.ids_sorted.get?_eq_some_iff.1 hkey))
    exact hid r hr (idKey_inj.1 (congrArg Prod.fst heq))
  rw [find, if_neg (Bool.eq_false_iff.1 hopen), hids]
  rfl

/-! ### Figures -/

/-- The figures of a store that is open. -/
theorem Indexed.stats_eq (h : s.Indexed) (hopen : s.closed = false) :
    ∃ after, s.stats = .ok after ∧ after.runs.toNat = s.records.length ∧
      after.faulted.toNat = s.records.countP (·.isFault) ∧
      (if s.records = [] then after.oldest = 0
        else IsLeast {seq | ∃ r ∈ s.records, r.seq = seq} after.oldest) ∧
      after.latest = s.cached.latest := by
  refine ⟨_, if_neg (Bool.eq_false_iff.1 hopen), h.runs_count, h.faulted_count, ?_, rfl⟩
  have hascending := h.ascending
  dsimp only
  rw [h.runs_eq]
  cases hrecords : s.records with
  | nil =>
    rw [if_pos rfl]
    rfl
  | cons r rest =>
    rw [hrecords] at hascending
    have holdest := (List.pairwise_cons.1 hascending).1
    rw [if_neg (List.cons_ne_nil r rest)]
    rw [List.map_cons, List.head?_cons, Option.map_some, Option.getD_some, seqOf_seqKey]
    refine ⟨⟨r, List.mem_cons_self, rfl⟩, ?_⟩
    rintro _ ⟨r', hr', rfl⟩
    rcases List.mem_cons.1 hr' with rfl | hr'
    · exact UInt64.le_refl _
    · exact UInt64.le_of_lt (holdest r' hr')

/-! ### Pruning -/

/-- A surplus of legible records is removed. -/
theorem Consistent.prune_of_legible (h : s.Consistent given) (keep : UInt64)
    (hopen : s.closed = false) (hlegible : ∀ r ∈ s.surplus keep, r.Legible) :
    ∃ s', s.prune keep = .ok (UInt64.ofNat (s.surplus keep).length, s') ∧
      s.Pruned keep given s' := by
  have hnone : s.surplusDefect? keep = none := by
    refine List.findSome?_eq_none_iff.2 fun r hr => ?_
    rw [(hlegible r hr).defect?_eq]
    rfl
  rcases h.prune_eq keep hopen with ⟨seq, why, hfind, -⟩ | ⟨-, hpruned⟩
  · cases hnone.symm.trans hfind
  · exact hpruned

theorem Pruned.prunes (hp : s.Pruned keep given s') (h : s.Consistent given)
    (hopen : s.closed = false) (hfew : given.length + 1 < UInt64.size)
    (hshort : ∀ r ∈ given, (idKey r.id).length ≤ maxKeyLength) :
    s.Prunes keep (UInt64.ofNat (s.surplus keep).length) s' := by
  have hopen' : s'.closed = false := hp.closed_eq.trans hopen
  have hrecords : s.records = s.surplus keep ++ s'.records := by
    rw [hp.records_eq, surplus_append_kept]
  have hlength := h.suffix.length_le
  have hascending := h.indexed.ascending
  have hdistinct := h.indexed.ids_distinct
  rw [hrecords] at hascending hdistinct
  have hne : ∀ r ∈ s.surplus keep, ∀ r' ∈ s'.records, r'.id ≠ r.id := fun r hr r' hr' =>
    ((List.pairwise_append.1 hdistinct).2.2 r hr r' hr').symm
  constructor
  case isOpen => exact hopen'
  case removed_count =>
    rw [length_surplus]
    exact UInt64.toNat_ofNat_of_lt' (by omega)
  case kept_count => rw [hp.records_eq, length_kept]
  case records_eq => exact hrecords
  case newer => exact (List.pairwise_append.1 hascending).2.2
  case lists => exact hp.consistent.lists hfew
  case found => exact fun r hr => hp.consistent.indexed.find_of_mem hopen' hr
  case found_of_legible =>
    intro r hr hlegible
    rw [hp.consistent.indexed.find_of_mem hopen' hr, hlegible.reread_eq]
    rfl
  case gone => exact fun r hr => hp.consistent.indexed.find_of_forall_ne hopen' (hne r hr)
  case free =>
    intro r hr x hx
    have hnew := hp.consistent.indexed.contains_eq_false (hne r hr)
    have hgiven : r ∈ given := h.suffix.subset (hrecords ▸ List.mem_append_left _ hr)
    rw [← hx] at hnew
    exact ⟨_, _, insert_eq_ok_iff.2 ⟨hopen', hnew, hx ▸ hshort r hgiven, rfl, rfl⟩⟩
  case stats_eq =>
    obtain ⟨before, hbefore, -, -, -, hlatest⟩ := h.indexed.stats_eq hopen
    obtain ⟨after, hafter, hruns, hfaulted, holdest, hlatest'⟩ :=
      hp.consistent.indexed.stats_eq hopen'
    exact ⟨before, after, hbefore, hafter, hruns, hfaulted, holdest,
      hlatest'.trans (hp.latest_eq.trans hlatest.symm)⟩

end Store

namespace Journal

variable {j : Journal} {given : List Record}

/-- What is stored has an identifier that fits into a key. -/
theorem act_short (j : Journal) (e : Event) :
    ∀ r ∈ (j.act e).2, (idKey r.id).length ≤ maxKeyLength := by
  cases e with
  | put r =>
    rw [act]
    cases hinsert : j.store.insert (stamped r (j.stamp (j.attempts + 1))) with
    | error e =>
      rw [insert_eq_error hinsert]
      exact List.forall_mem_nil _
    | ok stored =>
      obtain ⟨-, -, hshort, hstored, -⟩ := Store.insert_eq_ok_iff.1 hinsert
      rw [insert_eq_ok hinsert]
      intro r' hr'
      obtain rfl := List.mem_singleton.1 hr'
      rw [hstored]
      exact hshort
  | prune keep =>
    rw [act]
    split <;> exact List.forall_mem_nil _
  | close =>
    rw [act]
    split <;> exact List.forall_mem_nil _
  | reopen => exact List.forall_mem_nil _

theorem replay_short (j : Journal) (events : List Event) :
    ∀ r ∈ (j.replay events).2, (idKey r.id).length ≤ maxKeyLength := by
  induction events generalizing j with
  | nil => exact List.forall_mem_nil _
  | cons e events ih => exact List.forall_mem_append.2 ⟨j.act_short e, ih (j.act e).1⟩

/-- After every history of a new store that leaves the greatest number unused, pruning removes all
but the newest records, as many as it says. Those that are left are found, listed and counted as
before, and those that are gone make room for others with their identifiers. If a record that should
be removed cannot be read back, nothing is removed, and the answer tells the first of these. Legible
records can be read back. A store that is closed refuses. -/
theorem replay_prune {stamp : Nat → Stamp} {size : Int} {events : List Event}
    (h : replay { store := { size }, stamp } events = (j, given))
    (hfew : given.length + 1 < UInt64.size) (keep : UInt64) :
    (j.store.closed = true → j.store.prune keep = .error .closed) ∧
      (j.store.closed = false →
        match j.store.surplusDefect? keep with
        | some (seq, why) =>
          j.store.prune keep = .error (.unreadable ("decode run " ++ toString seq ++ ": ") why)
        | none => ∃ n s', j.store.prune keep = .ok (n, s') ∧ j.store.Prunes keep n s') ∧
      (j.store.closed = false → (∀ r ∈ j.store.surplus keep, r.Legible) →
        ∃ n s', j.store.prune keep = .ok (n, s') ∧ j.store.Prunes keep n s') := by
  have hconsistent := replay_consistent_from (j := { store := { size }, stamp })
    (Store.Consistent.empty size) events (by rw [h, List.length_nil]; dsimp only; omega)
  have hshort := replay_short { store := { size }, stamp } events
  rw [h, List.nil_append] at hconsistent
  rw [h] at hshort
  refine ⟨fun hclosed => if_pos hclosed, fun hopen => ?_, fun hopen hlegible => ?_⟩
  · rcases hconsistent.prune_eq keep
      hopen with ⟨seq, why, hfind, hprune⟩ | ⟨hfind, s', hprune, hpruned⟩
    · rw [hfind]
      exact hprune
    · rw [hfind]
      exact ⟨_, s', hprune, hpruned.prunes hconsistent hopen hfew hshort⟩
  · obtain ⟨s', hprune, hpruned⟩ := hconsistent.prune_of_legible keep hopen hlegible
    exact ⟨_, s', hprune, hpruned.prunes hconsistent hopen hfew hshort⟩

/-- Two of four runs are removed; both programs have one run left. -/
theorem twoPrograms_prune :
    ∃ j given n s', replay { store := {}, stamp := fun _ => default } twoPrograms = (j, given) ∧
      j.store.prune 2 = .ok (n, s') ∧ n = 2 ∧ s'.records.map (·.id) = ["c", "d"] ∧
      j.store.Prunes 2 n s' := by
  have h : replay { store := {}, stamp := fun _ => default } twoPrograms = (_, _) :=
    (Prod.eta _).symm
  obtain ⟨-, -, hends⟩ := replay_prune h (by decide +kernel) 2
  have hlegible :
      ∀ r ∈ (replay { store := {}, stamp := fun _ => default } twoPrograms).1.store.surplus 2,
      r.Legible := by decide +kernel
  have hleft : ((replay { store := {}, stamp := fun _ => default } twoPrograms).1.store.prune
      2).toOption.map (fun pruned => (pruned.1, pruned.2.records.map (·.id))) =
        some (2, ["c", "d"]) := by
    decide +kernel
  obtain ⟨n, s', hprune, hprunes⟩ := hends (by decide +kernel) hlegible
  rw [hprune] at hleft
  obtain ⟨hn, hids⟩ := Prod.mk.inj (Option.some.inj hleft)
  exact ⟨_, _, n, s', h, hprune, hn, hids, hprunes⟩

/-- A record that cannot be read back stays, although none should be kept. -/
theorem longRow_not_pruned :
    ∃ r j, replay { store := {}, stamp := fun _ => default } [.put longRow] = (j, [r]) ∧
      j.store.closed = false ∧ j.store.records = [r] ∧
      j.store.prune 0 = .error (.unreadable "decode run 1: " .tooMany) := by
  obtain ⟨r, j, hreplay, hconsistent, hopen, hrecords, hseq, hreread⟩ := longRow_stored
  refine ⟨r, j, hreplay, hopen, hrecords, ?_⟩
  have hsurplus : j.store.surplus 0 = [r] := by
    rw [Store.surplus, hrecords]
    rfl
  have hfirst : j.store.surplusDefect? 0 = some (1, .tooMany) := by
    rw [Store.surplusDefect?, hsurplus, List.findSome?_cons, Record.defect?, hreread, hseq]
    rfl
  rcases hconsistent.prune_eq 0 hopen with ⟨seq, why, hfind, hprune⟩ | ⟨hfind, -⟩
  · rw [hfirst] at hfind
    obtain ⟨rfl, rfl⟩ := Prod.mk.inj (Option.some.inj hfind)
    exact hprune
  · rw [hfirst] at hfind
    cases hfind

end Journal

end Lanewise.Run
