import Lanewise.Proofs.Run.History
import Lanewise.Proofs.Run.Rereading

/-!
# One more record

A journal whose store is open and consistent, and which has a new identifier at hand, takes every
record that comes without an identifier. Afterwards it has this record and those that it had before,
the figures have followed, and the identifier finds the record if its lists are short enough to be
read.

## Main definitions

* `Run.Journal.Ready`: a journal that can take one more record.
* `Run.Journal.Stores`: a journal with one more record.

## Main results

* `Run.Store.find_extend`: what the identifier of the last record finds.
* `Run.Journal.Ready.insert`: a journal that is ready takes a record.
-/

namespace Lanewise.Run

/-- The journal can take one more record: its store is open and consistent, and the next stamp has
an identifier that is new and fits into a key. -/
structure Journal.Ready (j : Journal) (given : List Record) : Prop where
  isOpen : j.store.closed = false
  consistent : j.store.Consistent given
  few : given.length + 1 < UInt64.size
  id_new : ∀ r ∈ j.store.records, r.id ≠ (j.stamp (j.attempts + 1)).id
  id_short : (idKey (j.stamp (j.attempts + 1)).id).length ≤ maxKeyLength

/-- A journal has one record more than another one, and the figures follow. -/
structure Journal.Stores (j j' : Journal) (given : List Record) (r : Record) : Prop where
  isOpen : j'.store.closed = false
  consistent : j'.store.Consistent (given ++ [r])
  records_eq : j'.store.records = j.store.records ++ [r]
  find_eq : j'.store.find r.id = if r.short then .ok r else .error (.unreadable "" .tooMany)
  stats_eq : ∃ before after, j.store.stats = .ok before ∧ j'.store.stats = .ok after ∧
    after.runs.toNat = before.runs.toNat + 1 ∧
    after.faulted.toNat = before.faulted.toNat + if r.status = Status.ok.name then 0 else 1

/-- The record that was stored last is the one that its identifier names. -/
theorem Store.find_extend {s : Store} (hopen : s.closed = false) (r : Record) :
    (s.extend r).find r.id = r.reread.mapError (.unreadable "") := by
  have hids : (s.extend r).ids.get? (idKey r.id) = some (seqKey r.seq) := by
    rw [extend, Bucket.get?_put, if_pos rfl]
  have hruns : (s.extend r).runs.get? (seqKey r.seq) = some r := by
    rw [extend, Bucket.get?_put, if_pos rfl]
  have hopen' : (s.extend r).closed = false := hopen
  rw [find, hids, Option.bind_some, hruns, hopen', if_neg Bool.false_ne_true]

variable {j : Journal} {given : List Record}

theorem Record.isFault_eq (r : Record) :
    (if r.isFault = true then 1 else 0) = if r.status = Status.ok.name then 0 else 1 := by
  unfold Record.isFault
  by_cases hok : r.status = Status.ok.name
  · rw [if_pos hok, hok]
    rfl
  · rw [if_neg hok, if_pos (bne_iff_ne.2 hok)]

/-- The start of a record that has got its stamp is told by its text. -/
theorem Journal.stamped_shown {r : Record} (h : r.started.Shown) (s : Stamp) :
    (stamped r s).started.Shown := by
  rw [stamped]
  dsimp only
  split
  · exact s.shown
  · exact h

/-- A record with a start that its text tells comes back if its lists are short. -/
theorem Record.reread_of_shown {r : Record} (h : r.started.Shown) :
    r.reread.mapError (.unreadable "") =
      if r.short then .ok r
        else (.error (.unreadable "" .tooMany) : Except Store.Error Record) := by
  cases hshort : r.short with
  | false =>
    rw [reread_of_not_short hshort]
    rfl
  | true =>
    rw [Legible.reread_eq ⟨hshort, h⟩]
    rfl

/-- A journal that is ready stores a record that comes without an identifier. -/
theorem Journal.Ready.insert (h : j.Ready given) {r : Record} (hid : r.id = "")
    (hshown : r.started.Shown) :
    ∃ id seq started j', j.insert r = (.ok { r with id, seq, started }, j') ∧
      j.Stores j' given { r with id, seq, started } := by
  have hstamped : (stamped r (j.stamp (j.attempts + 1))).id = (j.stamp (j.attempts + 1)).id := by
    simp only [stamped, hid]
    rfl
  have hnew : j.store.ids.contains (idKey (stamped r (j.stamp (j.attempts + 1))).id) = false := by
    rw [hstamped]
    refine Bool.eq_false_iff.2 fun htaken => ?_
    obtain ⟨r', hr', heq⟩ := h.consistent.indexed.contains_iff.1 htaken
    exact h.id_new r' hr' heq
  have hstore := Store.insert_eq_ok_iff.2 ⟨h.isOpen, hnew, hstamped ▸ h.id_short, rfl, rfl⟩
  obtain ⟨hindexed, hrecords, -⟩ := h.consistent.extend
    (r := { stamped r (j.stamp (j.attempts + 1)) with seq := j.store.cached.latest + 1 }) hnew rfl
      h.few
  refine ⟨_, _, _, _, insert_eq_ok hstore, ?_⟩
  constructor
  case isOpen => exact h.isOpen
  case consistent => exact h.consistent.insert hstore h.few
  case records_eq => exact hrecords
  case find_eq =>
    exact (Store.find_extend h.isOpen _).trans (Record.reread_of_shown (stamped_shown hshown _))
  case stats_eq =>
    have hopen : ¬j.store.closed = true := Bool.eq_false_iff.1 h.isOpen
    have hruns := hindexed.runs_count
    have hfaulted := hindexed.faulted_count
    rw [hrecords, List.length_append, ← h.consistent.indexed.runs_count] at hruns
    rw [hrecords, List.countP_append, ← h.consistent.indexed.faulted_count, List.countP_singleton,
      Record.isFault_eq] at hfaulted
    exact ⟨_, _, if_neg hopen, if_neg hopen, hruns, hfaulted⟩

end Lanewise.Run
