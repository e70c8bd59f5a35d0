import Lanewise.Proofs.Image.Format
import Lanewise.Proofs.Run.Keys
import Lanewise.Registry.Basic

/-!
# What registries contain

A registry maps identifiers to encoded images, in memory or in a key-value store. Storing an image
adds its bytes unless there are some already, so what was stored first stays, and an image that is
new can be read back.

## Main definitions

* `Registry.bytesOf`: the stored bytes of a program.

## Main results

* `Registry.bytesOf_put`: what an image that is stored changes.
* `Registry.get_put_of_stored`, `Registry.get_put_of_new`: what can be read afterwards.
-/

namespace Lanewise.Registry

variable {r r' : Registry} {img stored : Image} {id : ProgramId}

/-- Whether the registry has been closed. -/
def isClosed : Registry → Bool
  | memory m => m.closed
  | keyed k => k.closed

/-- The stored bytes of a program. -/
def bytesOf (r : Registry) (id : ProgramId) : Option ByteArray :=
  match r with
  | memory m => m.programs.lookup id
  | keyed k => k.data.get? (Keyed.programKey id)

theorem get_eq_ok_iff :
    r.get id = .ok img ↔
      r.isClosed = false ∧ ∃ data, r.bytesOf id = some data ∧ Image.load data = .ok img := by
  cases r with
  | memory m =>
    rw [get, Memory.get, guard_eq_ok_iff, Bool.not_eq_true]
    refine and_congr_right fun _ => ?_
    rw [bytesOf]
    cases m.programs.lookup id with
    | none => simp only [reduceCtorEq, false_and, exists_false]
    | some data =>
      simp only [Option.some.injEq, exists_eq_left']
      cases Image.load data <;> simp only [reduceCtorEq, Except.ok.injEq]
  | keyed k =>
    rw [get, Keyed.get, guard_eq_ok_iff, Bool.not_eq_true]
    refine and_congr_right fun _ => ?_
    rw [bytesOf]
    cases k.data.get? (Keyed.programKey id) with
    | none => simp only [reduceCtorEq, false_and, exists_false]
    | some data =>
      simp only [Option.some.injEq, exists_eq_left', Keyed.load]
      cases Image.load data <;> simp only [reduceCtorEq, Except.ok.injEq]

theorem bytesOf_of_get_eq_notFound (h : r.get id = .error .notFound) : r.bytesOf id = none := by
  cases r with
  | memory m =>
    rw [get, Memory.get] at h
    rw [bytesOf]
    split at h
    · cases h
    · cases hdata : m.programs.lookup id with
      | none => rfl
      | some data =>
        rw [hdata] at h
        dsimp only at h
        split at h <;> cases h
  | keyed k =>
    rw [get, Keyed.get] at h
    rw [bytesOf]
    split at h
    · cases h
    · cases hdata : k.data.get? (Keyed.programKey id) with
      | none => rfl
      | some data =>
        rw [hdata] at h
        dsimp only [Keyed.load] at h
        split at h <;> cases h

theorem Keyed.programKey_inj {id id' : ProgramId} :
    Keyed.programKey id = Keyed.programKey id' ↔ id = id' := by
  rw [Keyed.programKey, Keyed.programKey, List.append_cancel_left_eq, ProgramId.bytes_inj]

theorem Keyed.programKey_ne_countKey (id : ProgramId) : Keyed.programKey id ≠ Keyed.countKey := by
  intro h
  injection h with hmark
  cases hmark

theorem Memory.lookup_put {m m' : Memory} (h : m.put img = .ok (id, m')) :
    ∃ data, img.encode m.compressor img.compressed = .ok data ∧ id = img.id ∧ m'.closed = false ∧
      ∀ id', m'.programs.lookup id' =
        if id' = id then some ((m.programs.lookup id).getD data) else m.programs.lookup id' := by
  rw [Memory.put] at h
  cases hdata : img.encode m.compressor img.compressed with
  | error e =>
    rw [hdata] at h
    cases h
  | ok data =>
    rw [hdata] at h
    dsimp only at h
    rw [guard_eq_ok_iff, Bool.not_eq_true] at h
    obtain ⟨hopen, h⟩ := h
    refine ⟨data, rfl, ?_⟩
    cases hstored : m.programs.lookup img.id with
    | some old =>
      rw [hstored] at h
      cases h
      refine ⟨rfl, hopen, ?_⟩
      intro id'
      rw [hstored, Option.getD_some]
      split
      · next heq => rw [heq, hstored]
      · rfl
    | none =>
      rw [hstored] at h
      cases h
      refine ⟨rfl, hopen, ?_⟩
      intro id'
      rw [hstored, Option.getD_none, List.lookup_append, List.lookup_cons, List.lookup_nil]
      by_cases heq : id' = img.id
      · rw [if_pos heq, heq, hstored, beq_self_eq_true, Option.none_or]
      · rw [if_neg heq, beq_eq_false_iff_ne.2 heq, Option.or_none]

theorem Keyed.get?_put {k k' : Keyed} (h : k.put img = .ok (id, k')) :
    ∃ data, img.encode k.compressor img.compressed = .ok data ∧ id = img.id ∧ k'.closed = false ∧
      ∀ id', k'.data.get? (programKey id') =
        if id' = id then some ((k.data.get? (programKey id)).getD data)
        else k.data.get? (programKey id') := by
  rw [Keyed.put, guard_eq_ok_iff, Bool.not_eq_true] at h
  obtain ⟨hopen, h⟩ := h
  cases hdata : img.encode k.compressor img.compressed with
  | error e =>
    rw [hdata] at h
    cases h
  | ok data =>
    rw [hdata] at h
    dsimp only at h
    refine ⟨data, rfl, ?_⟩
    rw [Bucket.contains] at h
    cases hstored : k.data.get? (programKey img.id) with
    | some old =>
      rw [hstored] at h
      cases h
      refine ⟨rfl, hopen, ?_⟩
      intro id'
      rw [hstored, Option.getD_some]
      split
      · next heq => rw [heq, hstored]
      · rfl
    | none =>
      rw [hstored] at h
      cases h
      refine ⟨rfl, hopen, ?_⟩
      intro id'
      rw [hstored, Option.getD_none, Bucket.get?_put, if_neg (programKey_ne_countKey id'),
        Bucket.get?_put]
      simp only [programKey_inj]

/-- Storing an image adds its bytes, unless there are some already. -/
theorem bytesOf_put (h : r.put img = .ok (id, r')) :
    ∃ data, img.encode r.compressor img.compressed = .ok data ∧ id = img.id ∧ r'.isClosed = false ∧
      ∀ id', r'.bytesOf id' = if id' = id then some ((r.bytesOf id).getD data)
        else r.bytesOf id' := by
  cases r with
  | memory m =>
    rw [put] at h
    cases hput : m.put img with
    | error e =>
      rw [hput] at h
      cases h
    | ok stored =>
      rw [hput] at h
      cases h
      exact Memory.lookup_put hput
  | keyed k =>
    rw [put] at h
    cases hput : k.put img with
    | error e =>
      rw [hput] at h
      cases h
    | ok stored =>
      rw [hput] at h
      cases h
      exact Keyed.get?_put hput

/-- What was stored stays. -/
theorem get_put_of_stored {id' : ProgramId} (h : r.put img = .ok (id, r'))
    (hstored : r.get id' = .ok stored) : r'.get id' = .ok stored := by
  obtain ⟨data, -, -, hopen, hbytes⟩ := bytesOf_put h
  obtain ⟨-, old, hold, hload⟩ := get_eq_ok_iff.1 hstored
  refine get_eq_ok_iff.2 ⟨hopen, old, ?_, hload⟩
  rw [hbytes]
  split
  · next heq => rw [← heq, hold, Option.getD_some]
  · exact hold

/-- An image that is new can be read back. -/
theorem get_put_of_new (h : r.put img = .ok (id, r')) (hnew : r.get id = .error .notFound) :
    r'.get id = .ok img := by
  obtain ⟨data, hencode, -, hopen, hbytes⟩ := bytesOf_put h
  refine get_eq_ok_iff.2 ⟨hopen, data, ?_, Image.load_encode hencode⟩
  rw [hbytes, if_pos rfl, bytesOf_of_get_eq_notFound hnew, Option.getD_none]

end Lanewise.Registry
