import Lanewise.Proofs.Timestamp.Text
import Lanewise.Run.Record

/-!
# Records that are read back

A record is written and read back when it is looked for. This changes its start at most, and the
start only if its text does not tell it: the year has more than four digits, or the offset is not a
number of whole minutes. A record that has short lists and a start that its text tells comes back as
it was.

## Main results

* `Run.Record.Legible.reread_eq`: a legible record comes back as it was.
* `Run.Record.started_of_reread`: what comes back of any record.
-/

namespace Lanewise.Run.Record

variable {r r' : Record} {rs rs' : List Record} {why : Defect}

/-- A legible record comes back as it was. -/
theorem Legible.reread_eq (h : r.Legible) : r.reread = .ok r := by
  rw [reread, h.short, Bool.not_true, if_neg Bool.false_ne_true]
  split
  · next hzero =>
    rw [← h.shown.eq_zero hzero]
  · rw [Timestamp.parse_text h.shown]

/-- What comes back of a record is the record, but for its start. -/
theorem started_of_reread (h : r.reread = .ok r') : r' = { r with started := r'.started } := by
  unfold reread at h
  split at h
  · cases h
  · split at h
    · obtain rfl := Except.ok.inj h
      rfl
    · split at h
      · obtain rfl := Except.ok.inj h
        rfl
      · cases h

theorem defect?_eq_none_iff : r.defect? = none ↔ ∃ r', r.reread = .ok r' := by
  rw [defect?]
  cases r.reread with
  | ok r' => exact iff_of_true rfl ⟨r', rfl⟩
  | error why => exact iff_of_false nofun nofun

theorem Legible.defect?_eq (h : r.Legible) : r.defect? = none :=
  defect?_eq_none_iff.2 ⟨r, h.reread_eq⟩

/-- A record with a list that is too long does not come back. -/
theorem reread_of_not_short (h : r.short = false) : r.reread = .error .tooMany := by
  rw [reread, h]
  rfl

/-! ### Several records -/

theorem mapM_reread_cons (r : Record) (rs : List Record) :
    (r :: rs).mapM reread = match r.reread with
      | .ok r' => (rs.mapM reread).map (r' :: ·)
      | .error why => .error why := by
  rw [List.mapM_cons]
  cases r.reread with
  | error why => rfl
  | ok r' => cases rs.mapM reread <;> rfl

/-- Legible records come back as they were. -/
theorem mapM_reread_of_legible (h : ∀ r ∈ rs, r.Legible) : rs.mapM reread = .ok rs := by
  induction rs with
  | nil => rfl
  | cons r rs ih =>
    obtain ⟨hr, hrs⟩ := List.forall_mem_cons.1 h
    rw [mapM_reread_cons, hr.reread_eq, ih hrs]
    rfl

/-- What comes back are as many records, and they differ from the others in their starts only. -/
theorem forall₂_of_mapM_reread (h : rs.mapM reread = .ok rs') :
    List.Forall₂ (fun r r' => r.reread = .ok r') rs rs' := by
  induction rs generalizing rs' with
  | nil =>
    obtain rfl := Except.ok.inj h
    exact .nil
  | cons r rs ih =>
    rw [mapM_reread_cons] at h
    split at h
    · next r' hr =>
      cases hrs : rs.mapM reread with
      | error why =>
        rw [hrs] at h
        cases h
      | ok rs'' =>
        rw [hrs] at h
        obtain rfl := Except.ok.inj h
        exact .cons hr (ih hrs)
    · cases h

/-- The records of two lists come back if those of both do. -/
theorem mapM_reread_append (rs rs' : List Record) :
    (rs ++ rs').mapM reread = match rs.mapM reread with
      | .ok front => (rs'.mapM reread).map (front ++ ·)
      | .error why => .error why := by
  rw [List.mapM_append]
  cases rs.mapM reread with
  | error why => rfl
  | ok front => cases rs'.mapM reread <;> rfl

end Lanewise.Run.Record
