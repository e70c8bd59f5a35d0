import Lanewise.Proofs.Device.Acceptance
import Mathlib.Order.Bounds.Defs

/-!
# Group sizes

The lanes of a launch fall into groups of one size. A launch that asks for a size gets it or is
refused. A launch that leaves the size open always gets one: the default of the device if it divides
the number of lanes, and otherwise all lanes in one group, unless the device has a limit below that;
then it is the greatest divisor within the limit.

The limit stands for what a group may be asked to be, and for what is looked for in place of a
default that does not fit. A default that does fit is taken as it is, above the limit or not.

## Main results

* `Launch.largestDivisor_isGreatest`: what is looked for within a limit.
* `Launch.openGroup_of_dvd`, `Launch.openGroup_of_le`, `Launch.openGroup_isGreatest`: the size of a
  launch that leaves it open.
* `Launch.validate_group`: the group size that a launch gets.
-/

namespace Lanewise.Launch

variable {lanes default limit : Int}

/-! ### Sizes that are left open -/

/-- By induction on the limit: each candidate that is no divisor is passed over. -/
theorem largestDivisor_isGreatest (n : Int) {limit : Nat} (h : 0 < limit) :
    IsGreatest {d : Int | d ∣ n ∧ d ≤ limit} (largestDivisor n limit) := by
  induction limit with
  | zero => omega
  | succ d ih =>
    rw [largestDivisor]
    split
    · next hzero =>
      subst hzero
      exact ⟨⟨Int.one_dvd n, by decide⟩, fun d hd => hd.2⟩
    · next hpos =>
      obtain ⟨⟨hdvd, hle⟩, hgreatest⟩ := ih (by omega)
      split
      · next hmod => exact ⟨⟨Int.dvd_of_emod_eq_zero hmod, Int.le_refl _⟩, fun d hd => hd.2⟩
      · next hmod =>
        refine ⟨⟨hdvd, by omega⟩, fun d' hd' => hgreatest ⟨hd'.1, ?_⟩⟩
        have hne : d' ≠ (d + 1 : Nat) := fun heq => hmod (Int.emod_eq_zero_of_dvd (heq ▸ hd'.1))
        have hle' := hd'.2
        omega

theorem openGroup_of_dvd (hpos : 0 < default) (hle : default ≤ lanes) (hdvd : default ∣ lanes) :
    openGroup lanes default limit = default :=
  if_pos ⟨hpos, hle, Int.emod_eq_zero_of_dvd hdvd⟩

theorem openGroup_of_le (hdefault : ¬(0 < default ∧ default ≤ lanes ∧ default ∣ lanes))
    (hlimit : limit ≤ 0 ∨ lanes ≤ limit) : openGroup lanes default limit = lanes := by
  have hdefault' : ¬(0 < default ∧ default ≤ lanes ∧ lanes % default = 0) := fun h =>
    hdefault ⟨h.1, h.2.1, Int.dvd_of_emod_eq_zero h.2.2⟩
  rw [openGroup, if_neg hdefault', if_neg (by omega)]

theorem openGroup_isGreatest (hdefault : ¬(0 < default ∧ default ≤ lanes ∧ default ∣ lanes))
    (hlimit : 0 < limit) (hlanes : limit < lanes) :
    IsGreatest {d : Int | d ∣ lanes ∧ d ≤ limit} (openGroup lanes default limit) := by
  have hdefault' : ¬(0 < default ∧ default ≤ lanes ∧ lanes % default = 0) := fun h =>
    hdefault ⟨h.1, h.2.1, Int.dvd_of_emod_eq_zero h.2.2⟩
  have hpos : 0 < limit.toNat := by omega
  have hgreatest := largestDivisor_isGreatest lanes hpos
  rw [Int.toNat_of_nonneg (Int.le_of_lt hlimit)] at hgreatest
  rwa [openGroup, if_neg hdefault', if_pos ⟨hlimit, hlanes⟩]

/-- Only a default goes beyond the limit. -/
theorem limit_lt_openGroup_iff (hlimit : 0 < limit) :
    limit < openGroup lanes default limit ↔ limit < default ∧ default ≤ lanes ∧
      default ∣ lanes := by
  by_cases hdefault : 0 < default ∧ default ≤ lanes ∧ default ∣ lanes
  · obtain ⟨hpos, hle, hdvd⟩ := hdefault
    rw [openGroup_of_dvd hpos hle hdvd]
    exact ⟨fun h => ⟨h, hle, hdvd⟩, fun h => h.1⟩
  · refine iff_of_false (fun hlt => ?_) fun h => hdefault ⟨by omega, h.2⟩
    rcases Int.lt_or_le limit lanes with hlanes | hlanes
    · have hle := (openGroup_isGreatest hdefault hlimit hlanes).1.2
      omega
    · rw [openGroup_of_le hdefault (.inr hlanes)] at hlt
      omega

/-! ### Launches -/

/-- A launch gets a group size that divides the number of lanes, so there is at least one group and
no lane is left over. It is the size that the launch asks for, if it asks for one. It is within the
limit of the device, if there is one, unless the launch leaves the size open and the device has a
default beyond its own limit that divides the number of lanes. -/
theorem validate_group {k : Kernel} {l : Launch} {g : Int}
    (h : l.validate k default limit = .ok g) :
    1 ≤ g ∧ g ≤ l.lanes ∧ g ∣ l.lanes ∧ (l.groupSize ≠ 0 → g = l.groupSize) ∧
      (0 < limit → (limit < g ↔
        l.groupSize = 0 ∧ limit < default ∧ default ≤ l.lanes ∧ default ∣ l.lanes)) := by
  have haccepted := (groupFor_eq_ok_iff ..).1 h
  have hpos := haccepted.group_pos
  have hdvd := Int.dvd_of_emod_eq_zero haccepted.group_dvd
  have hgroup := haccepted.group_eq
  refine ⟨hpos, Int.le_of_dvd haccepted.lanes_pos hdvd, hdvd, fun hasked => ?_, fun hlimit => ?_⟩
  · rw [hgroup, if_neg hasked]
  · by_cases hopen : l.groupSize = 0
    · rw [hgroup, if_pos hopen, limit_lt_openGroup_iff hlimit]
      exact (and_iff_right hopen).symm
    · have hle := haccepted.size_le hopen hlimit
      rw [hgroup, if_neg hopen]
      exact iff_of_false (Int.not_lt.2 hle) fun h => hopen h.1

/-- A kernel with one heap of eight cells. -/
def oneHeap : Kernel :=
  { heaps := [8] }

/-- A launch of it that leaves the group size open. -/
def overOneHeap (lanes : Int) : Launch :=
  { heaps := #[Heap.zeros 8], lanes }

/-- Fourteen lanes on a device that takes at most eight in a group run in two groups of seven. -/
theorem fourteenLanes_group :
    ∃ g, (overOneHeap 14).validate oneHeap 4 8 = .ok g ∧ g = 7 ∧ 1 ≤ g ∧ g ≤ 14 ∧ g ∣ 14 ∧
      ¬8 < g := by
  have h : (overOneHeap 14).validate oneHeap 4 8 = .ok 7 := ok_of_toOption_eq (by decide +kernel)
  obtain ⟨hpos, hle, hdvd, -, hlimit⟩ := validate_group h
  have hfits : ¬(8 : Int) < 4 := by decide
  exact ⟨7, h, rfl, hpos, hle, hdvd, fun hover => hfits ((hlimit (by decide)).1 hover).2.1⟩

/-- A device with a default of eight lanes in a group and a limit of four gives eight lanes to a
group, although it refuses a launch that asks for that. -/
theorem default_over_limit :
    (overOneHeap 8).validate oneHeap 8 4 = .ok 8 ∧
      { overOneHeap 8 with groupSize := 8 }.validate oneHeap 8 4 = .error (.groupTooLarge 8 4) ∧
      ¬ ∀ (k : Kernel) (l : Launch) (default limit g : Int), l.validate k default limit = .ok g →
        1 ≤ g ∧ g ≤ l.lanes ∧ g ∣ l.lanes ∧ (l.groupSize ≠ 0 → g = l.groupSize) ∧
          (0 < limit → g ≤ limit) := by
  have h : (overOneHeap 8).validate oneHeap 8 4 = .ok 8 := ok_of_toOption_eq (by decide +kernel)
  refine ⟨h, rfl, fun hlaw => ?_⟩
  have hle := (hlaw oneHeap (overOneHeap 8) 8 4 8 h).2.2.2.2 (by decide)
  omega

end Lanewise.Launch
