import Lanewise.Cpu.Stacks

/-!
# The stretches of lane stacks

Under every placement a lane finds a stretch of zeros, because the lanes before it have written only
into their own stretches. A slab is therefore clean from the stretch of the next lane on.

## Main definitions

* `Stacks.Clean`: the stretches of a slab from one on hold zeros and lie inside the slab.
* `Stacks.Ready`: the storage is clean for the next lane.

## Main results

* `Stacks.Ready.take_eq`: the next lane finds zeros.
* `Stacks.Ready.put`, `Stacks.enterGroup_ready`: the storage stays ready from lane to lane.
-/

namespace Lanewise.Stacks

/-- The slab has `count` stretches, and those from `start` on hold zeros. -/
structure Clean (s : Stacks) (start count : Nat) : Prop where
  size_eq : s.slab.size = s.size * count
  zero : ∀ i, start * s.size ≤ i → s.slab.getD i 0 = 0

/-- The storage just before a lane runs, of the given number of lanes. The slab of a group is not
needed any more when all lanes of the group have run. -/
structure Ready (s : Stacks) (lanes lane inGroup : Nat) : Prop where
  shared : s.placement = .shared → s.Clean lane lanes
  grouped : s.placement = .grouped → inGroup < s.group → s.Clean inGroup s.group

@[simp] theorem put_size (s : Stacks) (lane inGroup : Nat) (cells : Array Word) :
    (s.put lane inGroup cells).size = s.size := by
  unfold Stacks.put
  split <;> rfl

@[simp] theorem put_group (s : Stacks) (lane inGroup : Nat) (cells : Array Word) :
    (s.put lane inGroup cells).group = s.group := by
  unfold Stacks.put
  split <;> rfl

@[simp] theorem put_placement (s : Stacks) (lane inGroup : Nat) (cells : Array Word) :
    (s.put lane inGroup cells).placement = s.placement := by
  unfold Stacks.put
  split <;> rfl

@[simp] theorem enterGroup_size (s : Stacks) : s.enterGroup.size = s.size := by
  unfold enterGroup
  split <;> rfl

@[simp] theorem enterGroup_group (s : Stacks) : s.enterGroup.group = s.group := by
  unfold enterGroup
  split <;> rfl

/-- A stretch of a clean slab. -/
theorem Clean.extract_eq {s : Stacks} {start count : Nat} (h : s.Clean start count)
    (hlt : start < count) :
    s.slab.extract (start * s.size) (start * s.size + s.size) = Array.replicate s.size 0 := by
  have hend : start * s.size + s.size ≤ s.slab.size := by
    rw [h.size_eq, Nat.mul_comm s.size, ← Nat.succ_mul]
    exact Nat.mul_le_mul_right _ hlt
  apply Array.ext
  · rw [Array.size_extract, Array.size_replicate]
    omega
  · intro i hi _
    rw [Array.size_extract] at hi
    have hz := h.zero (start * s.size + i) (Nat.le_add_right _ _)
    rw [Array.getElem_extract, Array.getElem_replicate]
    rw [Array.getD_eq_getD_getElem?, Array.getElem?_eq_getElem (by omega)] at hz
    exact hz

/-- Writing `n` cells into a slab changes only the stretch that they are written to. -/
theorem fold_set (slab cells : Array Word) (start n : Nat) :
    let written := n.fold (fun i _ slab => slab.setIfInBounds (start + i) (cells.getD i 0)) slab
    written.size = slab.size ∧
      ∀ j, (j < start ∨ start + n ≤ j) → written.getD j 0 = slab.getD j 0 := by
  induction n with
  | zero => exact ⟨rfl, fun _ _ => rfl⟩
  | succ n ih =>
    obtain ⟨hsize, hkeep⟩ := ih
    dsimp only at hsize hkeep ⊢
    rw [Nat.fold_succ]
    refine ⟨by rw [Array.size_setIfInBounds, hsize], fun j hj => ?_⟩
    rw [← hkeep j (by omega), Array.getD_eq_getD_getElem?,
      Array.getElem?_setIfInBounds_ne (by omega), Array.getD_eq_getD_getElem?]

/-- A lane that has worked on its stretch leaves the later stretches clean. -/
theorem Clean.put {s : Stacks} {lane inGroup start count : Nat} {cells : Array Word}
    (h : s.Clean start count) (hoff : s.offset lane inGroup = start * s.size)
    (hcells : cells.size = s.size) (hplace : s.placement ≠ .separate) :
    (s.put lane inGroup cells).Clean (start + 1) count := by
  obtain ⟨hsize, hkeep⟩ := fold_set s.slab cells (start * s.size) cells.size
  have hput : (s.put lane inGroup cells).slab = cells.size.fold
      (fun i _ slab => slab.setIfInBounds (start * s.size + i) (cells.getD i 0)) s.slab := by
    unfold Stacks.put
    rw [hoff]
    cases hp : s.placement with
    | shared => rfl
    | grouped => rfl
    | separate => exact absurd hp hplace
  refine ⟨?_, fun i hi => ?_⟩
  · rw [hput, put_size]
    exact hsize.trans h.size_eq
  · rw [put_size, Nat.succ_mul] at hi
    rw [hput]
    exact (hkeep i (by omega)).trans (h.zero i (by omega))

/-- The next lane finds zeros, wherever its stack lives. -/
theorem Ready.take_eq {s : Stacks} {lanes lane inGroup : Nat} (h : s.Ready lanes lane inGroup)
    (hlane : lane < lanes) (hgroup : inGroup < s.group) :
    s.take lane inGroup = Array.replicate s.size 0 := by
  unfold take offset
  cases hp : s.placement with
  | shared => exact (h.shared hp).extract_eq hlane
  | grouped => exact (h.grouped hp hgroup).extract_eq hgroup
  | separate => rfl

/-- The storage is ready for the lane after the one that has run. -/
theorem Ready.put {s : Stacks} {lanes lane inGroup : Nat} (h : s.Ready lanes lane inGroup)
    {cells : Array Word} (hcells : cells.size = s.size) :
    (s.put lane inGroup cells).Ready lanes (lane + 1) (inGroup + 1) := by
  refine ⟨fun hp => ?_, fun hp hlt => ?_⟩
  · rw [put_placement] at hp
    exact (h.shared hp).put (by simp only [offset, hp]) hcells (by simp [hp])
  · rw [put_placement] at hp
    rw [put_group] at hlt ⊢
    exact (h.grouped hp (by omega)).put (by simp only [offset, hp]) hcells (by simp [hp])

/-- A launch starts with a clean slab for all lanes, if it has one. -/
theorem create_ready (placement : Placement) (size lanes group : Nat) :
    (create placement size lanes group).Ready lanes 0 group := by
  refine ⟨fun hp => ⟨?_, fun i _ => ?_⟩, fun _ hlt => absurd hlt (Nat.lt_irrefl group)⟩
  · change placement = .shared at hp
    simp [create, hp]
  · change placement = .shared at hp
    simp only [create, if_pos hp, Array.getD_eq_getD_getElem?, Array.getElem?_replicate]
    split <;> rfl

/-- A group starts with a slab of its own, or with what is left of the slab of all lanes. -/
theorem enterGroup_ready {s : Stacks} {lanes lane : Nat}
    (h : s.placement = .shared → s.Clean lane lanes) : s.enterGroup.Ready lanes lane 0 := by
  unfold enterGroup
  by_cases hp : s.placement = .grouped
  · rw [if_pos hp]
    refine ⟨fun hs => ?_, fun _ _ => ⟨by simp, fun i _ => ?_⟩⟩
    · rw [hp] at hs
      cases hs
    · simp only [Array.getD_eq_getD_getElem?, Array.getElem?_replicate]
      split <;> rfl
  · rw [if_neg hp]
    exact ⟨h, fun hg => absurd hg hp⟩

end Lanewise.Stacks
