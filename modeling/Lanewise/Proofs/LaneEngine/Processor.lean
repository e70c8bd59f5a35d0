import Lanewise.Proofs.Device.Handles
import Lanewise.Proofs.Device.LaneOrder
import Lanewise.Proofs.LaneEngine.Commit

/-!
# Lane engines on the host processor

A lane engine prepares its program for its first launch and releases it when it is closed. On the
host processor this leaves nothing behind, and a launch gives what its lanes give one after another.

## Main results

* `LaneEngine.run_close`: an engine leaves the kernels on the processor as they were.
* `LaneEngine.run_of_laneOrder`: a run is a launch in lane order.
* `LaneEngine.validate_eq`, `LaneEngine.run_of_validate`: when a launch is accepted, and how it ends
  then.
-/

namespace Lanewise.LaneEngine

variable {e : LaneEngine Cpu} {c : Cpu}

/-- A launch changes nothing but the heaps. -/
theorem run_eq (e : LaneEngine Cpu) (ctx : Context) (lanes groupSize : Int) :
    ∃ heaps, (e.run ctx lanes groupSize).2 = { (e.prepare ctx).2 with heaps } := by
  unfold LaneEngine.run
  generalize e.prepare ctx = prepared
  obtain ⟨answer, e⟩ := prepared
  cases answer with
  | error err => exact ⟨e.heaps, rfl⟩
  | ok handle =>
    cases hdevice : e.device with
    | none =>
      simp only [hdevice]
      exact ⟨e.heaps, by rw [← hdevice]⟩
    | some c =>
      -- A launch does not change the state of the device.
      have hsame : ∀ l, Backend.execute c ctx handle l = (c.execute ctx handle l, c) := fun _ => rfl
      simp only [hdevice, hsame]
      cases c.execute ctx handle { heaps := e.heaps, lanes, groupSize } with
      | error err => exact ⟨e.heaps, rfl⟩
      | ok done =>
        dsimp only
        split
        · exact ⟨e.heaps, rfl⟩
        · exact ⟨_, rfl⟩

/-- The processor returns heaps of its own, which replace those of the engine. -/
theorem run_heaps {ctx : Context} {lanes groupSize : Int} {done : Completion}
    (h : (e.run ctx lanes groupSize).1 = .ok done) :
      (e.run ctx lanes groupSize).2.heaps = done.heaps := by
  obtain ⟨s, ⟨_, _, -, -, -, rfl⟩, -, hcopied⟩ := run_eq_ok h
  exact hcopied.eq_of_apart

/-- An engine that has prepared nothing leaves the kernels on its device as they were: what it
prepares for a launch is what it releases when it is closed. -/
theorem run_close (hdevice : e.device = some c) (hhandle : e.handle = none) (hc : c.Numbered)
    (ctx : Context) (lanes groupSize : Int) :
    ∃ c', (e.run ctx lanes groupSize).2.close.2.device = some c' ∧ c.Restored c' := by
  obtain ⟨heaps, hrun⟩ := e.run_eq ctx lanes groupSize
  rw [hrun]
  unfold prepare
  rw [hhandle, hdevice]
  dsimp only
  split
  · next c' hprepare => exact ⟨c', rfl, hc.restored_of_error hprepare⟩
  · next handle c' hprepare =>
    have hrestored := hc.restored_release hprepare
    simp only [close]
    split
    · next hrelease =>
      rw [hrelease] at hrestored
      exact ⟨_, rfl, hrestored⟩
    · next hrelease =>
      rw [hrelease] at hrestored
      exact ⟨_, rfl, hrestored⟩

/-- A launch that is answered in lane order is a run of the engine. -/
theorem run_of_laneOrder (hdevice : e.device = some c)
    (hhandle : e.handle = none) (hc : c.Numbered) {k : Compiled} (hk : e.kernel.compile = .ok k)
    (hlane : k.engine = .lane) {lanes groupSize g : Int}
    (hl : ({ heaps := e.heaps, lanes, groupSize } : Launch).validate k.kernel c.defaultGroup
      c.maxGroup = .ok g) {done : Completion}
    (hdone : k.laneOrder c.fuel e.heaps lanes.toNat (lanes / g) = .ok done)
    (hheaps : done.heaps = k.heapsAt c.fuel e.heaps lanes.toNat) :
    (e.run {} lanes groupSize).1 = .ok done := by
  have hadded :
      Backend.prepare c {} e.kernel = (.ok ⟨Handle.idOf c.issued, Cpu.name⟩, c.prepared k) :=
    Cpu.prepare_of_compile hk
  have hexecute :=
    Cpu.execute_of_accepted (c := c.prepared k) (h := ⟨Handle.idOf c.issued, Cpu.name⟩)
      (rfl : ({} : Context).cancelled = false) (hc.kernel?_next k) hl
      (Cpu.startable_of_accepted hk hlane hl)
  refine run_eq_ok_iff.2 ⟨⟨_, ⟨Handle.idOf c.issued, Cpu.name⟩, c.prepared k, ?_, ?_, ?_, rfl⟩, ?_⟩
  · simp only [prepare, hhandle, hdevice, hadded]
  · simp only [prepare, hhandle, hdevice, hadded]
  · exact hexecute.trans hdone
  · rw [hheaps, k.heapsAt_sizes, shape]

/-- A launch that fails in lane order makes the run of the engine fail. -/
theorem run_of_laneOrder_error (hdevice : e.device = some c) (hhandle : e.handle = none)
    (hc : c.Numbered) {k : Compiled} (hk : e.kernel.compile = .ok k) (hlane : k.engine = .lane)
    {lanes groupSize g : Int}
    (hl : ({ heaps := e.heaps, lanes, groupSize } : Launch).validate k.kernel c.defaultGroup
      c.maxGroup = .ok g) {err : Device.Error}
    (herr : k.laneOrder c.fuel e.heaps lanes.toNat (lanes / g) = .error err) :
    (e.run {} lanes groupSize).1 = .error (.device err) ∧
      (e.run {} lanes groupSize).2.heaps = e.heaps := by
  have hadded :
      Backend.prepare c {} e.kernel = (.ok ⟨Handle.idOf c.issued, Cpu.name⟩, c.prepared k) :=
    Cpu.prepare_of_compile hk
  have hexecute : Backend.execute (c.prepared k) {} ⟨Handle.idOf c.issued, Cpu.name⟩
      { heaps := e.heaps, lanes, groupSize } = (.error err, c.prepared k) :=
    congrArg (·, c.prepared k)
      ((Cpu.execute_of_accepted (c := c.prepared k) rfl (hc.kernel?_next k) hl
      (Cpu.startable_of_accepted hk hlane hl)).trans herr)
  unfold LaneEngine.run prepare
  rw [hhandle, hdevice]
  simp only [hadded, hexecute, and_self]

/-! ### Launches that are accepted -/

/-- The kernel of an engine, once compiled, has the stacks and the heaps of the engine, and runs as
lanes. -/
theorem compiled_kernel {k : Compiled} (hk : e.kernel.compile = .ok k) :
    k.engine = .lane ∧ (k.stackSize : Int) = e.kernel.stackCells ∧ 0 < k.stackSize ∧
      k.stackSize ≤ maxStackSize ∧ k.heaps = e.heaps.toList.map Array.size := by
  obtain ⟨program, entry, engine, placement, ha, rfl⟩ := (Kernel.compile_eq_ok_iff _ _).1 hk
  have hstack := Int.toNat_of_nonneg ha.stack_nonneg
  have hpos := ha.stackCells_pos
  have hle := ha.stack_le
  refine ⟨(Except.ok.inj ha.engine_eq).symm, hstack, ?_, ?_, ?_⟩
  · change 0 < e.kernel.stackCells.toNat
    omega
  · change e.kernel.stackCells.toNat ≤ maxStackSize
    omega
  · change (e.heaps.toList.map fun h => (h.size : Int)).map Int.toNat = _
    rw [List.map_map]
    exact List.map_congr_left fun h _ => Int.toNat_natCast h.size

/-- A launch of an engine is accepted if its lanes and their stacks are not too many, and if the
group size that it asks for, if it does, divides the number of lanes within the limit of the
device. -/
theorem validate_eq {k : Compiled} (hk : e.kernel.compile = .ok k)
    {lanes groupSize default limit : Int} (hpos : 0 < lanes) (hle : lanes ≤ maxLanes)
    (hcells : e.kernel.stackCells * lanes ≤ maxStackCells) (hsize : 0 ≤ groupSize)
    (hlimit : groupSize ≠ 0 → 0 < limit → groupSize ≤ limit)
    (hdvd : groupSize ≠ 0 → lanes % groupSize = 0) :
    ({ heaps := e.heaps, lanes, groupSize } : Launch).validate k.kernel default limit =
      .ok (if groupSize = 0 then Launch.openGroup lanes default limit else groupSize) := by
  obtain ⟨hengine, hstack, hstackPos, -, hheaps⟩ := compiled_kernel hk
  rw [← hstack] at hcells
  refine (Launch.groupFor_eq_ok_iff ..).2 ?_
  constructor
  case lanes_pos => exact hpos
  case lanes_le => exact hle
  case single_lane =>
    intro hsequential
    rw [Kernel.sequential, Compiled.kernel, hengine] at hsequential
    cases hsequential
  case cells_le =>
    have hne : k.kernel.stackSize ≠ 0 := Int.ne_of_gt (Int.natCast_pos.2 hstackPos)
    have hnonneg : 0 ≤ (k.stackSize : Int) * lanes := Int.mul_nonneg (by omega) (by omega)
    have hbound : maxStackCells < 0x8000000000000000 := by decide
    rw [if_neg hne, ← Int64.ofInt_mul]
    change (Int64.ofInt (k.stackSize * lanes)).toInt ≤ _
    rw [Int64.toInt_ofInt_of_le (by omega) (by omega)]
    exact hcells
  case heap_sizes =>
    change (e.heaps.toList.map Array.size).map Int.ofNat = k.heaps.map Int.ofNat
    rw [hheaps]
  case size_nonneg => exact hsize
  case group_eq => rfl
  case size_le => exact hlimit
  case size_dvd => exact hdvd

/-- If the launch of an engine gets a group size, then the run succeeds with this group size, or it
fails for another reason than a launch that is refused. -/
theorem run_of_validate (hdevice : e.device = some c) (hhandle : e.handle = none) (hc : c.Numbered)
    {lanes groupSize g : Int} (hvalid : ∀ k, e.kernel.compile = .ok k →
      ({ heaps := e.heaps, lanes, groupSize } : Launch).validate k.kernel c.defaultGroup
        c.maxGroup = .ok g) (ctx : Context) :
    (∃ done, (e.run ctx lanes groupSize).1 = .ok done ∧ done.groups = lanes / g) ∨
      ∃ err, (e.run ctx lanes groupSize).1 = .error (.device err) ∧
        ∀ why, err ≠ .launchFailure why := by
  unfold LaneEngine.run prepare
  rw [hhandle, hdevice]
  cases hctx : ctx.cancelled with
  | true =>
    have hprepare :
        Backend.prepare c ctx e.kernel = (.error (.unavailable Context.cancelledText), c) :=
      if_pos hctx
    simp only [hprepare]
    exact .inr ⟨_, rfl, fun _ h => by cases h⟩
  | false =>
    have hopen : ¬ctx.cancelled = true := Bool.eq_false_iff.1 hctx
    cases hk : e.kernel.compile with
    | error err =>
      have hprepare :
          Backend.prepare c ctx e.kernel = (.error (.compileFailure err.message), c) := by
        change c.prepare ctx e.kernel = _
        rw [Cpu.prepare, if_neg hopen, hk]
      simp only [hprepare]
      exact .inr ⟨_, rfl, fun _ h => by cases h⟩
    | ok k =>
      have hprepare : Backend.prepare c ctx e.kernel =
          (.ok ⟨Handle.idOf c.issued, Cpu.name⟩, c.prepared k) := by
        change c.prepare ctx e.kernel = _
        rw [Cpu.prepare, if_neg hopen, hk]
        rfl
      have hlane := (compiled_kernel hk).1
      have hl := hvalid k hk
      have hexecute : Backend.execute (c.prepared k) ctx ⟨Handle.idOf c.issued, Cpu.name⟩
          { heaps := e.heaps, lanes, groupSize } =
            (k.laneOrder c.fuel e.heaps lanes.toNat (lanes / g), c.prepared k) :=
        congrArg (·, c.prepared k)
          (Cpu.execute_of_accepted (c := c.prepared k) hctx (hc.kernel?_next k) hl
          (Cpu.startable_of_accepted hk hlane hl))
      simp only [hprepare, hexecute]
      rcases k.laneOrder_cases c.fuel e.heaps lanes.toNat (lanes / g) with
        ⟨done, hdone, hheaps, hgroups⟩ | hdone | ⟨faults, hdone⟩
      · have hfits : misfit? e.heaps.toList done.heaps.toList = none :=
          misfit?_toList_eq_none_iff.2 (by rw [hheaps, k.heapsAt_sizes])
        simp only [hdone, hfits]
        exact .inl ⟨done, rfl, hgroups⟩
      · simp only [hdone]
        exact .inr ⟨_, rfl, fun _ h => by cases h⟩
      · simp only [hdone]
        exact .inr ⟨_, rfl, fun _ h => by cases h⟩

end Lanewise.LaneEngine
