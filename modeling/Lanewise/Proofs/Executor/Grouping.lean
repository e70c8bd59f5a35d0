import Lanewise.Cli.Basic
import Lanewise.Proofs.Device.GroupSize
import Lanewise.Proofs.Device.Histories
import Lanewise.Proofs.Executor.Recorded

/-!
# Grouping of lanes

A request for a run over lanes may leave the group size open. The executor puts in the configured
size if it divides the number of lanes, and otherwise leaves the choice to the processor, which has
the same size as its default and a greatest size from the same configuration. A configuration that
has been checked does not let the one exceed the other, so a launch that leaves the group size open
is never refused for it.

## Main definitions

* `Config.Valid`: a configuration whose values are in their ranges.
* `Config.Groups`: the size of the groups into which a configuration divides lanes.
* `Executor.BuiltFrom`: an executor and its processor, set up from a configuration.
* `Executor.RefusedLaunch`: an answer that says that a launch was refused.

## Main results

* `Config.check_eq_ok_iff`: what is checked of a configuration.
* `Executor.BuiltFrom.serve`: runs do not change what was set up.
* `Executor.runLanes_grouped`: runs that leave the group size open.
-/

namespace Lanewise

/-! ### Configurations -/

namespace Config

/-- The values of a configuration are in their ranges. -/
structure Valid (c : Config) : Prop where
  stackSize_pos : 0 < c.machine.stackSize
  stackSize_le : c.machine.stackSize ≤ maxStackSize
  heapSize_pos : 0 < c.machine.heapSize
  heapSize_le : c.machine.heapSize ≤ maxHeapSize
  placement_known : (Placement.ofName? c.device.placement).isSome = true
  platform_nonneg : 0 ≤ c.device.platform
  workers_nonneg : 0 ≤ c.device.workers
  groupSize_nonneg : 0 ≤ c.device.groupSize
  maxGroupSize_nonneg : 0 ≤ c.device.maxGroupSize
  groupSize_le : 0 < c.device.maxGroupSize → c.device.groupSize ≤ c.device.maxGroupSize
  port_nonneg : 0 ≤ c.dashboard.port
  port_le : c.dashboard.port ≤ 65535
  maxRequestSize_pos : 0 < c.rpc.maxRequestSize
  logLevel_known : logLevels.contains (Text.lower c.logLevel) = true

theorem check_eq_ok_iff (c : Config) : c.check = .ok () ↔ c.Valid := by
  simp only [check, bind, Except.bind, pure, Except.pure, throw, throwThe, MonadExceptOf.throw]
  iterate 10 rw [guard_eq_ok_iff]
  constructor
  · rintro ⟨hstack, hheap, hplacement, hplatform, hworkers, hsizes, hexceeds, hport, hrequest,
      hlevel, -⟩
    rw [← Option.not_isSome, Bool.not_eq_true', Bool.not_eq_false] at hplacement
    rw [Bool.not_eq_true', Bool.not_eq_false] at hlevel
    constructor
    case placement_known => exact hplacement
    case logLevel_known => exact hlevel
    all_goals omega
  · intro h
    have hplacement : ¬(Placement.ofName? c.device.placement).isNone = true := by
      rw [← Option.not_isSome, h.placement_known]
      exact Bool.false_ne_true
    have hlevel : ¬(!logLevels.contains (Text.lower c.logLevel)) = true := by
      rw [h.logLevel_known]
      exact Bool.false_ne_true
    obtain ⟨hstack, hstackLe, hheap, hheapLe, -, hplatform, hworkers, hsize, hgreatest, hexceeds,
      hport, hportLe, hrequest, -⟩ := h
    exact ⟨by omega, by omega, hplacement, by omega, by omega, by omega,
      fun h => by omega, by omega, by omega, hlevel, rfl⟩

/-- The size of the groups into which a configuration divides lanes if nothing else is asked for:
the configured size if it divides their number, and otherwise all of them, or the greatest divisor
within the greatest size if that is set and less. -/
def Groups (c : Config) (lanes g : Int) : Prop :=
  if 0 < c.device.groupSize ∧ c.device.groupSize ∣ lanes then g = c.device.groupSize
  else if c.device.maxGroupSize = 0 ∨ lanes ≤ c.device.maxGroupSize then g = lanes
  else IsGreatest {d : Int | d ∣ lanes ∧ d ≤ c.device.maxGroupSize} g

end Config

/-- The texts of errors differ in their eighth characters from that of a launch that is refused. -/
theorem Device.Error.launchFailure_of_message {e : Device.Error} {why : String}
    (h : e.message = (launchFailure why).message) : ∃ why, e = .launchFailure why := by
  have hfront {a : String} (b : String) (ha : 7 < a.toList.length) :
      (a ++ b).toList[7]? = a.toList[7]? := by
    rw [String.toList_append, List.getElem?_append_left ha]
  have hfault (fs : List Fault) : (laneFaultText fs).toList[7]? = some 'u' := by
    unfold laneFaultText
    split
    · exact hfront _ (by decide)
    · rw [String.append_assoc, String.append_assoc]
      exact hfront _ (by decide)
  have hchar : e.message.toList[7]? = some 'f' := by
    rw [h]
    exact hfront why (by decide)
  cases e with
  | launchFailure other => exact ⟨other, rfl⟩
  | unavailable other => exact absurd ((hfront other (by decide)).symm.trans hchar) (by decide)
  | compileFailure other => exact absurd ((hfront other (by decide)).symm.trans hchar) (by decide)
  | laneFault fs => exact absurd ((hfault fs).symm.trans hchar) (by decide)
  | poolClosed => exact absurd hchar (by decide)
  | badTurn turn =>
    change ("no endpoint has the number " ++ toString turn).toList[7]? = _ at hchar
    exact absurd ((hfront _ (by decide)).symm.trans hchar) (by decide)
  | unfinished => exact absurd hchar (by decide)

namespace Executor

/-! ### Executors that are set up from a configuration -/

/-- An executor runs on a processor, and what both leave to a configuration is as it says. -/
structure BuiltFrom (e : Executor Cpu) (cfg : Config) (c : Cpu) : Prop where
  config_eq : e.config = Cli.executorConfig cfg
  device_eq : e.device = some c
  settings_eq : c.settings = (Cli.processor cfg c.fuel).settings
  numbered : c.Numbered

namespace BuiltFrom

variable {e : Executor Cpu} {cfg : Config} {c : Cpu}

/-- A new executor is set up from its configuration. -/
theorem start (cfg : Config) (registry : Registry) (journal : Option Run.Journal)
    (fuel laneFuel : Nat) :
    BuiltFrom
      { config := Cli.executorConfig cfg, registry, journal, fuel,
        device := some (Cli.processor cfg laneFuel) }
      cfg (Cli.processor cfg laneFuel) :=
  ⟨rfl, rfl, rfl, nofun⟩

theorem defaultGroup_eq (h : e.BuiltFrom cfg c) : c.defaultGroup = cfg.device.groupSize :=
  congrArg (·.1) h.settings_eq

theorem maxGroup_eq (h : e.BuiltFrom cfg c) : c.maxGroup = cfg.device.maxGroupSize :=
  congrArg (·.2.1) h.settings_eq

theorem load (h : e.BuiltFrom cfg c) (id : ProgramId) : (e.load id).2.BuiltFrom cfg c := by
  obtain ⟨cache, heq⟩ := e.load_eq id
  rw [heq]
  exact ⟨h.config_eq, h.device_eq, h.settings_eq, h.numbered⟩

theorem deploy (h : e.BuiltFrom cfg c) (img : Image) : (e.deploy img).2.BuiltFrom cfg c := by
  unfold Executor.deploy
  split
  · exact h
  · unfold remember
    split
    · exact ⟨h.config_eq, h.device_eq, h.settings_eq, h.numbered⟩
    · exact ⟨h.config_eq, h.device_eq, h.settings_eq, h.numbered⟩

/-- A processor that has its kernels again has its settings too. -/
theorem restored (h : e.BuiltFrom cfg c) {c' : Cpu} (hc' : c.Restored c')
    (journal : Option Run.Journal) (timed : Nat) :
    BuiltFrom { e with device := some c', journal, timed } cfg c' := by
  refine ⟨h.config_eq, rfl, ?_, hc'.numbered⟩
  obtain ⟨issued, rfl⟩ := hc'.same
  exact h.settings_eq

/-- Runs do not change what was set up. -/
theorem serve (h : e.BuiltFrom cfg c) (ctx : Context) (q : Request) :
    ∃ c', (e.serve ctx q).2.BuiltFrom cfg c' := by
  cases q with
  | sequential r =>
    have hload := h.load r.program
    change ∃ c', (e.runSequential ctx r).2.BuiltFrom cfg c'
    rcases e.runSequential_cases ctx r with ⟨err, hrun⟩ | ⟨img, l, hrun | hrun⟩
    · rw [hrun]
      exact ⟨c, hload⟩
    · obtain ⟨c', journal, timed, hrestored, heq⟩ :=
        onDevice_leaves hload.device_eq h.numbered ctx img r l
      rw [hrun, heq]
      exact ⟨c', hload.restored hrestored journal timed⟩
    · obtain ⟨journal, timed, heq⟩ := (e.load r.program).2.onHost_eq img r l
      rw [hrun, heq]
      exact ⟨c, hload.config_eq, hload.device_eq, h.settings_eq, h.numbered⟩
  | lanes r =>
    have hload := h.load r.program
    change ∃ c', (e.runLanes ctx r).2.BuiltFrom cfg c'
    rcases e.runLanes_cases ctx r with
        ⟨err, e', -, rfl | rfl, hrun⟩ | ⟨device, config, engine, hsets, hrun⟩
    · rw [hrun]
      exact ⟨c, h⟩
    · rw [hrun]
      exact ⟨c, hload⟩
    · obtain rfl : device = c := Option.some.inj (hsets.device_eq.symm.trans h.device_eq)
      obtain ⟨c', journal, timed, hrestored, heq⟩ :=
        finishLanes_leaves hsets.engine_device hsets.handle_eq h.numbered (e.load r.program).2 ctx r
          config (Backend.name device)
      rw [hrun, heq]
      exact ⟨c', hload.restored hrestored journal timed⟩

end BuiltFrom

/-- A lane has the stack that the request asks for, or else the configured one. -/
theorem BuiltFrom.stackCells_eq {e : Executor Cpu} {cfg : Config} {c : Cpu} (h : e.BuiltFrom cfg c)
    (hcfg : cfg.Valid) {r : LaneRequest} {config : LaneConfig} {engine : LaneEngine Cpu}
    (hsets : e.SetsUp r c config engine) :
    engine.kernel.stackCells = orElse r.stackSize cfg.machine.stackSize := by
  have hconfig : config.stackSize = orElse r.stackSize cfg.machine.stackSize := by
    have hlayout := hsets.layout_eq
    simp only [laneConfig] at hlayout
    rw [guard_eq_ok_iff] at hlayout
    rw [← Except.ok.inj hlayout.2, h.config_eq]
    rfl
  have hne : config.stackSize ≠ 0 := by
    rw [hconfig, orElse]
    have hpos := hcfg.stackSize_pos
    split <;> omega
  obtain ⟨img, heaps, -, rfl⟩ := hsets.engine_eq
  change (if LaneEngine.orDefault config.stackSize defaultStackSize = 0 then
    (defaultStackSize : Int)
    else LaneEngine.orDefault config.stackSize defaultStackSize) = _
  rw [LaneEngine.orDefault, if_neg hne, if_neg hne, hconfig]

/-! ### The size of groups -/

/-- The executor puts in the configured size if it divides the number of lanes. -/
theorem groupSizeFor_open {cfg : Config} (hcfg : 0 ≤ cfg.device.groupSize) {r : LaneRequest}
    (hopen : r.groupSize = 0) :
    groupSizeFor (Cli.executorConfig cfg) r =
      if 0 < cfg.device.groupSize ∧ cfg.device.groupSize ∣ r.lanes then cfg.device.groupSize
        else 0 := by
  have hasked : ¬r.groupSize ≠ 0 := fun h => h hopen
  change (if r.groupSize ≠ 0 then r.groupSize
    else if 0 < cfg.device.groupSize ∧ r.lanes.tmod cfg.device.groupSize ≠ 0 then 0
    else cfg.device.groupSize) = _
  rw [if_neg hasked]
  by_cases hpos : 0 < cfg.device.groupSize
  · by_cases hdvd : cfg.device.groupSize ∣ r.lanes
    · rw [if_neg fun h => h.2 (Int.dvd_iff_tmod_eq_zero.1 hdvd), if_pos ⟨hpos, hdvd⟩]
    · rw [if_pos ⟨hpos, fun h => hdvd (Int.dvd_iff_tmod_eq_zero.2 h)⟩, if_neg fun h => hdvd h.2]
  · rw [if_neg fun h => hpos h.1, if_neg fun h => hpos h.1]
    omega

/-- What the executor leaves open, the processor settles as the configuration says. -/
theorem groups_of_open {cfg : Config} (hcfg : cfg.Valid) {r : LaneRequest}
    (hopen : r.groupSize = 0) :
    cfg.Groups r.lanes
      (if groupSizeFor (Cli.executorConfig cfg) r = 0 then
          Launch.openGroup r.lanes cfg.device.groupSize cfg.device.maxGroupSize
        else groupSizeFor (Cli.executorConfig cfg) r) := by
  rw [groupSizeFor_open hcfg.groupSize_nonneg hopen, Config.Groups]
  by_cases hdvd : 0 < cfg.device.groupSize ∧ cfg.device.groupSize ∣ r.lanes
  · rw [if_pos hdvd, if_pos hdvd, if_neg (Int.ne_of_gt hdvd.1)]
  · have hdefault : ¬(0 < cfg.device.groupSize ∧ cfg.device.groupSize ≤ r.lanes ∧
        cfg.device.groupSize ∣ r.lanes) := fun h => hdvd ⟨h.1, h.2.2⟩
    have hnonneg := hcfg.maxGroupSize_nonneg
    rw [if_neg hdvd, if_neg hdvd, if_pos rfl]
    split
    · next hlimit => exact Launch.openGroup_of_le hdefault (by omega)
    · next hlimit => exact Launch.openGroup_isGreatest hdefault (by omega) (by omega)

/-- The device is asked for a size that it can give. -/
theorem validate_open {e : Executor Cpu} {cfg : Config} {c : Cpu} (hcfg : cfg.Valid)
    (h : e.BuiltFrom cfg c) {r : LaneRequest} (hopen : r.groupSize = 0) (hpos : 0 < r.lanes)
    (hle : r.lanes ≤ maxLanes)
    (hcells : orElse r.stackSize cfg.machine.stackSize * r.lanes ≤ maxStackCells) :
    ∃ g, cfg.Groups r.lanes g ∧ ∀ config engine k, e.SetsUp r c config engine →
      engine.kernel.compile = .ok k →
        ({ heaps := engine.heaps, lanes := r.lanes, groupSize := groupSizeFor e.config r } :
          Launch).validate
          k.kernel c.defaultGroup c.maxGroup = .ok g := by
  refine ⟨_, groups_of_open hcfg hopen, fun config engine k hsets hk => ?_⟩
  have hsize := groupSizeFor_open hcfg.groupSize_nonneg hopen
  rw [h.config_eq, h.defaultGroup_eq, h.maxGroup_eq]
  refine LaneEngine.validate_eq hk hpos hle ?_ ?_ ?_ ?_
  · rwa [h.stackCells_eq hcfg hsets]
  · rw [hsize]
    split
    · exact hcfg.groupSize_nonneg
    · exact Int.le_refl 0
  · intro _ hlimit
    rw [hsize]
    split
    · exact hcfg.groupSize_le hlimit
    · exact Int.le_of_lt hlimit
  · intro hne
    rw [hsize] at hne ⊢
    split
    · next hdvd => exact Int.emod_eq_zero_of_dvd hdvd.2
    · next hdvd => exact absurd (if_neg hdvd) hne

/-! ### Runs that leave the group size open -/

/-- An answer that says that a launch was refused. -/
def RefusedLaunch : Except Error Execution → Prop
  | .error err => ∃ why, err = .device (.launchFailure why)
  | .ok x => ∃ why, x.error = (Device.Error.launchFailure why).message

/-- A run that ends well, or for another reason than a launch that is refused, has an answer that
says so. -/
theorem finishLanes_grouped {e : Executor Cpu} {ctx : Context} {r : LaneRequest}
    {engine : LaneEngine Cpu} {g : Int}
    (hrun : (∃ done, (engine.run ctx r.lanes (groupSizeFor e.config r)).1 = .ok done ∧
        done.groups = r.lanes / g) ∨
      ∃ err, (engine.run ctx r.lanes (groupSizeFor e.config r)).1 = .error (.device err) ∧
        ∀ why, err ≠ .launchFailure why) (config : LaneConfig) (platform : String) :
    ¬RefusedLaunch (e.finishLanes ctx r config engine platform).1 ∧
      ∀ x, (e.finishLanes ctx r config engine platform).1 = .ok x → x.success = true →
        x.groups = r.lanes / g := by
  -- Recording a result changes its identifier only, and timing it its time.
  let e' : Executor Cpu :=
    { e with device := (engine.run ctx r.lanes (groupSizeFor e.config r)).2.close.2.device }
  unfold finishLanes
  rcases hrun with ⟨done, hdone, hgroups⟩ | ⟨err, herr, hother⟩
  · simp only [hdone]
    obtain ⟨runId, journal, hrecord⟩ := (e'.clock _).2.record_eq _ _
    rw [hrecord]
    refine ⟨?_, fun x hx _ => ?_⟩
    · rintro ⟨why, htext⟩
      exact absurd (String.append_eq_empty_iff.1 htext.symm).1 (by decide)
    · rw [← Except.ok.inj hx]
      exact hgroups
  · simp only [herr]
    split
    · next heq => cases heq
    · exact ⟨nofun, nofun⟩
    · next err' _ heq =>
      obtain rfl : err = err' := by cases heq; rfl
      split
      · refine ⟨?_, nofun⟩
        rintro ⟨why, heq⟩
        exact hother why (Error.device.inj heq)
      · obtain ⟨runId, journal, hrecord⟩ := e'.record_eq _ _
        rw [hrecord]
        refine ⟨?_, fun x hx hsuccess => ?_⟩
        · rintro ⟨why, htext⟩
          rw [Execution.failDevice_error] at htext
          obtain ⟨why, heq⟩ := Device.Error.launchFailure_of_message htext
          exact hother why heq
        · rw [← Except.ok.inj hx, Execution.failDevice_success] at hsuccess
          cases hsuccess
    · next hne heq => exact absurd (Except.error.inj heq).symm (hne _)

/-- A configuration that has been checked, and an executor and a processor that have been set up
from it: a run that leaves the group size open is not refused as a launch if the number of its lanes
is in its range and their stacks are not too many. The launch gets the group size that the
configuration says, and a run that succeeds has as many groups as that gives. -/
theorem runLanes_grouped {cfg : Config} (hcfg : cfg.check = .ok ()) {e : Executor Cpu} {c : Cpu}
    (h : e.BuiltFrom cfg c) (ctx : Context) {r : LaneRequest} (hopen : r.groupSize = 0)
    (hpos : 0 < r.lanes) (hle : r.lanes ≤ maxLanes)
    (hcells : orElse r.stackSize cfg.machine.stackSize * r.lanes ≤ maxStackCells) :
    ∃ g, cfg.Groups r.lanes g ∧ ¬RefusedLaunch (e.runLanes ctx r).1 ∧
      (∀ config engine k, e.SetsUp r c config engine → engine.kernel.compile = .ok k →
        ({ heaps := engine.heaps, lanes := r.lanes, groupSize := groupSizeFor e.config r } :
          Launch).validate
          k.kernel c.defaultGroup c.maxGroup = .ok g) ∧
      ∀ x, (e.runLanes ctx r).1 = .ok x → x.success = true → x.groups = r.lanes / g := by
  have hvalid := (cfg.check_eq_ok_iff).1 hcfg
  obtain ⟨g, hgroups, hvalidate⟩ := validate_open hvalid h hopen hpos hle hcells
  refine ⟨g, hgroups, ?_⟩
  rcases e.runLanes_cases ctx r with
      ⟨err, e', hother, -, hrun⟩ | ⟨device, config, engine, hsets, hrun⟩
  · rw [hrun]
    refine ⟨?_, hvalidate, nofun⟩
    rintro ⟨why, heq⟩
    exact hother _ heq
  · obtain rfl : device = c := Option.some.inj (hsets.device_eq.symm.trans h.device_eq)
    obtain ⟨cache, hload⟩ := e.load_eq r.program
    have hends := LaneEngine.run_of_validate hsets.engine_device hsets.handle_eq h.numbered
      (hvalidate config engine · hsets) ctx
    obtain ⟨hrefused, hcount⟩ := finishLanes_grouped (e := (e.load r.program).2) (r := r) (g := g)
      (by rw [hload]; exact hends) config (Backend.name device)
    rw [hrun]
    exact ⟨hrefused, hvalidate, hcount⟩

/-- A configuration with four lanes in a group, and at most eight. -/
def fourInGroup : Config :=
  { dataDir := "", device := { groupSize := 4, maxGroupSize := 8 } }

/-- An executor that has been set up from it, to which a program that halts has been deployed. -/
def halvesFourteen : Executor Cpu :=
  (deploy
    { config := Cli.executorConfig fourInGroup, registry := .memory {}
      device := some (Cli.processor fourInGroup 9), journal := none, fuel := 5 } halting).2

/-- Fourteen lanes run in two groups of seven: four is no divisor, and fourteen are too many. -/
theorem fourteenHalts_groups :
    fourInGroup.check = .ok () ∧ fourInGroup.Groups 14 7 ∧
      ∃ x, (halvesFourteen.runLanes {} (halts 14)).1 = .ok x ∧ x.success = true ∧ x.groups = 2 := by
  have hcfg : fourInGroup.check = .ok () := ok_of_toOption_eq (by decide +kernel)
  have hbuilt : halvesFourteen.BuiltFrom fourInGroup (Cli.processor fourInGroup 9) :=
    (BuiltFrom.start fourInGroup _ _ 5 9).deploy halting
  obtain ⟨g, hgroups, -, -, hcount⟩ :=
    runLanes_grouped hcfg hbuilt {} (r := halts 14) rfl (by decide) (by decide) (by decide)
  have hseven : g = 7 := by
    have hgreatest : IsGreatest {d : Int | d ∣ 14 ∧ d ≤ 8} g := hgroups
    have hle : g ≤ 8 := hgreatest.1.2
    have hge : 7 ≤ g := hgreatest.2 ⟨by decide, by decide⟩
    have hne : g ≠ 8 := fun heq => absurd (heq ▸ hgreatest.1.1) (by decide)
    omega
  subst hseven
  have hends : (halvesFourteen.runLanes {} (halts 14)).1.toOption.map (·.success) = some true := by
    decide +kernel
  cases hx : (halvesFourteen.runLanes {} (halts 14)).1 with
  | error err =>
    rw [hx] at hends
    cases hends
  | ok x =>
    rw [hx] at hends
    have hsuccess : x.success = true := Option.some.inj hends
    exact ⟨hcfg, hgroups, x, rfl, hsuccess, hcount x hx hsuccess⟩

end Executor

end Lanewise
