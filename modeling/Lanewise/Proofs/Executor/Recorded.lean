import Lanewise.Proofs.Executor.Reachable
import Lanewise.Proofs.Run.Insertion

/-!
# What runs leave behind

A run is refused, and then nothing is recorded, or it has a result, and then one record of it is
stored. There are three ways to run a program, and each of them ends in one of these two ways
wherever it ends. None leaves a kernel on the device: what was prepared is released, whether it was
launched or not.

A record with more rows than a list may have is stored, but cannot be read back.

## Main definitions

* `Executor.Request`, `Executor.serve`: a run of either kind.
* `Executor.Ends`: how a run can end.
* `Run.Record.Tells`: a record that says what a result says.

## Main results

* `Executor.serve_ends`: every run is refused or recorded.
* `Executor.serve_kernels`: no run changes the kernels on the device.
* `Executor.serve_recorded`: what is recorded.
-/

namespace Lanewise

/-! ### Results -/

theorem Run.Status.name_inj {s s' : Status} : s.name = s'.name ↔ s = s' := by
  cases s <;> cases s' <;> simp [name]

/-- A record says what a result says. -/
structure Run.Record.Tells (r : Record) (x : Execution) : Prop where
  id_eq : r.id = x.runId
  program_eq : r.program = x.program
  mode_eq : r.mode = x.mode.name
  steps_eq : r.steps = x.steps
  elapsed_eq : r.elapsed = x.elapsed
  printed_eq : r.printed = x.printed
  error_eq : r.error = x.error
  ok_iff : r.status = Status.ok.name ↔ x.success = true
  faulted_iff : r.status = Status.faulted.name ↔ x.faults ≠ []
  failed_iff : r.status = Status.failed.name ↔ x.success = false ∧ x.faults = []

namespace Execution

theorem failDevice_success (x : Execution) (e : Device.Error) :
    (x.failDevice e).success = false := by
  cases e <;> rfl

theorem failDevice_error (x : Execution) (e : Device.Error) :
    (x.failDevice e).error = e.message := by
  cases e <;> rfl

/-- The record of a result says what the result says, under the identifier that it is stored
with. -/
theorem record_tells {x : Execution} (hx : x.success = true → x.faults = []) (about : Run.Record)
    (id : String) (seq : UInt64) (started : Timestamp) :
    Run.Record.Tells { x.record about with id, seq, started } { x with runId := id } := by
  have hstatus : x.status =
      if x.success then .ok else if x.faults.isEmpty then .failed else .faulted := rfl
  refine ⟨rfl, rfl, rfl, rfl, rfl, rfl, rfl, Run.Status.name_inj.trans ?_,
    Run.Status.name_inj.trans ?_, Run.Status.name_inj.trans ?_⟩
  all_goals
    rw [hstatus]
    cases hsuccess : x.success with
    | true => simp [hx hsuccess]
    | false => cases x.faults <;> simp

end Execution

namespace Executor

variable {σ : Type}

/-! ### How runs end -/

/-- A run is refused and leaves the journal as it was, or its result is recorded. -/
inductive Ends (e : Executor σ) : Except Error Execution × Executor σ → Prop
  | refused (err : Error) {e' : Executor σ} (h : e'.journal = e.journal) : Ends e (.error err, e')
  | recorded {e' : Executor σ} (h : e'.journal = e.journal) {x : Execution} {about : Run.Record}
      (hid : about.id = "") (hstarted : about.started = .zero)
      (hx : x.success = true → x.faults = []) :
      Ends e (.ok (e'.record x about).1, (e'.record x about).2)

theorem Ends.congr {e e' : Executor σ} {ending : Except Error Execution × Executor σ}
    (h : e'.Ends ending) (hjournal : e'.journal = e.journal) : e.Ends ending := by
  cases h with
  | refused err h => exact .refused err (h.trans hjournal)
  | recorded h hid hstarted hx => exact .recorded (h.trans hjournal) hid hstarted hx

/-- A result that is recorded in a journal that is ready has one record, which says what it says. -/
theorem record_stores {j : Run.Journal} {given : List Run.Record} (hready : j.Ready given)
    {e : Executor σ} (hjournal : e.journal = some j) {x : Execution} {about : Run.Record}
    (hid : about.id = "") (hstarted : about.started = .zero)
    (hx : x.success = true → x.faults = []) :
    ∃ r j', (e.record x about).2.journal = some j' ∧ j.Stores j' given r ∧
      r.Tells (e.record x about).1 := by
  obtain ⟨id, seq, started, j', hinsert, hstores⟩ := hready.insert (r := x.record about) hid
    (hstarted ▸ Timestamp.zero_shown)
  refine ⟨_, j', ?_, hstores, ?_⟩
  · simp only [record, hjournal, hinsert]
  · simp only [record, hjournal, hinsert]
    exact Execution.record_tells hx about id seq started

/-- However a run ends, the journal has one record for each result. -/
theorem Ends.stores {e : Executor σ} {ending : Except Error Execution × Executor σ}
    (h : e.Ends ending) {j : Run.Journal} (hjournal : e.journal = some j)
    {given : List Run.Record} (hready : j.Ready given) :
    (∃ err, ending.1 = .error err ∧ ending.2.journal = some j) ∨
      ∃ x r j', ending.1 = .ok x ∧ ending.2.journal = some j' ∧ j.Stores j' given r ∧
        r.Tells x := by
  cases h with
  | refused err h => exact .inl ⟨err, rfl, h.trans hjournal⟩
  | recorded h hid hstarted hx =>
    obtain ⟨r, j', hj', hstores, htells⟩ := record_stores hready (h.trans hjournal) hid hstarted hx
    exact .inr ⟨_, r, j', rfl, hj', hstores, htells⟩

/-- A result that is timed is recorded with its time. -/
theorem clock_ends {e e' : Executor σ} (h : e'.journal = e.journal) {x : Execution}
    {about : Run.Record} (hid : about.id = "") (hstarted : about.started = .zero)
    (hx : x.success = true → x.faults = []) :
    e.Ends (.ok ((e'.clock x).2.record (e'.clock x).1 about).1,
      ((e'.clock x).2.record (e'.clock x).1 about).2) := by
  have hjournal : (e'.clock x).2.journal = e.journal := h
  exact .recorded hjournal hid hstarted hx

theorem onHost_ends (e : Executor σ) (img : Image) (r : SequentialRequest) (l : Limits) :
    e.Ends (e.onHost img r l) := by
  unfold onHost
  split
  · exact .refused _ rfl
  · next m _ =>
    dsimp only
    generalize (if r.initHeap then m.initHeap else m.setHeap r.heap).run e.fuel = ran
    obtain ⟨m, outcome⟩ := ran
    cases outcome with
    | halted result => exact clock_ends rfl rfl rfl fun _ => rfl
    | faulted f => exact clock_ends rfl rfl rfl nofun
    | notRunnable => exact clock_ends rfl rfl rfl nofun
    | unfinished => exact .refused _ rfl

/-- A device error is passed on, or recorded as a failure. -/
theorem failed_ends {e e' : Executor σ} (h : e'.journal = e.journal) (err : Device.Error)
    (x : Execution) {about : Run.Record} (hid : about.id = "") (hstarted : about.started = .zero) :
    e.Ends (if isInfrastructure err then (.error (.device err), e')
      else (.ok (e'.record (x.failDevice err) about).1,
        (e'.record (x.failDevice err) about).2)) := by
  split
  · exact .refused _ h
  · refine .recorded h hid hstarted fun hsuccess => ?_
    rw [Execution.failDevice_success] at hsuccess
    cases hsuccess

section

variable [Backend σ]

theorem onDevice_ends (e : Executor σ) (ctx : Context) (img : Image) (r : SequentialRequest)
    (l : Limits) : e.Ends (e.onDevice ctx img r l) := by
  unfold onDevice
  split
  · exact .refused _ rfl
  · dsimp only
    -- The executor that records is read off the answer first; only then can the equations about it
    -- be closed.
    split
    · refine failed_ends ?_ _ _ ?_ ?_ <;> rfl
    · split
      · exact .refused _ rfl
      · refine failed_ends ?_ _ _ ?_ ?_ <;> rfl
      · refine clock_ends ?_ ?_ ?_ fun _ => ?_ <;> rfl

theorem runSequential_ends (e : Executor σ) (ctx : Context) (r : SequentialRequest) :
    e.Ends (e.runSequential ctx r) := by
  have hjournal := e.load_journal r.program
  rcases e.runSequential_cases ctx r with ⟨err, hrun⟩ | ⟨img, l, hrun | hrun⟩
  · rw [hrun]
    exact .refused err hjournal
  · rw [hrun]
    exact (onDevice_ends _ ctx img r l).congr hjournal
  · rw [hrun]
    exact (onHost_ends _ img r l).congr hjournal

theorem finishLanes_ends (e : Executor σ) (ctx : Context) (r : LaneRequest) (c : LaneConfig)
    (engine : LaneEngine σ) (platform : String) :
      e.Ends (e.finishLanes ctx r c engine platform) := by
  unfold finishLanes
  dsimp only
  split
  · refine clock_ends ?_ ?_ ?_ fun _ => ?_ <;> rfl
  · exact .refused _ rfl
  · refine failed_ends ?_ _ _ ?_ ?_ <;> rfl
  · refine .recorded ?_ ?_ ?_ fun h => ?_
    · rfl
    · rfl
    · rfl
    · cases h

theorem runLanes_ends (e : Executor σ) (ctx : Context) (r : LaneRequest) :
    e.Ends (e.runLanes ctx r) := by
  have hjournal := e.load_journal r.program
  rcases e.runLanes_cases ctx r with ⟨err, e', -, rfl | rfl, hrun⟩ |
    ⟨device, config, engine, -, hrun⟩
  · rw [hrun]
    exact .refused err rfl
  · rw [hrun]
    exact .refused err hjournal
  · rw [hrun]
    exact (finishLanes_ends _ ctx r config engine _).congr hjournal

/-- A run of either kind. -/
inductive Request
  | sequential (r : SequentialRequest)
  | lanes (r : LaneRequest)

/-- Runs a program. -/
def serve (e : Executor σ) (ctx : Context) : Request → Except Error Execution × Executor σ
  | .sequential r => e.runSequential ctx r
  | .lanes r => e.runLanes ctx r

/-- Every run is refused or recorded. -/
theorem serve_ends (e : Executor σ) (ctx : Context) (q : Request) : e.Ends (e.serve ctx q) := by
  cases q with
  | sequential r => exact e.runSequential_ends ctx r
  | lanes r => exact e.runLanes_ends ctx r

end

/-! ### Kernels on the device -/

/-- The kernels on the device. -/
def kernels (e : Executor Cpu) : Option (List (String × Compiled)) :=
  e.device.map (·.kernels)

variable {e : Executor Cpu}

theorem kernels_of_some {c : Cpu} (hdevice : e.device = some c) : e.kernels = some c.kernels := by
  rw [kernels, hdevice, Option.map_some]

theorem load_kernels (e : Executor Cpu) (id : ProgramId) : (e.load id).2.kernels = e.kernels := by
  rw [kernels, load_device, kernels]

theorem onHost_kernels (e : Executor Cpu) (img : Image) (r : SequentialRequest) (l : Limits) :
    (e.onHost img r l).2.kernels = e.kernels := by
  obtain ⟨journal, timed, hjournal⟩ := e.onHost_eq img r l
  rw [hjournal]
  rfl

theorem onDevice_kernels (h : ∀ c, e.device = some c → c.Numbered) (ctx : Context) (img : Image)
    (r : SequentialRequest) (l : Limits) : (e.onDevice ctx img r l).2.kernels = e.kernels := by
  cases hdevice : e.device with
  | none =>
    unfold onDevice
    rw [hdevice]
  | some c =>
    obtain ⟨c', journal, timed, hrestored, heq⟩ := onDevice_leaves hdevice (h c hdevice) ctx img r l
    rw [heq, kernels_of_some rfl, hrestored.kernels_eq, kernels_of_some hdevice]

theorem runSequential_kernels (h : ∀ c, e.device = some c → c.Numbered) (ctx : Context)
    (r : SequentialRequest) : (e.runSequential ctx r).2.kernels = e.kernels := by
  have hload := e.load_kernels r.program
  rw [← e.load_device r.program] at h
  rcases e.runSequential_cases ctx r with ⟨err, hrun⟩ | ⟨img, l, hrun | hrun⟩
  · rw [hrun, hload]
  · rw [hrun, onDevice_kernels h, hload]
  · rw [hrun, onHost_kernels, hload]

theorem runLanes_kernels (h : ∀ c, e.device = some c → c.Numbered) (ctx : Context)
    (r : LaneRequest) : (e.runLanes ctx r).2.kernels = e.kernels := by
  rcases e.runLanes_cases ctx r with ⟨err, e', -, rfl | rfl, hrun⟩ |
    ⟨c, config, engine, hsets, hrun⟩
  · rw [hrun]
  · rw [hrun, load_kernels]
  · obtain ⟨c', journal, timed, hrestored, heq⟩ :=
      finishLanes_leaves hsets.engine_device hsets.handle_eq
      (h c hsets.device_eq) (e.load r.program).2 ctx r config (Backend.name c)
    rw [hrun, heq, kernels_of_some rfl, hrestored.kernels_eq, kernels_of_some hsets.device_eq]

/-- No run changes the kernels on the device. -/
theorem serve_kernels (h : ∀ c, e.device = some c → c.Numbered) (ctx : Context) (q : Request) :
    (e.serve ctx q).2.kernels = e.kernels := by
  cases q with
  | sequential r => exact runSequential_kernels h ctx r
  | lanes r => exact runLanes_kernels h ctx r

/-! ### What is recorded -/

/-- A run on the processor leaves the kernels on it as they were. If it is refused, nothing is
recorded. If it has a result, one record is added that says what the result says: its status is `ok`
if the run succeeded, `faulted` if faults are listed, and `failed` otherwise, and the figures count
it. The identifier in the result finds the record, unless it has more rows, or a longer row, than
can be read back. -/
theorem serve_recorded {e : Executor Cpu} (hdevice : ∀ c, e.device = some c → c.Numbered)
    {j : Run.Journal} (hjournal : e.journal = some j) {given : List Run.Record}
    (hready : j.Ready given) (ctx : Context) (q : Request) :
    (e.serve ctx q).2.kernels = e.kernels ∧
      ((∃ err, (e.serve ctx q).1 = .error err ∧ (e.serve ctx q).2.journal = some j) ∨
        ∃ x r j', (e.serve ctx q).1 = .ok x ∧ (e.serve ctx q).2.journal = some j' ∧
          j.Stores j' given r ∧ r.Tells x) :=
  ⟨serve_kernels hdevice ctx q, (e.serve_ends ctx q).stores hjournal hready⟩

/-- A program that halts at once. -/
def halting : Image :=
  { program := ⟨#[16]⟩, entry := 0 }

/-- An empty run store that numbers its runs. -/
def numbering : Run.Journal :=
  { store := {}, stamp := fun n => ⟨"run-" ++ toString n, .zero, Timestamp.zero_shown⟩ }

theorem numbering_ready : numbering.Ready [] where
  isOpen := rfl
  consistent := .empty 0
  few := by decide
  id_new := nofun
  id_short := by decide +kernel

/-- An executor with this run store, to which this program has been deployed. -/
def withHalting : Executor Cpu :=
  (deploy
    { registry := .memory {}, device := some { fuel := 9 }, journal := some numbering, fuel := 5 }
    halting).2

theorem withHalting_device : withHalting.device = some { fuel := 9 } := deploy_device _ _

theorem withHalting_journal : withHalting.journal = some numbering := deploy_journal _ _

theorem withHalting_config : withHalting.config = {} := by decide +kernel

theorem withHalting_load : (withHalting.load halting.id).1 = .ok halting :=
  ok_of_toOption_eq (by decide +kernel)

/-- A run of this program over many lanes. -/
def halts (lanes : Int) : LaneRequest :=
  { program := halting.id, lanes }

/-- The record of a run over two lanes is found. -/
theorem twoHalts_recorded :
    (withHalting.serve {} (.lanes (halts 2))).2.kernels = some [] ∧
      ∃ x r j, (withHalting.serve {} (.lanes (halts 2))).1 = .ok x ∧
        (withHalting.serve {} (.lanes (halts 2))).2.journal = some j ∧
        x.printed = [none, none] ∧ j.store.records = [r] ∧ j.store.find x.runId = .ok r := by
  obtain ⟨hkernels, hends⟩ := serve_recorded (fun c hc => by
    rw [withHalting_device] at hc
    obtain rfl := Option.some.inj hc
    exact nofun) withHalting_journal numbering_ready {} (.lanes (halts 2))
  have hrows : (withHalting.serve {} (.lanes (halts 2))).1.toOption.map (·.printed) =
      some [none, none] := by decide +kernel
  refine ⟨hkernels.trans (by rw [kernels, withHalting_device]; rfl), ?_⟩
  rcases hends with ⟨err, herr, -⟩ | ⟨x, r, j, hx, hj, hstores, htells⟩
  · rw [herr] at hrows
    cases hrows
  · rw [hx] at hrows
    have hprinted : x.printed = [none, none] := Option.some.inj hrows
    have hshort : r.short = true := by
      rw [Run.Record.short, htells.printed_eq, hprinted]
      decide
    refine ⟨x, r, j, hx, hj, hprinted, hstores.records_eq, ?_⟩
    rw [← htells.id_eq, hstores.find_eq, if_pos hshort]

/-- A run that the engine completes has a row for each lane. -/
theorem finishLanes_of_run {e : Executor Cpu} {ctx : Context} {r : LaneRequest}
    {engine : LaneEngine Cpu} {done : Completion}
    (hrun : (engine.run ctx r.lanes (groupSizeFor e.config r)).1 = .ok done) (c : LaneConfig)
    (platform : String) :
    ∃ x, (e.finishLanes ctx r c engine platform).1 = .ok x ∧
      x.printed = done.printed.toList.map Run.Row.ofPrinted := by
  unfold finishLanes
  simp only [hrun]
  obtain ⟨runId, journal, hrecord⟩ := record_eq
    (clock { e with device := (engine.run ctx r.lanes (groupSizeFor e.config r)).2.close.2.device }
      _).2 _ _
  rw [hrecord]
  exact ⟨_, rfl, rfl⟩

/-- The engine for this program. -/
def haltingEngine : LaneEngine Cpu :=
  { program := halting.program, entry := 0, stackSize := 100, placement := 2, trace := false
    maxSteps := 0, heaps := Array.replicate 3 (Heap.zeros 100), device := some { fuel := 9 } }

/-- What it compiles to. -/
def haltingKernel : Compiled :=
  { program := halting.program, entry := 0, engine := .lane, stackSize := 100
    heaps := [100, 100, 100], placement := .separate, trace := false, maxSteps := 0 }

theorem fetch_halting {m : Machine} (hcode : m.code = halting.program) (hip : m.ip = 0)
    (hengine : m.engine = .lane) : m.fetch = .ready ⟨0, .halt, []⟩ := by
  unfold Machine.fetch
  rw [hcode, hip, hengine]
  rfl

theorem haltingKernel_halts (fuel : Nat) (heaps : Array Heap) (lane : Nat) :
    ∃ r, (haltingKernel.inOrder (fuel + 1) heaps lane).2 = .halted r := by
  rw [Compiled.inOrder, Machine.run_of_ready rfl]
  exact Machine.advance_of_halt (fetch_halting rfl rfl rfl) rfl rfl fuel

/-- A run over more lanes than a list may have items succeeds. -/
theorem manyHalts_printed :
    ∃ x, (withHalting.runLanes {} (halts 131073)).1 = .ok x ∧ x.printed.length = 131073 := by
  obtain ⟨done, hdone, hheaps, hrows⟩ := Compiled.laneOrder_eq_ok haltingKernel 9
    haltingEngine.heaps (fun lane _ => haltingKernel_halts 8 _ lane) (131073 / 3)
  have hcompile : haltingEngine.kernel.compile = .ok haltingKernel :=
    ok_of_toOption_eq (by decide +kernel)
  have hvalidate : ({ heaps := haltingEngine.heaps, lanes := 131073 } : Launch).validate
      haltingKernel.kernel 64 1024 = .ok 3 := ok_of_toOption_eq (by decide +kernel)
  have hrun := LaneEngine.run_of_laneOrder (e := haltingEngine) (c := { fuel := 9 }) rfl rfl nofun
    hcompile rfl hvalidate hdone hheaps
  obtain ⟨cache, hcache⟩ := withHalting.load_eq halting.id
  have hload : withHalting.load halting.id = (.ok halting, { withHalting with cache }) :=
    Prod.ext withHalting_load hcache
  have hgroup : groupSizeFor withHalting.config (halts 131073) = 0 := by
    rw [withHalting_config]
    rfl
  have hfinish : withHalting.runLanes {} (halts 131073) =
      finishLanes { withHalting with cache } {} (halts 131073)
        { stackSize := 100, heapSize := 100, placement := 2 } haltingEngine Cpu.name := by
    unfold runLanes
    rw [withHalting_device]
    simp only [halts, hload]
    rw [withHalting_config]
    rfl
  obtain ⟨x, hx, hprinted⟩ := finishLanes_of_run (e := { withHalting with cache })
    (r := halts 131073) (hgroup.symm ▸ hrun) { stackSize := 100, heapSize := 100, placement := 2 }
      Cpu.name
  refine ⟨x, by rw [hfinish, hx], ?_⟩
  rw [hprinted, List.length_map, Array.length_toList, hrows]
  rfl

/-- The record of a run over so many lanes is stored, but its identifier does not find it. -/
theorem manyHalts_not_found :
    ∃ x r j, (withHalting.runLanes {} (halts 131073)).1 = .ok x ∧
      (withHalting.runLanes {} (halts 131073)).2.journal = some j ∧ j.store.records = [r] ∧
      r.id = x.runId ∧ j.store.find x.runId = .error (.unreadable "" .tooMany) := by
  obtain ⟨x, hx, hprinted⟩ := manyHalts_printed
  rcases (withHalting.runLanes_ends {} (halts 131073)).stores withHalting_journal
    numbering_ready with
    ⟨err, herr, -⟩ | ⟨x', r, j, hx', hj, hstores, htells⟩
  · cases herr.symm.trans hx
  · obtain rfl := Except.ok.inj (hx.symm.trans hx')
    have hlong : r.short = false := by
      rw [Run.Record.short, htells.printed_eq, hprinted]
      rfl
    refine ⟨x, r, j, hx, hj, hstores.records_eq, htells.id_eq, ?_⟩
    rw [← htells.id_eq, hstores.find_eq, hlong, if_neg Bool.false_ne_true]

end Executor

end Lanewise
