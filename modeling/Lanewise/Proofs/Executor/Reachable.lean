import Lanewise.Executor.Basic
import Lanewise.Proofs.LaneEngine.Processor

/-!
# Executors that are in use

An executor starts with an empty cache and a device without kernels. Every image that it loads later
has a valid entry: the registry checks the bytes that it reads, whatever they are, and an image that
is deployed is encoded before it is cached. Every kernel on its device keeps to the numbering of
handles.

## Main definitions

* `Executor.SetsUp`: a request for a run over lanes that gets as far as its engine.
* `Executor.Sound`: cached images have valid entries, and the device numbers its handles.
* `Executor.Reachable`: the executors that calls lead to.

## Main results

* `Image.load_entry_ok`: an image that is read has a valid entry.
* `Executor.CacheOk.load`: so has every image that an executor loads.
* `Executor.runSequential_cases`, `Executor.runLanes_cases`: where runs are refused and where they
  end.
* `Executor.onDevice_leaves`, `Executor.finishLanes_leaves`: what runs on the processor leave.
* `Executor.Reachable.sound`: calls keep an executor sound.
-/

namespace Lanewise

/-! ### Images -/

/-- The entry of an image is a position in its program. -/
def Image.EntryOk (img : Image) : Prop :=
  img.program.checkEntry img.entry = .ok ()

theorem Image.encode_entry_ok {img : Image} {z : Image.Compressor} {compress : Bool}
    {data : ByteArray} (h : img.encode z compress = .ok data) : img.EntryOk := by
  unfold Image.encode at h
  cases hentry : img.program.checkEntry img.entry with
  | error e =>
    rw [hentry] at h
    cases h
  | ok => exact hentry

theorem Image.decoded_entry_ok {decoded : Except Program.Error Program} {entry : Nat}
    {compressed : Bool} {img : Image}
    (h : (match decoded with
      | .error e => (.error (.unusable e) : Except Image.Error Image)
      | .ok program =>
        match program.checkEntry entry with
        | .error e => .error (.unusable e)
        | .ok () => .ok { program, entry, compressed }) = .ok img) : img.EntryOk := by
  cases decoded with
  | error e => cases h
  | ok program =>
    cases hentry : program.checkEntry entry with
    | error e => simp [hentry] at h
    | ok =>
      simp only [hentry, Except.ok.injEq] at h
      rw [← h]
      exact hentry

/-- Reading an image checks its entry last, after the payload has been decoded. -/
theorem Image.load_entry_ok {data : ByteArray} {img : Image} (h : Image.load data = .ok img) :
    img.EntryOk := by
  simp only [Image.load, bind, Except.bind, pure, Except.pure, throw, throwThe,
    MonadExceptOf.throw] at h
  rw [guard_eq_ok_iff, guard_eq_ok_iff, guard_eq_ok_iff, guard_eq_ok_iff, guard_eq_ok_iff,
    guard_eq_ok_iff] at h
  obtain ⟨-, -, -, -, -, -, h⟩ := h
  generalize data.extract headerSize data.size = payload at h
  split at h
  · cases hraw : decompress payload (4 * maxWords) with
    | error e => simp [hraw] at h
    | ok raw =>
      simp only [hraw] at h
      rw [guard_eq_ok_iff, guard_eq_ok_iff] at h
      obtain ⟨-, -, h⟩ := h
      exact decoded_entry_ok h
  · rw [guard_eq_ok_iff, guard_eq_ok_iff] at h
    obtain ⟨-, -, h⟩ := h
    exact decoded_entry_ok h

theorem Registry.get_entry_ok {r : Registry} {id : ProgramId} {img : Image}
    (h : r.get id = .ok img) : img.EntryOk := by
  cases r with
  | memory m =>
    simp only [Registry.get, Memory.get] at h
    rw [guard_eq_ok_iff] at h
    obtain ⟨-, h⟩ := h
    cases hdata : m.programs.lookup id with
    | none => simp [hdata] at h
    | some data =>
      simp only [hdata] at h
      cases hload : Image.load data with
      | error e => simp [hload] at h
      | ok stored =>
        simp only [hload, Except.ok.injEq] at h
        exact h ▸ Image.load_entry_ok hload
  | keyed k =>
    simp only [Registry.get, Keyed.get] at h
    rw [guard_eq_ok_iff] at h
    obtain ⟨-, h⟩ := h
    cases hdata : k.data.get? (Keyed.programKey id) with
    | none => simp [hdata] at h
    | some data =>
      simp only [hdata, Keyed.load] at h
      cases hload : Image.load data with
      | error e => simp [hload] at h
      | ok stored =>
        simp only [hload, Except.ok.injEq] at h
        exact h ▸ Image.load_entry_ok hload

theorem Registry.put_entry_ok {r r' : Registry} {id : ProgramId} {img : Image}
    (h : r.put img = .ok (id, r')) : img.EntryOk := by
  cases hdata : img.encode r.compressor img.compressed with
  | ok data => exact Image.encode_entry_ok hdata
  | error e =>
    cases r with
    | memory m =>
      dsimp only [Registry.compressor] at hdata
      simp [Registry.put, Memory.put, hdata, Except.map] at h
    | keyed k =>
      dsimp only [Registry.compressor] at hdata
      simp only [Registry.put, Keyed.put, hdata] at h
      split at h <;> simp [Except.map] at h

namespace Executor

variable {σ : Type}

/-! ### The cache -/

/-- Every cached image has a valid entry. -/
def CacheOk (e : Executor σ) : Prop :=
  ∀ p ∈ e.cache, p.2.EntryOk

theorem CacheOk.remember {e : Executor σ} (h : e.CacheOk) (id : ProgramId) {img : Image}
    (himg : img.EntryOk) : (e.remember id img).CacheOk := by
  unfold Executor.remember
  split
  · exact h
  · intro p hp
    rcases List.mem_cons.1 hp with rfl | hp
    · exact himg
    · have hkept := (List.mem_filter.1 hp).1
      split at hkept
      · cases hkept
      · exact h p hkept

theorem CacheOk.deploy {e : Executor σ} (h : e.CacheOk) (img : Image) :
    (e.deploy img).2.CacheOk := by
  unfold Executor.deploy
  cases hput : e.registry.put img with
  | error err => exact h
  | ok stored =>
    exact remember (e := { e with registry := stored.2 }) h stored.1 (Registry.put_entry_ok hput)

/-- Whatever is loaded has a valid entry. -/
theorem CacheOk.load {e : Executor σ} (h : e.CacheOk) (id : ProgramId) :
    (∀ img, (e.load id).1 = .ok img → img.EntryOk) ∧ (e.load id).2.CacheOk := by
  unfold Executor.load
  cases hcache : e.cache.lookup id with
  | some img =>
    refine ⟨fun img' himg => ?_, h⟩
    obtain rfl := Except.ok.inj himg
    obtain ⟨before, after, heq, -⟩ := List.lookup_eq_some_iff.1 hcache
    exact h (id, img) (heq ▸ List.mem_append_right before List.mem_cons_self)
  | none =>
    cases hget : e.registry.get id with
    | ok img =>
      have himg := Registry.get_entry_ok hget
      refine ⟨fun img' heq => ?_, h.remember id himg⟩
      obtain rfl := Except.ok.inj heq
      exact himg
    | error err =>
      refine ⟨fun img heq => ?_, ?_⟩
      · cases err <;> cases heq
      · cases err <;> exact h

/-! ### What calls leave alone -/

theorem remember_device (e : Executor σ) (id : ProgramId) (img : Image) :
    (e.remember id img).device = e.device := by
  unfold remember
  split <;> rfl

theorem deploy_device (e : Executor σ) (img : Image) : (e.deploy img).2.device = e.device := by
  unfold deploy
  split
  · rfl
  · exact remember_device _ _ _

theorem deploy_journal (e : Executor σ) (img : Image) : (e.deploy img).2.journal = e.journal := by
  unfold deploy
  split
  · rfl
  · unfold remember
    split <;> rfl

/-- Loading changes nothing but the cache. -/
theorem load_eq (e : Executor σ) (id : ProgramId) :
    ∃ cache, (e.load id).2 = { e with cache } := by
  unfold load
  split
  · exact ⟨e.cache, rfl⟩
  · split
    · unfold remember
      split
      · exact ⟨e.cache, rfl⟩
      · exact ⟨_, rfl⟩
    · exact ⟨e.cache, rfl⟩
    · exact ⟨e.cache, rfl⟩

theorem load_journal (e : Executor σ) (id : ProgramId) : (e.load id).2.journal = e.journal := by
  obtain ⟨cache, hload⟩ := e.load_eq id
  rw [hload]

theorem load_device (e : Executor σ) (id : ProgramId) : (e.load id).2.device = e.device := by
  obtain ⟨cache, hload⟩ := e.load_eq id
  rw [hload]

/-- A program that is not loaded is no matter of the device. -/
theorem load_error_ne_device {e : Executor σ} {id : ProgramId} {err : Error}
    (h : (e.load id).1 = .error err) (why : Device.Error) : err ≠ .device why := by
  rintro rfl
  unfold load at h
  split at h
  · cases h
  · split at h <;> cases h

/-- A result is recorded under an identifier, and is not changed otherwise. -/
theorem record_eq (e : Executor σ) (x : Execution) (r : Run.Record) :
    ∃ runId journal, e.record x r = ({ x with runId }, { e with journal }) := by
  unfold record
  split
  · exact ⟨x.runId, e.journal, rfl⟩
  · split
    · exact ⟨_, _, rfl⟩
    · exact ⟨x.runId, _, rfl⟩

/-- Recording changes nothing but the journal. -/
theorem record_leaves (e : Executor σ) (x : Execution) (r : Run.Record) :
    ∃ journal, (e.record x r).2 = { e with journal } := by
  obtain ⟨runId, journal, hrecord⟩ := e.record_eq x r
  exact ⟨journal, congrArg Prod.snd hrecord⟩

/-- A result is timed before it is recorded. -/
theorem record_clock_leaves (e : Executor σ) (x y : Execution) (r : Run.Record) :
    ∃ journal timed, ((e.clock x).2.record y r).2 = { e with journal, timed } := by
  obtain ⟨journal, hrecord⟩ := (e.clock x).2.record_leaves y r
  exact ⟨journal, e.timed + 1, hrecord⟩

/-- A run on the host changes nothing but the journal and the clock. -/
theorem onHost_eq (e : Executor σ) (img : Image) (r : SequentialRequest) (l : Limits) :
    ∃ journal timed, (e.onHost img r l).2 = { e with journal, timed } := by
  unfold onHost
  split
  · exact ⟨e.journal, e.timed, rfl⟩
  · dsimp only
    split
    · exact e.record_clock_leaves _ _ _
    · exact e.record_clock_leaves _ _ _
    · exact e.record_clock_leaves _ _ _
    · exact ⟨e.journal, e.timed, rfl⟩

/-! ### Runs -/

theorem laneConfig_error_ne_device {c : ExecutorConfig} {r : LaneRequest} {err : Error}
    (h : laneConfig c r = .error err) (why : Device.Error) : err ≠ .device why := by
  rintro rfl
  simp only [laneConfig] at h
  split at h <;> cases h

/-- Setting heaps changes nothing else. -/
theorem setHeaps_eq {selector : Nat} {heaps : List (Array Word)} {e e' : LaneEngine σ}
    (h : setHeaps e selector heaps = .ok e') : ∃ heaps, e' = { e with heaps } := by
  induction heaps generalizing selector e with
  | nil => exact ⟨e.heaps, (Except.ok.inj h).symm⟩
  | cons values rest ih =>
    rw [setHeaps] at h
    cases hfirst : e.setHeap selector values with
    | error err => simp [hfirst] at h
    | ok e₁ =>
      simp only [hfirst] at h
      obtain ⟨first, -, -, rfl⟩ := LaneEngine.setHeap_eq_ok_iff.1 hfirst
      obtain ⟨others, rfl⟩ := ih h
      exact ⟨others, rfl⟩

/-- A request for a run over lanes that gets as far as its engine: the program is loaded, the layout
fits the request, and the engine has its heaps. -/
structure SetsUp (e : Executor σ) (r : LaneRequest) (device : σ) (config : LaneConfig)
    (engine : LaneEngine σ) : Prop where
  device_eq : e.device = some device
  layout_eq : laneConfig e.config r = .ok config
  filled : ∃ img start, (e.load r.program).1 = .ok img ∧
    LaneEngine.create img.program img.entry config (some device) = .ok start ∧
    (if r.initHeaps then .ok start.initHeaps else setHeaps start 0 r.heaps) = .ok engine

/-- Only the heaps of an engine are filled. -/
theorem SetsUp.engine_eq {e : Executor σ} {r : LaneRequest} {device : σ} {config : LaneConfig}
    {engine : LaneEngine σ} (h : e.SetsUp r device config engine) :
    ∃ img heaps, (e.load r.program).1 = .ok img ∧ engine = {
      program := img.program, entry := img.entry
      stackSize := LaneEngine.orDefault config.stackSize defaultStackSize
      placement := config.placement, trace := config.trace, maxSteps := config.maxSteps, heaps
      device := some device } := by
  obtain ⟨img, start, hload, hcreate, hfilled⟩ := h.filled
  have hheaps : ∃ heaps, engine = { start with heaps } := by
    split at hfilled
    · exact ⟨_, (Except.ok.inj hfilled).symm⟩
    · exact setHeaps_eq hfilled
  obtain ⟨heaps, rfl⟩ := hheaps
  exact ⟨img, heaps, hload, by rw [LaneEngine.create_eq hcreate]⟩

theorem SetsUp.engine_device {e : Executor σ} {r : LaneRequest} {device : σ} {config : LaneConfig}
    {engine : LaneEngine σ} (h : e.SetsUp r device config engine) :
      engine.device = some device := by
  obtain ⟨img, heaps, -, rfl⟩ := h.engine_eq
  rfl

theorem SetsUp.handle_eq {e : Executor σ} {r : LaneRequest} {device : σ} {config : LaneConfig}
    {engine : LaneEngine σ} (h : e.SetsUp r device config engine) : engine.handle = none := by
  obtain ⟨img, heaps, -, rfl⟩ := h.engine_eq
  rfl

section

variable [Backend σ]

/-- A sequential run is refused once the program has been looked up, or takes one of its two
ways. -/
theorem runSequential_cases (e : Executor σ) (ctx : Context) (r : SequentialRequest) :
    (∃ err, e.runSequential ctx r = (.error err, (e.load r.program).2)) ∨
      ∃ img l, e.runSequential ctx r = (e.load r.program).2.onDevice ctx img r l ∨
        e.runSequential ctx r = (e.load r.program).2.onHost img r l := by
  unfold runSequential
  generalize e.load r.program = loaded
  obtain ⟨answer, e'⟩ := loaded
  cases answer with
  | error err => exact .inl ⟨err, rfl⟩
  | ok img =>
    dsimp only
    split
    · exact .inl ⟨_, rfl⟩
    · split
      · exact .inl ⟨_, rfl⟩
      · next l _ =>
        refine .inr ⟨img, l, ?_⟩
        split
        · exact .inl rfl
        · exact .inr rfl

/-- A run over lanes is refused before the device is asked, or it takes place on an engine that has
prepared nothing yet. -/
theorem runLanes_cases (e : Executor σ) (ctx : Context) (r : LaneRequest) :
    (∃ err e', (∀ why, err ≠ .device why) ∧ (e' = e ∨ e' = (e.load r.program).2) ∧
        e.runLanes ctx r = (.error err, e')) ∨
      ∃ device config engine, e.SetsUp r device config engine ∧ e.runLanes ctx r =
        (e.load r.program).2.finishLanes ctx r config engine (Backend.name device) := by
  obtain ⟨cache, hload⟩ := e.load_eq r.program
  unfold runLanes
  cases hdevice : e.device with
  | none => exact .inl ⟨.noDevice, e, nofun, .inl rfl, rfl⟩
  | some device =>
    dsimp only
    cases hanswer : e.load r.program with
    | mk answer e' =>
      obtain rfl : e' = { e with cache } := by rw [← hload, hanswer]
      cases answer with
      | error err =>
        exact .inl ⟨err, _, load_error_ne_device (congrArg Prod.fst hanswer), .inr rfl, rfl⟩
      | ok img =>
        dsimp only
        split
        · next err hlayout => exact .inl ⟨err, _, laneConfig_error_ne_device hlayout, .inr rfl, rfl⟩
        · next config hlayout =>
          split
          · exact .inl ⟨.invalidRequest _, _, nofun, .inr rfl, rfl⟩
          · next start hcreate =>
            split
            · exact .inl ⟨.invalidRequest _, _, nofun, .inr rfl, rfl⟩
            · next engine hset =>
              have hloaded : (e.load r.program).1 = .ok img := congrArg Prod.fst hanswer
              exact .inr ⟨device, config, engine,
                ⟨hdevice, hlayout, img, start, hloaded, hcreate, hset⟩, rfl⟩

end

/-- A run on the processor changes nothing but the journal, the clock and the handles that are given
out. -/
theorem onDevice_leaves {e : Executor Cpu} {c : Cpu} (hdevice : e.device = some c) (hc : c.Numbered)
    (ctx : Context) (img : Image) (r : SequentialRequest) (l : Limits) :
    ∃ c' journal timed, c.Restored c' ∧
      (e.onDevice ctx img r l).2 = { e with device := some c', journal, timed } := by
  unfold onDevice
  rw [hdevice]
  dsimp only
  split
  · next c' hprepare =>
    have hrestored := hc.restored_of_error hprepare
    split
    · exact ⟨c', e.journal, e.timed, hrestored, rfl⟩
    · obtain ⟨journal, hrecord⟩ := record_leaves _ _ _
      exact ⟨c', journal, e.timed, hrestored, hrecord⟩
  · next handle c' hprepare =>
    have hrestored := hc.restored_release hprepare
    split
    · exact ⟨_, e.journal, e.timed, hrestored, rfl⟩
    · split
      · exact ⟨_, e.journal, e.timed, hrestored, rfl⟩
      · obtain ⟨journal, hrecord⟩ := record_leaves _ _ _
        exact ⟨_, journal, e.timed, hrestored, hrecord⟩
    · obtain ⟨journal, timed, hrecord⟩ := record_clock_leaves _ _ _ _
      exact ⟨_, journal, timed, hrestored, hrecord⟩

/-- A run over lanes changes nothing but the journal, the clock and the handles that are given
out. -/
theorem finishLanes_leaves {engine : LaneEngine Cpu} {c : Cpu} (hdevice : engine.device = some c)
    (hhandle : engine.handle = none) (hc : c.Numbered) (e : Executor Cpu) (ctx : Context)
    (r : LaneRequest) (config : LaneConfig) (platform : String) :
    ∃ c' journal timed, c.Restored c' ∧
      (e.finishLanes ctx r config engine platform).2 =
        { e with device := some c', journal, timed } := by
  obtain ⟨c', hclosed, hrestored⟩ :=
    LaneEngine.run_close hdevice hhandle hc ctx r.lanes (groupSizeFor e.config r)
  unfold finishLanes
  dsimp only
  rw [hclosed]
  split
  · obtain ⟨journal, timed, hrecord⟩ := record_clock_leaves _ _ _ _
    exact ⟨c', journal, timed, hrestored, hrecord⟩
  · exact ⟨c', e.journal, e.timed, hrestored, rfl⟩
  · split
    · exact ⟨c', e.journal, e.timed, hrestored, rfl⟩
    · obtain ⟨journal, hrecord⟩ := record_leaves _ _ _
      exact ⟨c', journal, e.timed, hrestored, hrecord⟩
  · obtain ⟨journal, hrecord⟩ := record_leaves _ _ _
    exact ⟨c', journal, e.timed, hrestored, hrecord⟩

/-- Cached images have valid entries, and the device numbers its handles. -/
structure Sound (e : Executor Cpu) : Prop where
  cached : e.CacheOk
  numbered : ∀ c, e.device = some c → c.Numbered

namespace Sound

variable {e : Executor Cpu}

theorem load (h : e.Sound) (id : ProgramId) : (e.load id).2.Sound := by
  refine ⟨(h.cached.load id).2, ?_⟩
  obtain ⟨cache, heq⟩ := e.load_eq id
  rw [heq]
  exact h.numbered

theorem deploy (h : e.Sound) (img : Image) : (e.deploy img).2.Sound := by
  refine ⟨h.cached.deploy img, ?_⟩
  rw [deploy_device]
  exact h.numbered

theorem onHost (h : e.Sound) (img : Image) (r : SequentialRequest) (l : Limits) :
    (e.onHost img r l).2.Sound := by
  obtain ⟨journal, timed, heq⟩ := e.onHost_eq img r l
  rw [heq]
  exact ⟨h.cached, h.numbered⟩

theorem onDevice (h : e.Sound) (ctx : Context) (img : Image) (r : SequentialRequest) (l : Limits) :
    (e.onDevice ctx img r l).2.Sound := by
  cases hdevice : e.device with
  | none =>
    unfold Executor.onDevice
    rw [hdevice]
    exact h
  | some c =>
    obtain ⟨c', journal, timed, hrestored, heq⟩ :=
      onDevice_leaves hdevice (h.numbered c hdevice) ctx img r l
    rw [heq]
    refine ⟨h.cached, ?_⟩
    rintro _ ⟨⟩
    exact hrestored.numbered

theorem runSequential (h : e.Sound) (ctx : Context) (r : SequentialRequest) :
    (e.runSequential ctx r).2.Sound := by
  have hload := h.load r.program
  rcases e.runSequential_cases ctx r with ⟨err, hrun⟩ | ⟨img, l, hrun | hrun⟩
  · rw [hrun]
    exact hload
  · rw [hrun]
    exact hload.onDevice ctx img r l
  · rw [hrun]
    exact hload.onHost img r l

theorem runLanes (h : e.Sound) (ctx : Context) (r : LaneRequest) : (e.runLanes ctx r).2.Sound := by
  have hload := h.load r.program
  rcases e.runLanes_cases ctx r with ⟨err, e', -, rfl | rfl, hrun⟩ |
    ⟨c, config, engine, hsets, hrun⟩
  · rw [hrun]
    exact h
  · rw [hrun]
    exact hload
  · obtain ⟨c', journal, timed, hrestored, heq⟩ :=
      finishLanes_leaves hsets.engine_device hsets.handle_eq
      (h.numbered c hsets.device_eq) (e.load r.program).2 ctx r config (Backend.name c)
    rw [hrun, heq]
    refine ⟨hload.cached, ?_⟩
    rintro _ ⟨⟩
    exact hrestored.numbered

end Sound

/-- The executors that calls lead to. What else happens to the registry and the journal is left
open, since others may use them too. -/
inductive Reachable : Executor Cpu → Prop
  | start {e : Executor Cpu} (hcache : e.cache = [])
      (hdevice : ∀ c, e.device = some c → c.kernels = []) : Reachable e
  | deploy {e : Executor Cpu} (h : Reachable e) (img : Image) : Reachable (e.deploy img).2
  | load {e : Executor Cpu} (h : Reachable e) (id : ProgramId) : Reachable (e.load id).2
  | clearCache {e : Executor Cpu} (h : Reachable e) : Reachable e.clearCache
  | runSequential {e : Executor Cpu} (h : Reachable e) (ctx : Context) (r : SequentialRequest) :
      Reachable (e.runSequential ctx r).2
  | runLanes {e : Executor Cpu} (h : Reachable e) (ctx : Context) (r : LaneRequest) :
      Reachable (e.runLanes ctx r).2
  | outside {e : Executor Cpu} (h : Reachable e) (registry : Registry)
      (journal : Option Run.Journal) : Reachable { e with registry, journal }

/-- Calls keep an executor sound. -/
theorem Reachable.sound {e : Executor Cpu} (h : Reachable e) : e.Sound := by
  induction h with
  | start hcache hdevice =>
    refine ⟨fun p hp => ?_, fun c hc p hp => ?_⟩
    · rw [hcache] at hp
      cases hp
    · rw [hdevice c hc] at hp
      cases hp
  | deploy _ img ih => exact ih.deploy img
  | load _ id ih => exact ih.load id
  | clearCache _ ih => exact ⟨fun p hp => (List.not_mem_nil hp).elim, ih.numbered⟩
  | runSequential _ ctx r ih => exact ih.runSequential ctx r
  | runLanes _ ctx r ih => exact ih.runLanes ctx r
  | outside _ registry journal ih => exact ⟨ih.cached, ih.numbered⟩

end Executor

end Lanewise
