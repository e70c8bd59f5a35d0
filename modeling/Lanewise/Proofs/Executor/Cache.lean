import Lanewise.Proofs.Executor.Reachable
import Lanewise.Proofs.Registry.Contents

/-!
# The cache of an executor

An executor loads programs through a cache of any size. The cache goes unnoticed as long as it holds
what the registry holds: then each call answers as it would without a cache.

Loading keeps it so, and so does deploying an image that is new or that is the stored one. But the
identifier of a program says nothing about its entry and about compression. If an image is deployed
whose program is stored with another entry, the registry keeps the image that it has, whereas the
cache takes the new one, and what a call answers depends on the cache until it is emptied.

## Main definitions

* `Executor.Honest`: the cache holds what the registry holds.
* `Executor.Call`, `Executor.Reply`, `Executor.calls`: sequences of calls.
* `Executor.Faithful`: each image that is deployed is new, or it is the stored one.

## Main results

* `Executor.Honest.call`: calls keep the cache honest, and answer as without a cache.
* `Executor.calls_answers_eq`: faithful sequences of calls have the same answers for all cache
  sizes.
* `Executor.load_deploy_of_stored`: what is loaded after an image was deployed unfaithfully.
-/

namespace Lanewise.Executor

variable {σ : Type} {e : Executor σ} {id : ProgramId} {img stored : Image}

/-- The executor without its cache. -/
def bare (e : Executor σ) : Executor σ :=
  { e with config := { e.config with cacheSize := 0 }, cache := [] }

@[simp] theorem bare_registry (e : Executor σ) : e.bare.registry = e.registry := rfl

@[simp] theorem bare_device (e : Executor σ) : e.bare.device = e.device := rfl

@[simp] theorem bare_journal (e : Executor σ) : e.bare.journal = e.journal := rfl

@[simp] theorem bare_fuel (e : Executor σ) : e.bare.fuel = e.fuel := rfl

@[simp] theorem bare_cache (e : Executor σ) : e.bare.cache = [] := rfl

/-- The image that the registry has, as it is loaded without a cache. -/
def fetch (r : Registry) (id : ProgramId) : Except Error Image :=
  match r.get id with
  | .ok img => .ok img
  | .error .notFound => .error (.programNotFound id)
  | .error err => .error (.loadFailed id err)

/-- The cache holds what the registry holds. -/
def Honest (e : Executor σ) : Prop :=
  ∀ p ∈ e.cache, e.registry.get p.1 = .ok p.2

/-! ### Loading and deploying -/

theorem Honest.of_eq {e' : Executor σ} (h : e.Honest) (hregistry : e'.registry = e.registry)
    (hcache : e'.cache = e.cache) : e'.Honest := by
  rw [Honest, hregistry, hcache]
  exact h

theorem remember_registry (e : Executor σ) (id : ProgramId) (img : Image) :
    (e.remember id img).registry = e.registry := by
  unfold remember
  split <;> rfl

theorem bare_remember (e : Executor σ) (id : ProgramId) (img : Image) :
    (e.remember id img).bare = e.bare := by
  unfold remember
  split <;> rfl

theorem Honest.remember (h : e.Honest) (hget : e.registry.get id = .ok img) :
    (e.remember id img).Honest := by
  intro p hp
  rw [remember_registry]
  unfold Executor.remember at hp
  split at hp
  · exact h p hp
  · rcases List.mem_cons.1 hp with rfl | hp
    · exact hget
    · have hkept := (List.mem_filter.1 hp).1
      split at hkept
      · cases hkept
      · exact h p hkept

theorem load_bare (e : Executor σ) (id : ProgramId) :
    e.bare.load id = (fetch e.registry id, e.bare) := by
  rw [load, fetch, bare_registry, bare_cache, List.lookup_nil]
  cases e.registry.get id with
  | ok img => rfl
  | error err => cases err <;> rfl

theorem load_registry (e : Executor σ) (id : ProgramId) : (e.load id).2.registry = e.registry := by
  obtain ⟨cache, heq⟩ := e.load_eq id
  rw [heq]

/-- Loading gives what the registry has. -/
theorem Honest.load (h : e.Honest) (id : ProgramId) :
    (e.load id).1 = fetch e.registry id ∧ (e.load id).2.bare = e.bare ∧ (e.load id).2.Honest := by
  unfold Executor.load
  cases hcache : e.cache.lookup id with
  | some img =>
    refine ⟨?_, rfl, h⟩
    obtain ⟨before, after, heq, -⟩ := List.lookup_eq_some_iff.1 hcache
    have hget : e.registry.get id = .ok img :=
      h (id, img) (heq ▸ List.mem_append_right before List.mem_cons_self)
    rw [fetch, hget]
  | none =>
    rw [fetch]
    cases hget : e.registry.get id with
    | ok img => exact ⟨rfl, bare_remember e id img, h.remember hget⟩
    | error err => cases err <;> exact ⟨rfl, rfl, h⟩

theorem bare_deploy (e : Executor σ) (img : Image) :
    e.bare.deploy img = ((e.deploy img).1, (e.deploy img).2.bare) := by
  rw [deploy, deploy, bare_registry]
  cases e.registry.put img with
  | error err => rfl
  | ok stored => exact congrArg _ (bare_remember { e with registry := stored.2 } stored.1 img).symm

/-- Deploying an image that is new or stored keeps the cache honest. -/
theorem Honest.deploy (h : e.Honest)
    (hfaithful : ∀ id r', e.registry.put img = .ok (id, r') →
      e.registry.get id = .error .notFound ∨ e.registry.get id = .ok img) :
    (e.deploy img).2.Honest := by
  unfold Executor.deploy
  cases hput : e.registry.put img with
  | error err => exact h
  | ok put =>
    obtain ⟨id, registry⟩ := put
    have hkept : Honest { e with registry } :=
      fun p hp => Registry.get_put_of_stored hput (h p hp)
    refine hkept.remember ?_
    rcases hfaithful id registry hput with hnew | hstored
    · exact Registry.get_put_of_new hput hnew
    · exact Registry.get_put_of_stored hput hstored

/-- After an image was deployed whose program is stored with another image, the registry has the
stored one, and the cache the other one. -/
theorem load_deploy_of_stored {r' : Registry} (hput : e.registry.put img = .ok (id, r'))
    (hstored : e.registry.get id = .ok stored) (hsize : 0 < e.config.cacheSize) :
    ((e.deploy img).2.load id).1 = .ok img ∧ fetch (e.deploy img).2.registry id = .ok stored := by
  rw [deploy, hput]
  dsimp only
  constructor
  · rw [remember, if_neg (Int.not_le.2 hsize), load]
    dsimp only
    rw [List.lookup_cons_self]
  · rw [remember_registry, fetch, Registry.get_put_of_stored hput hstored]

/-! ### Runs -/

theorem bare_record (e : Executor σ) (x : Execution) (r : Run.Record) :
    e.bare.record x r = ((e.record x r).1, (e.record x r).2.bare) := by
  rw [record, record, bare_journal]
  cases e.journal with
  | none => rfl
  | some j =>
    dsimp only
    cases j.insert (x.record r) with
    | mk answer j => cases answer <;> rfl

theorem bare_clock (e : Executor σ) (x : Execution) :
    e.bare.clock x = ((e.clock x).1, (e.clock x).2.bare) := rfl

theorem bare_onHost (e : Executor σ) (img : Image) (r : SequentialRequest) (l : Limits) :
    e.bare.onHost img r l = ((e.onHost img r l).1, (e.onHost img r l).2.bare) := by
  rw [onHost, onHost, bare_fuel]
  split
  · rfl
  · next m _ =>
    dsimp only
    generalize (if r.initHeap then m.initHeap else m.setHeap r.heap).run e.fuel = ran
    obtain ⟨m, outcome⟩ := ran
    cases outcome <;> simp only [bare_clock, bare_record]

/-- A run that used the device is recorded without the cache as it is with it. -/
theorem bare_recordOn (e : Executor σ) (device : Option σ) (timed : Nat) (x : Execution)
    (about : Run.Record) :
    (((.ok (record { e.bare with device, timed } x about).1 : Except Error Execution),
      (record { e.bare with device, timed } x about).2) : Except Error Execution × Executor σ) =
    (.ok (record { e with device, timed } x about).1,
      (record { e with device, timed } x about).2.bare) :=
  congrArg (fun p => ((Except.ok p.1 : Except Error Execution), p.2))
    (bare_record { e with device, timed } x about)

theorem recordOn_eq (e : Executor σ) (device : Option σ) (timed : Nat) (x : Execution)
    (about : Run.Record) :
    ∃ device' journal timed', (record { e with device, timed } x about).2 =
      { e with device := device', journal, timed := timed' } := by
  obtain ⟨runId, journal, hrecord⟩ := record_eq { e with device, timed } x about
  exact ⟨device, journal, timed, congrArg Prod.snd hrecord⟩

variable [Backend σ]

/-- A run on the device changes nothing but the device, the journal and the clock. -/
theorem onDevice_eq (e : Executor σ) (ctx : Context) (img : Image) (r : SequentialRequest)
    (l : Limits) :
    ∃ device journal timed, (e.onDevice ctx img r l).2 = { e with device, journal, timed } := by
  rw [onDevice]
  split
  · exact ⟨e.device, e.journal, e.timed, rfl⟩
  · dsimp only
    split
    · split
      · exact ⟨_, e.journal, e.timed, rfl⟩
      · exact recordOn_eq e _ _ _ _
    · split
      · exact ⟨_, e.journal, e.timed, rfl⟩
      · split
        · exact ⟨_, e.journal, e.timed, rfl⟩
        · exact recordOn_eq e _ _ _ _
      · exact recordOn_eq e _ _ _ _

theorem bare_onDevice (e : Executor σ) (ctx : Context) (img : Image) (r : SequentialRequest)
    (l : Limits) :
    e.bare.onDevice ctx img r l =
      ((e.onDevice ctx img r l).1, (e.onDevice ctx img r l).2.bare) := by
  have hplacement : e.bare.config.placement = e.config.placement := rfl
  rw [onDevice, onDevice, bare_device, hplacement]
  cases e.device with
  | none => rfl
  | some device =>
    dsimp only
    split
    · split
      · rfl
      · exact bare_recordOn e _ _ _ _
    · split
      · rfl
      · split
        · rfl
        · exact bare_recordOn e _ _ _ _
      · exact bare_recordOn e _ _ _ _

theorem finishLanes_eq (e : Executor σ) (ctx : Context) (r : LaneRequest) (c : LaneConfig)
    (engine : LaneEngine σ) (platform : String) :
    ∃ device journal timed,
      (e.finishLanes ctx r c engine platform).2 = { e with device, journal, timed } := by
  rw [finishLanes]
  dsimp only
  split
  · exact recordOn_eq e _ _ _ _
  · exact ⟨_, e.journal, e.timed, rfl⟩
  · split
    · exact ⟨_, e.journal, e.timed, rfl⟩
    · exact recordOn_eq e _ _ _ _
  · exact recordOn_eq e _ _ _ _

theorem bare_finishLanes (e : Executor σ) (ctx : Context) (r : LaneRequest) (c : LaneConfig)
    (engine : LaneEngine σ) (platform : String) :
    e.bare.finishLanes ctx r c engine platform =
      ((e.finishLanes ctx r c engine platform).1,
        (e.finishLanes ctx r c engine platform).2.bare) := by
  have hgroup : groupSizeFor e.bare.config r = groupSizeFor e.config r := rfl
  rw [finishLanes, finishLanes, hgroup]
  dsimp only
  split
  · exact bare_recordOn e _ _ _ _
  · rfl
  · split
    · rfl
    · exact bare_recordOn e _ _ _ _
  · exact bare_recordOn e _ _ _ _

/-- A sequential run keeps the cache honest, and answers as without a cache. -/
theorem Honest.runSequential (h : e.Honest) (ctx : Context) (r : SequentialRequest) :
    e.bare.runSequential ctx r = ((e.runSequential ctx r).1, (e.runSequential ctx r).2.bare) ∧
      (e.runSequential ctx r).2.Honest ∧ (e.runSequential ctx r).2.registry = e.registry := by
  rw [Executor.runSequential, Executor.runSequential, load_bare]
  obtain ⟨hanswer, hbare, hloaded⟩ := h.load r.program
  have hregistry := load_registry e r.program
  generalize e.load r.program = loaded at hanswer hbare hloaded hregistry
  obtain ⟨answer, e'⟩ := loaded
  dsimp only at hanswer hbare hloaded hregistry
  rw [← hanswer, ← hbare]
  cases answer with
  | error err => exact ⟨rfl, hloaded, hregistry⟩
  | ok img =>
    have hlimits : limits e'.bare.config r = limits e'.config r := rfl
    dsimp only
    rw [hlimits]
    split
    · exact ⟨rfl, hloaded, hregistry⟩
    · split
      · exact ⟨rfl, hloaded, hregistry⟩
      · next l _ =>
        split
        · obtain ⟨device, journal, timed, heq⟩ := onDevice_eq e' ctx img r l
          refine ⟨bare_onDevice e' ctx img r l, ?_⟩
          rw [heq]
          exact ⟨hloaded.of_eq rfl rfl, hregistry⟩
        · obtain ⟨journal, timed, heq⟩ := onHost_eq e' img r l
          refine ⟨bare_onHost e' img r l, ?_⟩
          rw [heq]
          exact ⟨hloaded.of_eq rfl rfl, hregistry⟩

/-- A run over lanes keeps the cache honest, and answers as without a cache. -/
theorem Honest.runLanes (h : e.Honest) (ctx : Context) (r : LaneRequest) :
    e.bare.runLanes ctx r = ((e.runLanes ctx r).1, (e.runLanes ctx r).2.bare) ∧
      (e.runLanes ctx r).2.Honest ∧ (e.runLanes ctx r).2.registry = e.registry := by
  rw [Executor.runLanes, Executor.runLanes, load_bare, bare_device]
  cases e.device with
  | none => exact ⟨rfl, h, rfl⟩
  | some device =>
    dsimp only
    obtain ⟨hanswer, hbare, hloaded⟩ := h.load r.program
    have hregistry := load_registry e r.program
    generalize e.load r.program = loaded at hanswer hbare hloaded hregistry
    obtain ⟨answer, e'⟩ := loaded
    dsimp only at hanswer hbare hloaded hregistry
    rw [← hanswer, ← hbare]
    cases answer with
    | error err => exact ⟨rfl, hloaded, hregistry⟩
    | ok img =>
      have hconfig : laneConfig e'.bare.config r = laneConfig e'.config r := rfl
      dsimp only
      rw [hconfig]
      split
      · exact ⟨rfl, hloaded, hregistry⟩
      · next c _ =>
        split
        · exact ⟨rfl, hloaded, hregistry⟩
        · split
          · exact ⟨rfl, hloaded, hregistry⟩
          · next engine _ =>
            obtain ⟨device', journal, timed, heq⟩ :=
              finishLanes_eq e' ctx r c engine (Backend.name device)
            refine ⟨bare_finishLanes e' ctx r c engine _, ?_⟩
            rw [heq]
            exact ⟨hloaded.of_eq rfl rfl, hregistry⟩

/-! ### Calls -/

/-- A call of an executor. -/
inductive Call
  | deploy (img : Image)
  | program (id : ProgramId)
  | runSequential (ctx : Context) (r : SequentialRequest)
  | runLanes (ctx : Context) (r : LaneRequest)
  | disassemble (id : ProgramId)
  | clearCache

/-- What a call answers. -/
inductive Reply
  | deployed (answer : Except Registry.Error ProgramId)
  | image (answer : Except Error Image)
  | execution (answer : Except Error Execution)
  | listing (answer : Except Error String)
  | cleared

/-- Makes a call. -/
def call (e : Executor σ) : Call → Reply × Executor σ
  | .deploy img => (.deployed (e.deploy img).1, (e.deploy img).2)
  | .program id => (.image (e.load id).1, (e.load id).2)
  | .runSequential ctx r => (.execution (e.runSequential ctx r).1, (e.runSequential ctx r).2)
  | .runLanes ctx r => (.execution (e.runLanes ctx r).1, (e.runLanes ctx r).2)
  | .disassemble id => (.listing (e.listing id).1, (e.listing id).2)
  | .clearCache => (.cleared, e.clearCache)

/-- Makes calls one after another. -/
def calls (e : Executor σ) : List Call → List Reply × Executor σ
  | [] => ([], e)
  | c :: cs => ((e.call c).1 :: ((e.call c).2.calls cs).1, ((e.call c).2.calls cs).2)

/-- The registry after a call. -/
def Call.registry (r : Registry) : Call → Registry
  | .deploy img =>
    match r.put img with
    | .ok (_, r') => r'
    | .error _ => r
  | _ => r

/-- An image that is deployed is new to the registry, or it is the stored one. -/
def Call.Faithful (r : Registry) : Call → Prop
  | .deploy img =>
    ∀ id r', r.put img = .ok (id, r') → r.get id = .error .notFound ∨ r.get id = .ok img
  | _ => True

/-- Each image that is deployed is new to the registry, or it is the stored one. -/
def Faithful (r : Registry) : List Call → Prop
  | [] => True
  | c :: cs => c.Faithful r ∧ Faithful (c.registry r) cs

/-- A faithful call keeps the cache honest, and answers as without a cache. -/
theorem Honest.call {c : Call} (h : e.Honest) (hc : c.Faithful e.registry) :
    e.bare.call c = ((e.call c).1, (e.call c).2.bare) ∧ (e.call c).2.Honest ∧
      (e.call c).2.registry = c.registry e.registry := by
  cases c with
  | deploy img =>
    refine ⟨?_, h.deploy hc, ?_⟩
    · rw [Executor.call, bare_deploy, Executor.call]
    · rw [Executor.call, Executor.deploy, Call.registry]
      cases e.registry.put img with
      | error err => rfl
      | ok put => exact remember_registry _ _ _
  | program id =>
    obtain ⟨hanswer, hbare, hloaded⟩ := h.load id
    refine ⟨?_, hloaded, load_registry e id⟩
    rw [Executor.call, load_bare, Executor.call, hanswer, hbare]
  | runSequential ctx r =>
    obtain ⟨hanswer, hran, hregistry⟩ := h.runSequential ctx r
    refine ⟨?_, hran, hregistry⟩
    rw [Executor.call, hanswer, Executor.call]
  | runLanes ctx r =>
    obtain ⟨hanswer, hran, hregistry⟩ := h.runLanes ctx r
    refine ⟨?_, hran, hregistry⟩
    rw [Executor.call, hanswer, Executor.call]
  | disassemble id =>
    obtain ⟨hanswer, hbare, hloaded⟩ := h.load id
    refine ⟨?_, hloaded, load_registry e id⟩
    rw [Executor.call, listing, load_bare, Executor.call, listing]
    dsimp only
    rw [hanswer, hbare]
  | clearCache => exact ⟨rfl, fun p hp => (List.not_mem_nil hp).elim, rfl⟩

/-- So do faithful calls one after another. -/
theorem Honest.calls {cs : List Call} (h : e.Honest) (hcs : Faithful e.registry cs) :
    e.bare.calls cs = ((e.calls cs).1, (e.calls cs).2.bare) ∧ (e.calls cs).2.Honest := by
  induction cs generalizing e with
  | nil => exact ⟨rfl, h⟩
  | cons c cs ih =>
    obtain ⟨hc, hrest⟩ := hcs
    obtain ⟨hanswer, hcalled, hregistry⟩ := h.call hc
    obtain ⟨hanswers, hhonest⟩ := ih hcalled (hregistry ▸ hrest)
    refine ⟨?_, hhonest⟩
    rw [Executor.calls, hanswer, Executor.calls]
    dsimp only
    rw [hanswers]

/-- The cache of an executor goes unnoticed as long as images are deployed faithfully: whatever its
size is, calls have the same answers, and afterwards each identifier gives the image that the
registry has. -/
theorem calls_answers_eq {cs : List Call} (hempty : e.cache = []) (hcs : Faithful e.registry cs)
    (cacheSize : Int) :
    (calls { e with config := { e.config with cacheSize } } cs).1 = (e.calls cs).1 ∧
      ∀ id, ((e.calls cs).2.load id).1 = fetch (e.calls cs).2.registry id := by
  have hhonest : e.Honest := by
    rw [Honest, hempty]
    exact fun p hp => (List.not_mem_nil hp).elim
  have hresized : Honest { e with config := { e.config with cacheSize } } := hhonest.of_eq rfl rfl
  obtain ⟨hanswers, hafter⟩ := hhonest.calls hcs
  obtain ⟨hanswers', -⟩ := hresized.calls hcs
  have hbare : bare { e with config := { e.config with cacheSize } } = e.bare := rfl
  rw [hbare, hanswers] at hanswers'
  exact ⟨(Prod.mk.inj hanswers').1.symm, fun id => (hafter.load id).1⟩

/-- A program that prints one number if it starts at its first word, and another one if it starts at
its fifth word. -/
def twoEntries (entry : Int) : Image :=
  { program := ⟨#[9, 1, 14, 16, 9, 2, 14, 16]⟩, entry }

/-- An executor over an empty registry, without a device. -/
def newcomer (cacheSize : Int) : Executor Cpu :=
  { config := { cacheSize }, registry := .memory {}, device := none, journal := none, fuel := 10 }

/-- A program that is deployed, run, and loaded again after the cache was emptied. -/
def faithfulCalls : List Call :=
  [.deploy (twoEntries 4), .runSequential {} { program := (twoEntries 4).id }, .clearCache,
    .program (twoEntries 4).id]

theorem faithfulCalls_answers_eq :
    Faithful (newcomer 1).registry faithfulCalls ∧
      ((newcomer 0).calls faithfulCalls).1 = ((newcomer 1).calls faithfulCalls).1 :=
  have hfaithful : Faithful (newcomer 1).registry faithfulCalls :=
    ⟨fun _ _ _ => .inl rfl, trivial, trivial, trivial, trivial⟩
  ⟨hfaithful, (calls_answers_eq (e := newcomer 1) rfl hfaithful 0).1⟩

/-- A program that is deployed with one entry and then with another one, and loaded. -/
def unfaithfulCalls : List Call :=
  [.deploy (twoEntries 0), .deploy (twoEntries 4), .program (twoEntries 0).id]

/-- Without a cache the program is loaded with the entry that is stored, with a cache it is loaded
with the other one. -/
theorem unfaithfulCalls_answers_ne :
    ((newcomer 0).calls unfaithfulCalls).1 ≠ ((newcomer 1).calls unfaithfulCalls).1 := by
  intro h
  have hlast := (List.cons.inj (List.cons.inj (List.cons.inj h).2).2).1
  have hloaded := congrArg Except.toOption (Reply.image.inj hlast)
  revert hloaded
  decide +kernel

end Lanewise.Executor
