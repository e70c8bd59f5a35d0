import Lanewise.Proofs.Remote.Interchange

/-!
# The tables of a device server

A server finds a kernel in two steps. Its own table leads from a handle that a client has to a
handle of the processor, and the table of the processor leads from there to the kernel. The tables
have keys of their own and change one after the other: a handle is given up before the processor
forgets the kernel behind it.

Still, for a server that is the only user of its processor the two are columns of one table. A
request adds a row, removes one or leaves all as they are, and a server that stops removes them all.
Which rows there are can be told from the requests and their answers alone: those that were prepared
with success and not released since.

## Main definitions

* `Remote.Server.Request`, `Remote.Server.Response`, `Remote.Server.serve`: requests one after
  another.
* `Remote.Server.outstanding`: the kernels that were prepared and not released, as told by the
  answers.
* `Remote.Server.Tabulated`: the tables of a server and of its processor as columns of one table.
* `Remote.Server.InStep`: the tables and the kernels that are outstanding agree.

## Main results

* `Remote.Server.Tabulated.answer`: what a request does to the rows.
* `Remote.Server.serve_inStep`: the tables agree after any requests.
-/

namespace Lanewise.Remote.Server

/-! ### Requests -/

/-- A request to a server, or the order to stop. -/
inductive Request
  | prepare (ctx : Context) (k : Kernel)
  | execute (ctx : Context) (id : String) (l : Launch)
  | release (id : String)
  | info
  | stop

/-- What is answered to a request. -/
inductive Response
  | prepared (answer : Except Status String)
  | executed (answer : Except Status Reply)
  | released (answer : Except Status Unit)
  | described (i : Info)
  | stopped

/-- The answer is that the request has failed. Faults of lanes are no failure. -/
def Response.Failed : Response → Prop
  | prepared (.error _) | executed (.error _) | released (.error _) => True
  | _ => False

section

variable {σ : Type} [Backend σ]

/-- The answer to a request, and the server afterwards. -/
def answer (s : Server σ) : Request → Response × Server σ
  | .prepare ctx k => (s.prepare ctx k).map .prepared id
  | .execute ctx id l => (s.execute ctx id l).map .executed fun s => s
  | .release id => (s.release id).map .released fun s => s
  | .info => (.described s.info, s)
  | .stop => (.stopped, s.stop)

/-- Requests one after another, with their answers, and the server afterwards. -/
def serve (s : Server σ) : List Request → List (Request × Response) × Server σ
  | [] => ([], s)
  | r :: rs =>
    let (response, s) := s.answer r
    let (log, s) := serve s rs
    ((r, response) :: log, s)

end

/-- What one request and its answer say about the kernels that are outstanding. -/
def note (held : List (String × Kernel)) : Request × Response → List (String × Kernel)
  | (.prepare _ k, .prepared (.ok id)) => held ++ [(id, k)]
  | (.release id, .released (.ok ())) => held.filter (·.1 != id)
  | (.stop, _) => []
  | _ => held

/-- The kernels that were prepared and not released since, each under the handle that was
answered. -/
def outstanding (log : List (Request × Response)) : List (String × Kernel) :=
  log.foldl note []

/-! ### One table -/

/-- A kernel that a server holds, with the handle that clients have and the handle of the
processor. -/
structure Row where
  name : String
  target : Handle
  kernel : Kernel
  compiled : Compiled
  compiles : kernel.compile = .ok compiled

/-- The kernel of a row as a client knows it. -/
def Row.entry (r : Row) : String × Kernel :=
  (r.name, r.kernel)

/-- The tables of a server and of its processor are columns of one table. -/
structure Tabulated (s : Server Cpu) (rows : List Row) : Prop where
  sound : s.Sound
  handles_eq : s.handles = rows.map fun r => (r.name, r.target)
  kernels_eq : s.device.kernels = rows.map fun r => (r.target.id, r.compiled)
  names_nodup : (rows.map (·.name)).Nodup

variable {s : Server Cpu} {rows : List Row} {id : String} {k : Compiled} {K : Kernel}

/-- A server and a processor without handles hold nothing. -/
theorem tabulated_nil (hhandles : s.handles = []) (hkernels : s.device.kernels = []) :
    s.Tabulated [] := by
  refine ⟨⟨?_, ?_, ?_, ?_⟩, hhandles, hkernels, List.nodup_nil⟩
  · intro p hp
    rw [hkernels] at hp
    cases hp
  · rw [hhandles]
    exact fun p hp => absurd hp List.not_mem_nil
  · rw [hhandles]
    exact fun p hp => absurd hp List.not_mem_nil
  · rw [hhandles]
    exact List.nodup_nil

namespace Tabulated

theorem targets_nodup (h : s.Tabulated rows) : (rows.map (·.target.id)).Nodup := by
  have hdistinct := h.sound.distinct
  rwa [h.handles_eq, List.map_map] at hdistinct

theorem handles_nodup (h : s.Tabulated rows) : (s.handles.map (·.1)).Nodup := by
  rw [h.handles_eq, List.map_map]
  exact h.names_nodup

theorem kernels_nodup (h : s.Tabulated rows) : (s.device.kernels.map (·.1)).Nodup := by
  rw [h.kernels_eq, List.map_map]
  exact h.targets_nodup

theorem lookup_eq_some_iff (h : s.Tabulated rows) {target : Handle} :
    s.handles.lookup id = some target ↔ ∃ r ∈ rows, r.name = id ∧ r.target = target := by
  rw [lookup_eq_some_iff_mem h.handles_nodup, h.handles_eq, List.mem_map]
  simp only [Prod.mk.injEq]

theorem lookup_eq_none_iff (h : s.Tabulated rows) :
    s.handles.lookup id = none ↔ id ∉ rows.map (·.name) := by
  rw [Option.eq_none_iff_forall_ne_some, List.mem_map]
  constructor
  · rintro hnone ⟨r, hr, hname⟩
    exact hnone r.target (h.lookup_eq_some_iff.2 ⟨r, hr, hname, rfl⟩)
  · rintro hnone target hsome
    obtain ⟨r, hr, hname, -⟩ := h.lookup_eq_some_iff.1 hsome
    exact hnone ⟨r, hr, hname⟩

theorem kernel?_target (h : s.Tabulated rows) {r : Row} (hr : r ∈ rows) :
    s.device.kernel? r.target.id = some r.compiled := by
  rw [Cpu.kernel?, lookup_eq_some_iff_mem h.kernels_nodup, h.kernels_eq]
  exact List.mem_map_of_mem hr

/-- Rows with the same name or the same target are the same. -/
theorem target_eq_iff (h : s.Tabulated rows) {r r' : Row} (hr : r ∈ rows) (hr' : r' ∈ rows) :
    r.target.id = r'.target.id ↔ r.name = r'.name := by
  constructor
  · exact fun heq => congrArg Row.name (List.inj_on_of_nodup_map h.targets_nodup hr hr' heq)
  · exact fun heq =>
      congrArg (fun r => r.target.id) (List.inj_on_of_nodup_map h.names_nodup hr hr' heq)

/-! ### Requests and rows -/

/-- A kernel that is prepared is one row more. -/
theorem prepared (h : s.Tabulated rows) (hk : K.compile = .ok k) :
    (s.prepared k).Tabulated (rows ++
      [⟨Handle.idOf s.issued, ⟨Handle.idOf s.device.issued, Cpu.name⟩, K, k, hk⟩]) := by
  have hkeeps : s.Keeps (fun _ => True) (s.prepared k) := h.sound.keeps_prepared k
  refine ⟨hkeeps.sound, ?_, ?_, ?_⟩
  · rw [Server.prepared, h.handles_eq, List.map_append]
    rfl
  · rw [Server.prepared, Cpu.prepared, h.kernels_eq, List.map_append]
    rfl
  · have hnew : Handle.idOf s.issued ∉ rows.map (·.name) :=
      h.lookup_eq_none_iff.1 (Handle.lookup_next h.sound.names)
    rw [List.map_append, List.nodup_append]
    refine ⟨h.names_nodup, List.nodup_singleton _, fun name hname name' hname' heq => ?_⟩
    have hname' : name' = Handle.idOf s.issued := List.mem_singleton.1 hname'
    exact hnew (heq.trans hname' ▸ hname)

/-- A kernel that is released is one row less: what both tables lose is the same row. -/
theorem released (h : s.Tabulated rows) {r : Row} (hr : r ∈ rows) :
    (s.released r.name r.target).Tabulated (rows.filter (·.name != r.name)) := by
  have hlookup : s.handles.lookup r.name = some r.target :=
    h.lookup_eq_some_iff.2 ⟨r, hr, rfl, rfl⟩
  have hdevice : (s.device.release r.target).2.kernels =
      s.device.kernels.filter (·.1 != r.target.id) := by
    rw [Cpu.release, h.kernel?_target hr]
  refine ⟨(h.sound.keeps_released hlookup).sound, ?_, ?_, ?_⟩
  · rw [Server.released, h.handles_eq, List.filter_map]
    rfl
  · rw [Server.released, hdevice, h.kernels_eq, List.filter_map]
    refine congrArg _ (List.filter_congr fun r' hr' => ?_)
    have hiff := h.target_eq_iff hr' hr
    simp only [Function.comp_apply, bne, beq_eq_decide, hiff]
  · exact h.names_nodup.sublist (List.filter_sublist.map _)

end Tabulated

/-- A release takes the kernel with this handle away, if there is one. -/
theorem kernels_release (c : Cpu) (h : Handle) :
    (Backend.release c h).2.kernels = c.kernels.filter (·.1 != h.id) := by
  change (c.release h).2.kernels = _
  rw [Cpu.release]
  split
  · next hnone =>
    refine (List.filter_eq_self.2 fun p hp => ?_).symm
    have hne := List.lookup_eq_none_iff.1 hnone p hp
    rwa [bne_comm]
  · rfl

theorem mem_kernels_of_releases (handles : List (String × Handle)) (c : Cpu)
    {p : String × Compiled}
    (hp : p ∈ (handles.foldl (fun c h => (Backend.release c h.2).2) c).kernels) :
    p ∈ c.kernels ∧ ∀ h ∈ handles, p.1 ≠ h.2.id := by
  induction handles generalizing c with
  | nil => exact ⟨hp, fun h hh => absurd hh List.not_mem_nil⟩
  | cons h handles ih =>
    obtain ⟨hmem, hothers⟩ := ih _ hp
    rw [kernels_release, List.mem_filter] at hmem
    exact ⟨hmem.1, List.forall_mem_cons.2 ⟨bne_iff_ne.1 hmem.2, hothers⟩⟩

/-- Every kernel of the processor stands behind a handle of the server, so none is left. -/
theorem Tabulated.stop (h : s.Tabulated rows) : s.stop.Tabulated [] := by
  refine tabulated_nil rfl (List.eq_nil_iff_forall_not_mem.2 fun p hp => ?_)
  obtain ⟨hmem, hothers⟩ := mem_kernels_of_releases _ _ hp
  rw [h.kernels_eq] at hmem
  obtain ⟨r, hr, rfl⟩ := List.mem_map.1 hmem
  have hhandle : (r.name, r.target) ∈ s.handles := by
    rw [h.handles_eq]
    exact List.mem_map_of_mem hr
  exact hothers _ hhandle rfl

/-- A kernel is kept under the next handle, or the request fails and nothing changes. -/
theorem prepare_eq (s : Server Cpu) (ctx : Context) (K : Kernel) :
    (∃ e, s.prepare ctx K = (.error e, s)) ∨
      ∃ k, K.compile = .ok k ∧ s.prepare ctx K = (.ok (Handle.idOf s.issued), s.prepared k) := by
  obtain ⟨cancelled⟩ := ctx
  cases cancelled with
  | true => exact .inl ⟨_, rfl⟩
  | false =>
    cases hK : K.compile with
    | error e => exact .inl ⟨_, prepare_of_error hK⟩
    | ok k => exact .inr ⟨k, rfl, prepare_of_compile hK⟩

/-- A kernel that compiles is prepared for a caller who waits. -/
theorem prepare_ok_iff (s : Server Cpu) (ctx : Context) (K : Kernel) :
    (∃ id, (s.prepare ctx K).1 = .ok id) ↔ ctx.cancelled = false ∧ ∃ k, K.compile = .ok k := by
  obtain ⟨cancelled⟩ := ctx
  cases cancelled with
  | true => exact iff_of_false (fun ⟨_, h⟩ => by cases h) fun h => by cases h.1
  | false =>
    cases hK : K.compile with
    | error e =>
      rw [prepare_of_error hK]
      exact iff_of_false (fun ⟨_, h⟩ => by cases h) fun ⟨_, _, h⟩ => by cases h
    | ok k =>
      rw [prepare_of_compile hK]
      exact iff_of_true ⟨_, rfl⟩ ⟨rfl, k, rfl⟩

theorem release_of_unknown (h : s.handles.lookup id = none) :
    s.release id = (.error (unknownHandle id), s) := by
  rw [release, h]

/-- The processor never fails to release a kernel that the server knows. -/
theorem Tabulated.release_eq (h : s.Tabulated rows) {r : Row} (hr : r ∈ rows) :
    s.release r.name = (.ok (), s.released r.name r.target) := by
  have hlookup : s.handles.lookup r.name = some r.target :=
    h.lookup_eq_some_iff.2 ⟨r, hr, rfl, rfl⟩
  have hdevice : Backend.release s.device r.target = (.ok (), (s.device.release r.target).2) := by
    change s.device.release r.target = _
    rw [Cpu.release, h.kernel?_target hr]
  rw [release, hlookup]
  dsimp only
  rw [hdevice]
  rfl

/-- What a request does to the rows is what its answer says. -/
theorem Tabulated.answer (h : s.Tabulated rows) (r : Request) :
    ∃ rows', (s.answer r).2.Tabulated rows' ∧
      rows'.map Row.entry = note (rows.map Row.entry) (r, (s.answer r).1) := by
  cases r with
  | prepare ctx K =>
    rw [Server.answer]
    rcases s.prepare_eq ctx K with ⟨e, heq⟩ | ⟨k, hk, heq⟩
    · rw [heq]
      exact ⟨rows, h, rfl⟩
    · rw [heq]
      refine ⟨_, h.prepared hk, ?_⟩
      rw [List.map_append]
      rfl
  | execute ctx id l =>
    refine ⟨rows, ?_, rfl⟩
    have hsame := s.execute_snd ctx id l
    rwa [Server.answer, Prod.map_snd, hsame]
  | release id =>
    rw [Server.answer]
    by_cases hid : id ∈ rows.map (·.name)
    · obtain ⟨r, hr, rfl⟩ := List.mem_map.1 hid
      rw [h.release_eq hr]
      refine ⟨_, h.released hr, ?_⟩
      have hfilter : (rows.map Row.entry).filter (·.1 != r.name) =
          (rows.filter (·.name != r.name)).map Row.entry := List.filter_map
      exact hfilter.symm
    · rw [release_of_unknown (h.lookup_eq_none_iff.2 hid)]
      exact ⟨rows, h, rfl⟩
  | info => exact ⟨rows, h, rfl⟩
  | stop => exact ⟨[], h.stop, rfl⟩

/-- By induction on the requests, whatever was outstanding before. -/
theorem Tabulated.serve (h : s.Tabulated rows) (requests : List Request) :
    ∃ rows', (s.serve requests).2.Tabulated rows' ∧
      rows'.map Row.entry = (s.serve requests).1.foldl note (rows.map Row.entry) := by
  induction requests generalizing s rows with
  | nil => exact ⟨rows, h, rfl⟩
  | cons r requests ih =>
    obtain ⟨rows', hrows', hnote⟩ := h.answer r
    obtain ⟨rows'', hrows'', hlog⟩ := ih hrows'
    refine ⟨rows'', hrows'', ?_⟩
    rw [hlog, hnote]
    rfl

/-! ### Tables in step -/

/-- The tables of a server and of its processor agree with each other and with the kernels that are
outstanding. -/
structure InStep (s : Server Cpu) (held : List (String × Kernel)) : Prop where
  names_nodup : (s.handles.map (·.1)).Nodup
  keys_nodup : (s.device.kernels.map (·.1)).Nodup
  /-- The handles of the server lead to the kernels of the processor, one to one. -/
  targets_eq : s.handles.map (·.2.id) = s.device.kernels.map (·.1)
  /-- The server tells how many kernels are outstanding. -/
  kernels_eq : s.info.kernels = held.length
  compiles : ∀ p ∈ held, ∃ k, p.2.compile = .ok k
  /-- What is found under a handle is the kernel that was prepared under it. -/
  holds_iff (id : String) (k : Compiled) :
    s.Holds id k ↔ ∃ K, (id, K) ∈ held ∧ K.compile = .ok k
  prepare_iff (ctx : Context) (K : Kernel) : (∃ id, (s.prepare ctx K).1 = .ok id) ↔
    ctx.cancelled = false ∧ ∃ k, K.compile = .ok k
  execute_iff (ctx : Context) (id : String) (l : Launch) :
    (s.execute ctx id l).1 = .error (unknownHandle id) ↔ id ∉ held.map (·.1)
  release_iff (id : String) : (s.release id).1 = .ok () ↔ id ∈ held.map (·.1)
  /-- A request that fails changes nothing. -/
  same_of_failed (r : Request) (h : (s.answer r).1.Failed) : (s.answer r).2 = s
  stop_empty : s.stop.handles = [] ∧ s.stop.device.kernels = []

/-- No failure of a device is told as an unknown handle. -/
theorem ofError_ne_unknownHandle (e : Device.Error) (id : String) :
    Status.ofError e ≠ unknownHandle id := by
  intro heq
  have hcode : (Status.ofError e).code = Status.notFound := congrArg Status.code heq
  cases e
  all_goals cases hcode

/-- Only a handle without a row is unknown to a launch. -/
theorem execute_eq_unknown_iff {ctx : Context} {l : Launch} :
    (s.execute ctx id l).1 = .error (unknownHandle id) ↔ s.handles.lookup id = none := by
  unfold execute
  split
  · next hnone => simp only [hnone]
  · next h hsome =>
    simp only [hsome, reduceCtorEq, iff_false]
    split
    · exact fun heq => by cases heq
    · exact fun heq => by cases heq
    · next e _ _ _ => exact fun heq => ofError_ne_unknownHandle e id (Except.error.inj heq)

theorem Tabulated.same_of_failed (h : s.Tabulated rows) (r : Request)
    (hfailed : (s.answer r).1.Failed) : (s.answer r).2 = s := by
  cases r with
  | prepare ctx K =>
    rw [Server.answer] at hfailed ⊢
    rcases s.prepare_eq ctx K with ⟨e, heq⟩ | ⟨k, hk, heq⟩
    · rw [heq]
      rfl
    · rw [heq] at hfailed
      exact hfailed.elim
  | execute ctx id l => exact s.execute_snd ctx id l
  | release id =>
    rw [Server.answer] at hfailed ⊢
    by_cases hid : id ∈ rows.map (·.name)
    · obtain ⟨r, hr, rfl⟩ := List.mem_map.1 hid
      rw [h.release_eq hr] at hfailed
      exact hfailed.elim
    · rw [release_of_unknown (h.lookup_eq_none_iff.2 hid)]
      rfl
  | info => rfl
  | stop => exact hfailed.elim

theorem Tabulated.inStep (h : s.Tabulated rows) : s.InStep (rows.map Row.entry) := by
  have hnames : (rows.map Row.entry).map (·.1) = rows.map (·.name) := List.map_map ..
  refine
    { names_nodup := h.handles_nodup
      keys_nodup := h.kernels_nodup
      targets_eq := ?_
      kernels_eq := ?_
      compiles := ?_
      holds_iff := fun id k => ?_
      prepare_iff := s.prepare_ok_iff
      execute_iff := fun ctx id l => ?_
      release_iff := fun id => ?_
      same_of_failed := h.same_of_failed
      stop_empty := ⟨rfl, h.stop.kernels_eq⟩ }
  · rw [h.handles_eq, h.kernels_eq, List.map_map, List.map_map]
    rfl
  · rw [info, h.handles_eq, List.length_map, List.length_map]
  · rintro p hp
    obtain ⟨r, -, rfl⟩ := List.mem_map.1 hp
    exact ⟨r.compiled, r.compiles⟩
  · constructor
    · rintro ⟨target, hlookup, hk⟩
      obtain ⟨r, hr, rfl, rfl⟩ := h.lookup_eq_some_iff.1 hlookup
      rw [h.kernel?_target hr] at hk
      exact ⟨r.kernel, List.mem_map_of_mem hr, r.compiles.trans (congrArg _ (Option.some.inj hk))⟩
    · rintro ⟨K, hmem, hK⟩
      obtain ⟨r, hr, heq⟩ := List.mem_map.1 hmem
      obtain ⟨rfl, rfl⟩ := Prod.mk.inj heq
      rw [r.compiles] at hK
      obtain rfl := Except.ok.inj hK
      exact ⟨r.target, h.lookup_eq_some_iff.2 ⟨r, hr, rfl, rfl⟩, h.kernel?_target hr⟩
  · rw [execute_eq_unknown_iff, h.lookup_eq_none_iff, hnames]
  · rw [hnames]
    by_cases hid : id ∈ rows.map (·.name)
    · obtain ⟨r, hr, rfl⟩ := List.mem_map.1 hid
      rw [h.release_eq hr]
      exact iff_of_true rfl hid
    · rw [release_of_unknown (h.lookup_eq_none_iff.2 hid)]
      exact iff_of_false (fun heq => by cases heq) hid

/-- The tables of a server that alone uses its processor agree after any requests. -/
theorem serve_inStep (hhandles : s.handles = []) (hkernels : s.device.kernels = [])
    (requests : List Request) :
    (s.serve requests).2.InStep (outstanding (s.serve requests).1) := by
  obtain ⟨rows, hrows, hlog⟩ := (tabulated_nil hhandles hkernels).serve requests
  rw [outstanding, ← List.map_nil (f := Row.entry), ← hlog]
  exact hrows.inStep

/-- Two kernels are prepared and the first is released; three requests fail. -/
def someRequests : List Request :=
  [.prepare {} Client.reciprocals, .prepare ⟨true⟩ Client.reciprocals,
    .prepare {} Client.reciprocals, .release (Handle.idOf 0), .release (Handle.idOf 0),
    .execute {} (Handle.idOf 0) { heaps := #[#[0]], lanes := 2 }]

/-- The second kernel is left. -/
theorem someRequests_inStep :
    let s : Server Cpu := { device := { fuel := 9 } }
    (s.serve someRequests).2.InStep (outstanding (s.serve someRequests).1) ∧
      (outstanding (s.serve someRequests).1).map (·.1) = [Handle.idOf 1] :=
  ⟨serve_inStep rfl rfl someRequests, by decide +kernel⟩

end Lanewise.Remote.Server
