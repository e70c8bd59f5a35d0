import Lanewise.LaneEngine
import Lanewise.Proofs.Device.Acceptance

/-!
# What lane engines commit

A lane engine lends its heaps to a device and gets heaps back. Whatever a device answers, the heaps
of the engine keep their number and their sizes, and a call that fails leaves them as they were. A
device may be anything here that does not write to what it was lent: its state is of any type, and
its answers are any functions of it.

A run that succeeds copies the heaps that came back, one after another. A heap that came back can be
a part of one that was lent. Then the order counts: a part of a heap whose turn is still to come, or
of the heap itself, is copied as it was returned, but a part of an earlier heap shows what has been
copied there.

## Main definitions

* `LaneEngine.Copied`: heaps that have been overwritten by returned heaps, one after another.
* `LaneEngine.Call`, `LaneEngine.ask`, `LaneEngine.after`: calls of an engine, and the engine after
  them.

## Main results

* `LaneEngine.setHeap_eq_ok_iff`, `LaneEngine.create_eq`: heaps before any run.
* `LaneEngine.misfit?_eq_none_iff`: heaps are taken over only if all of them fit.
* `LaneEngine.copied_commit`: what copying leaves in each heap.
* `LaneEngine.run_eq_ok_iff`, `LaneEngine.run_eq_ok`: when a run succeeds, and what it leaves.
* `LaneEngine.commits_all_or_nothing`: what holds after any calls.
-/

namespace Lanewise.LaneEngine

/-- A call of a lane engine. -/
inductive Call
  | initHeaps
  | setHeap (selector : Int) (values : Array Word)
  | prepare (ctx : Context)
  | run (ctx : Context) (lanes groupSize : Int)
  | close

section Heaps

variable {σ : Type} {e e' : LaneEngine σ}

/-- The sizes of the heaps. -/
def shape (e : LaneEngine σ) : Array Nat :=
  e.heaps.map Array.size

/-! ### Heaps -/

theorem forall_mem_mapIdx_iff {kept got : List Heap} (hlength : got.length = kept.length) :
    (∀ p ∈ (got.zip kept).mapIdx fun i (g, h) => (i, g.size, h.size), p.2.1 = p.2.2) ↔
      got.map Array.size = kept.map Array.size := by
  constructor
  · intro h
    refine List.ext_getElem (by rw [List.length_map, List.length_map, hlength]) fun i hi hi' => ?_
    rw [List.length_map] at hi hi'
    have hzip : i < (got.zip kept).length := by
      rw [List.length_zip]
      omega
    have hpair := h _ (List.mem_mapIdx.2 ⟨i, hzip, rfl⟩)
    rw [List.getElem_zip] at hpair
    rw [List.getElem_map, List.getElem_map]
    exact hpair
  · rintro h p hp
    obtain ⟨i, hi, rfl⟩ := List.mem_mapIdx.1 hp
    rw [List.length_zip] at hi
    have hsize := List.getElem_of_eq h (i := i) (by rw [List.length_map]; omega)
    rw [List.getElem_map, List.getElem_map] at hsize
    rw [List.getElem_zip]
    exact hsize

/-- Heaps fit if there are as many as there should be, with as many cells. -/
theorem misfit?_eq_none_iff {kept got : List Heap} :
    misfit? kept got = none ↔ got.map Array.size = kept.map Array.size := by
  unfold misfit?
  by_cases hlength : got.length = kept.length
  · rw [if_neg fun hne => hne hlength, ← forall_mem_mapIdx_iff hlength]
    dsimp only
    split
    · next hfind =>
      refine iff_of_false nofun fun hall => ?_
      have hne := List.find?_some hfind
      exact of_decide_eq_true hne (hall _ (List.mem_of_find?_eq_some hfind))
    · next hfind =>
      refine iff_of_true rfl fun p hp => ?_
      exact Decidable.not_not.1 fun hne => List.find?_eq_none.1 hfind p hp (decide_eq_true hne)
  · rw [if_pos hlength]
    refine iff_of_false nofun fun h => hlength ?_
    have hsame := congrArg List.length h
    rwa [List.length_map, List.length_map] at hsame

theorem misfit?_toList_eq_none_iff {kept got : Array Heap} :
    misfit? kept.toList got.toList = none ↔ got.map Array.size = kept.map Array.size := by
  rw [misfit?_eq_none_iff, ← Array.toList_map, ← Array.toList_map, Array.toList_inj]

theorem shape_initHeaps (e : LaneEngine σ) : e.initHeaps.shape = e.shape := by
  refine Array.ext_getElem? fun i => ?_
  rw [shape, shape, Array.getElem?_map, Array.getElem?_map, initHeaps, Array.getElem?_mapIdx,
    Option.map_map]
  refine congrArg (e.heaps[i]?.map ·) (funext fun h => ?_)
  rw [Function.comp_apply]
  split
  · exact Array.size_replicate
  · exact Array.size_ofFn

theorem getElem?_of_heap {selector : Int} {h : Heap} (hheap : e.heap selector = .ok h) :
    e.heaps[selector.toNat]? = some h := by
  unfold heap at hheap
  split at hheap
  · next hget =>
    obtain rfl := Except.ok.inj hheap
    exact hget
  · cases hheap

/-- A heap is set if it is there and has a cell for each value. -/
theorem setHeap_eq_ok_iff {selector : Int} {values : Array Word} :
    e.setHeap selector values = .ok e' ↔ ∃ h, e.heap selector = .ok h ∧ values.size ≤ h.size ∧
      e' = { e with
        heaps := e.heaps.setIfInBounds selector.toNat ((Heap.zeros h.size).overlay values) } := by
  unfold setHeap
  cases e.heap selector with
  | error err => simp
  | ok h =>
    dsimp only
    rw [guard_eq_ok_iff, Nat.not_lt, Except.ok.injEq, eq_comm (b := e')]
    constructor
    · rintro ⟨hsize, rfl⟩
      exact ⟨h, rfl, hsize, rfl⟩
    · rintro ⟨_, hheap, hsize, rfl⟩
      obtain rfl := Except.ok.inj hheap
      exact ⟨hsize, rfl⟩

theorem shape_setHeap {selector : Int} {values : Array Word}
    (h : e.setHeap selector values = .ok e') :
    e'.shape = e.shape := by
  obtain ⟨cells, hheap, -, rfl⟩ := setHeap_eq_ok_iff.1 h
  have hcells := getElem?_of_heap hheap
  refine Array.ext_getElem? fun i => ?_
  rw [shape, shape, Array.getElem?_map, Array.getElem?_map, Array.getElem?_setIfInBounds]
  split
  · next heq =>
    subst heq
    have hlt := (Array.getElem?_eq_some_iff.1 hcells).1
    rw [if_pos hlt, hcells, Option.map_some, Option.map_some, Heap.overlay, Array.size_mapIdx,
      Heap.zeros, Array.size_replicate]
  · rfl

/-- A new engine has prepared nothing, and all its heaps are zero. -/
theorem create_eq {program : Program} {entry : Int} {config : LaneConfig} {device : Option σ}
    (h : create program entry config device = .ok e) :
    e = {
      program, entry, stackSize := orDefault config.stackSize defaultStackSize
      placement := config.placement, trace := config.trace, maxSteps := config.maxSteps
      heaps := Array.replicate (orDefault config.heapCount defaultHeapCount).toNat
        (Heap.zeros (orDefault config.heapSize defaultHeapSize).toNat)
      device } := by
  simp only [create, bind, Except.bind, pure, Except.pure, throw, throwThe,
    MonadExceptOf.throw] at h
  cases hentry : program.checkEntry entry with
  | error err => simp [hentry] at h
  | ok =>
    simp only [hentry] at h
    rw [guard_eq_ok_iff] at h
    exact (Except.ok.inj h.2).symm

theorem create_shape {program : Program} {entry : Int} {config : LaneConfig} {device : Option σ}
    (h : create program entry config device = .ok e) :
    e.shape = Array.replicate (orDefault config.heapCount defaultHeapCount).toNat
      (orDefault config.heapSize defaultHeapSize).toNat := by
  rw [create_eq h, shape, Array.map_replicate, Heap.zeros, Array.size_replicate]

end Heaps

/-! ### Copying heaps -/

section Copying

variable {part : Nat → Option (Nat × Nat)} {lent returned heaps : Array Heap} {i j first : Nat}
    {h : Heap}

theorem size_commit (part : Nat → Option (Nat × Nat)) (i : Nat) (rest : List Heap)
    (heaps : Array Heap) :
    (commit part i rest heaps).size = heaps.size := by
  induction rest generalizing i heaps with
  | nil => rfl
  | cons h rest ih =>
    rw [commit, ih]
    exact Array.size_setIfInBounds

/-- A heap is not written again after its turn. -/
theorem getElem?_commit_of_lt {n : Nat} (hn : n < i) (rest : List Heap) :
    (commit part i rest heaps)[n]? = heaps[n]? := by
  induction rest generalizing i heaps with
  | nil => rfl
  | cons h rest ih =>
    rw [commit, ih (Nat.lt_succ_of_lt hn)]
    exact Array.getElem?_setIfInBounds_ne (Nat.ne_of_gt hn)

/-- The heaps when it is the turn of one of them: those behind are as they were, and none has
another size. -/
structure Turn (lent : Array Heap) (i : Nat) (heaps : Array Heap) : Prop where
  later (j : Nat) (hj : i ≤ j) : heaps[j]? = lent[j]?
  sizes_eq : heaps.map Array.size = lent.map Array.size

theorem size_of_map_size_eq {xs ys : Array Heap} (h : xs.map Array.size = ys.map Array.size) :
    xs.size = ys.size := by
  have hsize := congrArg Array.size h
  rwa [Array.size_map, Array.size_map] at hsize

/-- A returned heap shows as many cells as it has, whatever has been copied to the heap that it is a
part of. -/
theorem Turn.size_shown (hturn : Turn lent i heaps) (s : Sharing lent returned)
    (hh : returned[i]? = some h) : (shown (s.part i) h heaps).size = h.size := by
  cases hpart : s.part i with
  | none => rfl
  | some source =>
    obtain ⟨j, first⟩ := source
    obtain ⟨cells, hcells, hextract⟩ := s.shows i j first h hh hpart
    have hsize : (heaps.getD j #[]).size = cells.size := by
      have hj := congrArg (·[j]?) hturn.sizes_eq
      simp only [Array.getElem?_map, hcells, Option.map_some] at hj
      obtain ⟨now, hnow, hsame⟩ := Option.map_eq_some_iff.1 hj
      rw [Array.getD_eq_getD_getElem?, hnow, Option.getD_some, hsame]
    rw [shown, Array.size_extract, hsize, ← Array.size_extract, hextract]

/-- A heap that is no part of an earlier one shows what was returned. -/
theorem Turn.shown_eq (hturn : Turn lent i heaps) (s : Sharing lent returned)
    (hh : returned[i]? = some h) (hlater : ∀ j first, s.part i = some (j, first) → i ≤ j) :
      shown (s.part i) h heaps = h := by
  cases hpart : s.part i with
  | none => rfl
  | some source =>
    obtain ⟨j, first⟩ := source
    obtain ⟨cells, hcells, hextract⟩ := s.shows i j first h hh hpart
    have hsame := hturn.later j (hlater j first hpart)
    rw [shown, Array.getD_eq_getD_getElem?, hsame, hcells, Option.getD_some, hextract]

theorem Turn.next (hturn : Turn lent i heaps) (s : Sharing lent returned)
    (hfit : returned.map Array.size = lent.map Array.size) (hh : returned[i]? = some h) :
    Turn lent (i + 1) (heaps.setIfInBounds i (shown (s.part i) h heaps)) where
  later j hj := by
    rw [Array.getElem?_setIfInBounds_ne (by omega)]
    exact hturn.later j (by omega)
  sizes_eq := by
    have hcells := congrArg (·[i]?) hfit
    simp only [Array.getElem?_map, hh, Option.map_some] at hcells
    rw [← hturn.sizes_eq]
    refine Array.ext_getElem? fun j => ?_
    rw [Array.getElem?_map, Array.getElem?_map, Array.getElem?_setIfInBounds]
    split
    · next heq =>
      subst heq
      rw [← hturn.later i (Nat.le_refl i)] at hcells
      obtain ⟨old, hold, hsize⟩ := Option.map_eq_some_iff.1 hcells.symm
      have hlt := (Array.getElem?_eq_some_iff.1 hold).1
      rw [if_pos hlt, hold, Option.map_some, Option.map_some, hturn.size_shown s hh, hsize]
    · rfl

/-- Every heap has its turn. By induction on its number. -/
theorem exists_turn (s : Sharing lent returned)
    (hfit : returned.map Array.size = lent.map Array.size) (hi : i ≤ returned.size) :
    ∃ heaps, Turn lent i heaps ∧
      commit s.part 0 returned.toList lent = commit s.part i (returned.toList.drop i) heaps := by
  induction i with
  | zero => exact ⟨lent, ⟨fun _ _ => rfl, rfl⟩, rfl⟩
  | succ i ih =>
    obtain ⟨heaps, hturn, hcommit⟩ := ih (by omega)
    have hlt : i < returned.toList.length := by
      rw [Array.length_toList]
      omega
    have hh : returned[i]? = some returned.toList[i] := by
      rw [← Array.getElem?_toList, List.getElem?_eq_getElem hlt]
    refine ⟨_, hturn.next s hfit hh, ?_⟩
    rw [hcommit, List.drop_eq_getElem_cons hlt, commit]

/-- A heap is overwritten in its turn, by what the returned heap shows then. -/
theorem getElem?_commit (s : Sharing lent returned)
    (hfit : returned.map Array.size = lent.map Array.size) (hh : returned[i]? = some h) :
    ∃ heaps, Turn lent i heaps ∧ (∀ j < i, (commit s.part 0 returned.toList lent)[j]? = heaps[j]?) ∧
      (commit s.part 0 returned.toList lent)[i]? = some (shown (s.part i) h heaps) := by
  obtain ⟨hlt, hget⟩ := Array.getElem?_eq_some_iff.1 hh
  obtain ⟨heaps, hturn, hcommit⟩ := exists_turn s hfit (Nat.le_of_lt hlt)
  refine ⟨heaps, hturn, fun j hj => ?_, ?_⟩
  · rw [hcommit]
    exact getElem?_commit_of_lt hj _
  · have hsize : i < heaps.size := by
      rw [size_of_map_size_eq hturn.sizes_eq, ← size_of_map_size_eq hfit]
      exact hlt
    have hlt' : i < returned.toList.length := by rwa [Array.length_toList]
    rw [hcommit, List.drop_eq_getElem_cons hlt', commit, getElem?_commit_of_lt (Nat.lt_succ_self i),
      Array.getElem?_setIfInBounds_self_of_lt hsize, Array.getElem_toList, hget]

/-- The heaps that came back, as they are copied over those that were lent. A heap is what was
returned in its place, unless that is a part of an earlier heap, where other cells have been copied
before. -/
structure Copied (s : Sharing lent returned) (heaps : Array Heap) : Prop where
  sizes_eq : heaps.map Array.size = lent.map Array.size
  eq_returned (i : Nat) (hlater : ∀ j first, s.part i = some (j, first) → i ≤ j) :
    heaps[i]? = returned[i]?
  eq_part (i j first : Nat) (h : Heap) (hh : returned[i]? = some h)
    (hpart : s.part i = some (j, first))
    (hearlier : j < i) : heaps[i]? = heaps[j]?.map fun cells => cells.extract first (first + h.size)

theorem copied_commit (s : Sharing lent returned)
    (hfit : returned.map Array.size = lent.map Array.size) :
    Copied s (commit s.part 0 returned.toList lent) where
  sizes_eq := by
    obtain ⟨heaps, hturn, hcommit⟩ := exists_turn s hfit (Nat.le_refl _)
    have hnone : returned.toList.drop returned.size = [] :=
      List.drop_of_length_le (Nat.le_of_eq rfl)
    rw [hcommit, hnone]
    exact hturn.sizes_eq
  eq_returned i hlater := by
    cases hh : returned[i]? with
    | none =>
      rw [Array.getElem?_eq_none_iff, size_commit, ← size_of_map_size_eq hfit]
      exact Array.getElem?_eq_none_iff.1 hh
    | some h =>
      obtain ⟨heaps, hturn, -, hcommit⟩ := getElem?_commit s hfit hh
      rw [hcommit, hturn.shown_eq s hh hlater]
  eq_part i j first h hh hpart hearlier := by
    obtain ⟨heaps, -, hbefore, hcommit⟩ := getElem?_commit s hfit hh
    obtain ⟨cells, hcells, -⟩ := s.shows i j first h hh hpart
    have hj : j < heaps.size := by
      have hi := (Array.getElem?_eq_some_iff.1 hcommit).1
      have hsize := hbefore j hearlier
      rw [size_commit] at hi
      rw [Array.getElem?_eq_getElem (by rw [size_commit]; omega)] at hsize
      exact (Array.getElem?_eq_some_iff.1 hsize.symm).1
    rw [hcommit, hbefore j hearlier, hpart, shown, Array.getElem?_eq_getElem hj, Option.map_some,
      Array.getD_eq_getD_getElem?, Array.getElem?_eq_getElem hj, Option.getD_some]

/-- Heaps of their own replace all that were lent. -/
theorem Copied.eq_of_apart (hcopied : Copied (.apart lent returned) heaps) : heaps = returned :=
  Array.ext_getElem? fun i => hcopied.eq_returned i fun _ _ hpart => by cases hpart

end Copying

/-! ### Calls -/

section Calls

variable {σ : Type} [Backend σ]

/-- Whether a call succeeds, and the engine after it. -/
def ask (e : LaneEngine σ) : Call → Except Error Unit × LaneEngine σ
  | .initHeaps => (.ok (), e.initHeaps)
  | .setHeap selector values =>
    match e.setHeap selector values with
    | .ok e => (.ok (), e)
    | .error err => (.error err, e)
  | .prepare ctx => ((e.prepare ctx).1.map fun _ => (), (e.prepare ctx).2)
  | .run ctx lanes groupSize =>
    ((e.run ctx lanes groupSize).1.map fun _ => (), (e.run ctx lanes groupSize).2)
  | .close => e.close

/-- The engine after calls. -/
def after (e : LaneEngine σ) (calls : List Call) : LaneEngine σ :=
  calls.foldl (fun e call => (e.ask call).2) e

variable {e e' : LaneEngine σ} {ctx : Context} {lanes groupSize : Int} {c : Completion}

theorem prepare_heaps (e : LaneEngine σ) (ctx : Context) : (e.prepare ctx).2.heaps = e.heaps := by
  unfold prepare
  split
  · rfl
  · rfl
  · split <;> rfl

theorem close_heaps (e : LaneEngine σ) : e.close.2.heaps = e.heaps := by
  unfold close
  split
  · split <;> rfl
  · rfl

/-! ### Runs -/

/-- The device answers a launch of the program with a completion, whose heaps lie as told. -/
def Completes (e : LaneEngine σ) (ctx : Context) (lanes groupSize : Int) (c : Completion)
    (s : Sharing e.heaps c.heaps) : Prop :=
  ∃ handle device, (e.prepare ctx).1 = .ok handle ∧ (e.prepare ctx).2.device = some device ∧
    (Backend.execute device ctx handle { heaps := e.heaps, lanes, groupSize }).1 = .ok c ∧
    Backend.sharing device ctx handle { heaps := e.heaps, lanes, groupSize } c = s

theorem Completes.unique {s : Sharing e.heaps c.heaps} {c' : Completion}
    {s' : Sharing e.heaps c'.heaps} (h : e.Completes ctx lanes groupSize c s)
    (h' : e.Completes ctx lanes groupSize c' s') :
    (⟨c, s⟩ : (c : Completion) × Sharing e.heaps c.heaps) = ⟨c', s'⟩ := by
  obtain ⟨handle, device, hhandle, hdevice, hc, rfl⟩ := h
  obtain ⟨handle', device', hhandle', hdevice', hc', rfl⟩ := h'
  obtain rfl := Except.ok.inj (hhandle.symm.trans hhandle')
  obtain rfl := Option.some.inj (hdevice.symm.trans hdevice')
  obtain rfl := Except.ok.inj (hc.symm.trans hc')
  rfl

/-- A run copies the heaps of its completion if they fit, and is refused otherwise. -/
theorem run_cases (e : LaneEngine σ) (ctx : Context) (lanes groupSize : Int) :
    (∃ c s, e.Completes ctx lanes groupSize c s ∧ c.heaps.map Array.size = e.shape ∧
      (e.run ctx lanes groupSize).1 = .ok c ∧ Copied s (e.run ctx lanes groupSize).2.heaps) ∨
    ((∀ c s, e.Completes ctx lanes groupSize c s → c.heaps.map Array.size ≠ e.shape) ∧
      ∃ err, (e.run ctx lanes groupSize).1 = .error err ∧
        (e.run ctx lanes groupSize).2.heaps = e.heaps) := by
  have hprepare := e.prepare_heaps ctx
  unfold run Completes shape
  generalize e.prepare ctx = prepared at hprepare ⊢
  generalize e.heaps = heaps at hprepare ⊢
  obtain ⟨answer, e'⟩ := prepared
  subst hprepare
  dsimp only
  cases answer with
  | error err =>
    refine .inr ⟨?_, err, rfl, rfl⟩
    rintro c s ⟨handle, device, hanswer, -⟩
    cases hanswer
  | ok handle =>
    cases hdevice : e'.device with
    | none =>
      refine .inr ⟨?_, .noDevice, by simp only [hdevice], by simp only [hdevice]⟩
      rintro c s ⟨handle, device, -, hsome, -⟩
      cases hsome
    | some device =>
      simp only [hdevice, Except.ok.injEq, Option.some.injEq]
      cases hexecute : Backend.execute device ctx handle
        { heaps := e'.heaps, lanes, groupSize } with
      | mk result device' =>
        cases result with
        | error err =>
          refine .inr ⟨?_, .device err, rfl, rfl⟩
          rintro c s ⟨_, _, rfl, rfl, hcompletes, -⟩
          rw [hexecute] at hcompletes
          cases hcompletes
        | ok done =>
          cases hmisfit : misfit? e'.heaps.toList done.heaps.toList with
          | none =>
            have hfit := misfit?_toList_eq_none_iff.1 hmisfit
            refine .inl ⟨done, _, ⟨_, _, rfl, rfl, by rw [hexecute], rfl⟩, ?_, ?_, ?_⟩
            · exact hfit
            · simp only [hmisfit]
            · simp only [hmisfit]
              exact copied_commit _ hfit
          | some err =>
            refine .inr ⟨?_, .device err, by simp only [hmisfit], by simp only [hmisfit]⟩
            rintro c s ⟨_, _, rfl, rfl, hcompletes, -⟩ hfit
            rw [hexecute] at hcompletes
            cases hcompletes
            rw [misfit?_toList_eq_none_iff.2 hfit] at hmisfit
            cases hmisfit

/-- A run that succeeds copies the heaps of its completion. -/
theorem run_eq_ok (h : (e.run ctx lanes groupSize).1 = .ok c) :
    ∃ s, e.Completes ctx lanes groupSize c s ∧ c.heaps.map Array.size = e.shape ∧
      Copied s (e.run ctx lanes groupSize).2.heaps := by
  rcases e.run_cases ctx lanes groupSize with
      ⟨done, s, hdone, hfit, hrun, hcopied⟩ | ⟨-, err, hrun, -⟩
  · obtain rfl := Except.ok.inj (hrun.symm.trans h)
    exact ⟨s, hdone, hfit, hcopied⟩
  · cases hrun.symm.trans h

theorem run_eq_ok_iff :
    (e.run ctx lanes groupSize).1 = .ok c ↔
      (∃ s, e.Completes ctx lanes groupSize c s) ∧ c.heaps.map Array.size = e.shape := by
  constructor
  · intro hok
    obtain ⟨s, hdone, hfit, -⟩ := run_eq_ok hok
    exact ⟨⟨s, hdone⟩, hfit⟩
  · rintro ⟨⟨s, hc⟩, hfit⟩
    rcases e.run_cases ctx lanes groupSize with ⟨done, s', hdone, -, hrun, -⟩ | ⟨hmisfit, -⟩
    · cases hc.unique hdone
      exact hrun
    · exact absurd hfit (hmisfit c s hc)

/-! ### Any calls -/

/-- No call changes the number of heaps or the size of one. -/
theorem shape_ask (e : LaneEngine σ) (call : Call) : (e.ask call).2.shape = e.shape := by
  cases call with
  | initHeaps => exact shape_initHeaps e
  | setHeap selector values =>
    rw [ask]
    cases hset : e.setHeap selector values with
    | ok e' => exact shape_setHeap hset
    | error err => rfl
  | prepare ctx => rw [ask, shape, prepare_heaps, shape]
  | run ctx lanes groupSize =>
    rw [ask, shape]
    rcases e.run_cases ctx lanes groupSize with ⟨c, s, -, -, -, hcopied⟩ | ⟨-, err, -, hheaps⟩
    · rw [hcopied.sizes_eq, shape]
    · rw [hheaps, shape]
  | close => rw [ask, shape, close_heaps, shape]

theorem shape_after (e : LaneEngine σ) (calls : List Call) : (e.after calls).shape = e.shape := by
  induction calls generalizing e with
  | nil => rfl
  | cons call calls ih => exact (ih _).trans (shape_ask e call)

/-- A call that fails leaves all heaps as they were. -/
theorem ask_error_heaps {call : Call} {err : Error} (h : (e.ask call).1 = .error err) :
    (e.ask call).2.heaps = e.heaps := by
  cases call with
  | initHeaps => cases h
  | setHeap selector values =>
    rw [ask] at h ⊢
    cases hset : e.setHeap selector values with
    | ok e' =>
      rw [hset] at h
      cases h
    | error err => rfl
  | prepare ctx => exact prepare_heaps e ctx
  | run ctx lanes groupSize =>
    rcases e.run_cases ctx lanes groupSize with ⟨c, s, -, -, hrun, -⟩ | ⟨-, err, -, hheaps⟩
    · rw [ask, hrun] at h
      cases h
    · exact hheaps
  | close => exact close_heaps e

/-- A lane engine commits all heaps or none. Whatever its device answers, after any calls there are
as many heaps as at the start, with as many cells; a call that fails leaves all of them as they
were; and a run succeeds exactly if the device completes it with heaps that all fit. Then every heap
is what was returned in its place, unless that is a part of an earlier heap of the engine, which has
been overwritten before: such a part shows what is there now. -/
theorem commits_all_or_nothing {program : Program} {entry : Int} {config : LaneConfig}
    {device : Option σ} (h : create program entry config device = .ok e) (calls : List Call) :
    (e.after calls).heaps.map Array.size =
      Array.replicate (orDefault config.heapCount defaultHeapCount).toNat
        (orDefault config.heapSize defaultHeapSize).toNat ∧
    (∀ call err, ((e.after calls).ask call).1 = .error err →
      ((e.after calls).ask call).2.heaps = (e.after calls).heaps) ∧
    ∀ ctx lanes groupSize c,
      (((e.after calls).run ctx lanes groupSize).1 = .ok c ↔
        (∃ s, (e.after calls).Completes ctx lanes groupSize c s) ∧
          c.heaps.map Array.size = (e.after calls).heaps.map Array.size) ∧
      ∀ s, (e.after calls).Completes ctx lanes groupSize c s →
        ((e.after calls).run ctx lanes groupSize).1 = .ok c →
          Copied s ((e.after calls).run ctx lanes groupSize).2.heaps := by
  refine ⟨(shape_after e calls).trans (create_shape h), fun call err => ask_error_heaps, ?_⟩
  intro ctx lanes groupSize c
  refine ⟨run_eq_ok_iff, fun s hs hok => ?_⟩
  obtain ⟨s', hs', -, hcopied⟩ := run_eq_ok hok
  cases hs.unique hs'
  exact hcopied

end Calls

/-! ### A device with prepared answers -/

/-- A device that gives the next of its answers to every launch. -/
structure Scripted where
  answers : List (Except Device.Error Completion)

instance : Backend Scripted where
  name _ := "scripted"
  prepare s _ _ := (.ok ⟨"kernel", "scripted"⟩, s)
  execute s _ _ _ :=
    match s.answers with
    | [] => (.error (.unavailable "no answer"), s)
    | answer :: rest => (answer, ⟨rest⟩)
  release s _ := (.ok (), s)

/-- The second heap of the first answer is too long. -/
def longThenRight : Scripted :=
  ⟨[.ok { heaps := #[#[7, 7], #[8, 8, 8]] }, .ok { heaps := #[#[7, 7], #[8, 8]] }]⟩

/-- The first answer is refused as a whole, the second is taken over as a whole. -/
theorem longThenRight_commits :
    ∃ e c, create ⟨#[16]⟩ 0 { heapCount := 2, heapSize := 2 } (some longThenRight) = .ok e ∧
      (e.after [.initHeaps, .run {} 4 0]).heaps = #[#[0, 1], #[0, 1]] ∧
      ((e.after [.initHeaps, .run {} 4 0]).run {} 4 0).1 = .ok c ∧ c.heaps = #[#[7, 7], #[8, 8]] ∧
      ((e.after [.initHeaps, .run {} 4 0]).run {} 4 0).2.heaps = c.heaps := by
  have hcreate :
      create ⟨#[16]⟩ 0 { heapCount := 2, heapSize := 2 } (some longThenRight) = .ok _ := rfl
  obtain ⟨-, -, hruns⟩ := commits_all_or_nothing hcreate [.initHeaps, .run {} 4 0]
  refine ⟨_, { heaps := #[#[7, 7], #[8, 8]] }, hcreate, by decide +kernel, rfl, rfl, ?_⟩
  exact ((hruns {} 4 0 _).2 (.apart _ _) ⟨_, _, rfl, rfl, rfl, rfl⟩ rfl).eq_of_apart

/-! ### A device that returns what it was lent -/

/-- Every heap in the place of the one before it, and the first one in the place of the last. -/
def rotated (heaps : Array Heap) : Array Heap :=
  heaps.mapIdx fun i _ => heaps.getD ((i + 1) % heaps.size) #[]

theorem getElem?_rotated {heaps : Array Heap} {i : Nat} {h : Heap}
    (hi : (rotated heaps)[i]? = some h) :
    heaps[(i + 1) % heaps.size]? = some h := by
  rw [rotated, Array.getElem?_mapIdx] at hi
  obtain ⟨old, hold, rfl⟩ := Option.map_eq_some_iff.1 hi
  have hlt : i < heaps.size := (Array.getElem?_eq_some_iff.1 hold).1
  have hnext : (i + 1) % heaps.size < heaps.size := Nat.mod_lt _ (by omega)
  rw [Array.getD_eq_getD_getElem?, Array.getElem?_eq_getElem hnext, Option.getD_some]

/-- The rotated heaps are the heaps themselves. -/
def rotatedSharing (heaps : Array Heap) : Sharing heaps (rotated heaps) where
  part i := some ((i + 1) % heaps.size, 0)
  shows i j first h hreturned hpart := by
    obtain ⟨rfl, rfl⟩ := Prod.mk.inj (Option.some.inj hpart)
    exact ⟨h, getElem?_rotated hreturned, by rw [Nat.zero_add, Array.extract_size]⟩

/-- A device that writes nothing and returns the heaps of every launch in other places. -/
structure Rotating where

instance : Backend Rotating where
  name _ := "rotating"
  prepare s _ _ := (.ok ⟨"kernel", "rotating"⟩, s)
  execute s _ _ l := (.ok { heaps := rotated l.heaps }, s)
  release s _ := (.ok (), s)
  sharing _ _ _ l c :=
    if h : c.heaps = rotated l.heaps then h ▸ rotatedSharing l.heaps else .apart l.heaps c.heaps

/-- The last heap should be what the first one was, but that has been overwritten before. -/
theorem rotating_overwrites :
    ∃ e c, create ⟨#[16]⟩ 0 { heapCount := 3, heapSize := 1 } (some Rotating.mk) = .ok e ∧
      ((e.after [.setHeap 0 #[1], .setHeap 1 #[2], .setHeap 2 #[3]]).run {} 1 0).1 = .ok c ∧
      c.heaps = #[#[2], #[3], #[1]] ∧
      ((e.after [.setHeap 0 #[1], .setHeap 1 #[2], .setHeap 2 #[3]]).run {} 1 0).2.heaps =
        #[#[2], #[3], #[2]] := by
  refine ⟨_, { heaps := #[#[2], #[3], #[1]] }, rfl, ?_, rfl, ?_⟩
  · exact ok_of_toOption_eq (by decide +kernel)
  · decide +kernel

end Lanewise.LaneEngine
