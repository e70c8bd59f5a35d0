import Lanewise.Proofs.Device.Handles
import Lanewise.Proofs.Store.Bucket

/-!
# Histories of calls

A device is called one time after another. What every call keeps holds after any number of calls,
and what some calls destroy is kept until the first of them. A host processor keeps its settings
whatever it is asked, and a kernel as long as nobody releases it; a handle that has been released is
never given out again. A launch depends on the kernel and the settings only, and it is answered in
one of four ways.

## Main definitions

* `Backend.Call`, `Backend.after`: calls of a device, and its state after them.
* `Backend.Call.Spares`: a call that does not release a given kernel.
* `Handle.Gone`: a handle that was given out and names nothing any more.
* `Cpu.settings`: what launches depend on besides the kernel.

## Main results

* `Backend.after_induction`, `Backend.after_cases`: what is kept by each call, or by all calls but
  some.
* `Cpu.after_cases`: a kernel is kept if all calls spare it, and its handle is gone otherwise.
* `Cpu.execute_congr`, `Cpu.execute_cases`: what the answer to a launch depends on and what it can
  be.
-/

namespace Lanewise

/-! ### Calls -/

namespace Backend

/-- A call of a device. -/
inductive Call
  | prepare (ctx : Context) (k : Kernel)
  | execute (ctx : Context) (h : Handle) (l : Launch)
  | release (h : Handle)

variable {σ : Type} [Backend σ]

/-- The state of a device after a call. -/
def Call.act (s : σ) : Call → σ
  | prepare ctx k => (Backend.prepare s ctx k).2
  | execute ctx h l => (Backend.execute s ctx h l).2
  | release h => (Backend.release s h).2

/-- The state of a device after calls. -/
def after (s : σ) (calls : List Call) : σ :=
  calls.foldl Call.act s

/-- The call does not release the kernel with a given handle. -/
def Call.Spares (id : String) : Call → Prop
  | release h => id ≠ h.id
  | _ => True

/-- What each call keeps holds after any number of them. -/
theorem after_induction {P : σ → Prop} (hact : ∀ s (call : Call), P s → P (call.act s)) {s : σ}
    (hs : P s) (calls : List Call) : P (after s calls) := by
  induction calls generalizing s with
  | nil => exact hs
  | cons call calls ih => exact ih (hact s call hs)

/-- What is kept by the calls that spare a kernel holds until one of the others comes, and then
holds for good what that call brought about. -/
theorem after_cases {P Q : σ → Prop} {id : String}
    (hkeep : ∀ s (call : Call), call.Spares id → P s → P (call.act s))
    (hlose : ∀ s (call : Call), ¬call.Spares id → P s → Q (call.act s))
    (hgone : ∀ s (call : Call), Q s → Q (call.act s)) {s : σ} (hs : P s) (calls : List Call) :
    (∀ call ∈ calls, call.Spares id) ∧ P (after s calls) ∨
      (¬∀ call ∈ calls, call.Spares id) ∧ Q (after s calls) := by
  induction calls generalizing s with
  | nil => exact .inl ⟨fun _ hcall => absurd hcall List.not_mem_nil, hs⟩
  | cons call calls ih =>
    by_cases hcall : call.Spares id
    · rw [List.forall_mem_cons, and_iff_right hcall]
      exact ih (hkeep s call hcall hs)
    · refine .inr ⟨fun hall => hcall (hall call List.mem_cons_self), ?_⟩
      exact after_induction hgone (hlose s call hcall hs) calls

end Backend

open Backend

/-! ### Handles that are gone -/

/-- A handle was given out and names nothing any more. -/
def Handle.Gone {β : Type} (entries : List (String × β)) (issued : Nat) (id : String) : Prop :=
  (∃ n < issued, id = idOf n) ∧ entries.lookup id = none

namespace Handle.Gone

variable {β : Type} {entries : List (String × β)} {issued : Nat} {id : String}

/-- The next handle is another one. -/
theorem next (h : Gone entries issued id) (value : β) :
    Gone (entries ++ [(idOf issued, value)]) (issued + 1) id := by
  obtain ⟨⟨n, hn, rfl⟩, hlookup⟩ := h
  have hne : (idOf n == idOf issued) = false :=
    beq_eq_false_iff_ne.2 fun heq => Nat.ne_of_lt hn (idOf_injective heq)
  refine ⟨⟨n, Nat.lt_succ_of_lt hn, rfl⟩, ?_⟩
  rw [List.lookup_append, hlookup, List.lookup_cons, hne]
  rfl

theorem of_removed (hid : ∃ n < issued, id = idOf n) :
    Gone (entries.filter (·.1 != id)) issued id :=
  ⟨hid, lookup_filter_self⟩

theorem removed (h : Gone entries issued id) (other : String) :
    Gone (entries.filter (·.1 != other)) issued id := by
  by_cases heq : id = other
  · exact heq ▸ of_removed h.1
  · exact ⟨h.1, (lookup_filter_ne heq).trans h.2⟩

end Handle.Gone

namespace Cpu

variable {c d : Cpu}

/-- What the launches of a processor depend on besides the kernel: the group sizes and the fuel. -/
def settings (c : Cpu) : Int × Int × Nat :=
  (c.defaultGroup, c.maxGroup, c.fuel)

theorem kernel?_prepared {id : String} {k : Compiled} (hk : c.kernel? id = some k) (k' : Compiled) :
    (c.prepared k').kernel? id = some k := by
  rw [kernel?] at hk ⊢
  rw [Cpu.prepared, List.lookup_append, hk]
  rfl

/-- A kernel is forgotten, or nothing changes. -/
theorem release_cases (c : Cpu) (h : Handle) :
    (c.release h).2 = c ∨
      (c.release h).2 = { c with kernels := c.kernels.filter (·.1 != h.id) } := by
  unfold Cpu.release
  split
  · exact .inl rfl
  · exact .inr rfl

theorem kernel?_release {id : String} {h : Handle} (hne : id ≠ h.id) :
    (c.release h).2.kernel? id = c.kernel? id := by
  rcases c.release_cases h with heq | heq
  · rw [heq]
  · rw [heq]
    exact lookup_filter_ne hne

theorem settings_act (c : Cpu) (call : Call) : (call.act c).settings = c.settings := by
  cases call with
  | prepare ctx K =>
    rcases c.prepare_cases ctx K with ⟨e, heq⟩ | ⟨k, heq⟩
    · exact congrArg (fun x => x.2.settings) heq
    · exact congrArg (fun x => x.2.settings) heq
  | execute ctx h l => rfl
  | release h =>
    rcases c.release_cases h with heq | heq
    · exact congrArg settings heq
    · exact (congrArg settings heq).trans rfl

theorem kernel?_act {id : String} {k : Compiled} (hk : c.kernel? id = some k) {call : Call}
    (hcall : call.Spares id) : (call.act c).kernel? id = some k := by
  cases call with
  | prepare ctx K =>
    rcases c.prepare_cases ctx K with ⟨e, heq⟩ | ⟨k', heq⟩
    · exact (congrArg (fun x => x.2.kernel? id) heq).trans hk
    · exact (congrArg (fun x => x.2.kernel? id) heq).trans (kernel?_prepared hk k')
  | execute ctx h l => exact hk
  | release h => exact (kernel?_release hcall).trans hk

theorem Numbered.act (h : c.Numbered) (call : Call) : (call.act c).Numbered := by
  cases call with
  | prepare ctx K => exact h.prepare rfl
  | execute ctx handle l => exact h
  | release handle => exact h.release rfl

theorem gone_act {id : String} (h : Handle.Gone c.kernels c.issued id) (call : Call) :
    Handle.Gone (call.act c).kernels (call.act c).issued id := by
  cases call with
  | prepare ctx K =>
    rcases c.prepare_cases ctx K with ⟨e, heq⟩ | ⟨k, heq⟩
    · exact (congrArg (fun x => Handle.Gone x.2.kernels x.2.issued id) heq).mpr h
    · exact (congrArg (fun x => Handle.Gone x.2.kernels x.2.issued id) heq).mpr (h.next k)
  | execute ctx handle l => exact h
  | release handle =>
    rcases c.release_cases handle with heq | heq
    · exact (congrArg (fun x => Handle.Gone x.kernels x.issued id) heq).mpr h
    · exact (congrArg (fun x => Handle.Gone x.kernels x.issued id) heq).mpr (h.removed handle.id)

/-- A kernel that is released is gone. -/
theorem Numbered.gone_release (hc : c.Numbered) {h : Handle} {k : Compiled}
    (hk : c.kernel? h.id = some k) :
    Handle.Gone (c.release h).2.kernels (c.release h).2.issued h.id := by
  obtain ⟨before, behind, heq, -⟩ := List.lookup_eq_some_iff.1 hk
  have hmem : (h.id, k) ∈ c.kernels := heq ▸ List.mem_append_right _ List.mem_cons_self
  rw [Cpu.release, hk]
  exact .of_removed (hc _ hmem)

/-- A processor keeps its settings. It keeps a kernel if all calls spare it, and otherwise the
handle is gone. -/
theorem Numbered.after_cases (hc : c.Numbered) {id : String} {k : Compiled}
    (hk : c.kernel? id = some k) (calls : List Call) :
    (after c calls).settings = c.settings ∧
      ((∀ call ∈ calls, call.Spares id) ∧ (after c calls).kernel? id = some k ∨
        (¬∀ call ∈ calls, call.Spares id) ∧ (after c calls).kernel? id = none) := by
  constructor
  · exact after_induction (P := fun d : Cpu => d.settings = c.settings)
      (fun d call hd => (d.settings_act call).trans hd) rfl calls
  · have hkeep (d : Cpu) (call : Call) (hcall : call.Spares id)
        (hd : d.Numbered ∧ d.kernel? id = some k) :
        (call.act d).Numbered ∧ (call.act d).kernel? id = some k :=
      ⟨hd.1.act call, kernel?_act hd.2 hcall⟩
    have hlose (d : Cpu) (call : Call) (hcall : ¬call.Spares id)
        (hd : d.Numbered ∧ d.kernel? id = some k) :
        Handle.Gone (call.act d).kernels (call.act d).issued id := by
      cases call with
      | prepare ctx K => exact absurd trivial hcall
      | execute ctx h l => exact absurd trivial hcall
      | release h =>
        obtain rfl : id = h.id := Decidable.not_not.1 hcall
        exact hd.1.gone_release hd.2
    have hgone (d : Cpu) (call : Call) (hd : Handle.Gone d.kernels d.issued id) :
        Handle.Gone (call.act d).kernels (call.act d).issued id :=
      gone_act hd call
    rcases Backend.after_cases hkeep hlose hgone ⟨hc, hk⟩ calls with
      ⟨hall, -, hheld⟩ | ⟨hsome, -, hgone⟩
    · exact .inl ⟨hall, hheld⟩
    · exact .inr ⟨hsome, hgone⟩

/-- A launch depends on the kernel and the settings only. -/
theorem execute_congr (hsettings : c.settings = d.settings) {h g : Handle} {k : Compiled}
    (hc : c.kernel? h.id = some k) (hd : d.kernel? g.id = some k) (ctx : Context) (l : Launch) :
    c.execute ctx h l = d.execute ctx g l := by
  obtain ⟨hdefault, hrest⟩ := Prod.mk.inj hsettings
  obtain ⟨hmax, hfuel⟩ := Prod.mk.inj hrest
  rw [execute, execute, hc, hd, hdefault, hmax, hfuel]

/-! ### Answers -/

section

variable {k : Compiled} {fuel : Nat} {e : Device.Error} {p : Progress}

/-- A lane that faults does not fail; other lanes may have faulted before it. -/
theorem runLane_error {lane inGroup : Nat} (h : runLane k fuel lane inGroup p = .error e) :
    (∃ why, e = .launchFailure why) ∨ e = .unfinished := by
  unfold runLane at h
  split at h
  · exact .inl ⟨_, (Except.error.inj h).symm⟩
  · dsimp only at h
    split at h
    · cases h
    · cases h
    · exact .inl ⟨_, (Except.error.inj h).symm⟩
    · exact .inr (Except.error.inj h).symm

theorem runGroup_error {first n done : Nat} (h : runGroup k fuel first n done p = .error e) :
    (∃ why, e = .launchFailure why) ∨ e = .unfinished := by
  induction n generalizing done p with
  | zero => cases h
  | succ n ih =>
    rw [runGroup] at h
    split at h
    · next hlane =>
      obtain rfl := Except.error.inj h
      exact runLane_error hlane
    · exact ih h

theorem runGroups_error {group n done : Nat} (h : runGroups k fuel group n done p = .error e) :
    (∃ why, e = .launchFailure why) ∨ e = .unfinished := by
  induction n generalizing done p with
  | zero => cases h
  | succ n ih =>
    rw [runGroups] at h
    split at h
    · next hgroup =>
      obtain rfl := Except.error.inj h
      exact runGroup_error hgroup
    · exact ih h

theorem launch_cases (k : Compiled) (fuel : Nat) (heaps : Array Heap) (lanes group : Nat) :
    (∃ r, launch k fuel heaps lanes group = .ok r) ∨
      (∃ fs ≠ [], launch k fuel heaps lanes group = .error (.laneFault fs)) ∨
      (∃ why, launch k fuel heaps lanes group = .error (.launchFailure why)) ∨
        launch k fuel heaps lanes group = .error .unfinished := by
  unfold launch
  cases hrun : runGroups k fuel group (lanes / group) 0
      { heaps, storage := Stacks.create k.placement k.stackSize lanes group } with
  | error e =>
    rcases runGroups_error hrun with ⟨why, rfl⟩ | rfl
    · exact .inr (.inr (.inl ⟨why, rfl⟩))
    · exact .inr (.inr (.inr rfl))
  | ok p =>
    dsimp only [bind, Except.bind]
    split
    · exact .inl ⟨_, rfl⟩
    · next hfaults =>
      refine .inr (.inl ⟨_, fun hnil => hfaults ?_, rfl⟩)
      exact Array.isEmpty_iff.2 (Array.toList_eq_nil_iff.1 hnil)

end

/-- A launch completes, or lanes fault, or it fails, or it does not end. -/
theorem execute_cases (c : Cpu) (ctx : Context) (h : Handle) (l : Launch) :
    (∃ r, c.execute ctx h l = .ok r) ∨ (∃ fs ≠ [], c.execute ctx h l = .error (.laneFault fs)) ∨
      (∃ why, c.execute ctx h l = .error (.launchFailure why)) ∨
        c.execute ctx h l = .error .unfinished := by
  unfold Cpu.execute
  split
  · exact .inr (.inr (.inl ⟨_, rfl⟩))
  · split
    · exact .inr (.inr (.inl ⟨_, rfl⟩))
    · next k _ =>
      split
      · exact .inr (.inr (.inl ⟨_, rfl⟩))
      · next group _ => exact launch_cases k c.fuel l.heaps l.lanes.toNat group.toNat

end Cpu

end Lanewise
