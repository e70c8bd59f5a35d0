import Lanewise.Cpu.Basic
import Lanewise.Proofs.Text.Numerals

/-!
# Handles of prepared kernels

The host processor numbers the handles that it gives out. Different numbers have different texts, so
a handle that is given out names no other kernel, and a launch through it runs the kernel that it
was given out for.

## Main definitions

* `Cpu.Numbered`: every kernel is kept under a handle that has been given out.
* `Cpu.Restored`: the kernels are the same again.

## Main results

* `Handle.idOf_injective`: handles differ.
* `Cpu.Numbered.prepare`, `Cpu.Numbered.release`: preparing and releasing keep the numbering.
* `Cpu.Numbered.kernel?_prepare`: the handle of a prepared kernel names this kernel.
* `Cpu.Numbered.restored_release`: releasing a kernel undoes its preparation.
-/

namespace Lanewise

theorem Handle.idOf_injective {a b : Nat} (h : idOf a = idOf b) : a = b := by
  have hpadded := (String.append_right_inj _).1 h
  have hvalue := congrArg (fun s => Nat.ofDigitChars 10 s.toList 0) hpadded
  simpa only [Numeral.ofDigitChars_padded] using hvalue

/-- Nothing is kept under the next handle if all keys are handles that have been given out. -/
theorem Handle.lookup_next {β : Type} {entries : List (String × β)} {issued : Nat}
    (h : ∀ p ∈ entries, ∃ n < issued, p.1 = idOf n) : entries.lookup (idOf issued) = none := by
  refine List.lookup_eq_none_iff.2 fun p hp => ?_
  obtain ⟨n, hn, hid⟩ := h p hp
  have hne : idOf issued ≠ p.1 := fun heq => Nat.ne_of_gt hn (idOf_injective (heq.trans hid))
  exact bne_iff_ne.2 hne

namespace Cpu

/-- Every kernel is kept under a handle that has been given out. -/
def Numbered (c : Cpu) : Prop :=
  ∀ p ∈ c.kernels, ∃ n < c.issued, p.1 = Handle.idOf n

variable {c : Cpu}

/-- A processor that has kept one more kernel. -/
def prepared (c : Cpu) (k : Compiled) : Cpu :=
  { c with kernels := c.kernels ++ [(Handle.idOf c.issued, k)], issued := c.issued + 1 }

theorem prepare_of_compile {K : Kernel} {k : Compiled} (hK : K.compile = .ok k) :
    c.prepare {} K = (.ok ⟨Handle.idOf c.issued, name⟩, c.prepared k) := by
  unfold Cpu.prepare
  rw [hK]
  rfl

theorem prepare_of_error {K : Kernel} {e : Kernel.Error} (hK : K.compile = .error e) :
    c.prepare {} K = (.error (.compileFailure e.message), c) := by
  unfold Cpu.prepare
  rw [hK]
  rfl

/-- A kernel is kept, or nothing changes. -/
theorem prepare_cases (c : Cpu) (ctx : Context) (K : Kernel) :
    (∃ e, c.prepare ctx K = (.error e, c)) ∨
      ∃ k, c.prepare ctx K = (.ok ⟨Handle.idOf c.issued, name⟩, c.prepared k) := by
  unfold Cpu.prepare
  split
  · exact .inl ⟨_, rfl⟩
  · split
    · exact .inl ⟨_, rfl⟩
    · exact .inr ⟨_, rfl⟩

theorem Numbered.prepared (h : c.Numbered) (k : Compiled) : (c.prepared k).Numbered := by
  intro p hp
  rcases List.mem_append.1 hp with hp | hp
  · obtain ⟨n, hn, hid⟩ := h p hp
    exact ⟨n, Nat.lt_succ_of_lt hn, hid⟩
  · obtain rfl := List.mem_singleton.1 hp
    exact ⟨c.issued, Nat.lt_succ_self _, rfl⟩

theorem Numbered.prepare (h : c.Numbered) {ctx : Context} {K : Kernel}
    {answer : Except Device.Error Handle} {c' : Cpu}
    (heq : Backend.prepare c ctx K = (answer, c')) : c'.Numbered := by
  obtain rfl : (Cpu.prepare c ctx K).2 = c' := congrArg Prod.snd heq
  rcases c.prepare_cases ctx K with ⟨e, heq⟩ | ⟨k, heq⟩
  · rwa [heq]
  · rw [heq]
    exact h.prepared k

theorem Numbered.release (h : c.Numbered) {handle : Handle} {answer : Except Device.Error Unit}
    {c' : Cpu} (heq : Backend.release c handle = (answer, c')) : c'.Numbered := by
  obtain rfl : (Cpu.release c handle).2 = c' := congrArg Prod.snd heq
  unfold Cpu.release
  split
  · exact h
  · intro p hp
    exact h p (List.mem_filter.1 hp).1

/-- No kernel is kept under the next handle. -/
theorem Numbered.lookup_next (h : c.Numbered) : c.kernels.lookup (Handle.idOf c.issued) = none :=
  Handle.lookup_next h

theorem Numbered.kernel?_next (h : c.Numbered) (k : Compiled) :
    (c.prepared k).kernel? (Handle.idOf c.issued) = some k := by
  rw [kernel?, Cpu.prepared, List.lookup_append, h.lookup_next]
  simp

/-- A kernel that compiles is prepared, and its handle names it. -/
theorem Numbered.kernel?_prepare (h : c.Numbered) {ctx : Context} (hctx : ctx.cancelled = false)
    {K : Kernel} {k : Compiled} (hk : K.compile = .ok k) :
    ∃ handle c', c.prepare ctx K = (.ok handle, c') ∧ c'.kernel? handle.id = some k ∧
      c'.fuel = c.fuel := by
  refine ⟨⟨Handle.idOf c.issued, name⟩, c.prepared k, ?_, h.kernel?_next k, rfl⟩
  rw [Cpu.prepare, hctx, hk]
  rfl

/-! ### Preparing and releasing -/

/-- A processor that has the kernels of another one again, whatever handles it has given out
since. -/
structure Restored (c c' : Cpu) : Prop where
  numbered : c'.Numbered
  same : ∃ issued, c' = { c with issued }

theorem Restored.kernels_eq {c' : Cpu} (h : c.Restored c') : c'.kernels = c.kernels := by
  obtain ⟨issued, rfl⟩ := h.same
  rfl

theorem Numbered.restored_of_error (hc : c.Numbered) {c' : Cpu} {ctx : Context} {K : Kernel}
    {err : Device.Error} (h : Backend.prepare c ctx K = (.error err, c')) : c.Restored c' := by
  refine ⟨hc.prepare h, ?_⟩
  rcases c.prepare_cases ctx K with ⟨err, hsame⟩ | ⟨k, hadded⟩
  · cases hsame.symm.trans h
    exact ⟨c.issued, rfl⟩
  · cases hadded.symm.trans h

/-- Releasing the kernel that was prepared last leaves the kernels that were there before. -/
theorem Numbered.restored_release (hc : c.Numbered) {c' : Cpu} {ctx : Context} {K : Kernel}
    {handle : Handle} (h : Backend.prepare c ctx K = (.ok handle, c')) :
    c.Restored (Backend.release c' handle).2 := by
  refine ⟨(hc.prepare h).release rfl, ?_⟩
  rcases c.prepare_cases ctx K with ⟨err, hsame⟩ | ⟨k, hadded⟩
  · cases hsame.symm.trans h
  · cases hadded.symm.trans h
    have hothers : c.kernels.filter (·.1 != Handle.idOf c.issued) = c.kernels := by
      refine List.filter_eq_self.2 fun p hp => bne_iff_ne.2 ?_
      obtain ⟨n, hn, hid⟩ := hc p hp
      rw [hid]
      exact fun heq => Nat.ne_of_lt hn (Handle.idOf_injective heq)
    refine ⟨c.issued + 1, ?_⟩
    change ((c.prepared k).release ⟨Handle.idOf c.issued, name⟩).2 =
      { c with issued := c.issued + 1 }
    unfold Cpu.release
    rw [hc.kernel?_next k]
    dsimp only
    rw [Cpu.prepared, List.filter_append, hothers, List.filter_cons_of_neg (by simp),
      List.filter_nil, List.append_nil]

end Cpu

end Lanewise
