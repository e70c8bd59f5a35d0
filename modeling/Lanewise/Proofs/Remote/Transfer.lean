import Lanewise.Proofs.Image.Format
import Lanewise.Remote.Message
import Lanewise.Remote.Client

/-!
# What passes between client and server

A kernel reaches a server as it is, except that words travel as the bytes of their image; what the
server compiles is the same, or the words do not fit into an image and the kernel is refused. A
fault keeps the lane, the place and the name of its kind, and the name leads back to the kind.

## Main definitions

* `Kernel.FitsImage`: the words of a kernel fit into an image.
* `Fault.Alike`: faults of the same kind at the same place.

## Main results

* `Remote.Client.compile_of_sent`, `Remote.Client.exists_sent`: a kernel that is sent compiles as
  before, and a kernel that compiles is sent if it fits.
* `Remote.Client.message_of_sent`: what is sent arrives.
* `Remote.WireFault.fault_alike`: a fault arrives as one like it.
-/

namespace Lanewise

/-! ### Kernels -/

/-- The words of a kernel, if it is given by words, fit into an image. -/
def Kernel.FitsImage (k : Kernel) : Prop :=
  ∀ p, k.program = some p → Image.headerSize + 4 * p.size ≤ Image.maxSize

namespace Kernel

variable {k k' : Kernel}

/-- A kernel that is given by words resolves if it is given by nothing else. -/
theorem resolve_eq_ok_iff {p : Program} (hp : k.program = some p) {r : Program × Int} :
    k.resolve = .ok r ↔ k.source.isEmpty = true ∧ k.binary.isEmpty = true ∧ r = (p, k.entry) := by
  simp only [resolve, bind, Except.bind, pure, Except.pure, throw, throwThe, MonadExceptOf.throw,
    hp, Option.map_some]
  cases k.source.isEmpty with
  | true =>
    cases k.binary.isEmpty with
    | true => simp [eq_comm]
    | false => cases Image.load k.binary <;> simp
  | false =>
    cases assemble k.source.toUTF8.toList with
    | error e => simp
    | ok x =>
      cases k.binary.isEmpty with
      | true => simp
      | false => cases Image.load k.binary <;> simp

/-- A kernel that is given by an image alone resolves to what the image holds. -/
theorem resolve_of_image {data : ByteArray} {img : Image} (hload : Image.load data = .ok img)
    (hsource : k.source.isEmpty = true) :
    ({ k with binary := data, program := none } : Kernel).resolve =
      .ok (img.program, img.entry) := by
  have hsize := (Image.load_eq_ok_iff.1 hload).2.1
  have hbinary : data.isEmpty = false :=
    beq_eq_false_iff_ne.2 (Nat.ne_of_gt (Nat.lt_of_lt_of_le (by decide) hsize))
  simp [resolve, bind, Except.bind, pure, Except.pure, hload, hsource, hbinary]

end Kernel

namespace Remote

namespace Client

variable {k k' : Kernel}

/-- A kernel that is sent compiles as before. -/
theorem compile_of_sent (h : sent k = .ok k') : k'.compile = k.compile ∧ k.FitsImage := by
  unfold sent at h
  cases hp : k.program with
  | none =>
    rw [hp] at h
    obtain rfl := Except.ok.inj h
    refine ⟨rfl, fun p hsome => ?_⟩
    rw [hp] at hsome
    cases hsome
  | some p =>
    rw [hp] at h
    dsimp only at h
    split at h
    · next hempty =>
      obtain ⟨hsource, hbinary⟩ := Bool.and_eq_true_iff.1 hempty
      split at h
      · next data hencode =>
        obtain rfl := Except.ok.inj h
        have hbefore := (Kernel.resolve_eq_ok_iff hp).2 ⟨hsource, hbinary, rfl⟩
        have hafter := Kernel.resolve_of_image (Image.load_encode hencode) hsource
        refine ⟨?_, fun q hq => ?_⟩
        · simp only [Kernel.compile, hbefore, hafter]
          rfl
        · rw [hp] at hq
          obtain rfl := Option.some.inj hq
          exact (Image.exists_encode_iff.1 ⟨data, hencode⟩).2.2
      · cases h
    · cases h

/-- A kernel that compiles is sent, unless its words do not fit into an image. -/
theorem exists_sent {c : Compiled} (hcompile : k.compile = .ok c) (hfits : k.FitsImage) :
    ∃ k', sent k = .ok k' := by
  unfold sent
  cases hp : k.program with
  | none => exact ⟨k, rfl⟩
  | some p =>
    obtain ⟨program, entry, engine, placement, haccepted, -⟩ :=
      (Kernel.compile_eq_ok_iff k c).1 hcompile
    obtain ⟨hsource, hbinary, heq⟩ := (Kernel.resolve_eq_ok_iff hp).1 haccepted.resolve_eq
    obtain ⟨rfl, rfl⟩ := Prod.mk.inj heq
    obtain ⟨hnonneg, hlt⟩ := Program.checkEntry_eq_ok_iff.1 haccepted.entry_ok
    obtain ⟨data, hencode⟩ := Image.exists_encode_iff.2
      (⟨hnonneg, hlt, hfits program hp⟩ : 0 ≤ (Image.mk program k.entry false).entry ∧ _)
    dsimp only
    rw [hsource, hbinary, hencode]
    exact ⟨_, rfl⟩

theorem sent_error {e : Device.Error} (h : sent k = .error e) : ∃ why, e = .compileFailure why := by
  unfold sent at h
  split at h
  · cases h
  · split at h
    · split at h
      · cases h
      · exact ⟨_, (Except.error.inj h).symm⟩
    · exact ⟨_, (Except.error.inj h).symm⟩

end Client

/-- A message for a kernel that is not given by words is read as this kernel. -/
theorem PrepareRequest.kernel_ofKernel {k : Kernel} (h : k.program = none) :
    (PrepareRequest.ofKernel k).kernel = k := by
  have hbinary : (⟨k.binary.toList.toArray⟩ : ByteArray) = k.binary := by
    rw [Bytes.toList_eq]
  rw [PrepareRequest.kernel, PrepareRequest.ofKernel, hbinary, ← h]
  rfl

/-- What is sent arrives: it is not given by words, and its message is read as it. -/
theorem Client.message_of_sent {k k' : Kernel} (h : sent k = .ok k') :
    (PrepareRequest.ofKernel k').kernel = k' := by
  unfold sent at h
  split at h
  · next hnone =>
    obtain rfl := Except.ok.inj h
    exact PrepareRequest.kernel_ofKernel hnone
  · split at h
    · split at h
      · obtain rfl := Except.ok.inj h
        exact PrepareRequest.kernel_ofKernel rfl
      · cases h
    · cases h

end Remote

/-! ### Faults -/

/-- Faults of the same kind at the same place. They may differ in what they add in words. -/
structure Fault.Alike (g f : Fault) : Prop where
  lane_eq : g.lane = f.lane
  ip_eq : g.ip = f.ip
  opcode_eq : g.opcode = f.opcode
  mnemonic_eq : g.mnemonic = f.mnemonic
  kindName_eq : g.kindName = f.kindName
  /-- One matches a kind exactly if the other does. -/
  reason_iff (k : Fault.Kind) : g.reason = .kind k ↔ f.reason = .kind k

theorem Fault.Kind.ofName?_name (k : Fault.Kind) : ofName? k.name = some k := by
  cases k <;> decide +kernel

theorem Fault.Kind.ofName?_unknown : ofName? "unknown" = none := by
  decide +kernel

/-- The name of a kind leads back to the kind, and the name of all other reasons leads to none. -/
theorem Fault.Reason.ofName_kindName (r : Reason) :
    (ofName r.kindName).kindName = r.kindName ∧ ∀ k, ofName r.kindName = .kind k ↔ r = .kind k := by
  cases r with
  | kind k =>
    rw [kindName, ofName, Kind.ofName?_name]
    exact ⟨rfl, fun _ => Iff.rfl⟩
  | other text =>
    rw [kindName, ofName, Kind.ofName?_unknown]
    exact ⟨rfl, fun _ => by simp⟩

/-- A fault arrives as one like it. -/
theorem Remote.WireFault.fault_alike (f : Fault) : (ofFault f).fault.Alike f := by
  obtain ⟨hname, hkind⟩ := f.reason.ofName_kindName
  exact ⟨rfl, rfl, rfl, rfl, hname, hkind⟩

end Lanewise
