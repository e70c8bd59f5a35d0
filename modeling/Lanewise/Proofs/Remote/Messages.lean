import Lanewise.Proofs.Remote.Exchanges
import Lanewise.Proofs.Remote.Transfer

/-!
# Messages are read as they were written

A client and a server exchange bytes and know nothing else of each other. A message that gets
through is read as the message that was written, and the messages for kernels, launches and their
answers hold all that there is to say. So a server that reads a request serves the very request that
was asked, and a client that reads an answer has the very answer that was given. For this the
integers in a message have to be integers of 64 bits.

## Main definitions

* `Remote.Conveys`: a message is read as it was written.

## Main results

* `Remote.Conveys.read_encode`: a message that gets through arrives.
* `Remote.Client.read_prepare`, `Remote.Client.read_execute`, `Remote.Client.read_release`: what a
  server reads is what was asked.
* `Remote.Client.read_handle`, `Remote.Client.read_reply`, `Remote.Client.read_info`: what a client
  reads is what was answered.
-/

namespace Lanewise.Remote

open Cbor

/-- An integer of 64 bits. -/
def Long (i : Int) : Prop :=
  -0x8000000000000000 ≤ i ∧ i ≤ 0x7fffffffffffffff

instance (i : Int) : Decidable (Long i) :=
  inferInstanceAs (Decidable (_ ∧ _))

section

variable {i : Int}

theorem long_toInt (i : Int64) : Long i.toInt :=
  ⟨i.le_toInt, i.toInt_le⟩

theorem Long.int?_ofInt (h : Long i) (default : Int) :
    orDefault int? default (ofInt i) = some i := by
  rw [orDefault_ofInt, int?, intIn?_ofInt h.1 h.2]

theorem Long.written (h : Long i) (d : Nat) : Written d (ofInt i) :=
  written_ofInt h.1 (Int.lt_add_one_of_le h.2)

theorem byte?_uint (n default : UInt8) : orDefault byte? default (uint n.toNat) = some n := by
  have hlt := n.toNat_lt
  have hint : uint n.toNat = ofInt (n.toNat : Int) := rfl
  rw [hint, orDefault_ofInt, byte?, intIn?_ofInt (by omega) (by omega), Option.map_some,
    Int.toNat_natCast, UInt8.ofNat_toNat]

end

/-- A message is read as it was written, and its bytes as the message. -/
structure Conveys {α : Type} (write : α → Cbor) (read : Cbor → Option α) (a : α) : Prop where
  read_eq : read (write a) = some a
  written : Written maxDepth (write a)

/-- A message that gets through arrives. -/
theorem Conveys.read_encode {α : Type} {write : α → Cbor} {read : Cbor → Option α} {a : α}
    (h : Conveys write read a) {p : Passage} (hmax : p.maxSent < 0x10000000000000000)
    (hpass : p.refusal? (write a) = none) : (parse? (write a).encode).bind read = some a := by
  obtain ⟨htakes, hshort⟩ := Passage.refusal?_eq_none_iff.1 hpass
  rw [parse?_encode h.written (Nat.lt_of_le_of_lt htakes.1 hmax), if_pos hshort, Option.bind_some,
    h.read_eq]

/-! ### Rows -/

theorem rows?_cbor (rows : Rows) : orDefault Rows.ofCbor? [] rows.cbor = some rows :=
  rows?_array rows

theorem Rows.written_cbor (d : Nat) (rows : Rows) : Written (d + 2) rows.cbor :=
  written_rows d rows

/-- Rows that may never have been given, as a field that is always present. -/
theorem rows?_field (rows : Option Rows) :
    orDefault (fun v => (Rows.ofCbor? v).map some) none ((rows.map Rows.cbor).getD .null) =
      some rows := by
  cases rows with
  | none => rfl
  | some rows => exact congrArg (Option.map some) (rows?_cbor rows)

theorem written_rowsField (d : Nat) (rows : Option Rows) :
    Written (d + 2) ((rows.map Rows.cbor).getD .null) := by
  cases rows with
  | none => exact .simple (by decide)
  | some rows => exact rows.written_cbor d

theorem Rows.arrays_ofArrays (rows : Array (Array Word)) : (Rows.ofArrays rows).arrays = rows := by
  have hrows : (Rows.ofArrays rows).map (fun r => (r.getD []).toArray) = rows.toList := by
    rw [Rows.ofArrays, List.map_map]
    exact (List.map_congr_left fun r _ => r.toArray_toList).trans (List.map_id _)
  rw [Rows.arrays, hrows]

/-! ### Requests -/

theorem conveys_handle (id : String) : Conveys handleCbor handleOfCbor? id where
  read_eq := by
    rw [handleOfCbor?, handleCbor, message?_ofFields]
    exact bind_of_some rfl (by simp)
  written := by
    refine written_ofFields ?_
    simp only [List.forall_mem_cons]
    exact ⟨.present (by decide) (written_ofString _ _), List.forall_mem_nil _⟩

/-- The integers in a request have 64 bits. -/
structure PrepareRequest.Ranged (r : PrepareRequest) : Prop where
  entry : Long r.entry
  stackSize : Long r.stackSize
  heaps : ∀ n ∈ r.heaps.getD [], Long n
  placement : Long r.placement

theorem PrepareRequest.Ranged.conveys {r : PrepareRequest} (h : r.Ranged) :
    Conveys PrepareRequest.cbor ofCbor? r where
  read_eq := by
    rw [ofCbor?, cbor, message?_ofFields]
    refine bind_of_some rfl ((field_present.trans (orDefault_ofFields ofKernelCbor? {} _)).trans ?_)
    rw [ofKernelCbor?, message?_ofFields]
    refine bind_of_some rfl ?_
    refine bind_of_some (show _ = some r.source by simp) ?_
    refine bind_of_some (show _ = some r.binary by simp) ?_
    refine bind_of_some (show _ = some r.entry by simp [h.entry.int?_ofInt]) ?_
    refine bind_of_some (show _ = some r.stackSize by simp [h.stackSize.int?_ofInt]) ?_
    refine bind_of_some (show _ = some r.heaps by
      simp [listOrNull?_ofListOrNull fun n hn => (h.heaps n hn).int?_ofInt 0]) ?_
    refine bind_of_some (show _ = some r.placement by simp [h.placement.int?_ofInt]) ?_
    refine bind_of_some (show _ = some r.trace by simp) ?_
    refine bind_of_some (show _ = some r.maxSteps by simpa using Eq.symm) ?_
    refine bind_of_some (show _ = some r.mode by simpa [byte?_uint] using Eq.symm) ?_
    rfl
  written := by
    refine written_ofFields ?_
    simp only [List.forall_mem_cons]
    refine ⟨.present (by decide) (written_ofFields ?_), List.forall_mem_nil _⟩
    simp only [List.forall_mem_cons]
    exact ⟨.omitted (by decide) (written_ofString _ _), .omitted (by decide) (.bytes _ _),
      .present (by decide) (h.entry.written _), .present (by decide) (h.stackSize.written _),
      .present (by decide) (written_ofListOrNull fun n hn => (h.heaps n hn).written _),
      .present (by decide) (h.placement.written _),
      .omitted (by decide) (.simple (by split <;> decide)),
      .omitted (by decide) (.uint r.maxSteps.toNat_lt),
      .omitted (by decide) (.uint (Nat.lt_trans r.mode.toNat_lt (by decide))),
      List.forall_mem_nil _⟩

namespace ExecuteRequest

variable {r : ExecuteRequest}

/-- The integers in a request have 64 bits. -/
structure Ranged (r : ExecuteRequest) : Prop where
  lanes : Long r.lanes
  groupSize : Long r.groupSize

theorem Ranged.conveys (h : r.Ranged) : Conveys cbor ofCbor? r where
  read_eq := by
    have hlaunch : launchOfCbor? (.ofFields [
        present 1 ((r.heaps.map Rows.cbor).getD .null), present 2 (.ofInt r.lanes),
        omitted (r.groupSize == 0) 3 (.ofInt r.groupSize)]) =
        some (r.heaps, r.lanes, r.groupSize) := by
      rw [launchOfCbor?, message?_ofFields]
      refine bind_of_some rfl ?_
      refine bind_of_some (show _ = some r.heaps by simp [rows?_field]) ?_
      refine bind_of_some (show _ = some r.lanes by simp [h.lanes.int?_ofInt]) ?_
      refine bind_of_some (show _ = some r.groupSize by
        simpa [h.groupSize.int?_ofInt] using Eq.symm) ?_
      rfl
    rw [ofCbor?, cbor, message?_ofFields]
    refine bind_of_some rfl ?_
    refine bind_of_some (show _ = some r.handle by simp) ?_
    refine bind_of_some (show _ = some (r.heaps, r.lanes, r.groupSize) by simp [hlaunch]) ?_
    rfl
  written := by
    refine written_ofFields ?_
    simp only [List.forall_mem_cons]
    refine ⟨.present (by decide) (written_ofString _ _),
      .present (by decide) (written_ofFields ?_), List.forall_mem_nil _⟩
    simp only [List.forall_mem_cons]
    exact ⟨.present (by decide) (written_rowsField _ _), .present (by decide) (h.lanes.written _),
      .omitted (by decide) (h.groupSize.written _), List.forall_mem_nil _⟩

/-- The launch of a request. -/
def launch (r : ExecuteRequest) : Launch :=
  { heaps := (r.heaps.getD []).arrays, lanes := r.lanes, groupSize := r.groupSize }

theorem launch_ofLaunch (id : String) (l : Launch) : (ofLaunch id l).launch = l := by
  rw [launch]
  exact congrArg (fun heaps => { l with heaps }) (Rows.arrays_ofArrays l.heaps)

end ExecuteRequest

/-! ### Answers -/

/-- The integers in a report have 64 bits. -/
structure Report.Ranged (r : Report) : Prop where
  elapsed : Long r.elapsed
  groups : Long r.groups

theorem Report.Ranged.ofCbor?_cbor {r : Report} (h : r.Ranged) : ofCbor? r.cbor = some r := by
  rw [ofCbor?, cbor, message?_ofFields]
  refine bind_of_some rfl ?_
  refine bind_of_some (show _ = some r.heaps by simp [rows?_field]) ?_
  refine bind_of_some (show _ = some r.elapsed by simp [h.elapsed.int?_ofInt]) ?_
  refine bind_of_some (show _ = some r.printed by simp [rows?_cbor]) ?_
  refine bind_of_some (show _ = some r.steps by simp) ?_
  refine bind_of_some (show _ = some r.groups by simp [h.groups.int?_ofInt]) ?_
  refine bind_of_some (show _ = some r.trace by simp [texts?_array]) ?_
  rfl

theorem Report.Ranged.written {r : Report} (h : r.Ranged) (d : Nat) : Written (d + 3) r.cbor := by
  refine written_ofFields ?_
  simp only [List.forall_mem_cons]
  exact ⟨.present (by decide) (written_rowsField _ _), .present (by decide) (h.elapsed.written _),
    .omitted (by decide) (Rows.written_cbor _ _), .present (by decide) (.uint r.steps.toNat_lt),
    .present (by decide) (h.groups.written _),
    .omitted (by decide) (written_array fun _ _ => written_ofString _ _), List.forall_mem_nil _⟩

theorem WireFault.ofCbor?_cbor {f : WireFault} (h : Long f.ip) : ofCbor? f.cbor = some f := by
  rw [ofCbor?, cbor, message?_ofFields]
  refine bind_of_some rfl ?_
  refine bind_of_some (show _ = some f.lane by simp) ?_
  refine bind_of_some (show _ = some f.ip by simp [h.int?_ofInt]) ?_
  refine bind_of_some (show _ = some f.opcode by simp) ?_
  refine bind_of_some (show _ = some f.mnemonic by simp) ?_
  refine bind_of_some (show _ = some f.kind by simp) ?_
  refine bind_of_some (show _ = some f.detail by simp) ?_
  rfl

theorem WireFault.written {f : WireFault} (h : Long f.ip) (d : Nat) : Written (d + 1) f.cbor := by
  refine written_ofFields ?_
  simp only [List.forall_mem_cons]
  exact ⟨.present (by decide) (written_word _ _), .present (by decide) (h.written _),
    .present (by decide) (written_word _ _), .omitted (by decide) (written_ofString _ _),
    .present (by decide) (written_ofString _ _), .omitted (by decide) (written_ofString _ _),
    List.forall_mem_nil _⟩

/-- The integers in a reply have 64 bits. -/
def Reply.Ranged : Reply → Prop
  | .done c => Long c.groups
  | .faults fs => ∀ f ∈ fs, Long f.ip

/-- The integers in an answer have 64 bits. -/
structure ExecuteResponse.Ranged (r : ExecuteResponse) : Prop where
  done : ∀ d, r.done = some d → d.Ranged
  faults : ∀ f ∈ r.faults, Long f.ip

namespace ExecuteResponse

variable {r : ExecuteResponse}

/-- By whether there is a report. A field that is missing has no number, and the next one is looked
at. -/
theorem Ranged.conveys (h : r.Ranged) : Conveys cbor ofCbor? r where
  read_eq := by
    have hfaults : orDefault (list? WireFault.ofCbor? {}) []
        (.array (r.faults.map WireFault.cbor)) = some r.faults :=
      list?_array fun f hf => WireFault.ofCbor?_cbor (h.faults f hf)
    have hlast : field (membersOf [omitted r.faults.isEmpty 2
        (.array (r.faults.map WireFault.cbor))]) 2 (list? WireFault.ofCbor? {}) [] =
        some r.faults := by
      simp [hfaults]
    rw [ofCbor?, cbor, message?_ofFields]
    refine bind_of_some rfl (bind_of_some (a := r.done) ?_ (bind_of_some (a := r.faults) ?_ rfl))
    · cases hdone : r.done with
      | none => exact (field_omitted_of_ne _ (by decide)).trans field_nil
      | some d =>
        exact field_present.trans (congrArg (Option.map some) (h.done d hdone).ofCbor?_cbor)
    · cases r.done with
      | none => exact hlast
      | some d => exact (field_present_of_ne (by decide)).trans hlast
  written := by
    refine written_ofFields ?_
    simp only [List.forall_mem_cons]
    have hfaults : Written 31 (.array (r.faults.map WireFault.cbor)) :=
      written_array fun f hf => WireFault.written (h.faults f hf) _
    refine ⟨?_, .omitted (by decide) hfaults, List.forall_mem_nil _⟩
    cases hdone : r.done with
    | none => exact .none
    | some d => exact .some (by decide) ((h.done d hdone).written _)

/-- The reply of an answer. -/
def reply (r : ExecuteResponse) : Reply :=
  match r.faults, r.done with
  | [], some d =>
    .done { heaps := (d.heaps.getD []).arrays, printed := d.printed.arrays, steps := d.steps
            groups := d.groups, trace := d.trace.toArray }
  | fs, _ => .faults fs

theorem ranged_ofReply {a : Reply} (h : a.Ranged) (elapsed : Duration) :
    (ofReply elapsed a).Ranged := by
  cases a with
  | done c =>
    refine ⟨fun d hd => ?_, fun f hf => absurd hf List.not_mem_nil⟩
    obtain rfl := Option.some.inj hd
    exact ⟨long_toInt elapsed, h⟩
  | faults fs => exact ⟨fun d hd => absurd hd (Option.some_ne_none d).symm, h⟩

theorem reply_ofReply (elapsed : Duration) (a : Reply) : (ofReply elapsed a).reply = a := by
  cases a with
  | faults fs => cases fs <;> rfl
  | done c =>
    obtain ⟨heaps, printed, steps, groups, trace⟩ := c
    change Reply.done ⟨(Rows.ofArrays heaps).arrays, (Rows.ofArrays printed).arrays, steps, groups,
      trace.toList.toArray⟩ = _
    rw [Rows.arrays_ofArrays, Rows.arrays_ofArrays]

end ExecuteResponse

theorem Info.conveys {i : Info} (h : Long i.kernels) : Conveys cbor ofCbor? i where
  read_eq := by
    rw [ofCbor?, cbor, message?_ofFields]
    refine bind_of_some rfl ?_
    refine bind_of_some (show _ = some i.backend by simp) ?_
    refine bind_of_some (show _ = some i.version by simp) ?_
    refine bind_of_some (show _ = some i.kernels by simp [h.int?_ofInt]) ?_
    rfl
  written := by
    refine written_ofFields ?_
    simp only [List.forall_mem_cons]
    exact ⟨.present (by decide) (written_ofString _ _), .present (by decide) (written_ofString _ _),
      .present (by decide) (h.written _), List.forall_mem_nil _⟩

/-! ### Both ends of a connection -/

namespace Client

variable {σ : Type} [Backend σ] {c : Client σ} {ctx : Context}

section

variable (hmax : c.maxMessage < 0x10000000000000000)
include hmax

/-- A server that reads the request for a kernel prepares the kernel that was sent. -/
theorem read_prepare {k k' : Kernel} (hsent : sent k = .ok k')
    (hranged : (PrepareRequest.ofKernel k').Ranged)
    (hpass : c.outward.refusal? (Exchange.prepare ctx k' : Exchange σ String).request = none) :
    ((parse? (Exchange.prepare ctx k' : Exchange σ String).request.encode).bind
      PrepareRequest.ofCbor?).map (fun r => c.server.prepare ctx r.kernel) =
      some ((Exchange.prepare ctx k').serve c.server) := by
  have hread : (parse? (Exchange.prepare ctx k' : Exchange σ String).request.encode).bind
      PrepareRequest.ofCbor? = some (PrepareRequest.ofKernel k') :=
    hranged.conveys.read_encode hmax hpass
  rw [hread, Option.map_some, message_of_sent hsent]
  rfl

/-- A server that reads the request for a launch runs this launch through this handle. -/
theorem read_execute {h : Handle} {l : Launch} (hranged : (ExecuteRequest.ofLaunch h.id l).Ranged)
    (hpass : c.outward.refusal? (Exchange.execute ctx h l : Exchange σ Reply).request = none) :
    ((parse? (Exchange.execute ctx h l : Exchange σ Reply).request.encode).bind
      ExecuteRequest.ofCbor?).map (fun r => c.server.execute ctx r.handle r.launch) =
      some ((Exchange.execute ctx h l).serve c.server) := by
  have hread : (parse? (Exchange.execute ctx h l : Exchange σ Reply).request.encode).bind
      ExecuteRequest.ofCbor? = some (ExecuteRequest.ofLaunch h.id l) :=
    hranged.conveys.read_encode hmax hpass
  rw [hread, Option.map_some, ExecuteRequest.launch_ofLaunch]
  rfl

/-- A server that reads the request to release a kernel releases the kernel of this handle. -/
theorem read_release {h : Handle}
    (hpass : c.outward.refusal? (Exchange.release h : Exchange σ Unit).request = none) :
    ((parse? (Exchange.release h : Exchange σ Unit).request.encode).bind handleOfCbor?).map
      c.server.release = some ((Exchange.release h).serve c.server) := by
  have hread : (parse? (Exchange.release h : Exchange σ Unit).request.encode).bind handleOfCbor? =
      some h.id :=
    (conveys_handle h.id).read_encode hmax hpass
  rw [hread, Option.map_some]
  rfl

end

section

variable (hmax : c.server.maxSent < 0x10000000000000000)
include hmax

/-- A client reads the handle that was given to it. -/
theorem read_handle {k : Kernel} {id : String}
    (hpass : c.homeward.refusal? ((Exchange.prepare ctx k).reply c.server id) = none) :
    (parse? ((Exchange.prepare ctx k).reply c.server id).encode).bind handleOfCbor? = some id :=
  (conveys_handle id).read_encode hmax hpass

/-- A client reads the answer that its launch was given. -/
theorem read_reply {h : Handle} {l : Launch} {a : Reply} (hranged : a.Ranged)
    (hpass : c.homeward.refusal? ((Exchange.execute ctx h l).reply c.server a) = none) :
    ((parse? ((Exchange.execute ctx h l).reply c.server a).encode).bind
      ExecuteResponse.ofCbor?).map ExecuteResponse.reply = some a := by
  have hread : (parse? ((Exchange.execute ctx h l).reply c.server a).encode).bind
      ExecuteResponse.ofCbor? = some (ExecuteResponse.ofReply (c.server.elapsed h.id l) a) :=
    (ExecuteResponse.ranged_ofReply hranged _).conveys.read_encode hmax hpass
  rw [hread, Option.map_some, ExecuteResponse.reply_ofReply]

/-- A client reads the description that was given to it. -/
theorem read_info {i : Info} (hranged : Long i.kernels)
    (hpass : c.homeward.refusal? (Exchange.info.reply c.server i) = none) :
    (parse? (Exchange.info.reply c.server i).encode).bind Info.ofCbor? = some i :=
  (Info.conveys hranged).read_encode hmax hpass

end

end Client

end Lanewise.Remote
