import Lanewise.Cpu.Basic
import Lanewise.Proofs.Remote.Exchanges
import Lanewise.Proofs.Remote.Transfer
import Mathlib.Data.List.Basic
import Mathlib.Logic.Function.Iterate

/-!
# Faults that are passed on

The device of a server may itself be a client of another server, so a fault can pass through many
servers before it arrives. What a fault adds in words comes in two parts, a note to its reason and a
detail of its place, and only one text is sent: the detail, or the reason with its note where there
is no detail. So the first server settles the text. Behind it, a fault has a detail and no note, and
its kind is the one that its name leads back to; what every further server sends is what the first
one has sent.

A reason that belongs to no kind keeps only a name that stands for all of them, and its text is lost
if there is a detail. The statements here are about faults of a kind.

## Main definitions

* `Fault.HasKind`: the faults whose reason is a kind, with or without a note.
* `Fault.remark`: the text that is sent for a fault.
* `Remote.WireFault.relay`: a fault behind a server.
* `Remote.FaultsBehind`: a launch faults on a device behind a number of servers.

## Main results

* `Remote.WireFault.relay_eq`: a fault behind a server has its text as a detail, and is the same
  otherwise.
* `Remote.WireFault.ofFault_relay`: it is sent in the same form again.
* `Remote.FaultsBehind.execute`: how faults come back through servers.
* `Remote.WireFault.relayed_faults`: they come back the same through any number of servers.
-/

namespace Lanewise

namespace Fault

/-- The reason of a fault is a kind, with or without a note. -/
def HasKind (f : Fault) : Prop :=
  ∃ k, f.reason = .kind k

/-- The text that is sent for a fault: its detail, or its reason with the note if it has none. -/
def remark (f : Fault) : String :=
  if f.detail = "" then f.reasonText else f.detail

theorem Kind.text_ne_empty (k : Kind) : k.text ≠ "" := by
  cases k <;> decide

variable {f : Fault}

theorem reasonText_ne_empty (hf : f.HasKind) : f.reasonText ≠ "" := by
  obtain ⟨k, hk⟩ := hf
  have htext := k.text_ne_empty
  unfold reasonText
  rw [hk]
  split
  · exact htext
  · intro hempty
    have hsplit : k.text ++ ": " = "" := (String.append_eq_empty_iff.1 hempty).1
    exact htext (String.append_eq_empty_iff.1 hsplit).1

theorem remark_ne_empty (hf : f.HasKind) : f.remark ≠ "" := by
  unfold remark
  split
  · exact reasonText_ne_empty hf
  · assumption

end Fault

namespace Remote

open Backend

namespace WireFault

/-- A fault as it is behind a server. -/
def relay (f : Fault) : Fault :=
  (ofFault f).fault

section

variable {f : Fault}

theorem detail_ofFault (f : Fault) : (ofFault f).detail = f.remark := by
  unfold ofFault Fault.remark
  by_cases h : f.detail = ""
  · simp [h]
  · simp [h]

/-- A fault behind a server has the text that was sent as its detail, and is the same otherwise. -/
theorem relay_eq (hf : f.HasKind) : relay f = { f with note := "", detail := f.remark } := by
  obtain ⟨k, hk⟩ := hf
  have hreason : Fault.Reason.ofName f.kindName = f.reason := by
    rw [Fault.kindName, hk, Fault.Reason.kindName, Fault.Reason.ofName, Fault.Kind.ofName?_name]
  unfold relay fault
  rw [detail_ofFault]
  exact congrArg (fun reason => { f with reason, note := "", detail := f.remark }) hreason

theorem remark_relay (hf : f.HasKind) : (relay f).remark = f.remark := by
  rw [relay_eq hf]
  exact if_neg (Fault.remark_ne_empty hf)

/-- A fault behind a server is sent in the form in which it came. -/
theorem ofFault_relay (hf : f.HasKind) : ofFault (relay f) = ofFault f := by
  have hdetail : (ofFault (relay f)).detail = (ofFault f).detail := by
    rw [detail_ofFault, detail_ofFault, remark_relay hf]
  have halike := fault_alike f
  change (relay f).Alike f at halike
  unfold ofFault at hdetail ⊢
  rw [halike.lane_eq, halike.ip_eq, halike.opcode_eq, halike.mnemonic_eq, halike.kindName_eq]
  exact congrArg _ hdetail

/-- A second server changes nothing of a fault. -/
theorem relay_relay (hf : f.HasKind) : relay (relay f) = relay f :=
  congrArg fault (ofFault_relay hf)

/-- Nor does any further one. By induction on their number. -/
theorem relay_iterate (hf : f.HasKind) (n : Nat) : relay^[n + 1] f = relay f := by
  induction n with
  | zero => rfl
  | succ n ih => rw [Function.iterate_succ_apply', ih, relay_relay hf]

theorem ofFault_iterate (hf : f.HasKind) (n : Nat) : ofFault (relay^[n] f) = ofFault f := by
  cases n with
  | zero => rfl
  | succ n => rw [relay_iterate hf, ofFault_relay hf]

end

end WireFault

/-! ### Servers behind servers -/

/-- A launch faults on a device behind a number of servers, each of which offers the client of the
next one. All messages get through. -/
inductive FaultsBehind (ctx : Context) (l : Launch) (fs : List Fault) :
    Nat → {σ : Type} → [Backend σ] → σ → Handle → Prop
  | device {σ : Type} [Backend σ] {d d' : σ} {h : Handle} (hsome : fs ≠ [])
      (hexecute : execute d ctx h l = (.error (.laneFault fs), d')) : FaultsBehind ctx l fs 0 d h
  | server {σ : Type} [Backend σ] {n : Nat} {c : Client σ} {h g : Handle}
    (hopen : c.refusal? ctx = none)
      (hcarries : c.Carries (.execute ctx h l)) (hlookup : c.server.handles.lookup h.id = some g)
      (hbehind : FaultsBehind ctx l fs n c.server.device g) :
      FaultsBehind ctx l fs (n + 1) c h

section

variable {ctx : Context} {l : Launch} {fs : List Fault} {σ : Type} [Backend σ]

/-- A server sends the faults of its device. -/
theorem Server.execute_faults {s : Server σ} {id : String} {h : Handle}
    (hlookup : s.handles.lookup id = some h)
    (hexecute : (Backend.execute s.device ctx h l).1 = .error (.laneFault fs)) :
    (s.execute ctx id l).1 = .ok (.faults (fs.map WireFault.ofFault)) := by
  have hpair : Backend.execute s.device ctx h l = (.error (.laneFault fs), _) :=
    Prod.ext hexecute rfl
  rw [Server.execute, hlookup]
  dsimp only
  rw [hpair]

/-- A client makes faults of what its server has sent. -/
theorem Client.execute_faults {c : Client σ} {h : Handle} {ws : List WireFault}
    (hopen : c.refusal? ctx = none) (hcarries : c.Carries (.execute ctx h l)) (hsome : ws ≠ [])
    (hexecute : (c.server.execute ctx h.id l).1 = .ok (.faults ws)) :
    (c.execute ctx h l).1 = .error (.laneFault (ws.map WireFault.fault)) := by
  obtain ⟨w, ws, rfl⟩ := List.exists_cons_of_ne_nil hsome
  rw [execute_of_delivers hopen hcarries, hexecute]
  rfl

theorem FaultsBehind.some {n : Nat} {d : σ} {h : Handle} (hd : FaultsBehind ctx l fs n d h) :
    fs ≠ [] := by
  induction hd with
  | device hsome => exact hsome
  | server _ _ _ _ ih => exact ih

/-- Faults come back through each server once. By induction on the servers, from the device on. -/
theorem FaultsBehind.execute {n : Nat} {d : σ} {h : Handle} (hd : FaultsBehind ctx l fs n d h) :
    (Backend.execute d ctx h l).1 = .error (.laneFault (fs.map WireFault.relay^[n])) := by
  induction hd with
  | device _ hexecute =>
    rw [hexecute, Function.iterate_zero, List.map_id]
  | server hopen hcarries hlookup hbehind ih =>
    refine (Client.execute_faults hopen hcarries ?_ (Server.execute_faults hlookup ih)).trans ?_
    · simpa only [ne_eq, List.map_eq_nil_iff] using hbehind.some
    rw [List.map_map, List.map_map, Function.iterate_succ']
    rfl

end

/-- Faults of a kind come back of the same kind and from the same place, with their text as the
detail. They are sent in the same form again, so it does not matter how many servers they have to
pass: each sends the faults as the first one does, and its clients have them as if they had come
from the first one. -/
theorem WireFault.relayed_faults {fs : List Fault} (hfs : ∀ f ∈ fs, f.HasKind) :
    (∀ f ∈ fs, (ofFault f).fault.Alike f ∧
      (ofFault f).fault.detail = (if f.detail = "" then f.reasonText else f.detail) ∧
      ofFault (ofFault f).fault = ofFault f) ∧
      ∀ (ctx : Context) (l : Launch) (n : Nat) (σ : Type) [Backend σ] (s : Server σ) (id : String)
        (h : Handle),
        s.handles.lookup id = some h → FaultsBehind ctx l fs n s.device h →
          (s.execute ctx id l).1 = .ok (.faults (fs.map ofFault)) ∧
          ∀ (c : Client σ) (g : Handle), c.server = s → c.refusal? ctx = none →
            c.Carries (.execute ctx g l) → g.id = id →
            (c.execute ctx g l).1 = .error (.laneFault (fs.map fun f => (ofFault f).fault)) := by
  refine ⟨fun f hf => ⟨fault_alike f, detail_ofFault f, ofFault_relay (hfs f hf)⟩, ?_⟩
  intro ctx l n σ _ s id h hlookup hbehind
  have hsent : (fs.map relay^[n]).map ofFault = fs.map ofFault := by
    rw [List.map_map]
    exact List.map_congr_left fun f hf => ofFault_iterate (hfs f hf) n
  have hserver : (s.execute ctx id l).1 = .ok (.faults (fs.map ofFault)) :=
    hsent ▸ Server.execute_faults hlookup hbehind.execute
  refine ⟨hserver, ?_⟩
  rintro c g rfl hopen hcarries rfl
  have hsome : fs.map ofFault ≠ [] := by
    simpa only [ne_eq, List.map_eq_nil_iff] using hbehind.some
  refine (Client.execute_faults hopen hcarries hsome hserver).trans ?_
  rw [List.map_map]
  rfl

/-- A processor on which each lane prints the cell with its number, of a heap with one cell. -/
def ownCells : Cpu :=
  { fuel := 9, issued := 1
    kernels := [(Handle.idOf 0,
      { program := ⟨#[26, 27, 0, 14, 16]⟩, entry := 0, engine := .lane, stackSize := 2, heaps := [1]
        placement := .shared, trace := false, maxSteps := 0 })] }

/-- A server that offers this processor. -/
def nearServer : Server Cpu :=
  { device := ownCells, issued := 1, handles := [(Handle.idOf 0, ⟨Handle.idOf 0, Cpu.name⟩)] }

/-- A server that offers a client of the other one. -/
def farServer : Server (Client Cpu) :=
  { device := { endpoint := "near", server := nearServer }, issued := 1
    handles := [(Handle.idOf 0, ⟨Handle.idOf 0, "remote:near"⟩)] }

/-- The fault of the second lane, which has no cell. -/
def secondCell : Fault :=
  { reason := .kind .heapIndexOutOfRange, note := "index 1, capacity 1", opcode := 27
    mnemonic := "PARALLEL_GLOAD_INDEXED", ip := 1, lane := 1 }

/-- Behind two servers, the fault of the second lane has its reason with the note as a detail. -/
theorem secondCell_relayed :
    (∀ f ∈ [secondCell], f.HasKind) ∧
      (farServer.execute {} (Handle.idOf 0) { heaps := #[#[7]], lanes := 2 }).1 =
        .ok (.faults [WireFault.ofFault secondCell]) ∧
      (Client.execute { endpoint := "far", server := farServer } {} ⟨Handle.idOf 0, "remote:far"⟩
          { heaps := #[#[7]], lanes := 2 }).1 =
        .error (.laneFault
          [{ secondCell with
            note := "", detail := "heap index out of range: index 1, capacity 1" }]) := by
  have hkind : ∀ f ∈ [secondCell], f.HasKind := List.forall_mem_singleton.2 ⟨_, rfl⟩
  have hprocessor : ownCells.execute {} ⟨Handle.idOf 0, Cpu.name⟩ { heaps := #[#[7]], lanes := 2 } =
      .error (.laneFault [secondCell]) := by
    decide +kernel
  have hsent : (WireFault.ofFault secondCell).fault =
      { secondCell with note := "", detail := "heap index out of range: index 1, capacity 1" } := by
    decide +kernel
  have hnear : nearServer.handles.lookup (Handle.idOf 0) = some ⟨Handle.idOf 0, Cpu.name⟩ :=
    List.lookup_cons_self
  have hfar : farServer.handles.lookup (Handle.idOf 0) = some ⟨Handle.idOf 0, "remote:near"⟩ :=
    List.lookup_cons_self
  have hopen : farServer.device.refusal? {} = none := rfl
  have hexecute :
      Backend.execute ownCells {} ⟨Handle.idOf 0, Cpu.name⟩ { heaps := #[#[7]], lanes := 2 } =
      (.error (.laneFault [secondCell]), ownCells) :=
    Prod.ext hprocessor rfl
  have hcarries : farServer.device.Carries
      (.execute {} ⟨Handle.idOf 0, "remote:near"⟩ { heaps := #[#[7]], lanes := 2 }) := by
    have hanswer : (nearServer.execute {} (Handle.idOf 0) { heaps := #[#[7]], lanes := 2 }).1 =
        .ok (.faults [WireFault.ofFault secondCell]) :=
      ok_of_toOption_eq (by decide +kernel)
    exact .of_ok (by decide +kernel) hanswer (by decide +kernel)
  have hdevice : FaultsBehind {} { heaps := #[#[7]], lanes := 2 } [secondCell] 0 ownCells
      ⟨Handle.idOf 0, Cpu.name⟩ :=
    .device (List.cons_ne_nil _ _) hexecute
  have hbehind : FaultsBehind {} { heaps := #[#[7]], lanes := 2 } [secondCell] 1 farServer.device
      ⟨Handle.idOf 0, "remote:near"⟩ :=
    .server hopen hcarries hnear hdevice
  obtain ⟨-, hall⟩ := WireFault.relayed_faults hkind
  obtain ⟨hserver, hclient⟩ := hall {} _ 1 _ farServer (Handle.idOf 0) _ hfar hbehind
  have hcarries' : Client.Carries { endpoint := "far", server := farServer }
      (.execute {} ⟨Handle.idOf 0, "remote:far"⟩ { heaps := #[#[7]], lanes := 2 }) :=
    .of_ok (by decide +kernel) hserver (by decide +kernel)
  refine ⟨hkind, hserver, (hclient _ _ rfl rfl hcarries' rfl).trans ?_⟩
  rw [List.map_singleton, hsent]

end Remote

end Lanewise
