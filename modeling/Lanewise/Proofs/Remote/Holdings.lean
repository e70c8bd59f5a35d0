import Lanewise.Proofs.Device.Processor
import Lanewise.Proofs.Remote.Exchanges
import Lanewise.Proofs.Remote.Transfer
import Mathlib.Data.List.Forall2
import Mathlib.Data.List.Nodup

/-!
# What servers hold

Two maps of handles stand between a client and a kernel. The server numbers its handles, the
processor numbers those behind them, and no two of the first lead to one of the second. So releasing
one kernel leaves all others alone, and what has been released is gone for good on both sides.

All this concerns kernels and not launches. So it is proved for processors with one worker, and
holds for any processor, since calls have the same effect on its kernels.

## Main definitions

* `Remote.Server.Sound`, `Remote.Server.Leads`, `Remote.Server.Holds`: servers with handles in
  order, and the kernels they hold.
* `Remote.Server.Keeps`: what one server keeps of another one.
* `Remote.Client.host`: a client of a processor with one worker that has the same kernels.

## Main results

* `Remote.Client.Live.act_keeps`: what a call keeps.
* `Remote.Client.Live.after_cases`: a kernel is kept if all calls spare it, and gone otherwise.
* `Remote.Client.host_after`: calls have the same effect on the kernels of any processor.
-/

namespace Lanewise.Remote

open Backend

/-! ### Servers -/

namespace Server

/-- A server whose handles are numbered and lead to different handles of its device. -/
structure Sound (s : Server Cpu) : Prop where
  device_numbered : s.device.Numbered
  names : ∀ p ∈ s.handles, ∃ n < s.issued, p.1 = Handle.idOf n
  targets : ∀ p ∈ s.handles, ∃ n < s.device.issued, p.2.id = Handle.idOf n
  distinct : (s.handles.map fun p => p.2.id).Nodup

/-- A handle of a server leads to a kernel of its device. -/
def Leads (s : Server Cpu) (id : String) (h : Handle) (k : Compiled) : Prop :=
  s.handles.lookup id = some h ∧ s.device.kernel? h.id = some k

/-- A server holds a kernel under a handle that it has given out. -/
def Holds (s : Server Cpu) (id : String) (k : Compiled) : Prop :=
  ∃ h, s.handles.lookup id = some h ∧ s.device.kernel? h.id = some k

/-- A server stays in order, goes on with the same settings, and the handles that are spared lead to
the same kernels. Handles that are gone stay so. -/
structure Keeps (spared : String → Prop) (s s' : Server Cpu) : Prop where
  sound : s'.Sound
  serving_eq : s'.serving = s.serving
  settings_eq : s'.device.settings = s.device.settings
  maxReceived_eq : s'.maxReceived = s.maxReceived
  leads {id : String} {h : Handle} {k : Compiled} (hspared : spared id) (hleads : s.Leads id h k) :
    s'.Leads id h k
  gone {id : String} (hgone : Handle.Gone s.handles s.issued id) :
    Handle.Gone s'.handles s'.issued id
  device_gone {id : String} (hgone : Handle.Gone s.device.kernels s.device.issued id) :
    Handle.Gone s'.device.kernels s'.device.issued id

/-- A server that has kept one more kernel. -/
def prepared (s : Server Cpu) (k : Compiled) : Server Cpu :=
  { s with
    device := s.device.prepared k
    handles := s.handles ++ [(Handle.idOf s.issued, ⟨Handle.idOf s.device.issued, Cpu.name⟩)]
    issued := s.issued + 1 }

/-- A server that has given up a handle and released the kernel behind it. -/
def released (s : Server Cpu) (id : String) (h : Handle) : Server Cpu :=
  { s with
    device := (s.device.release h).2
    handles := s.handles.filter (·.1 != id) }

variable {s : Server Cpu} {id : String} {k : Compiled} {spared : String → Prop}

theorem prepare_of_compile {K : Kernel} (hK : K.compile = .ok k) :
    s.prepare {} K = (.ok (Handle.idOf s.issued), s.prepared k) := by
  have hdevice : Backend.prepare s.device {} K = _ := Cpu.prepare_of_compile hK
  rw [prepare, hdevice]
  rfl

theorem prepare_of_error {K : Kernel} {e : Kernel.Error} (hK : K.compile = .error e) :
    s.prepare {} K = (.error (.ofError (.compileFailure e.message)), s) := by
  have hdevice : Backend.prepare s.device {} K = _ := Cpu.prepare_of_error hK
  rw [prepare, hdevice]

theorem prepare_cases (s : Server Cpu) (ctx : Context) (K : Kernel) :
    (s.prepare ctx K).2 = s ∨ ∃ k, (s.prepare ctx K).2 = s.prepared k := by
  rcases s.device.prepare_cases ctx K with ⟨e, hdevice⟩ | ⟨k, hdevice⟩
  · have hdevice : Backend.prepare s.device ctx K = _ := hdevice
    rw [prepare, hdevice]
    exact .inl rfl
  · have hdevice : Backend.prepare s.device ctx K = _ := hdevice
    rw [prepare, hdevice]
    exact .inr ⟨k, rfl⟩

theorem release_of_none (h : s.handles.lookup id = none) : (s.release id).2 = s := by
  rw [release, h]

/-- The handle is given up whatever the device answers. -/
theorem release_of_some {h : Handle} (hlookup : s.handles.lookup id = some h) :
    (s.release id).2 = s.released id h := by
  have hdevice : Backend.release s.device h = s.device.release h := rfl
  rw [release, hlookup, released]
  dsimp only
  rw [hdevice]
  split
  · next heq => rw [heq]
  · next heq => rw [heq]

theorem execute_snd (s : Server Cpu) (ctx : Context) (id : String) (l : Launch) :
    (s.execute ctx id l).2 = s := by
  unfold execute
  split
  · rfl
  · next h hlookup =>
    have hdevice : Backend.execute s.device ctx h l = (s.device.execute ctx h l, s.device) := rfl
    rw [hdevice]
    split
    · next heq => rw [← (Prod.mk.inj heq).2]
    · next heq => rw [← (Prod.mk.inj heq).2]
    · next heq => rw [← (Prod.mk.inj heq).2]

theorem Sound.keeps_self (h : s.Sound) : s.Keeps spared s :=
  ⟨h, rfl, rfl, rfl, fun _ hleads => hleads, id, id⟩

theorem Sound.keeps_prepared (h : s.Sound) (k : Compiled) : s.Keeps spared (s.prepared k) := by
  have hfresh : ∀ a ∈ s.handles.map fun p => p.2.id, a ≠ Handle.idOf s.device.issued := by
    rintro _ hp rfl
    obtain ⟨p, hp, hid⟩ := List.mem_map.1 hp
    obtain ⟨n, hn, hn'⟩ := h.targets p hp
    exact Nat.ne_of_lt hn (Handle.idOf_injective (hn'.symm.trans hid))
  refine ⟨⟨h.device_numbered.prepared k, ?_, ?_, ?_⟩, rfl, rfl, rfl, ?_, fun hgone => hgone.next _,
    fun hgone => hgone.next k⟩
  · refine List.forall_mem_append.2 ⟨fun p hp => ?_, List.forall_mem_singleton.2 ?_⟩
    · obtain ⟨n, hn, hid⟩ := h.names p hp
      exact ⟨n, Nat.lt_succ_of_lt hn, hid⟩
    · exact ⟨s.issued, Nat.lt_succ_self _, rfl⟩
  · refine List.forall_mem_append.2 ⟨fun p hp => ?_, List.forall_mem_singleton.2 ?_⟩
    · obtain ⟨n, hn, hid⟩ := h.targets p hp
      exact ⟨n, Nat.lt_succ_of_lt hn, hid⟩
    · exact ⟨s.device.issued, Nat.lt_succ_self _, rfl⟩
  · rw [prepared, List.map_append, List.nodup_append]
    refine ⟨h.distinct, List.nodup_singleton _, fun a ha b hb => ?_⟩
    rw [List.mem_singleton.1 hb]
    exact hfresh a ha
  · rintro id handle k' - ⟨hlookup, hk'⟩
    refine ⟨?_, Cpu.kernel?_prepared hk' k⟩
    rw [prepared, List.lookup_append, hlookup]
    rfl

theorem Sound.leads_next (h : s.Sound) (k : Compiled) :
    (s.prepared k).Leads (Handle.idOf s.issued) ⟨Handle.idOf s.device.issued, Cpu.name⟩ k := by
  refine ⟨?_, h.device_numbered.kernel?_next k⟩
  rw [prepared, List.lookup_append, Handle.lookup_next h.names]
  simp

theorem mem_of_lookup {handle : Handle} (h : s.handles.lookup id = some handle) :
    (id, handle) ∈ s.handles := by
  obtain ⟨before, behind, heq, -⟩ := List.lookup_eq_some_iff.1 h
  rw [heq]
  exact List.mem_append_right _ List.mem_cons_self

theorem Sound.keeps_released (h : s.Sound) {handle : Handle}
    (hlookup : s.handles.lookup id = some handle) :
    s.Keeps (· ≠ id) (s.released id handle) := by
  have hissued : (s.device.release handle).2.issued = s.device.issued := by
    rcases s.device.release_cases handle with heq | heq <;> rw [heq]
  refine ⟨⟨?_, ?_, ?_, ?_⟩, rfl, s.device.settings_act (.release handle), rfl, ?_,
    fun hgone => hgone.removed id, fun hgone => Cpu.gone_act hgone (.release handle)⟩
  · exact h.device_numbered.act (.release handle)
  · exact fun p hp => h.names p (List.mem_filter.1 hp).1
  · intro p hp
    rw [released, hissued]
    exact h.targets p (List.mem_filter.1 hp).1
  · exact h.distinct.sublist (List.filter_sublist.map _)
  · rintro id' handle' k hne ⟨hlookup', hk⟩
    -- Two handles do not lead to the same kernel, so the other kernel is still there.
    have htargets : handle'.id ≠ handle.id := by
      intro heq
      have hsame := List.inj_on_of_nodup_map h.distinct (mem_of_lookup hlookup')
        (mem_of_lookup hlookup) heq
      exact hne (Prod.mk.inj hsame).1
    refine ⟨?_, ?_⟩
    · exact (lookup_filter_ne hne).trans hlookup'
    · exact (Cpu.kernel?_release htargets).trans hk

theorem Sound.keeps_prepare (h : s.Sound) (ctx : Context) (K : Kernel) :
    s.Keeps spared (s.prepare ctx K).2 := by
  rcases s.prepare_cases ctx K with heq | ⟨k, heq⟩
  · rw [heq]
    exact h.keeps_self
  · rw [heq]
    exact h.keeps_prepared k

theorem Sound.keeps_release (h : s.Sound) (id : String) : s.Keeps (· ≠ id) (s.release id).2 := by
  cases hlookup : s.handles.lookup id with
  | none =>
    rw [release_of_none hlookup]
    exact h.keeps_self
  | some handle =>
    rw [release_of_some hlookup]
    exact h.keeps_released hlookup

/-- A kernel that is released is gone, on the server and on its device. -/
theorem Sound.gone_release (h : s.Sound) {handle : Handle} (hleads : s.Leads id handle k) :
    Handle.Gone (s.release id).2.handles (s.release id).2.issued id ∧
      Handle.Gone (s.release id).2.device.kernels (s.release id).2.device.issued handle.id := by
  rw [release_of_some hleads.1]
  refine ⟨.of_removed (h.names _ (mem_of_lookup hleads.1)), ?_⟩
  exact h.device_numbered.gone_release hleads.2

end Server

/-! ### Clients -/

namespace Client

/-- A client with a connection to a server that serves and has its handles in order. -/
structure Live (c : Client Cpu) : Prop where
  up : c.Up
  sound : c.server.Sound

section Hosts

variable {c : Client Cpu} {k : Kernel} {compiled : Compiled} {g : Handle} {id : String}

theorem Live.refusal?_eq (h : c.Live) : c.refusal? {} = none :=
  refusal?_eq_none_iff.2 ⟨h.up, rfl⟩

/-- A launch changes nothing, whether or not its answer is lost. -/
theorem execute_same (c : Client Cpu) (ctx : Context) (handle : Handle) (l : Launch) :
    (c.execute ctx handle l).2 = c := by
  rcases c.execute_snd ctx handle l with heq | heq
  · exact heq
  · rw [heq, c.server.execute_snd]

/-- A call leaves the connection as it is, and the server keeps what the call spares. -/
theorem Live.act_keeps (h : c.Live) (call : Call) :
    (call.act c).closed = c.closed ∧ (call.act c).outward = c.outward ∧
      c.server.Keeps call.Spares (call.act c).server := by
  have hserver {server : Server Cpu} (hkeeps : c.server.Keeps call.Spares server) :
      ({ c with server } : Client Cpu).closed = c.closed ∧
        ({ c with server } : Client Cpu).outward = c.outward ∧
        c.server.Keeps call.Spares server := by
    refine ⟨rfl, ?_, hkeeps⟩
    rw [outward, outward, hkeeps.maxReceived_eq]
  cases call with
  | prepare ctx K =>
    have hact : Call.act c (.prepare ctx K) = (c.prepare ctx K).2 := rfl
    rw [hact]
    rcases c.prepare_snd ctx K with heq | ⟨K', heq⟩
    · rw [heq]
      exact ⟨rfl, rfl, h.sound.keeps_self⟩
    · rw [heq]
      exact hserver (h.sound.keeps_prepare ctx K')
  | execute ctx handle l =>
    have hact : Call.act c (.execute ctx handle l) = c := c.execute_same ctx handle l
    rw [hact]
    exact ⟨rfl, rfl, h.sound.keeps_self⟩
  | release handle =>
    have hact : Call.act c (.release handle) = (c.release handle).2 := rfl
    rw [hact]
    rcases c.release_snd handle with heq | heq
    · rw [heq]
      exact ⟨rfl, rfl, h.sound.keeps_self⟩
    · rw [heq]
      exact hserver (h.sound.keeps_release handle.id)

theorem Live.act (h : c.Live) (call : Call) : (call.act c).Live := by
  obtain ⟨hclosed, -, hkeeps⟩ := h.act_keeps call
  exact ⟨⟨hclosed.trans h.up.1, hkeeps.serving_eq.trans h.up.2⟩, hkeeps.sound⟩

/-- A live client stays so, its messages take the same way, and its processor keeps the settings. -/
theorem Live.after (h : c.Live) (calls : List Call) :
    (Backend.after c calls).Live ∧ (Backend.after c calls).outward = c.outward ∧
      (Backend.after c calls).server.device.settings = c.server.device.settings := by
  have hact (c' : Client Cpu) (call : Call) (hc' : c'.Live ∧ c'.outward = c.outward ∧
        c'.server.device.settings = c.server.device.settings) :
      (call.act c').Live ∧ (call.act c').outward = c.outward ∧
        (call.act c').server.device.settings = c.server.device.settings := by
    obtain ⟨hlive, houtward, hsettings⟩ := hc'
    obtain ⟨-, hsame, hkeeps⟩ := hlive.act_keeps call
    exact ⟨hlive.act call, hsame.trans houtward, hkeeps.settings_eq.trans hsettings⟩
  exact after_induction hact ⟨h, rfl, rfl⟩ calls

/-- The server of a live client keeps a kernel if all calls spare it, and otherwise the kernel is
gone, on the server and on its device. The message that releases it must get through. -/
theorem Live.after_cases (h : c.Live) (hleads : c.server.Leads id g compiled)
    (hsent : c.outward.refusal? (handleCbor id) = none) (calls : List Call) :
    (∀ call ∈ calls, call.Spares id) ∧ (Backend.after c calls).server.Leads id g compiled ∨
      (¬∀ call ∈ calls, call.Spares id) ∧
        (Backend.after c calls).server.handles.lookup id = none ∧
        (Backend.after c calls).server.device.kernel? g.id = none := by
  have hkeep (c' : Client Cpu) (call : Call) (hcall : call.Spares id)
      (hc' : c'.Live ∧ c'.outward = c.outward ∧ c'.server.Leads id g compiled) :
      (call.act c').Live ∧ (call.act c').outward = c.outward ∧
        (call.act c').server.Leads id g compiled := by
    obtain ⟨hlive, houtward, hleads⟩ := hc'
    obtain ⟨-, hsame, hkeeps⟩ := hlive.act_keeps call
    exact ⟨hlive.act call, hsame.trans houtward, hkeeps.leads hcall hleads⟩
  have hlose (c' : Client Cpu) (call : Call) (hcall : ¬call.Spares id)
      (hc' : c'.Live ∧ c'.outward = c.outward ∧ c'.server.Leads id g compiled) :
      (call.act c').Live ∧
        Handle.Gone (call.act c').server.handles (call.act c').server.issued id ∧
        Handle.Gone (call.act c').server.device.kernels (call.act c').server.device.issued
          g.id := by
    obtain ⟨hlive, houtward, hleads⟩ := hc'
    refine ⟨hlive.act call, ?_⟩
    cases call with
    | prepare ctx K => exact absurd trivial hcall
    | execute ctx handle l => exact absurd trivial hcall
    | release handle =>
      obtain rfl : id = handle.id := Decidable.not_not.1 hcall
      have hact : Call.act c' (.release handle) =
          { c' with server := (c'.server.release handle.id).2 } :=
        exchange_snd_of_sent hlive.refusal?_eq (houtward ▸ hsent)
      rw [hact]
      exact hlive.sound.gone_release hleads
  have hgone (c' : Client Cpu) (call : Call)
      (hc' : c'.Live ∧ Handle.Gone c'.server.handles c'.server.issued id ∧
        Handle.Gone c'.server.device.kernels c'.server.device.issued g.id) :
      (call.act c').Live ∧
        Handle.Gone (call.act c').server.handles (call.act c').server.issued id ∧
        Handle.Gone (call.act c').server.device.kernels (call.act c').server.device.issued
          g.id := by
    obtain ⟨hlive, hlost, hdevice⟩ := hc'
    obtain ⟨-, -, hkeeps⟩ := hlive.act_keeps call
    exact ⟨hlive.act call, hkeeps.gone hlost, hkeeps.device_gone hdevice⟩
  rcases Backend.after_cases hkeep hlose hgone ⟨h, rfl, hleads⟩ calls with
    ⟨hall, -, -, hheld⟩ | ⟨hsome, -, hlost, hdevice⟩
  · exact .inl ⟨hall, hheld⟩
  · exact .inr ⟨hsome, hlost.2, hdevice.2⟩

/-- What becomes of a kernel: it is refused, since it does not compile or does not fit, or it is
kept. -/
theorem Live.prepare_cases (h : c.Live) (hcarries : c.Carries (.prepare {} k)) :
    ((∃ why, (c.prepare {} k).1 = .error (.compileFailure why)) ∧
        ∀ compiled, k.compile = .ok compiled → ¬k.FitsImage) ∨
      ∃ compiled, k.compile = .ok compiled ∧ k.FitsImage ∧
        c.prepare {} k = (.ok ⟨Handle.idOf c.server.issued, c.name⟩,
          { c with server := c.server.prepared compiled }) := by
  unfold Client.prepare
  cases hsent : sent k with
  | error e =>
    obtain ⟨why, rfl⟩ := sent_error hsent
    refine .inl ⟨⟨why, rfl⟩, fun compiled hcompile hfits => ?_⟩
    obtain ⟨k', hk'⟩ := exists_sent hcompile hfits
    rw [hsent] at hk'
    cases hk'
  | ok k' =>
    obtain ⟨hcompile, hfits⟩ := compile_of_sent hsent
    have hanswer := exchange_of_delivers h.refusal?_eq (hcarries k' hsent)
    dsimp only
    rw [hanswer, Exchange.prepare]
    dsimp only
    cases hk : k.compile with
    | error e =>
      rw [Server.prepare_of_error (hcompile.trans hk)]
      refine .inl ⟨⟨_, rfl⟩, fun compiled hok => ?_⟩
      cases hok
    | ok compiled =>
      rw [Server.prepare_of_compile (hcompile.trans hk)]
      exact .inr ⟨compiled, rfl, hfits, rfl⟩

end Hosts

end Client

/-! ### Servers and clients of any processor -/

section Processors

variable {σ : Type} [Processor σ]

/-- A server of a processor with one worker that has the same kernels. -/
def Server.host (s : Server σ) : Server Cpu :=
  { s with device := Processor.host s.device }

/-- A client of a processor with one worker that has the same kernels. -/
def Client.host (c : Client σ) : Client Cpu :=
  { c with server := c.server.host }

theorem Server.prepare_host (s : Server σ) (ctx : Context) (k : Kernel) :
    (s.prepare ctx k).map id host = s.host.prepare ctx k := by
  have hdevice : Backend.prepare s.host.device ctx k =
      (Backend.prepare s.device ctx k).map id Processor.host :=
    (Processor.prepare_host s.device ctx k).symm
  unfold Server.prepare
  rw [hdevice]
  rcases Backend.prepare s.device ctx k with ⟨e | h, device⟩
  · rfl
  · rfl

theorem Server.release_host (s : Server σ) (name : String) :
    (s.release name).map id host = s.host.release name := by
  have hhandles : s.host.handles = s.handles := rfl
  unfold Server.release
  rw [hhandles]
  cases s.handles.lookup name with
  | none => rfl
  | some h =>
    have hdevice : Backend.release s.host.device h =
        (Backend.release s.device h).map id Processor.host :=
      (Processor.release_host s.device h).symm
    dsimp only
    rw [hdevice]
    rcases Backend.release s.device h with ⟨e | _, device⟩
    · rfl
    · rfl

theorem Server.execute_host (s : Server σ) (ctx : Context) (id : String) (l : Launch) :
    (s.execute ctx id l).2.host = s.host := by
  have hdevice (h : Handle) : ({ s with device := (Backend.execute s.device ctx h l).2 } :
      Server σ).host = s.host :=
    congrArg (fun device => ({ s.host with device } : Server Cpu))
      (Processor.execute_host s.device ctx h l)
  unfold Server.execute
  split
  · rfl
  · next h _ =>
    refine Eq.trans ?_ (hdevice h)
    split
    · next heq => rw [heq]
    · next heq => rw [heq]
    · next heq => rw [heq]

namespace Client

variable {α : Type} {c : Client σ} {ctx : Context}

/-- Requests that are alike are answered alike. -/
theorem exchange_host {x : Exchange σ α} {y : Exchange Cpu α} (hrequest : x.request = y.request)
    (hserve : (x.serve c.server).map id Server.host = y.serve c.host.server)
    (hreply : ∀ a, x.reply c.server a = y.reply c.host.server a) :
    (c.exchange ctx x).map id host = c.host.exchange ctx y := by
  have hrefusal : c.host.refusal? ctx = c.refusal? ctx := rfl
  have houtward : c.host.outward = c.outward := rfl
  have hhomeward : c.host.homeward = c.homeward := rfl
  unfold exchange
  rw [hrefusal, houtward, hhomeward, ← hrequest, ← hserve]
  split
  · rfl
  · rcases x.serve c.server with ⟨st | a, server⟩
    · rfl
    · dsimp only [Prod.map, id]
      rw [← hreply]
      cases c.homeward.refusal? (x.reply c.server a) with
      | some st => rfl
      | none => rfl

theorem prepare_host (c : Client σ) (ctx : Context) (k : Kernel) :
    (c.prepare ctx k).map id host = c.host.prepare ctx k := by
  unfold Client.prepare
  split
  · rfl
  · next k' _ =>
    have hexchange : (c.exchange ctx (.prepare ctx k')).map id host =
        c.host.exchange ctx (.prepare ctx k') :=
      exchange_host rfl (c.server.prepare_host ctx k') fun _ => rfl
    rw [← hexchange]
    rfl

theorem release_host (c : Client σ) (h : Handle) :
    (c.release h).map id host = c.host.release h :=
  exchange_host rfl (c.server.release_host h.id) fun _ => rfl

theorem execute_host (c : Client σ) (ctx : Context) (h : Handle) (l : Launch) :
    (c.execute ctx h l).2.host = c.host := by
  rcases c.execute_snd ctx h l with heq | heq
  · rw [heq]
  · rw [heq]
    exact congrArg (fun server => ({ c.host with server } : Client Cpu))
      (c.server.execute_host ctx h.id l)

theorem host_act (c : Client σ) (call : Call) : (call.act c).host = call.act c.host := by
  cases call with
  | prepare ctx k => exact congrArg Prod.snd (c.prepare_host ctx k)
  | execute ctx h l => exact (c.execute_host ctx h l).trans (c.host.execute_same ctx h l).symm
  | release h => exact congrArg Prod.snd (c.release_host h)

/-- Calls have the same effect on the kernels of any processor. By induction on the calls. -/
theorem host_after (c : Client σ) (calls : List Call) :
    (Backend.after c calls).host = Backend.after c.host calls := by
  induction calls generalizing c with
  | nil => rfl
  | cons call calls ih => exact (ih (call.act c)).trans (by rw [host_act]; rfl)

end Client

end Processors

end Lanewise.Remote
