import Lanewise.Proofs.Remote.Holdings

/-!
# Remote devices in place of local ones

A client of a server of a host processor stands in for a host processor. It prepares the kernels
that the processor prepares, unless the words of a kernel do not fit into an image, and then the
server holds what the processor would hold. All messages must get through, of course; then they are
read as they were written (`Lanewise.Proofs.Remote.Messages`).

What lanes leave behind may depend on the workers of a processor, so one launch can be answered in
many ways, and no two processors need to agree. A client passes on whatever answer the processor
behind its server gives: the same completion, faults that are alike, or a failure of the launch.
With one worker there is one answer only. Then a client answers as any processor with one worker and
the same settings does, whatever is asked of both in the meantime.

## Main definitions

* `Remote.Agree`: answers to a launch that are alike.
* `Remote.Client.Relays`: a client passes on what the processor behind its server does with a
  kernel.
* `Remote.Client.StandsFor`: a client is as good as a processor for a kernel.

## Main results

* `Remote.Client.execute_agree`: a launch is answered as the processor behind the server answers it.
* `Remote.Client.connect_standsFor`: every client passes on what the processor behind its server
  does, and stands in for every processor.
-/

namespace Lanewise.Remote

open Backend

/-- Answers to a launch that are alike, the first from far away: the same completion, faults that
are alike in the same order, at least one, or failures of the launch. -/
inductive Agree : Except Device.Error Completion → Except Device.Error Completion → Prop
  | done (r : Completion) : Agree (.ok r) (.ok r)
  | faults {gs fs : List Fault} (hsome : fs ≠ []) (h : List.Forall₂ Fault.Alike gs fs) :
    Agree (.error (.laneFault gs)) (.error (.laneFault fs))
  | failure (why why' : String) : Agree (.error (.launchFailure why)) (.error (.launchFailure why'))

theorem Agree.eq_ok {answer : Except Device.Error Completion} {r : Completion}
    (h : Agree answer (.ok r)) : answer = .ok r := by
  cases h
  rfl

namespace Client

variable {σ : Type} [Processor σ]

/-- A client with a connection to a server that serves and has given out no handles. -/
structure Connected (c : Client σ) : Prop where
  up : c.Up
  handles_eq : c.server.handles = []
  numbered : (Processor.host c.server.device).Numbered

/-- A client passes on what the processor behind its server does with a kernel. -/
structure Relays (c : Client σ) (k : Kernel) : Prop where
  /-- The client prepares the kernel if the processor does, unless it does not fit into an image. -/
  prepares_iff : (∃ h, (c.prepare {} k).1 = .ok h) ↔
    (∃ g, (Backend.prepare c.server.device {} k).1 = .ok g) ∧ k.FitsImage
  /-- Behind the handle of the client is a handle of the processor that names the kernel. Launches
  that get through and end are answered as the processor answers them, whatever is asked of the
  client before, and even if it has been asked to release the kernel. -/
  launches {h : Handle} (hh : (c.prepare {} k).1 = .ok h) :
    ∃ g compiled, k.compile = .ok compiled ∧ (c.prepare {} k).2.server.handles.lookup h.id =
      some g ∧ (Processor.host (c.prepare {} k).2.server.device).kernel? g.id = some compiled ∧
      ∀ (calls : List Call) (l : Launch),
        (after (c.prepare {} k).2 calls).Carries (.execute {} h l) →
        (Backend.execute (after (c.prepare {} k).2 calls).server.device {} g l).1 ≠
          .error .unfinished →
        Agree ((after (c.prepare {} k).2 calls).execute {} h l).1
          (Backend.execute (after (c.prepare {} k).2 calls).server.device {} g l).1

/-- A client is as good as a processor for a kernel. -/
structure StandsFor (c : Client σ) (cpu : Cpu) (k : Kernel) : Prop where
  /-- The client prepares the kernel if the processor does, unless it does not fit into an image. -/
  prepares_iff : (∃ h, (c.prepare {} k).1 = .ok h) ↔
    (∃ g, (cpu.prepare {} k).1 = .ok g) ∧ k.FitsImage
  refusal {e : Device.Error} (he : (c.prepare {} k).1 = .error e) : ∃ why, e = .compileFailure why
  refusal_near {e : Device.Error} (he : (cpu.prepare {} k).1 = .error e) :
    ∃ why, e = .compileFailure why
  /-- The server holds what the processor holds. -/
  holds {h g : Handle} (hh : (c.prepare {} k).1 = .ok h) (hg : (cpu.prepare {} k).1 = .ok g) :
    ∃ compiled, k.compile = .ok compiled ∧ (c.prepare {} k).2.server.host.Holds h.id compiled ∧
      (cpu.prepare {} k).2.kernel? g.id = some compiled
  /-- With one worker, launches that get through and end are answered alike, whatever is asked of
  both before, as long as the kernel is released by both or by neither. -/
  agree (hone : Processor.OneWorker σ) {h g : Handle} (hh : (c.prepare {} k).1 = .ok h)
    (hg : (cpu.prepare {} k).1 = .ok g) {far near : List Call}
    (hspared : (∀ call ∈ far, call.Spares h.id) ↔ ∀ call ∈ near, call.Spares g.id) (l : Launch)
    (hcarries : (after (c.prepare {} k).2 far).Carries (.execute {} h l))
    (hends : (after (cpu.prepare {} k).2 near).execute {} g l ≠ .error .unfinished) :
    Agree ((after (c.prepare {} k).2 far).execute {} h l).1
      ((after (cpu.prepare {} k).2 near).execute {} g l)

/-- A client that has just been connected to a new server of a processor. -/
def connect (endpoint version : String) (device : σ) : Client σ :=
  { endpoint, server := { device, version } }

theorem connected_connect {device : σ} (h : (Processor.host device).Numbered)
    (endpoint version : String) : (connect endpoint version device).Connected :=
  ⟨⟨rfl, rfl⟩, rfl, h⟩

/-! ### Launches -/

section

variable {c : Client σ} {h g : Handle} {l : Launch}

/-- A launch is answered as the processor behind the server answers it. -/
theorem execute_agree (hopen : c.refusal? {} = none) (hcarries : c.Carries (.execute {} h l))
    (hlookup : c.server.handles.lookup h.id = some g)
    (hends : (Backend.execute c.server.device {} g l).1 ≠ .error .unfinished) :
    Agree (c.execute {} h l).1 (Backend.execute c.server.device {} g l).1 := by
  have hcases := Processor.execute_cases c.server.device {} g l
  rw [execute_of_delivers hopen hcarries, Server.execute, hlookup]
  dsimp only
  generalize Backend.execute c.server.device {} g l = result at hcases hends ⊢
  obtain ⟨answer, device⟩ := result
  dsimp only at hcases hends ⊢
  rcases hcases with ⟨r, rfl⟩ | ⟨fs, hsome, rfl⟩ | ⟨why, rfl⟩ | rfl
  · exact .done r
  · obtain ⟨f, fs, rfl⟩ := List.exists_cons_of_ne_nil hsome
    refine .faults hsome (List.forall₂_map_left_iff.2 (List.forall₂_map_left_iff.2 ?_))
    exact List.forall₂_same.2 fun f _ => WireFault.fault_alike f
  · exact .failure _ _
  · exact absurd rfl hends

/-- Launches of a kernel that the server does not know fail. -/
theorem execute_of_gone (hopen : c.refusal? {} = none) (hcarries : c.Carries (.execute {} h l))
    (hlookup : c.server.handles.lookup h.id = none) :
    ∃ why, (c.execute {} h l).1 = .error (.launchFailure why) := by
  rw [execute_of_delivers hopen hcarries, Server.execute, hlookup]
  exact ⟨_, rfl⟩

end

/-! ### Kernels -/

section

variable {c : Client σ} {cpu : Cpu} {k : Kernel} {compiled : Compiled} {handle g : Handle}

theorem Connected.live (h : c.Connected) : c.host.Live := by
  have hnone {p : String × Handle} (hp : p ∈ c.host.server.handles) : False :=
    List.not_mem_nil (h.handles_eq ▸ hp)
  refine ⟨h.up, h.numbered, fun _ hp => (hnone hp).elim, fun _ hp => (hnone hp).elim, ?_⟩
  have hempty : c.host.server.handles = [] := h.handles_eq
  rw [hempty]
  exact List.nodup_nil

theorem prepare_fst_host (c : Client σ) (ctx : Context) (k : Kernel) :
    (c.host.prepare ctx k).1 = (c.prepare ctx k).1 :=
  (congrArg Prod.fst (c.prepare_host ctx k)).symm

/-- A kernel gets through to the one processor if it gets through to the other. -/
theorem carries_host (h : c.Carries (.prepare {} k)) : c.host.Carries (.prepare {} k) := by
  intro k' hk'
  obtain ⟨hsent, hanswered⟩ := h k' hk'
  have hanswer : (c.server.prepare {} k').1 = (c.host.server.prepare {} k').1 :=
    congrArg Prod.fst (c.server.prepare_host {} k')
  exact ⟨hsent, fun hok => hanswered (hanswer.trans hok)⟩

/-- A processor prepares the kernels that compile. -/
theorem near_ok_iff :
    (∃ g, (cpu.prepare {} k).1 = .ok g) ↔ ∃ compiled, k.compile = .ok compiled := by
  cases hcompile : k.compile with
  | error e =>
    rw [Cpu.prepare_of_error hcompile]
    exact iff_of_false (fun ⟨_, h⟩ => by cases h) fun ⟨_, h⟩ => by cases h
  | ok compiled =>
    rw [Cpu.prepare_of_compile hcompile]
    exact iff_of_true ⟨_, rfl⟩ ⟨compiled, rfl⟩

theorem near_eq_ok (hg : (cpu.prepare {} k).1 = .ok g) :
    ∃ compiled, k.compile = .ok compiled ∧ g.id = Handle.idOf cpu.issued ∧
      (cpu.prepare {} k).2 = cpu.prepared compiled := by
  obtain ⟨compiled, hcompile⟩ := near_ok_iff.1 ⟨g, hg⟩
  have heq := Cpu.prepare_of_compile (c := cpu) hcompile
  rw [heq] at hg
  exact ⟨compiled, hcompile, (congrArg Handle.id (Except.ok.inj hg)).symm, congrArg Prod.snd heq⟩

theorem near_error {e : Device.Error} (he : (cpu.prepare {} k).1 = .error e) :
    ∃ why, e = .compileFailure why := by
  cases hcompile : k.compile with
  | error why =>
    rw [Cpu.prepare_of_error hcompile] at he
    exact ⟨_, (Except.error.inj he).symm⟩
  | ok compiled =>
    rw [Cpu.prepare_of_compile hcompile] at he
    cases he

/-- A kernel that is prepared far away is kept there under the next handle. -/
theorem far_eq_ok (hlive : c.host.Live) (hcarries : c.Carries (.prepare {} k))
    (hh : (c.prepare {} k).1 = .ok handle) :
    ∃ compiled, k.compile = .ok compiled ∧ k.FitsImage ∧
      (c.prepare {} k).2.host.server.Leads handle.id
        ⟨Handle.idOf c.host.server.device.issued, Cpu.name⟩ compiled := by
  have hhost : (c.prepare {} k).2.host = (c.host.prepare {} k).2 :=
    congrArg Prod.snd (c.prepare_host {} k)
  rw [← prepare_fst_host] at hh
  rcases hlive.prepare_cases (carries_host hcarries) with ⟨⟨why, hwhy⟩, -⟩ |
    ⟨compiled, hcompile, hfits, heq⟩
  · cases hwhy.symm.trans hh
  · rw [heq] at hh
    have hid : handle.id = Handle.idOf c.host.server.issued :=
      (congrArg Handle.id (Except.ok.inj hh)).symm
    rw [hhost, heq, hid]
    exact ⟨compiled, hcompile, hfits, hlive.sound.leads_next compiled⟩

/-- A client prepares the kernels that compile and fit into an image. -/
theorem far_ok_iff (hlive : c.host.Live) (hcarries : c.Carries (.prepare {} k)) :
    (∃ h, (c.prepare {} k).1 = .ok h) ↔ (∃ compiled, k.compile = .ok compiled) ∧ k.FitsImage := by
  constructor
  · rintro ⟨handle, hh⟩
    obtain ⟨compiled, hcompile, hfits, -⟩ := far_eq_ok hlive hcarries hh
    exact ⟨⟨compiled, hcompile⟩, hfits⟩
  · rintro ⟨⟨compiled, hcompile⟩, hfits⟩
    rw [← prepare_fst_host]
    rcases hlive.prepare_cases (carries_host hcarries) with ⟨-, hrefused⟩ | ⟨_, -, -, heq⟩
    · exact absurd hfits (hrefused compiled hcompile)
    · exact ⟨_, congrArg Prod.fst heq⟩

/-- A kernel that is prepared by both is the same program for both. -/
theorem both_eq_ok (hlive : c.host.Live) (hcarries : c.Carries (.prepare {} k))
    (hcpu : cpu.Numbered) (hh : (c.prepare {} k).1 = .ok handle)
    (hg : (cpu.prepare {} k).1 = .ok g) :
    ∃ compiled, k.compile = .ok compiled ∧
      (c.prepare {} k).2.host.server.Leads handle.id
        ⟨Handle.idOf c.host.server.device.issued, Cpu.name⟩ compiled ∧
      (cpu.prepare {} k).2 = cpu.prepared compiled ∧
      (cpu.prepare {} k).2.kernel? g.id = some compiled := by
  obtain ⟨compiled, hcompile, -, hleads⟩ := far_eq_ok hlive hcarries hh
  obtain ⟨compiled', hcompile', hid, hnear⟩ := near_eq_ok hg
  obtain rfl := Except.ok.inj (hcompile.symm.trans hcompile')
  refine ⟨compiled, hcompile, hleads, hnear, ?_⟩
  rw [hnear, hid]
  exact hcpu.kernel?_next compiled

theorem far_error (hlive : c.host.Live) (hcarries : c.Carries (.prepare {} k)) {e : Device.Error}
    (he : (c.prepare {} k).1 = .error e) : ∃ why, e = .compileFailure why := by
  rw [← prepare_fst_host] at he
  rcases hlive.prepare_cases (carries_host hcarries) with ⟨⟨why, hwhy⟩, -⟩ | ⟨_, -, -, heq⟩
  · exact ⟨why, Except.error.inj (he.symm.trans hwhy)⟩
  · cases heq ▸ he

/-- A kernel is kept behind a client if all calls spare it, and otherwise it is gone there. -/
theorem after_cases (hlive : c.host.Live) (hleads : c.host.server.Leads handle.id g compiled)
    {calls : List Call} {l : Launch} (hcarries : (after c calls).Carries (.execute {} handle l)) :
    (∀ call ∈ calls, call.Spares handle.id) ∧
        (after c calls).host.server.Leads handle.id g compiled ∨
      (¬∀ call ∈ calls, call.Spares handle.id) ∧
        (after c calls).server.handles.lookup handle.id = none ∧
        (Processor.host (after c calls).server.device).kernel? g.id = none := by
  have hafter := c.host_after calls
  obtain ⟨-, houtward, -⟩ := hlive.after calls
  -- What a launch can do today, a release could do at any time before.
  have hsent : c.host.outward.refusal? (handleCbor handle.id) = none := by
    rw [← houtward, ← hafter]
    exact Passage.refusal?_handle hcarries.sent
  rw [hafter]
  have hcases := hlive.after_cases hleads hsent calls
  rw [← hafter] at hcases ⊢
  exact hcases

theorem live_after (hlive : c.host.Live) (calls : List Call) :
    (after c calls).host.Live ∧
      (Processor.host (after c calls).server.device).settings =
        (Processor.host c.server.device).settings := by
  obtain ⟨hlive', -, hsettings⟩ := hlive.after calls
  rw [← host_after] at hlive' hsettings
  exact ⟨hlive', hsettings⟩

theorem live_prepare (hlive : c.host.Live) (k : Kernel) :
    (c.prepare {} k).2.host.Live ∧
      (Processor.host (c.prepare {} k).2.server.device).settings =
        (Processor.host c.server.device).settings :=
  live_after hlive [.prepare {} k]

theorem refusal?_after (hlive : c.host.Live) (calls : List Call) :
    (after c calls).refusal? {} = none :=
  (live_after hlive calls).1.refusal?_eq

/-- A client passes on what the processor behind its server does. -/
theorem relays (hlive : c.host.Live) (hcarries : c.Carries (.prepare {} k)) : c.Relays k where
  prepares_iff := by
    rw [far_ok_iff hlive hcarries, Processor.prepare_fst, near_ok_iff]
  launches := by
    intro handle hh
    obtain ⟨compiled, hcompile, -, hleads⟩ := far_eq_ok hlive hcarries hh
    obtain ⟨hlive', -⟩ := live_prepare hlive k
    refine ⟨_, compiled, hcompile, hleads.1, hleads.2, fun calls l hlaunch hends => ?_⟩
    have hopen := refusal?_after hlive' calls
    rcases after_cases hlive' hleads hlaunch with ⟨-, hkept⟩ | ⟨-, hgone, hdevice⟩
    · exact execute_agree hopen hlaunch hkept.1 hends
    · obtain ⟨why, hwhy⟩ := execute_of_gone hopen hlaunch hgone
      obtain ⟨why', hwhy'⟩ := Processor.execute_unknown hdevice {} l
      rw [hwhy, hwhy']
      exact .failure why why'

theorem standsFor (hlive : c.host.Live) (hcarries : c.Carries (.prepare {} k)) (hcpu : cpu.Numbered)
    (hsettings : cpu.settings = (Processor.host c.server.device).settings) : c.StandsFor cpu k where
  prepares_iff := by
    rw [far_ok_iff hlive hcarries, near_ok_iff]
  refusal := far_error hlive hcarries
  refusal_near := near_error
  holds := by
    intro handle g hh hg
    obtain ⟨compiled, hcompile, hleads, -, hk⟩ := both_eq_ok hlive hcarries hcpu hh hg
    exact ⟨compiled, hcompile, ⟨_, hleads⟩, hk⟩
  agree := by
    intro hone handle g hh hg far near hspared l hlaunch hends
    obtain ⟨compiled, -, hleads, hnear, hk⟩ := both_eq_ok hlive hcarries hcpu hh hg
    obtain ⟨hlive', hfar⟩ := live_prepare hlive k
    obtain ⟨-, hfar'⟩ := live_after hlive' far
    have hnumbered : (cpu.prepare {} k).2.Numbered := hcpu.act (.prepare {} k)
    obtain ⟨hnear', hcases⟩ := hnumbered.after_cases hk near
    have hopen := refusal?_after hlive' far
    rcases after_cases hlive' hleads hlaunch with ⟨hall, hkept⟩ | ⟨hsome, hgone, -⟩
    · have hk' := (hcases.resolve_right fun hlost => hlost.1 (hspared.1 hall)).2
      have hsame : (after (cpu.prepare {} k).2 near).settings =
          (Processor.host (after (c.prepare {} k).2 far).server.device).settings := by
        rw [hnear', hnear, hfar', hfar]
        exact hsettings
      -- There is one answer, and both give it.
      have hanswer := (hone _ {} _ l).trans (Cpu.execute_congr hsame.symm hkept.2 hk' {} l)
      rw [← hanswer] at hends ⊢
      exact execute_agree hopen hlaunch hkept.1 hends
    · have hk' := (hcases.resolve_left fun hheld => hsome (hspared.2 hheld.1)).2
      obtain ⟨why, hwhy⟩ := execute_of_gone hopen hlaunch hgone
      obtain ⟨why', hwhy'⟩ := Cpu.execute_of_unknown hk' {} l
      rw [hwhy, hwhy']
      exact .failure why why'

end

/-- Whatever has been asked of a client before, it passes on what the processor behind its server
does with a kernel, and it is as good as any processor with the same settings. -/
theorem connect_standsFor {c : Client σ} (hc : c.Connected) (calls : List Call) (k : Kernel)
    (hcarries : (after c calls).Carries (.prepare {} k)) :
    (after c calls).Relays k ∧
      ∀ cpu : Cpu, cpu.Numbered → cpu.settings = (Processor.host c.server.device).settings →
        (after c calls).StandsFor cpu k := by
  obtain ⟨hlive, hsettings⟩ := live_after hc.live calls
  exact ⟨relays hlive hcarries, fun cpu hcpu hsame =>
    standsFor hlive hcarries hcpu (hsame.trans hsettings.symm)⟩

/-- The message of a kernel of a few words gets through. -/
theorem carries_few {c : Client σ} {k : Kernel} (hissued : c.server.issued = 0)
    (hsent : ((sent k).toOption.all fun k' =>
      (c.outward.refusal? (PrepareRequest.ofKernel k').cbor).isNone) = true)
    (hreply : c.homeward.refusal? (handleCbor (Handle.idOf 0)) = none) :
    c.Carries (.prepare {} k) :=
  carries_prepare (fun _ hk' => Option.isNone_iff_eq_none.1 (forall_sent hsent hk'))
    (hissued ▸ hreply)

/-- Each lane prints the reciprocal of its number, so the first lane faults. -/
def reciprocals : Kernel :=
  { source := "THREAD_ID\nICONST1\nIDIV\nPRINT\nHALT", stackSize := 2, heaps := [1] }

/-- The fault of the first lane. -/
def reciprocalOfZero : Fault :=
  { reason := .kind .divisionByZero, opcode := 20, mnemonic := "IDIV", ip := 2, lane := 0 }

/-- All lanes write their numbers into one cell. -/
def race : Kernel :=
  { source := "ICONST 0\nTHREAD_ID\nPARALLEL_GSTORE_INDEXED 0\nHALT", stackSize := 2, heaps := [1] }

/-- The outcome of a race of two lanes that the first one wins: it writes last. -/
def upset : Completion :=
  { heaps := #[#[0]], printed := #[#[], #[]], steps := 8, groups := 2 }

/-- Two lanes over one cell, each in a group of its own. -/
def twoLanes : Launch :=
  { heaps := #[#[0]], lanes := 2, groupSize := 1 }

/-- A client of a processor with one worker. -/
def farOne : Client Cpu :=
  connect "far" "test" { fuel := 9 }

/-- A client of a processor with workers that race. -/
def farMany : Client Racing :=
  connect "far" "test" ⟨{ fuel := 9 }, [upset]⟩

/-- With one worker, the first of two lanes faults far away as it does near by. With more, the
outcome of a race far away is the one that arrives. -/
theorem reciprocals_standsFor :
    (∃ h, (farOne.prepare {} reciprocals).1 = .ok h ∧
      Agree ((farOne.prepare {} reciprocals).2.execute {} h twoLanes).1
        (.error (.laneFault [reciprocalOfZero]))) ∧
    ∃ h, (farMany.prepare {} race).1 = .ok h ∧
      ((farMany.prepare {} race).2.execute {} h twoLanes).1 = .ok upset := by
  let cpu : Cpu := { fuel := 9 }
  let h : Handle := ⟨Handle.idOf 0, "remote:far"⟩
  let g : Handle := ⟨Handle.idOf 0, Cpu.name⟩
  have hnumbered : cpu.Numbered := fun _ hp => absurd hp List.not_mem_nil
  constructor
  · have hcarries : farOne.Carries (.prepare {} reciprocals) :=
      carries_few rfl (by decide +kernel) (by decide +kernel)
    have hstands := (connect_standsFor (connected_connect hnumbered "far" "test") [] reciprocals
      hcarries).2 cpu hnumbered rfl
    have hh : (farOne.prepare {} reciprocals).1 = .ok h := ok_of_toOption_eq (by decide +kernel)
    have hg : (cpu.prepare {} reciprocals).1 = .ok g := ok_of_toOption_eq (by decide +kernel)
    have hlaunch : (farOne.prepare {} reciprocals).2.Carries (.execute {} h twoLanes) := by
      have hfaults : ((farOne.prepare {} reciprocals).2.server.execute {} h.id twoLanes).1 =
          .ok (.faults [.ofFault reciprocalOfZero]) :=
        ok_of_toOption_eq (by decide +kernel)
      exact .of_ok (by decide +kernel) hfaults (by decide +kernel)
    have hanswer : (cpu.prepare {} reciprocals).2.execute {} g twoLanes =
        .error (.laneFault [reciprocalOfZero]) := by
      decide +kernel
    refine ⟨h, hh, hanswer ▸ ?_⟩
    refine @StandsFor.agree _ _ _ _ _ hstands Processor.oneWorker_cpu _ _ hh hg []
      [] ?_ _ hlaunch ?_
    · exact ⟨fun _ _ hcall => absurd hcall List.not_mem_nil,
        fun _ _ hcall => absurd hcall List.not_mem_nil⟩
    · exact fun hends => by cases hanswer.symm.trans hends
  · have hcarries : farMany.Carries (.prepare {} race) :=
      carries_few rfl (by decide +kernel) (by decide +kernel)
    have hrelays :=
      (connect_standsFor (connected_connect hnumbered "far" "test") [] race hcarries).1
    have hh : (farMany.prepare {} race).1 = .ok h := ok_of_toOption_eq (by decide +kernel)
    have hlaunch : (farMany.prepare {} race).2.Carries (.execute {} h twoLanes) := by
      have hdone : ((farMany.prepare {} race).2.server.execute {} h.id twoLanes).1 =
          .ok (.done upset) :=
        ok_of_toOption_eq (by decide +kernel)
      exact .of_ok (by decide +kernel) hdone (by decide +kernel)
    obtain ⟨target, -, -, hlookup, -, hlaunches⟩ := hrelays.launches hh
    obtain rfl : target = g := Option.some.inj (hlookup.symm.trans (by decide +kernel))
    have hanswer : (Backend.execute (farMany.prepare {} race).2.server.device {} g twoLanes).1 =
        .ok upset :=
      ok_of_toOption_eq (by decide +kernel)
    have hagree := hlaunches [] twoLanes hlaunch fun hends => by cases hanswer.symm.trans hends
    exact ⟨h, hh, (hanswer ▸ hagree : Agree _ (.ok upset)).eq_ok⟩

end Client

end Lanewise.Remote
