import Lanewise.Proofs.Remote.Interchange
import Lanewise.Proofs.Remote.Routing

/-!
# The health of endpoints

A pool takes an endpoint for unhealthy when the answer to a call is that it is unavailable. The
processor behind a server never answers so to a caller who waits. Hence there are four reasons: the
client has given up its connection, the server does not serve, the caller does not wait any more, or
a message is too large for one of the two ends. The first two are failures of the endpoint. The
others are none, but they cannot be told from the first two by the answer, and so a caller who gives
up, or who sends too much at once, takes the health from an endpoint that works.

As long as all callers wait and no message is too large, endpoints that are up keep their health,
whatever is asked of them. An endpoint that has lost it has lost it by one of the four, or by a
health check for one of the four.

## Main definitions

* `Remote.Client.Admits`, `Remote.Pool.Admits`: the messages of a call are not too large.
* `Remote.Pool.Event.Fails`: an event by which an endpoint loses its health.
* `Remote.Pool.HealthLaw`: when endpoints keep their health and when they lose it.

## Main results

* `Remote.Client.reported_iff`: the calls that are answered by a client as unavailable.
* `Remote.Pool.lost_of_replay`: what has happened to an endpoint that has lost its health.
* `Remote.Pool.healthLaw`: the law holds for every pool of processors.
-/

namespace Lanewise

open Backend

namespace Remote

/-! ### Answers -/

/-- A pool takes the answer for a failure of the endpoint. -/
def Reported : Answer → Prop
  | .prepared answer => Unavailable answer
  | .executed answer => Unavailable answer
  | .released _ => False

/-- The caller waits for the answer. Releases are not given up. -/
def Waits : Call → Prop
  | .prepare ctx _ => ctx.cancelled = false
  | .execute ctx _ _ => ctx.cancelled = false
  | .release _ => True

/-- A pool learns whether the call gets through: it is no release, and no kernel that cannot be
sent. -/
def Heeded : Call → Prop
  | .prepare _ k => ∃ k', Client.sent k = .ok k'
  | .execute _ _ _ => True
  | .release _ => False

theorem unavailable_map_iff {α β : Type} {answer : Except Device.Error α} (f : α → β) :
    Unavailable (answer.map f) ↔ Unavailable answer := by
  cases answer with
  | error e => exact unavailable_error_iff.trans unavailable_error_iff.symm
  | ok a => exact iff_of_false (fun ⟨_, h⟩ => by cases h) fun ⟨_, h⟩ => by cases h

theorem unavailable_bind_iff {α β : Type} {answer : Except Device.Error α}
    {f : α → Except Device.Error β} (hf : ∀ a, ¬Unavailable (f a)) :
    Unavailable (answer.bind f) ↔ Unavailable answer := by
  cases answer with
  | error e => exact unavailable_error_iff.trans unavailable_error_iff.symm
  | ok a => exact iff_of_false (hf a) fun ⟨_, h⟩ => by cases h

section Servers

variable {σ : Type} [Processor σ] {s : Server σ} {ctx : Context} {id : String} {st : Status}

/-- A processor that refuses a kernel is not unavailable for that, if the caller waits. -/
theorem Server.prepare_available {K : Kernel} (hctx : ctx.cancelled = false)
    (h : (s.prepare ctx K).1 = .error st) (why : String) : st.error ≠ .unavailable why := by
  obtain rfl : ctx = {} := congrArg Context.mk hctx
  have hhost : (s.host.prepare {} K).1 = .error st :=
    (congrArg Prod.fst (s.prepare_host {} K)).symm.trans h
  cases hK : K.compile with
  | error e =>
    rw [prepare_of_error hK] at hhost
    obtain rfl := Except.error.inj hhost
    exact fun heq => by cases heq
  | ok k =>
    rw [prepare_of_compile hK] at hhost
    cases hhost

/-- Neither does a launch make a processor unavailable. -/
theorem Server.execute_available {l : Launch} (h : (s.execute ctx id l).1 = .error st)
    (why : String) : st.error ≠ .unavailable why := by
  unfold Server.execute at h
  split at h
  · obtain rfl := Except.error.inj h
    exact fun heq => by cases heq
  · next target _ =>
    have hcases := Processor.execute_cases s.device ctx target l
    generalize Backend.execute s.device ctx target l = result at h hcases
    obtain ⟨answer, device⟩ := result
    dsimp only at hcases
    rcases hcases with ⟨r, rfl⟩ | ⟨fs, -, rfl⟩ | ⟨text, rfl⟩ | rfl
    all_goals cases h
    · exact fun heq => by cases heq
    · exact fun heq => by cases heq

theorem Server.serving_prepare (s : Server σ) (ctx : Context) (K : Kernel) :
    (s.prepare ctx K).2.serving = s.serving := by
  unfold Server.prepare
  split
  · rfl
  · rfl

theorem Server.serving_execute (s : Server σ) (ctx : Context) (id : String) (l : Launch) :
    (s.execute ctx id l).2.serving = s.serving := by
  unfold Server.execute
  split
  · rfl
  · split
    · rfl
    · rfl
    · rfl

theorem Server.serving_release (s : Server σ) (id : String) :
    (s.release id).2.serving = s.serving := by
  unfold Server.release
  split
  · rfl
  · dsimp only
    split
    · rfl
    · rfl

end Servers

/-! ### Clients -/

namespace Client

variable {σ : Type} [Processor σ] {c : Client σ} {ctx : Context}

/-- The messages of a call are not too large. Nobody heeds what becomes of a release. -/
def Admits (c : Client σ) : Call → Prop
  | .prepare ctx k => ∀ k', sent k = .ok k' → c.Fits (.prepare ctx k')
  | .execute ctx h l => c.Fits (.execute ctx h l)
  | .release _ => True

theorem prepare_unavailable_iff {k : Kernel} :
    Unavailable (c.prepare ctx k).1 ↔ (∃ k', sent k = .ok k') ∧
      ¬(c.Up ∧ ctx.cancelled = false ∧ ∀ k', sent k = .ok k' → c.Fits (.prepare ctx k')) := by
  unfold Client.prepare
  cases hsent : sent k with
  | error e =>
    obtain ⟨why, rfl⟩ := sent_error hsent
    refine iff_of_false ?_ ?_
    · rintro ⟨_, heq⟩
      cases heq
    · rintro ⟨⟨k', hk'⟩, -⟩
      cases hk'
  | ok k' =>
    have hexchange : Unavailable (c.exchange ctx (.prepare ctx k')).1 ↔
        ¬(c.Up ∧ ctx.cancelled = false ∧ c.Fits (.prepare ctx k')) :=
      exchange_unavailable_iff fun hctx _ => Server.prepare_available hctx
    simp only [Except.ok.injEq, exists_eq', true_and, forall_eq']
    exact (unavailable_map_iff _).trans hexchange

theorem completion_available (r : Reply) : ¬Unavailable (completion r) := by
  rintro ⟨why, h⟩
  unfold completion at h
  split at h
  · cases h
  · cases h
  · cases h

theorem execute_unavailable_iff {h : Handle} {l : Launch} :
    Unavailable (c.execute ctx h l).1 ↔
      ¬(c.Up ∧ ctx.cancelled = false ∧ c.Fits (.execute ctx h l)) := by
  have hexchange : Unavailable (c.exchange ctx (.execute ctx h l)).1 ↔
      ¬(c.Up ∧ ctx.cancelled = false ∧ c.Fits (.execute ctx h l)) :=
    exchange_unavailable_iff fun _ _ => Server.execute_available
  exact (unavailable_bind_iff completion_available).trans hexchange

/-- A server that can be asked about itself answers. -/
theorem info_of_fits (hopen : c.refusal? ctx = none) (hfits : c.Fits .info) :
    (c.info ctx).isOk = true := by
  have hshort : c.server.info.cbor.short = true := by
    have hcount : (3 : Nat) ≤ Cbor.maxItems := by decide
    refine (Cbor.short_ofFields ?_).trans ?_
    · exact hcount
    simp only [List.all_cons, Cbor.short_present, Cbor.short_ofString, Cbor.short_ofInt,
      List.all_nil, Bool.and_self]
  have hdelivers : c.Delivers .info := by
    refine ⟨Passage.refusal?_eq_none_iff.2 ⟨hfits.request, rfl⟩, fun {i} h => ?_⟩
    obtain rfl : c.server.info = i := Except.ok.inj h
    exact Passage.refusal?_eq_none_iff.2 ⟨hfits.reply rfl h, hshort⟩
  rw [info, exchange_of_delivers hopen hdelivers]
  rfl

theorem not_up_of_info (c : Client σ) (h : (c.info ctx).isOk = false) :
    ¬(c.Up ∧ ctx.cancelled = false ∧ c.Fits .info) := by
  rintro ⟨hup, hwaits, hfits⟩
  have hanswers := info_of_fits (refusal?_eq_none_iff.2 ⟨hup, hwaits⟩) hfits
  exact Bool.false_ne_true (h.symm.trans hanswers)

/-- The calls that are answered as unavailable, as far as pools heed them. -/
theorem reported_iff (c : Client σ) (call : Call) :
    Reported (call.answer c) ↔ Heeded call ∧ ¬(c.Up ∧ Waits call ∧ c.Admits call) := by
  cases call with
  | prepare ctx k => exact prepare_unavailable_iff
  | execute ctx h l => exact execute_unavailable_iff.trans (and_iff_right trivial).symm
  | release h => exact iff_of_false id fun hheeded => hheeded.1

/-- Calls do not take a connection down. -/
theorem Up.act (h : c.Up) (call : Call) : (call.act c).Up := by
  have hserver {server : Server σ} (hserving : server.serving = c.server.serving) :
      ({ c with server } : Client σ).Up :=
    ⟨h.1, hserving.trans h.2⟩
  cases call with
  | prepare ctx k =>
    have hact : Call.act c (.prepare ctx k) = (c.prepare ctx k).2 := rfl
    rw [hact]
    rcases c.prepare_snd ctx k with heq | ⟨k', heq⟩
    · rwa [heq]
    · rw [heq]
      exact hserver (c.server.serving_prepare ctx k')
  | execute ctx handle l =>
    have hact : Call.act c (.execute ctx handle l) = (c.execute ctx handle l).2 := rfl
    rw [hact]
    rcases c.execute_snd ctx handle l with heq | heq
    · rwa [heq]
    · rw [heq]
      exact hserver (c.server.serving_execute ctx handle.id l)
  | release handle =>
    have hact : Call.act c (.release handle) = (c.release handle).2 := rfl
    rw [hact]
    rcases c.release_snd handle with heq | heq
    · rwa [heq]
    · rw [heq]
      exact hserver (c.server.serving_release handle.id)

end Client

/-! ### Endpoints -/

namespace Pool

/-- Whether an endpoint is healthy. -/
def healthy? {σ : Type} (p : Pool σ) (j : Nat) : Option Bool :=
  p.endpoints[j]?.map (·.healthy)

section Primitives

variable {σ : Type} {p : Pool σ} {i j : Nat}

theorem healthy?_setClient (p : Pool σ) (i : Nat) (c : Client σ) (j : Nat) :
    (p.setClient i c).healthy? j = p.healthy? j := by
  rw [healthy?, setClient, Array.getElem?_modify, healthy?]
  split
  · rw [Option.map_map]
    rfl
  · rfl

theorem healthy?_setHealth (p : Pool σ) (i : Nat) (healthy : Bool) (j : Nat) :
    (p.setHealth i healthy).healthy? j =
      if i = j then (p.healthy? j).map fun _ => healthy else p.healthy? j := by
  rw [healthy?, getElem?_setHealth, healthy?]
  split
  · rw [Option.map_map, Option.map_map]
    rfl
  · rfl

theorem observe_of_unavailable {α : Type} {answer : Except Device.Error α}
    (h : Unavailable answer) :
    p.observe i answer = p.setHealth i false := by
  obtain ⟨why, rfl⟩ := h
  rfl

theorem observe_of_not_unavailable {α : Type} {answer : Except Device.Error α}
    (h : ¬Unavailable answer) : p.observe i answer = p := by
  unfold observe
  split
  · exact absurd ⟨_, rfl⟩ h
  · rfl

theorem heed_of_reported {answer : Answer} (h : Reported answer) :
    p.heed i answer = p.setHealth i false := by
  cases answer with
  | prepared answer => exact observe_of_unavailable h
  | executed answer => exact observe_of_unavailable h
  | released answer => exact h.elim

theorem heed_of_not_reported {answer : Answer} (h : ¬Reported answer) : p.heed i answer = p := by
  cases answer with
  | prepared answer => exact observe_of_not_unavailable h
  | executed answer => exact observe_of_not_unavailable h
  | released answer => rfl

/-- An endpoint is unhealthy after an answer if it was before or if the answer is a failure of
it. -/
theorem healthy?_heed_eq_false_iff {answer : Answer} (hi : p.healthy? i ≠ none) :
    (p.heed i answer).healthy? j = some false ↔ p.healthy? j = some false ∨ i = j ∧
      Reported answer := by
  by_cases h : Reported answer
  · rw [heed_of_reported h, healthy?_setHealth]
    by_cases heq : i = j
    · subst heq
      obtain ⟨healthy, hhealthy⟩ := Option.ne_none_iff_exists'.1 hi
      rw [if_pos rfl, hhealthy]
      exact iff_of_true rfl (.inr ⟨rfl, h⟩)
    · rw [if_neg heq]
      exact (or_iff_left fun h => heq h.1).symm
  · rw [heed_of_not_reported h]
    exact (or_iff_left fun h' => h h'.2).symm

end Primitives

/-! ### Losing health -/

section Losses

variable {σ : Type} [Processor σ] {p : Pool σ} {i j : Nat} {call c : Call}

/-- An event by which an endpoint loses its health: a call that is sent to it and does not get
through, or a health check that does not, since the connection is not up, the caller does not wait
or a message is too large. -/
def Event.Fails (p : Pool σ) (j : Nat) : Event σ → Prop
  | .call call => ∃ c client, p.sent call = some (j, c) ∧ p.client? j = some client ∧
      Heeded c ∧ ¬(client.Up ∧ Waits c ∧ client.Admits c)
  | .checkHealth ctx => ∃ client, p.client? j = some client ∧
      ¬(client.Up ∧ ctx.cancelled = false ∧ client.Fits .info)
  | .setHealth i healthy => i = j ∧ healthy = false
  | _ => False

/-- A call takes the health from an endpoint if and only if it does not get through there. -/
theorem healthy?_call_eq_false_iff :
    (call.act p).healthy? j = some false ↔
      p.healthy? j = some false ∨ Event.Fails p j (.call call) := by
  cases hsent : p.sent call with
  | none =>
    obtain ⟨turn, hact⟩ := act_of_not_sent hsent
    rw [hact]
    refine (or_iff_left ?_).symm
    rintro ⟨c, client, h, -⟩
    cases hsent.symm.trans h
  | some target =>
    obtain ⟨i, c⟩ := target
    obtain ⟨e, he, -, turn, hact⟩ := act_of_sent hsent
    have hclient : p.client? i = some e.client := by rw [client?, he, Option.map_some]
    have hsame (j : Nat) : (Pool.setClient { p with turn } i (c.act e.client)).healthy? j =
        p.healthy? j :=
      healthy?_setClient _ _ _ _
    have hi : p.healthy? i ≠ none := by
      rw [healthy?, he]
      exact Option.some_ne_none _
    rw [hact, healthy?_heed_eq_false_iff (by rwa [hsame]), hsame, Client.reported_iff]
    refine or_congr_right ⟨?_, ?_⟩
    · rintro ⟨rfl, hfails⟩
      exact ⟨c, e.client, hsent, hclient, hfails⟩
    · rintro ⟨c', client, hsent', hclient', hfails⟩
      obtain ⟨rfl, rfl⟩ := Prod.mk.inj (Option.some.inj (hsent.symm.trans hsent'))
      obtain rfl := Option.some.inj (hclient.symm.trans hclient')
      exact ⟨rfl, hfails⟩

/-- A health check takes the health from the endpoints that it does not reach. Being asked changes
no client, so it does not matter which endpoints have been asked before. -/
theorem fails_of_checkHealth {ctx : Context} (h : (p.checkHealth ctx).healthy? j = some false) :
    p.healthy? j = some false ∨ Event.Fails p j (.checkHealth ctx) := by
  have hask (q : Pool σ) (i : Nat) (hq : q.client? j = p.client? j ∧ (q.healthy? j = some false →
        p.healthy? j = some false ∨ Event.Fails p j (.checkHealth ctx))) :
      (q.ask ctx i).client? j = p.client? j ∧ ((q.ask ctx i).healthy? j = some false →
        p.healthy? j = some false ∨ Event.Fails p j (.checkHealth ctx)) := by
    refine ⟨(q.client?_ask ctx i j).trans hq.1, fun hlost => ?_⟩
    unfold ask at hlost
    split at hlost
    · next e he =>
      rw [healthy?_setHealth] at hlost
      split at hlost
      · next heq =>
        subst heq
        obtain ⟨_, -, hinfo⟩ := Option.map_eq_some_iff.1 hlost
        have hclient : q.client? i = some e.client := by rw [client?, he, Option.map_some]
        exact .inr ⟨e.client, hq.1.symm.trans hclient, e.client.not_up_of_info hinfo⟩
      · exact hq.2 hlost
    · exact hq.2 hlost
  exact (checkHealth_induction hask ⟨rfl, Or.inl⟩).2 h

/-- An endpoint loses its health by an event that fails. -/
theorem fails_of_act {event : Event σ} (h : (event.act p).healthy? j = some false) :
    p.healthy? j = some false ∨ event.Fails p j := by
  cases event with
  | add c =>
    have hpush : (p.endpoints.push { client := c })[j]?.map (·.healthy) = some false := h
    rw [Array.getElem?_push] at hpush
    split at hpush
    · cases hpush
    · exact .inl hpush
  | call call => exact healthy?_call_eq_false_iff.1 h
  | setHealth i healthy =>
    rw [Event.act, healthy?_setHealth] at h
    split at h
    · next heq =>
      obtain ⟨_, -, hhealthy⟩ := Option.map_eq_some_iff.1 h
      exact .inr ⟨heq, hhealthy⟩
    · exact .inl h
  | checkHealth ctx => exact fails_of_checkHealth h
  | change i f =>
    rw [Event.act] at h
    split at h
    · rw [healthy?_setClient] at h
      exact .inl h
    · exact .inl h
  | close =>
    rw [Event.act, healthy?, close, Array.getElem?_map, Option.map_map] at h
    exact .inl h

/-- An endpoint that has lost its health has lost it by one of the events, by induction on them. -/
theorem lost_of_replay {events : List (Event σ)} (hp : p.healthy? j ≠ some false)
    (h : (p.replay events).healthy? j = some false) :
    ∃ before event behind, events = before ++ event :: behind ∧
      event.Fails (p.replay before) j := by
  induction events generalizing p with
  | nil => exact absurd h hp
  | cons event events ih =>
    by_cases hevent : (event.act p).healthy? j = some false
    · have hfails := (fails_of_act hevent).resolve_left hp
      exact ⟨[], event, events, rfl, hfails⟩
    · obtain ⟨before, event', behind, rfl, hfails⟩ := ih hevent h
      exact ⟨event :: before, event', behind, rfl, hfails⟩

/-! ### Keeping health -/

/-- All endpoints are healthy, and all of them are up. -/
def Up (p : Pool σ) : Prop :=
  ∀ e ∈ p.endpoints, e.healthy = true ∧ e.client.Up

omit [Processor σ] in
theorem waits_of_sent (h : p.sent call = some (i, c)) (hcall : Waits call) : Waits c := by
  cases sends_of_sent h with
  | prepare ctx k => exact hcall
  | execute ctx l => exact hcall
  | release => trivial

/-- The messages of a call are not too large for the endpoint that it is sent to. -/
def Admits (p : Pool σ) (call : Call) : Prop :=
  ∀ i c client, p.sent call = some (i, c) → p.client? i = some client → client.Admits c

/-- The messages of calls, one after another, are not too large. -/
def AdmitsAll (p : Pool σ) : List Call → Prop
  | [] => True
  | call :: calls => p.Admits call ∧ (call.act p).AdmitsAll calls

/-- A call of a caller who waits leaves all endpoints as healthy as they are. -/
theorem Up.act (h : p.Up) (hcall : Waits call) (hadmits : p.Admits call) :
    (call.act p).Up ∧ (call.act p).changes = p.changes := by
  cases hsent : p.sent call with
  | none =>
    obtain ⟨turn, hact⟩ := act_of_not_sent hsent
    rw [hact]
    exact ⟨h, rfl⟩
  | some target =>
    obtain ⟨i, c⟩ := target
    obtain ⟨e, he, -, turn, hact⟩ := act_of_sent hsent
    obtain ⟨-, hup⟩ := h e (Array.mem_of_getElem? he)
    have hquiet : ¬Reported (c.answer e.client) := by
      rw [Client.reported_iff]
      have hclient : p.client? i = some e.client := by rw [client?, he, Option.map_some]
      exact fun hreported => hreported.2
        ⟨hup, waits_of_sent hsent hcall, hadmits i c e.client hsent hclient⟩
    rw [hact, heed_of_not_reported hquiet]
    refine ⟨fun e' he' => ?_, rfl⟩
    obtain ⟨j, hj⟩ := Array.mem_iff_getElem?.1 he'
    rw [setClient, Array.getElem?_modify] at hj
    split at hj
    · obtain ⟨e'', he'', rfl⟩ := Option.map_eq_some_iff.1 hj
      exact ⟨(h e'' (Array.mem_of_getElem? he'')).1, hup.act c⟩
    · exact h e' (Array.mem_of_getElem? hj)

/-- When endpoints keep their health and when they lose it. -/
structure HealthLaw (p : Pool σ) : Prop where
  /-- Calls of callers who wait take no health from endpoints that are up, unless a message is too
  large. -/
  kept (hp : p.Up) {calls : List Call} (hcalls : ∀ call ∈ calls, Waits call)
    (hadmits : p.AdmitsAll calls) :
    (after p calls).Up ∧ (after p calls).changes = p.changes
  /-- A call takes the health from an endpoint if and only if it does not get through there. -/
  lost_iff (call : Call) (j : Nat) : (call.act p).healthy? j = some false ↔
    p.healthy? j = some false ∨ Event.Fails p j (.call call)
  /-- An endpoint that has lost its health has lost it when a call or a health check did not get
  through. -/
  lost {events : List (Event σ)} {j : Nat} (hp : p.healthy? j = some true)
    (h : (p.replay events).healthy? j = some false) :
    ∃ before event behind, events = before ++ event :: behind ∧ event.Fails (p.replay before) j

/-- The law holds for every pool of processors. -/
theorem healthLaw (p : Pool σ) : p.HealthLaw where
  kept := by
    intro hp calls hcalls hadmits
    induction calls generalizing p with
    | nil => exact ⟨hp, rfl⟩
    | cons call calls ih =>
      obtain ⟨hcall, hcalls⟩ := List.forall_mem_cons.1 hcalls
      obtain ⟨hup, hchanges⟩ := hp.act hcall hadmits.1
      obtain ⟨hup', hchanges'⟩ := ih _ hup hcalls hadmits.2
      exact ⟨hup', hchanges'.trans hchanges⟩
  lost_iff _ _ := healthy?_call_eq_false_iff
  lost := by
    intro events j hp h
    exact lost_of_replay (by rw [hp]; decide) h

/-- A kernel is not too large for a pool if it is too large for no endpoint. -/
theorem admits_prepare {ctx : Context} {k : Kernel}
    (h : p.endpoints.all fun e =>
      ((Client.sent k).toOption.all fun k' =>
        e.client.outward.Takes (PrepareRequest.ofKernel k').cbor) &&
      e.client.homeward.Takes (handleCbor (Handle.idOf e.client.server.issued))) :
    p.Admits (.prepare ctx k) := by
  intro i c client hsent hclient
  obtain ⟨e, he, rfl⟩ := Option.map_eq_some_iff.1 hclient
  have hfits := Array.all_eq_true_iff_forall_mem.1 h e (Array.mem_of_getElem? he)
  obtain ⟨hrequest, hreply⟩ := Bool.and_eq_true_iff.1 hfits
  cases sends_of_sent hsent with
  | prepare ctx k =>
    intro k' hk'
    refine ⟨of_decide_eq_true (Client.forall_sent hrequest hk'), fun {id} _ hid => ?_⟩
    obtain rfl : id = Handle.idOf e.client.server.issued := Server.eq_idOf_of_prepare hid
    exact of_decide_eq_true hreply

/-- Releases are never too large. -/
theorem admits_release (h : Handle) : p.Admits (.release h) := by
  intro i c client hsent _
  cases sends_of_sent hsent with
  | release => trivial

theorem pair_up : pair.Up := by
  intro e he
  rcases Array.mem_push.1 he with he | rfl
  · rcases Array.mem_push.1 he with he | rfl
    · exact absurd he (Array.not_mem_empty e)
    · exact ⟨rfl, rfl, rfl⟩
  · exact ⟨rfl, rfl, rfl⟩

/-- Two kernels, one of them for each endpoint, and a handle that names none. -/
theorem pair_keeps_health :
    (after pair [.prepare {} idle, .prepare {} idle, .release ⟨"2/", ""⟩]).Up := by
  have hcalls :
      ∀ call ∈ [Call.prepare {} idle, .prepare {} idle, .release ⟨"2/", ""⟩], Waits call := by
    simp only [List.forall_mem_cons, Waits, List.not_mem_nil, false_implies, implies_true, and_self]
  have hadmits : pair.AdmitsAll [.prepare {} idle, .prepare {} idle, .release ⟨"2/", ""⟩] :=
    ⟨admits_prepare (by decide +kernel), admits_prepare (by decide +kernel), admits_release _,
      trivial⟩
  exact ((healthLaw pair).kept pair_up hcalls hadmits).1

/-- Both endpoints are up, but a caller who does not wait takes the health from the first one. -/
theorem pair_loses_health :
    ¬∀ (p : Pool Cpu) (calls : List Call), p.Up → ∀ e ∈ (after p calls).endpoints,
      e.healthy = true := by
  intro h
  have hlost : (after pair [.prepare ⟨true⟩ idle]).healthy? 0 = some false := by decide +kernel
  obtain ⟨e, he, hunhealthy⟩ := Option.map_eq_some_iff.1 hlost
  have hhealthy := h pair _ pair_up e (Array.mem_of_getElem? he)
  exact Bool.false_ne_true (hunhealthy.symm.trans hhealthy)

end Losses

end Pool

end Remote

end Lanewise
