import Lanewise.Cpu.Basic
import Lanewise.Proofs.Device.Acceptance
import Lanewise.Proofs.Device.Histories
import Lanewise.Proofs.Remote.PoolHandles

/-!
# Where a pool sends calls

What a pool sends on is told by a function of its own, and a call changes just the client that it is
sent to, whose answer is passed on. So the history of a pool splits into histories of its endpoints.
Endpoints are only ever appended and keep their numbers, so a handle leads to the same endpoint all
along, however many are added or have lost their health.

## Main definitions

* `Remote.Pool.sent`: the endpoint to which a call is sent, and what is sent there.
* `Remote.Pool.Event`, `Remote.Pool.Visit`: what happens to a pool, and to one of its clients.
* `Remote.Pool.Affine`: kernels stay with the endpoints that have prepared them.

## Main results

* `Remote.Pool.reaches_of_sent`: what a call does that is sent on.
* `Remote.Pool.client?_replay`: the history of an endpoint.
* `Remote.Pool.affine`: every pool keeps kernels where they are.
-/

namespace Lanewise

/-! ### Answers -/

namespace Backend

/-- What a device answers to a call. -/
inductive Answer
  | prepared (answer : Except Device.Error Handle)
  | executed (answer : Except Device.Error Completion)
  | released (answer : Except Device.Error Unit)

/-- The answer of a device to a call. -/
def Call.answer {σ : Type} [Backend σ] (s : σ) : Call → Answer
  | prepare ctx k => .prepared (Backend.prepare s ctx k).1
  | execute ctx h l => .executed (Backend.execute s ctx h l).1
  | release h => .released (Backend.release s h).1

end Backend

open Backend

namespace Remote.Pool

/-- An answer of an endpoint as a pool passes it on: the number of the endpoint is put before a
handle. -/
def numbered (i : Nat) : Answer → Answer
  | .prepared answer => .prepared (answer.map (handle i))
  | answer => answer

/-! ### The endpoint for a kernel -/

section Turns

variable {σ : Type} {p : Pool σ} {i : Nat}

theorem lt_of_tmod_eq {a : Int} {n : Nat} (ha : a < 0x8000000000000000) (h : a.tmod n = i) :
    i < 0x8000000000000000 := by
  rcases Int.le_total 0 a with hpos | hneg
  · have hle := Nat.mod_le a.natAbs n
    have heq := Int.natAbs_tmod a n
    rw [h, Int.natAbs_natCast, Int.natAbs_natCast] at heq
    omega
  · have hnonpos := Int.tmod_nonneg n (Int.neg_nonneg_of_nonpos hneg)
    rw [Int.neg_tmod, h] at hnonpos
    omega

/-- The number of an endpoint that is found has 64 bits with a sign, and the endpoint is healthy. -/
theorem search_eq_ok {start : Int64} {n : Nat} (h : p.search start n = .ok i) :
    i < 0x8000000000000000 ∧ ∃ e, p.endpoints[i]? = some e ∧ e.healthy = true := by
  induction n generalizing start with
  | zero => cases h
  | succ n ih =>
    rw [search] at h
    split at h
    · cases h
    · next i' hindex =>
      split at h
      · next hhealthy =>
        obtain rfl := Except.ok.inj h
        refine ⟨lt_of_tmod_eq start.toInt_lt hindex, ?_⟩
        cases he : p.endpoints[i']? with
        | none =>
          rw [he] at hhealthy
          cases hhealthy
        | some e =>
          rw [he] at hhealthy
          exact ⟨e, rfl, hhealthy⟩
      · exact ih h

/-- A kernel goes to a healthy endpoint. -/
theorem pick_eq_ok (h : p.pick.1 = .ok i) :
    i < 0x8000000000000000 ∧ ∃ e, p.endpoints[i]? = some e ∧ e.healthy = true := by
  unfold pick at h
  split at h
  · cases h
  · exact search_eq_ok h

/-- Choosing an endpoint takes a turn at most. -/
theorem pick_snd (p : Pool σ) : ∃ turn, p.pick.2 = { p with turn } := by
  unfold pick
  split
  · exact ⟨p.turn, rfl⟩
  · exact ⟨p.turn + 1, rfl⟩

end Turns

/-! ### Clients -/

section Clients

variable {σ : Type} {p : Pool σ} {j : Nat} {client : Client σ}

/-- The client of an endpoint. -/
def client? (p : Pool σ) (j : Nat) : Option (Client σ) :=
  p.endpoints[j]?.map (·.client)

/-- What a pool learns about the health of an endpoint from an answer. Releases are not heeded. -/
def heed (p : Pool σ) (i : Nat) : Answer → Pool σ
  | .prepared answer => p.observe i answer
  | .executed answer => p.observe i answer
  | .released _ => p

theorem client?_setClient (p : Pool σ) (i : Nat) (c : Client σ) (j : Nat) :
    (p.setClient i c).client? j = if i = j then (p.client? j).map fun _ => c else p.client? j := by
  rw [client?, setClient, Array.getElem?_modify, client?]
  split
  · rw [Option.map_map, Option.map_map]
    rfl
  · rfl

/-- Setting the health of an endpoint does nothing else, whether or not it is a change. -/
theorem getElem?_setHealth (p : Pool σ) (i : Nat) (healthy : Bool) (j : Nat) :
    (p.setHealth i healthy).endpoints[j]? =
      if i = j then p.endpoints[j]?.map fun e => { e with healthy } else p.endpoints[j]? := by
  unfold setHealth
  split
  · next hnone =>
    split
    · next heq =>
      subst heq
      rw [hnone]
      rfl
    · rfl
  · next e he =>
    split
    · next hsame =>
      subst hsame
      split
      · next heq =>
        subst heq
        rw [he]
        rfl
      · rfl
    · obtain ⟨hi, -⟩ := Array.getElem?_eq_some_iff.1 he
      rw [Array.getElem?_setIfInBounds, if_pos hi]
      split
      · next heq =>
        subst heq
        rw [he]
        rfl
      · rfl

theorem client?_setHealth (p : Pool σ) (i : Nat) (healthy : Bool) (j : Nat) :
    (p.setHealth i healthy).client? j = p.client? j := by
  rw [client?, getElem?_setHealth, client?]
  split
  · rw [Option.map_map]
    rfl
  · rfl

theorem client?_observe {α : Type} (p : Pool σ) (i : Nat) (answer : Except Device.Error α)
    (j : Nat) :
    (p.observe i answer).client? j = p.client? j := by
  unfold observe
  split
  · exact p.client?_setHealth i false j
  · rfl

theorem client?_heed (p : Pool σ) (i : Nat) (answer : Answer) (j : Nat) :
    (p.heed i answer).client? j = p.client? j := by
  cases answer with
  | prepared answer => exact p.client?_observe i answer j
  | executed answer => exact p.client?_observe i answer j
  | released answer => rfl

theorem client?_close (p : Pool σ) (j : Nat) :
    p.close.client? j = (p.client? j).map Client.close := by
  rw [client?, close, Array.getElem?_map, Option.map_map, client?, Option.map_map]
  rfl

theorem client?_add (h : p.client? j = some client) (c : Client σ) :
    (p.add c).client? j = some client := by
  obtain ⟨e, he, rfl⟩ := Option.map_eq_some_iff.1 h
  obtain ⟨hj, rfl⟩ := Array.getElem?_eq_some_iff.1 he
  rw [client?, add, Array.getElem?_push_lt hj]
  rfl

end Clients

/-! ### Calls that are sent on -/

section Calls

variable {σ : Type}

/-- The endpoint to which a call is sent, and what is sent there. -/
def sent (p : Pool σ) : Call → Option (Nat × Call)
  | .prepare ctx k =>
    match p.pick.1 with
    | .ok i => some (i, .prepare ctx k)
    | .error _ => none
  | .execute ctx h l =>
    match p.route h with
    | .ok (i, _, inner) => some (i, .execute ctx inner l)
    | .error _ => none
  | .release h =>
    match p.route h with
    | .ok (i, _, inner) => some (i, .release inner)
    | .error _ => none

variable {p : Pool σ} {H : Handle} {i j : Nat} {e : Endpoint σ} {inner : Handle} {call c : Call}
  {client : Client σ}

/-- What is sent on for a call: the kernel to the endpoint whose turn it is, all else to the
endpoint that the handle leads to, under the handle of this endpoint. -/
inductive Sends (p : Pool σ) (i : Nat) : Call → Call → Prop
  | prepare (ctx : Context) (k : Kernel) (h : p.pick.1 = .ok i) :
    Sends p i (.prepare ctx k) (.prepare ctx k)
  | execute (ctx : Context) (l : Launch) {H : Handle} {e : Endpoint σ} {inner : Handle}
    (h : p.route H = .ok (i, e, inner)) : Sends p i (.execute ctx H l) (.execute ctx inner l)
  | release {H : Handle} {e : Endpoint σ} {inner : Handle} (h : p.route H = .ok (i, e, inner)) :
    Sends p i (.release H) (.release inner)

theorem sends_of_sent (h : p.sent call = some (i, c)) : p.Sends i call c := by
  cases call with
  | prepare ctx k =>
    rw [sent] at h
    split at h
    · next hpick =>
      obtain ⟨rfl, rfl⟩ := Prod.mk.inj (Option.some.inj h)
      exact .prepare ctx k hpick
    · cases h
  | execute ctx H l =>
    rw [sent] at h
    split at h
    · next hroute =>
      obtain ⟨rfl, rfl⟩ := Prod.mk.inj (Option.some.inj h)
      exact .execute ctx l hroute
    · cases h
  | release H =>
    rw [sent] at h
    split at h
    · next hroute =>
      obtain ⟨rfl, rfl⟩ := Prod.mk.inj (Option.some.inj h)
      exact .release hroute
    · cases h

variable [Backend σ]

theorem prepare_of_pick (hpick : p.pick.1 = .ok i) (he : p.endpoints[i]? = some e) (ctx : Context)
    (k : Kernel) :
    ∃ turn, p.prepare ctx k = ((e.client.prepare ctx k).1.map (handle i),
      ({ p with turn }.setClient i (e.client.prepare ctx k).2).observe i
        (e.client.prepare ctx k).1) := by
  obtain ⟨turn, hturn⟩ := p.pick_snd
  have heq : p.pick = (.ok i, { p with turn }) := Prod.ext hpick hturn
  refine ⟨turn, ?_⟩
  rw [prepare, heq]
  dsimp only
  rw [he]

theorem prepare_of_error {err : Device.Error} (hpick : p.pick.1 = .error err) (ctx : Context)
    (k : Kernel) : ∃ turn, p.prepare ctx k = (.error err, { p with turn }) := by
  obtain ⟨turn, hturn⟩ := p.pick_snd
  have heq : p.pick = (.error err, { p with turn }) := Prod.ext hpick hturn
  refine ⟨turn, ?_⟩
  rw [prepare, heq]

/-- A call that is sent on is answered by the client of an endpoint, which is the only one that
changes, and the answer is heeded. The call may take a turn. -/
theorem act_of_sent (h : p.sent call = some (i, c)) :
    ∃ e, p.endpoints[i]? = some e ∧ call.answer p = numbered i (c.answer e.client) ∧
      ∃ turn, call.act p =
        ({ p with turn }.setClient i (c.act e.client)).heed i (c.answer e.client) := by
  cases sends_of_sent h with
  | prepare ctx k hpick =>
    obtain ⟨-, e, he, -⟩ := pick_eq_ok hpick
    obtain ⟨turn, hprepare⟩ := prepare_of_pick hpick he ctx k
    refine ⟨e, he, ?_, turn, congrArg Prod.snd hprepare⟩
    exact congrArg (fun x : _ × Pool σ => Answer.prepared x.1) hprepare
  | @execute ctx l H e inner hroute =>
    have hexecute : p.execute ctx H l = ((e.client.execute ctx inner l).1,
        (p.setClient i (e.client.execute ctx inner l).2).observe i
          (e.client.execute ctx inner l).1) := by
      rw [execute, hroute]
    refine ⟨e, (route_eq_ok_iff.1 hroute).1, ?_, p.turn, congrArg Prod.snd hexecute⟩
    exact congrArg (fun x : _ × Pool σ => Answer.executed x.1) hexecute
  | @release H e inner hroute =>
    have hrelease : p.release H = ((e.client.release inner).1,
        p.setClient i (e.client.release inner).2) := by
      rw [release, hroute]
    refine ⟨e, (route_eq_ok_iff.1 hroute).1, ?_, p.turn, congrArg Prod.snd hrelease⟩
    exact congrArg (fun x : _ × Pool σ => Answer.released x.1) hrelease

/-- A call that is not sent on may take a turn. -/
theorem act_of_not_sent (h : p.sent call = none) : ∃ turn, call.act p = { p with turn } := by
  cases call with
  | prepare ctx k =>
    rw [sent] at h
    split at h
    · cases h
    · next hpick =>
      obtain ⟨turn, hprepare⟩ := prepare_of_error hpick ctx k
      exact ⟨turn, congrArg Prod.snd hprepare⟩
  | execute ctx H l =>
    rw [sent] at h
    split at h
    · cases h
    · next hroute =>
      have hexecute : (p.execute ctx H l).2 = p := by rw [execute, hroute]
      exact ⟨p.turn, hexecute⟩
  | release H =>
    rw [sent] at h
    split at h
    · cases h
    · next hroute =>
      have hrelease : (p.release H).2 = p := by rw [release, hroute]
      exact ⟨p.turn, hrelease⟩

/-- What is sent on reaches one client, whose answer is passed on, and no other. -/
theorem reaches_of_sent (h : p.sent call = some (i, c)) :
    ∃ client, p.client? i = some client ∧ call.answer p = numbered i (c.answer client) ∧
      ∀ j, (call.act p).client? j = if i = j then some (c.act client) else p.client? j := by
  obtain ⟨e, he, hanswer, turn, hact⟩ := act_of_sent h
  have hclient : p.client? i = some e.client := by rw [client?, he, Option.map_some]
  refine ⟨e.client, hclient, hanswer, fun j => ?_⟩
  have hturn : Pool.client? { p with turn } j = p.client? j := rfl
  rw [hact, client?_heed, client?_setClient, hturn]
  split
  · next heq =>
    rw [← heq, hclient]
    rfl
  · rfl

/-- Asks one endpoint about itself; the endpoint is healthy if it answers. -/
def ask (p : Pool σ) (ctx : Context) (i : Nat) : Pool σ :=
  match p.endpoints[i]? with
  | some e => p.setHealth i (e.client.info ctx).isOk
  | none => p

/-- What asking one endpoint keeps holds after a health check, by induction on those that have been
asked. -/
theorem checkHealth_induction {P : Pool σ → Prop} {ctx : Context}
    (hask : ∀ q i, P q → P (q.ask ctx i)) (hp : P p) : P (p.checkHealth ctx) := by
  have hfold (n : Nat) : P (n.fold (fun i _ q => q.ask ctx i) p) := by
    induction n with
    | zero => exact hp
    | succ n ih =>
      rw [Nat.fold_succ]
      exact hask _ n ih
  exact hfold p.endpoints.size

theorem client?_ask (p : Pool σ) (ctx : Context) (i j : Nat) :
    (p.ask ctx i).client? j = p.client? j := by
  unfold ask
  split
  · exact p.client?_setHealth i _ j
  · rfl

theorem client?_checkHealth (p : Pool σ) (ctx : Context) (j : Nat) :
    (p.checkHealth ctx).client? j = p.client? j :=
  checkHealth_induction (P := fun q => q.client? j = p.client? j)
    (fun q i hq => (q.client?_ask ctx i j).trans hq) rfl

end Calls

/-! ### Histories -/

/-- What happens to a pool. Servers may change by themselves at any time. -/
inductive Event (σ : Type)
  | add (c : Client σ)
  | call (call : Call)
  | setHealth (i : Nat) (healthy : Bool)
  | checkHealth (ctx : Context)
  | change (i : Nat) (f : Server σ → Server σ)
  | close

/-- What happens to one client of a pool. -/
inductive Visit (σ : Type)
  | call (call : Call)
  | change (f : Server σ → Server σ)
  | close

section Histories

variable {σ : Type} [Backend σ]

/-- A pool after an event. -/
def Event.act (p : Pool σ) : Event σ → Pool σ
  | add c => p.add c
  | call c => c.act p
  | setHealth i healthy => p.setHealth i healthy
  | checkHealth ctx => p.checkHealth ctx
  | change i f =>
    match p.client? i with
    | some c => p.setClient i { c with server := f c.server }
    | none => p
  | close => p.close

/-- A client after what happened to it. -/
def Visit.act (c : Client σ) : Visit σ → Client σ
  | call c' => c'.act c
  | change f => { c with server := f c.server }
  | close => c.close

/-- What an event brings to the client of an endpoint: the calls that are sent there, but not those
of others. Additions and changes of health do not concern clients. -/
def Event.visit? (p : Pool σ) (j : Nat) : Event σ → Option (Visit σ)
  | call c =>
    match p.sent c with
    | some (i, c') => if i = j then some (.call c') else none
    | none => none
  | change i f => if i = j then some (.change f) else none
  | close => some .close
  | _ => none

/-- A pool after events. -/
def replay (p : Pool σ) (events : List (Event σ)) : Pool σ :=
  events.foldl Event.act p

/-- What events bring to the client of an endpoint. -/
def visits (p : Pool σ) (j : Nat) : List (Event σ) → List (Visit σ)
  | [] => []
  | event :: events => (event.visit? p j).toList ++ visits (event.act p) j events

variable {p : Pool σ} {j : Nat} {client : Client σ}

/-- Endpoints keep their numbers, and an event does to a client what it brings there. -/
theorem client?_act (h : p.client? j = some client) (event : Event σ) :
    (event.act p).client? j = some ((event.visit? p j).toList.foldl Visit.act client) := by
  cases event with
  | add c => exact client?_add h c
  | call c =>
    rw [Event.act, Event.visit?]
    cases hsent : p.sent c with
    | none =>
      obtain ⟨turn, hact⟩ := act_of_not_sent hsent
      rw [hact]
      exact h
    | some target =>
      obtain ⟨i, c'⟩ := target
      obtain ⟨client', hclient', -, hact⟩ := reaches_of_sent hsent
      dsimp only
      rw [hact]
      split
      · next heq =>
        subst heq
        obtain rfl := Option.some.inj (hclient'.symm.trans h)
        rfl
      · exact h
  | setHealth i healthy => exact (p.client?_setHealth i healthy j).trans h
  | checkHealth ctx => exact (p.client?_checkHealth ctx j).trans h
  | change i f =>
    rw [Event.act, Event.visit?]
    by_cases heq : i = j
    · subst heq
      rw [h]
      dsimp only
      rw [client?_setClient, if_pos rfl, h, if_pos rfl]
      rfl
    · rw [if_neg heq]
      split
      · rw [client?_setClient, if_neg heq]
        exact h
      · exact h
  | close =>
    rw [Event.act, client?_close, h]
    rfl

/-- The history of an endpoint is what the history of the pool has brought there. -/
theorem client?_replay (h : p.client? j = some client) (events : List (Event σ)) :
    (p.replay events).client? j = some ((p.visits j events).foldl Visit.act client) := by
  induction events generalizing p client with
  | nil => exact h
  | cons event events ih =>
    rw [visits, List.foldl_append]
    exact ih (client?_act h event)

end Histories

/-! ### Affinity -/

section Affinity

variable {σ : Type} {p : Pool σ} {ctx : Context} {k : Kernel} {H : Handle} {i : Nat}
    {e : Endpoint σ}

/-- A pool sends launches and releases through a handle to an endpoint, under a handle of the
endpoint. -/
structure Bound (p : Pool σ) (H : Handle) (i : Nat) (id : String) : Prop where
  execute (ctx : Context) (l : Launch) :
    p.sent (.execute ctx H l) = some (i, .execute ctx ⟨id, ""⟩ l)
  release : p.sent (.release H) = some (i, .release ⟨id, ""⟩)

theorem bound_of_names {id : String} (h : Names H i id) (hi : i < 0x8000000000000000)
    (he : p.endpoints[i]? = some e) : p.Bound H i id := by
  have hroute : p.route H = .ok (i, e, ⟨id, ""⟩) := route_eq_ok_iff.2 ⟨he, hi, h, rfl⟩
  constructor
  · intro ctx l
    rw [sent, hroute]
  · rw [sent, hroute]

variable [Backend σ]

/-- Kernels stay with the endpoints that have prepared them. -/
structure Affine (p : Pool σ) : Prop where
  /-- What is sent on reaches one client, whose answer is passed on, and no other. -/
  reaches {call c : Call} {i : Nat} (h : p.sent call = some (i, c)) :
    ∃ client, p.client? i = some client ∧ call.answer p = numbered i (c.answer client) ∧
      ∀ j, (call.act p).client? j = if i = j then some (c.act client) else p.client? j
  /-- A kernel is prepared on an endpoint. Whatever happens to the pool then, its handle is bound to
  this endpoint and to the handle that the endpoint has answered, and the endpoint is the same
  one. -/
  bound {ctx : Context} {k : Kernel} {H : Handle} (h : (p.prepare ctx k).1 = .ok H) :
    ∃ i client h, p.sent (.prepare ctx k) = some (i, .prepare ctx k) ∧ p.client? i = some client ∧
      (client.prepare ctx k).1 = .ok h ∧ H = handle i h ∧
      ∀ events, let history := .call (.prepare ctx k) :: events
        (p.replay history).Bound H i h.id ∧
          (p.replay history).client? i = some ((p.visits i history).foldl Visit.act client)
  /-- Kernels on different endpoints have different handles, whenever they are prepared. -/
  distinct {q : Pool σ} {ctx ctx' : Context} {k k' : Kernel} {H H' : Handle} {i j : Nat}
    (h : (p.prepare ctx k).1 = .ok H) (h' : (q.prepare ctx' k').1 = .ok H')
    (hi : p.sent (.prepare ctx k) = some (i, .prepare ctx k))
    (hj : q.sent (.prepare ctx' k') = some (j, .prepare ctx' k')) (hne : i ≠ j) : H ≠ H'
  /-- A handle that names an endpoint is bound to it, whoever has made it. -/
  named {H : Handle} {i : Nat} {id : String} (h : Names H i id) (hi : i < p.endpoints.size)
    (h64 : i < 0x8000000000000000) : p.Bound H i id
  /-- A handle that names no endpoint is refused, and nothing changes. -/
  refused {H : Handle} (h : ∀ i < p.endpoints.size, ∀ id, ¬Names H i id) :
    ∃ why, p.release H = (.error (.launchFailure why), p) ∧
      ∀ ctx l, p.execute ctx H l = (.error (.launchFailure why), p)

/-- A kernel that is prepared is prepared by an endpoint, and its handle says by which one. -/
theorem prepare_eq_ok (h : (p.prepare ctx k).1 = .ok H) :
    ∃ i e h, i < 0x8000000000000000 ∧ p.endpoints[i]? = some e ∧
      p.sent (.prepare ctx k) = some (i, .prepare ctx k) ∧ (e.client.prepare ctx k).1 = .ok h ∧
      H = handle i h := by
  cases hpick : p.pick.1 with
  | error err =>
    obtain ⟨turn, heq⟩ := prepare_of_error hpick ctx k
    rw [heq] at h
    cases h
  | ok i =>
    obtain ⟨hi, e, he, -⟩ := pick_eq_ok hpick
    obtain ⟨turn, heq⟩ := prepare_of_pick hpick he ctx k
    rw [heq] at h
    cases hanswer : (e.client.prepare ctx k).1 with
    | error err =>
      rw [hanswer] at h
      cases h
    | ok h' =>
      rw [hanswer] at h
      refine ⟨i, e, h', hi, he, ?_, hanswer, (Except.ok.inj h).symm⟩
      rw [sent, hpick]

/-- Every pool keeps kernels where they are. -/
theorem affine (p : Pool σ) : p.Affine where
  reaches h := reaches_of_sent h
  bound := by
    intro ctx k H h
    obtain ⟨i, e, h', hi, he, hsent, hanswer, rfl⟩ := prepare_eq_ok h
    have hclient : p.client? i = some e.client := by rw [client?, he, Option.map_some]
    refine ⟨i, e.client, h', hsent, hclient, hanswer, rfl, fun events => ?_⟩
    have hlater := client?_replay hclient (.call (.prepare ctx k) :: events)
    obtain ⟨e', he', -⟩ := Option.map_eq_some_iff.1 hlater
    exact ⟨bound_of_names (names_handle i h') hi he', hlater⟩
  distinct := by
    intro q ctx ctx' k k' H H' i j h h' hi hj hne
    obtain ⟨i', -, g, -, -, hi', -, rfl⟩ := prepare_eq_ok h
    obtain ⟨j', -, g', -, -, hj', -, rfl⟩ := prepare_eq_ok h'
    obtain ⟨rfl, -⟩ := Prod.mk.inj (Option.some.inj (hi.symm.trans hi'))
    obtain ⟨rfl, -⟩ := Prod.mk.inj (Option.some.inj (hj.symm.trans hj'))
    exact handle_ne hne
  named h hi h64 := bound_of_names h h64 (Array.getElem?_eq_getElem hi)
  refused := by
    intro H h
    obtain ⟨why, hroute⟩ := route_of_not_names h
    refine ⟨why, ?_, fun ctx l => ?_⟩
    · rw [release, hroute]
    · rw [execute, hroute]

/-- Two endpoints, each with a processor of its own. -/
def pair : Pool Cpu :=
  let client (endpoint : String) : Client Cpu := { endpoint, server := { device := { fuel := 9 } } }
  (({} : Pool Cpu).add (client "near")).add (client "far")

/-- A kernel that does nothing. -/
def idle : Kernel :=
  { source := "HALT", heaps := [1] }

/-- The first kernel goes to the first endpoint and stays there. -/
theorem pair_affine :
    (pair.prepare {} idle).1 = .ok (handle 0 ⟨Handle.idOf 0, ""⟩) ∧
      ∀ events, (pair.replay (.call (.prepare {} idle) :: events)).Bound
        (handle 0 ⟨Handle.idOf 0, ""⟩) 0 (Handle.idOf 0) := by
  have hprepare : (pair.prepare {} idle).1 = .ok (handle 0 ⟨Handle.idOf 0, ""⟩) :=
    ok_of_toOption_eq (by decide +kernel)
  obtain ⟨i, _, h, _, _, _, heq, hbound⟩ := (affine pair).bound hprepare
  obtain ⟨rfl, hid⟩ := (names_handle 0 ⟨Handle.idOf 0, ""⟩).unique (heq ▸ names_handle i h)
  have hid : Handle.idOf 0 = h.id := hid
  refine ⟨hprepare, fun events => ?_⟩
  have hhandle := (hbound events).1
  rwa [← hid] at hhandle

end Affinity

end Remote.Pool

end Lanewise
