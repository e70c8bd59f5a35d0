import Lanewise.Proofs.Cbor.Fields
import Lanewise.Proofs.Device.Histories
import Lanewise.Remote.Client

/-!
# Requests that get through

A client that can send asks its server, and the server goes on from the state that the request leads
to, even if the answer is lost. Nothing else about a client ever changes, so what is too large today
is too large tomorrow. A request whose messages get through is answered as the server answers it.

A message that is too large makes a device look unavailable. If the server never says so itself,
there are three more reasons for such an answer: the connection has been given up, the server does
not serve, or the caller does not wait.

## Main definitions

* `Remote.Passage.Takes`: a message is not too large.
* `Remote.Client.Delivers`, `Remote.Client.Carries`: the messages of a request, or of a call, get
  through.
* `Remote.Client.Up`: a client with a connection to a server that serves.
* `Remote.Client.Fits`: the messages of a request are not too large.

## Main results

* `Remote.Client.exchange_of_delivers`: the answer of the server is the answer of the client.
* `Remote.Client.exchange_unavailable_iff`: when a device looks unavailable.
* `Remote.Passage.refusal?_handle`: a handle gets through if a launch does.
-/

namespace Lanewise

open Backend

namespace Remote

/-- The answer is that a device is unavailable. -/
def Unavailable {α : Type} (answer : Except Device.Error α) : Prop :=
  ∃ why, answer = .error (.unavailable why)

theorem unavailable_error_iff {α : Type} {e : Device.Error} :
    Unavailable (.error e : Except Device.Error α) ↔ ∃ why, e = .unavailable why :=
  exists_congr fun _ => ⟨Except.error.inj, congrArg Except.error⟩

/-! ### Messages -/

namespace Passage

variable {p : Passage} {m : Cbor} {st : Status}

/-- A message is not too large for either end. -/
def Takes (p : Passage) (m : Cbor) : Prop :=
  m.encode.size ≤ p.maxSent ∧ m.encode.size ≤ p.maxReceived

instance : Decidable (p.Takes m) :=
  inferInstanceAs (Decidable (_ ∧ _))

theorem refusal?_eq_none_iff : p.refusal? m = none ↔ p.Takes m ∧ m.short = true := by
  unfold refusal? Takes
  dsimp only
  split
  · next hlarge => simp [Nat.not_le.2 hlarge]
  · next hsent =>
    split
    · next hlarge => simp [Nat.not_le.2 hlarge]
    · next hreceived =>
      split
      · next hshort => simp [Nat.not_lt.1 hsent, Nat.not_lt.1 hreceived, hshort]
      · next hlong => simp [hlong]

/-- A message that is too large makes its receiver look unavailable. One that cannot be read does
not. -/
theorem unavailable_of_refusal? (h : p.refusal? m = some st) :
    (∃ why, st.error = .unavailable why) ↔ ¬p.Takes m := by
  unfold refusal? at h
  dsimp only at h
  split at h
  · next hlarge =>
    obtain rfl := Option.some.inj h
    exact iff_of_true ⟨_, rfl⟩ fun htakes => Nat.not_le.2 hlarge htakes.1
  · next hsent =>
    split at h
    · next hlarge =>
      obtain rfl := Option.some.inj h
      exact iff_of_true ⟨_, rfl⟩ fun htakes => Nat.not_le.2 hlarge htakes.2
    · next hreceived =>
      split at h
      · cases h
      · obtain rfl := Option.some.inj h
        refine iff_of_false (fun ⟨_, heq⟩ => ?_) (not_not_intro ?_)
        · cases heq
        · exact ⟨Nat.not_lt.1 hsent, Nat.not_lt.1 hreceived⟩

end Passage

/-- A server answers with the next handle. -/
theorem Server.eq_idOf_of_prepare {σ : Type} [Backend σ] {s : Server σ} {ctx : Context} {k : Kernel}
    {id : String} (h : (s.prepare ctx k).1 = .ok id) : id = Handle.idOf s.issued := by
  unfold Server.prepare at h
  split at h
  · cases h
  · exact (Except.ok.inj h).symm

namespace Client

variable {σ α : Type} {c : Client σ} {ctx : Context} {x : Exchange σ α} {st : Status}

/-! ### Requests -/

/-- A request reaches the server, and any answer to it the client. -/
structure Delivers (c : Client σ) (x : Exchange σ α) : Prop where
  sent : c.outward.refusal? x.request = none
  answered {a : α} (h : (x.serve c.server).1 = .ok a) :
    c.homeward.refusal? (x.reply c.server a) = none

/-- If the answer is known, only its message has to get through. -/
theorem Delivers.of_ok {a : α} (hsent : c.outward.refusal? x.request = none)
    (h : (x.serve c.server).1 = .ok a) (hreply : c.homeward.refusal? (x.reply c.server a) = none) :
    c.Delivers x := by
  refine ⟨hsent, fun hb => ?_⟩
  obtain rfl := Except.ok.inj (h.symm.trans hb)
  exact hreply

/-- A request that is not sent changes nothing. -/
theorem exchange_of_refused (h : (c.refusal? ctx).or (c.outward.refusal? x.request) = some st) :
    c.exchange ctx x = (.error st.error, c) := by
  rw [exchange, h]

/-- The answer of the server is the answer of the client. -/
theorem exchange_of_delivers (hopen : c.refusal? ctx = none) (h : c.Delivers x) :
    c.exchange ctx x =
      ((x.serve c.server).1.mapError Status.error, { c with server := (x.serve c.server).2 }) := by
  rw [exchange, hopen, Option.none_or, h.sent]
  dsimp only
  split
  · next heq =>
    rw [heq]
    rfl
  · next a server heq =>
    rw [h.answered (congrArg Prod.fst heq), heq]
    rfl

/-- A request that is sent leads the server on, whatever becomes of the answer. -/
theorem exchange_snd_of_sent (hopen : c.refusal? ctx = none)
    (hsent : c.outward.refusal? x.request = none) :
    (c.exchange ctx x).2 = { c with server := (x.serve c.server).2 } := by
  rw [exchange, hopen, Option.none_or, hsent]
  dsimp only
  split
  · next heq => rw [heq]
  · next heq =>
    rw [heq]
    split
    · rfl
    · rfl

/-- A request leaves the client alone or leads the server on. -/
theorem exchange_snd (c : Client σ) (ctx : Context) (x : Exchange σ α) :
    (c.exchange ctx x).2 = c ∨
      (c.exchange ctx x).2 = { c with server := (x.serve c.server).2 } := by
  cases hrefused : (c.refusal? ctx).or (c.outward.refusal? x.request) with
  | some st =>
    rw [exchange_of_refused hrefused]
    exact .inl rfl
  | none =>
    obtain ⟨hopen, hsent⟩ := Option.or_eq_none_iff.1 hrefused
    exact .inr (exchange_snd_of_sent hopen hsent)

/-! ### Answers that a device is unavailable -/

/-- A client with a connection to a server that serves. -/
def Up (c : Client σ) : Prop :=
  c.closed = false ∧ c.server.serving = true

/-- The messages of a request are not too large: neither the request, nor any answer to it if the
server can read it. -/
structure Fits (c : Client σ) (x : Exchange σ α) : Prop where
  request : c.outward.Takes x.request
  reply {a : α} (hshort : x.request.short = true) (h : (x.serve c.server).1 = .ok a) :
    c.homeward.Takes (x.reply c.server a)

theorem refusal?_eq_none_iff : c.refusal? ctx = none ↔ c.Up ∧ ctx.cancelled = false := by
  unfold refusal? Up
  split
  · next hcancelled => simp [hcancelled]
  · next hwaits =>
    split
    · next hclosed => simp [hclosed]
    · next hopen =>
      split
      · next hserving => simp [hwaits, hopen, hserving]
      · next hdown => simp [hdown]

/-- What cannot be sent is answered as unavailable. -/
theorem unavailable_of_refusal? (h : c.refusal? ctx = some st) :
    ∃ why, st.error = .unavailable why := by
  unfold refusal? at h
  split at h
  · exact ⟨_, (congrArg Status.error (Option.some.inj h)).symm⟩
  · split at h
    · exact ⟨_, (congrArg Status.error (Option.some.inj h)).symm⟩
    · split at h
      · cases h
      · exact ⟨_, (congrArg Status.error (Option.some.inj h)).symm⟩

/-- When a device looks unavailable to a client that has sent a request. -/
theorem exchange_unavailable_iff_of_sent (hopen : c.refusal? ctx = none)
    (hsent : c.outward.refusal? x.request = none)
    (hserver : ∀ st, (x.serve c.server).1 = .error st → ∀ why, st.error ≠ .unavailable why) :
    Unavailable (c.exchange ctx x).1 ↔ ¬c.Fits x := by
  obtain ⟨htakes, hshort⟩ := Passage.refusal?_eq_none_iff.1 hsent
  rw [exchange, hopen, Option.none_or, hsent]
  dsimp only
  split
  · next st server heq =>
    have hanswer : (x.serve c.server).1 = .error st := congrArg Prod.fst heq
    refine iff_of_false ?_ (not_not_intro ⟨htakes, fun _ h => ?_⟩)
    · rw [unavailable_error_iff]
      exact fun ⟨why, hwhy⟩ => hserver st hanswer why hwhy
    · cases hanswer.symm.trans h
  · next a server heq =>
    have hanswer : (x.serve c.server).1 = .ok a := congrArg Prod.fst heq
    have hfits : c.Fits x ↔ c.homeward.Takes (x.reply c.server a) := by
      refine ⟨fun h => h.reply hshort hanswer, fun h => ⟨htakes, fun _ hb => ?_⟩⟩
      obtain rfl := Except.ok.inj (hanswer.symm.trans hb)
      exact h
    rw [hfits]
    split
    · next hlost => exact unavailable_error_iff.trans (Passage.unavailable_of_refusal? hlost)
    · next hreceived =>
      refine iff_of_false (fun ⟨_, h⟩ => ?_) (not_not_intro ?_)
      · cases h
      · exact (Passage.refusal?_eq_none_iff.1 hreceived).1

/-- When a device looks unavailable, if its server does not say so itself. -/
theorem exchange_unavailable_iff
    (hserver : ctx.cancelled = false → ∀ st, (x.serve c.server).1 = .error st →
      ∀ why, st.error ≠ .unavailable why) :
    Unavailable (c.exchange ctx x).1 ↔ ¬(c.Up ∧ ctx.cancelled = false ∧ c.Fits x) := by
  cases hopen : c.refusal? ctx with
  | some st =>
    have hrefused : (c.refusal? ctx).or (c.outward.refusal? x.request) = some st := by
      rw [hopen, Option.some_or]
    rw [exchange_of_refused hrefused, unavailable_error_iff]
    refine iff_of_true (unavailable_of_refusal? hopen) fun ⟨hup, hwaits, _⟩ => ?_
    cases hopen.symm.trans (refusal?_eq_none_iff.2 ⟨hup, hwaits⟩)
  | none =>
    obtain ⟨hup, hwaits⟩ := refusal?_eq_none_iff.1 hopen
    rw [and_iff_right hup, and_iff_right hwaits]
    cases hsent : c.outward.refusal? x.request with
    | some st =>
      have hrefused : (c.refusal? ctx).or (c.outward.refusal? x.request) = some st := by
        rw [hopen, Option.none_or, hsent]
      rw [exchange_of_refused hrefused, unavailable_error_iff,
        Passage.unavailable_of_refusal? hsent]
      refine not_congr ⟨fun htakes => ⟨htakes, fun hshort => ?_⟩, Fits.request⟩
      cases hsent.symm.trans (Passage.refusal?_eq_none_iff.2 ⟨htakes, hshort⟩)
    | none => exact exchange_unavailable_iff_of_sent hopen hsent (hserver hwaits)

/-! ### Calls -/

variable [Backend σ]

/-- The messages of a call get through. -/
def Carries (c : Client σ) : Call → Prop
  | .prepare ctx k => ∀ k', sent k = .ok k' → c.Delivers (.prepare ctx k')
  | .execute ctx h l => c.Delivers (.execute ctx h l)
  | .release h => c.Delivers (.release h)

/-- What can be checked of the kernel that is sent. -/
theorem forall_sent {k : Kernel} {P : Kernel → Bool} (h : (sent k).toOption.all P = true)
    {k' : Kernel} (hk' : sent k = .ok k') : P k' = true := by
  rw [hk'] at h
  exact h

/-- A kernel gets through if its message and that of the next handle do. -/
theorem carries_prepare {k : Kernel}
    (hsent : ∀ k', sent k = .ok k' → c.outward.refusal? (PrepareRequest.ofKernel k').cbor = none)
    (hreply : c.homeward.refusal? (handleCbor (Handle.idOf c.server.issued)) = none) :
    c.Carries (.prepare ctx k) := by
  refine fun k' hk' => ⟨hsent k' hk', fun {id} h => ?_⟩
  obtain rfl : id = Handle.idOf c.server.issued := Server.eq_idOf_of_prepare h
  exact hreply

/-- A launch that gets through is answered as the server answers it. -/
theorem execute_of_delivers {h : Handle} {l : Launch} (hopen : c.refusal? ctx = none)
    (hdelivers : c.Delivers (.execute ctx h l)) :
    (c.execute ctx h l).1 =
      ((c.server.execute ctx h.id l).1.mapError Status.error).bind completion :=
  congrArg (fun answer => answer.1.bind completion) (exchange_of_delivers hopen hdelivers)

/-- A kernel that is prepared may be refused on the way to the server. -/
theorem prepare_snd (c : Client σ) (ctx : Context) (k : Kernel) :
    (c.prepare ctx k).2 = c ∨
      ∃ k', (c.prepare ctx k).2 = { c with server := (c.server.prepare ctx k').2 } := by
  unfold Client.prepare
  split
  · exact .inl rfl
  · next k' _ => exact (c.exchange_snd ctx (.prepare ctx k')).imp_right fun h => ⟨k', h⟩

theorem execute_snd (c : Client σ) (ctx : Context) (h : Handle) (l : Launch) :
    (c.execute ctx h l).2 = c ∨
      (c.execute ctx h l).2 = { c with server := (c.server.execute ctx h.id l).2 } :=
  c.exchange_snd ctx (.execute ctx h l)

theorem release_snd (c : Client σ) (h : Handle) :
    (c.release h).2 = c ∨ (c.release h).2 = { c with server := (c.server.release h.id).2 } :=
  c.exchange_snd {} (.release h)

end Client

/-! ### Handles -/

/-- A handle gets through if a launch with this handle does, since a launch is the longer
message. -/
theorem Passage.refusal?_handle {p : Passage} {id : String} {l : Launch}
    (h : p.refusal? (ExecuteRequest.ofLaunch id l).cbor = none) :
    p.refusal? (handleCbor id) = none := by
  obtain ⟨⟨hsent, hreceived⟩, -⟩ := refusal?_eq_none_iff.1 h
  have hsize : (handleCbor id).encode.size ≤ (ExecuteRequest.ofLaunch id l).cbor.encode.size :=
    Cbor.size_field_le 1 _ _
  exact refusal?_eq_none_iff.2 ⟨⟨Nat.le_trans hsize hsent, Nat.le_trans hsize hreceived⟩, rfl⟩

end Remote

end Lanewise
