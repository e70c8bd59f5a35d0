import Lanewise.Proofs.Text.Integers
import Lanewise.Remote.Pool
import Mathlib.Data.List.TakeWhile

/-!
# Handles of a pool

A pool keeps no table of kernels: a handle of the pool says itself which endpoint has the kernel.
The number of the endpoint stands before the first slash of its text, and whatever the endpoint has
put into its own handle stands behind it. So a handle of a pool is read in one way only, and
different endpoints have different handles. A handle leads to an endpoint if it names one; all
others are refused.

## Main definitions

* `Remote.Pool.Names`: what the text of a handle says.

## Main results

* `Remote.Pool.names_handle`, `Remote.Pool.Names.unique`: a handle names what it was made of, and
  nothing else.
* `Remote.Pool.route_eq_ok_iff`: the handles that lead to an endpoint.
* `Remote.Pool.route_of_not_names`: the handles that are refused.
-/

namespace Lanewise.Remote.Pool

/-! ### Names -/

/-- The text of a handle is that of a number, a slash, and a handle of the endpoint with this
number. -/
def Names (H : Handle) (i : Nat) (id : String) : Prop :=
  ∃ text, '/' ∉ text ∧ Numeral.Denotes text i ∧ H.id.toList = text ++ '/' :: id.toList

section Handles

variable {H : Handle} {i j : Nat} {id id' : String}

/-- A text is cut at the first slash, so the second part may have slashes, too. -/
theorem cut_eq_some_iff {s before behind : List Char} :
    cut s = some (before, behind) ↔ '/' ∉ before ∧ s = before ++ '/' :: behind := by
  have hbefore (cs : List Char) : (∀ c ∈ cs, (c != '/') = true) ↔ '/' ∉ cs := by
    simp only [bne_iff_ne]
    exact ⟨fun h hmem => h _ hmem rfl, fun h c hc heq => h (heq ▸ hc)⟩
  unfold cut
  constructor
  · intro h
    split at h
    · cases h
    · next c rest hrest =>
      obtain ⟨rfl, rfl⟩ := Prod.mk.inj (Option.some.inj h)
      have hhead := List.head?_dropWhile_not (· != '/') s
      rw [hrest] at hhead
      obtain rfl : c = '/' := by simpa using hhead
      refine ⟨(hbefore _).1 fun _ hc => List.mem_takeWhile_imp (p := (· != '/')) hc, ?_⟩
      rw [← hrest, List.takeWhile_append_dropWhile]
  · rintro ⟨hnone, rfl⟩
    have hall := (hbefore before).2 hnone
    rw [List.dropWhile_append_of_pos hall, List.takeWhile_append_of_pos hall,
      List.dropWhile_cons_of_neg (by simp), List.takeWhile_cons_of_neg (by simp), List.append_nil]

theorem Names.cut_eq (h : Names H i id) :
    ∃ text, Numeral.Denotes text i ∧ cut H.id.toList = some (text, id.toList) := by
  obtain ⟨text, hslash, hdenotes, htext⟩ := h
  exact ⟨text, hdenotes, cut_eq_some_iff.2 ⟨hslash, htext⟩⟩

/-- A handle names one endpoint and one handle there at most. -/
theorem Names.unique (h : Names H i id) (h' : Names H j id') : i = j ∧ id = id' := by
  obtain ⟨text, hdenotes, hcut⟩ := h.cut_eq
  obtain ⟨text', hdenotes', hcut'⟩ := h'.cut_eq
  obtain ⟨rfl, hid⟩ := Prod.mk.inj (Option.some.inj (hcut.symm.trans hcut'))
  exact ⟨Int.ofNat.inj (hdenotes.unique hdenotes'), String.toList_inj.1 hid⟩

/-- A handle of a pool names what it was made of, whatever text that is. -/
theorem names_handle (i : Nat) (h : Handle) : Names (handle i h) i h.id := by
  refine ⟨(toString (i : Int)).toList, fun hslash => ?_, Numeral.denotes_toString i, ?_⟩
  · rcases Numeral.isDigit_or_eq_of_mem_toString hslash with hdigit | hsign
    · cases hdigit
    · cases hsign
  · rw [handle, String.toList_append, String.toList_append, List.append_assoc]
    rfl

theorem handle_ne {h h' : Handle} (hne : i ≠ j) : handle i h ≠ handle j h' := by
  intro heq
  exact hne ((names_handle i h).unique (heq ▸ names_handle j h')).1

theorem split_eq_ok_iff {v : Int} {inner : Handle} :
    split H = .ok (v, inner) ↔
      ∃ text rest, cut H.id.toList = some (text, rest) ∧ Numeral.int64? text = some v ∧
        inner = ⟨String.ofList rest, ""⟩ := by
  unfold split
  constructor
  · intro h
    split at h
    · cases h
    · next text rest hcut =>
      split at h
      · next w hw =>
        obtain ⟨rfl, rfl⟩ := Prod.mk.inj (Except.ok.inj h)
        exact ⟨text, rest, hcut, hw, rfl⟩
      · cases h
  · rintro ⟨text, rest, hcut, hint, rfl⟩
    rw [hcut]
    dsimp only
    rw [hint]

theorem split_error {e : Device.Error} (h : split H = .error e) : e = split.malformed H := by
  unfold split at h
  split at h
  · exact (Except.error.inj h).symm
  · split at h
    · cases h
    · exact (Except.error.inj h).symm

end Handles

/-! ### Routes -/

section Routes

variable {σ : Type} {p : Pool σ} {H : Handle} {i : Nat} {e : Endpoint σ} {inner : Handle}

/-- The handles that lead to an endpoint. The number has 64 bits and there is an endpoint with
it. -/
theorem route_eq_ok_iff :
    p.route H = .ok (i, e, inner) ↔
      p.endpoints[i]? = some e ∧ i < 0x8000000000000000 ∧ Names H i inner.id ∧
        inner.backend = "" := by
  unfold route
  cases hsplit : split H with
  | error err =>
    refine iff_of_false (fun h => by cases h) ?_
    rintro ⟨-, hlt, hnames, -⟩
    obtain ⟨text, hdenotes, hcut⟩ := hnames.cut_eq
    have hint : Numeral.int64? text = some (i : Int) :=
      Numeral.int64?_eq_some_iff.2 ⟨hdenotes, by omega, by omega⟩
    rw [split_eq_ok_iff.2 ⟨text, _, hcut, hint, rfl⟩] at hsplit
    cases hsplit
  | ok parts =>
    obtain ⟨v, inner'⟩ := parts
    obtain ⟨text, rest, hcut, hint, rfl⟩ := split_eq_ok_iff.1 hsplit
    obtain ⟨hdenotes, -, hhigh⟩ := Numeral.int64?_eq_some_iff.1 hint
    dsimp only [bind, Except.bind]
    constructor
    · intro h
      split at h
      · next i' e' he' =>
        obtain ⟨rfl, heq⟩ := Prod.mk.inj (Except.ok.inj h)
        obtain ⟨rfl, rfl⟩ := Prod.mk.inj heq
        obtain ⟨hslash, htext⟩ := cut_eq_some_iff.1 hcut
        have hhigh : (i' : Int) < 0x8000000000000000 := hhigh
        refine ⟨he', by omega, ⟨text, hslash, hdenotes, ?_⟩, rfl⟩
        rw [htext, String.toList_ofList]
      · cases h
    · rintro ⟨he, -, hnames, hbackend⟩
      obtain ⟨text', hdenotes', hcut'⟩ := hnames.cut_eq
      obtain ⟨rfl, rfl⟩ := Prod.mk.inj (Option.some.inj (hcut.symm.trans hcut'))
      obtain rfl : v = Int.ofNat i := hdenotes.unique hdenotes'
      have he : p.endpoints[(Int.ofNat i).toNat]? = some e := he
      rw [he, String.ofList_toList, ← hbackend]
      rfl

theorem route_error {err : Device.Error} (h : p.route H = .error err) :
    ∃ why, err = .launchFailure why := by
  unfold route at h
  cases hsplit : split H with
  | error err' =>
    rw [hsplit] at h
    obtain rfl : err' = err := Except.error.inj h
    exact ⟨_, split_error hsplit⟩
  | ok parts =>
    rw [hsplit] at h
    dsimp only [bind, Except.bind] at h
    split at h
    · cases h
    · exact ⟨_, (Except.error.inj h).symm⟩

/-- A handle that names no endpoint of the pool is refused. -/
theorem route_of_not_names (h : ∀ i < p.endpoints.size, ∀ id, ¬Names H i id) :
    ∃ why, p.route H = .error (.launchFailure why) := by
  cases hroute : p.route H with
  | error err =>
    obtain ⟨why, rfl⟩ := route_error hroute
    exact ⟨why, rfl⟩
  | ok target =>
    obtain ⟨i, e, inner⟩ := target
    obtain ⟨he, -, hnames, -⟩ := route_eq_ok_iff.1 hroute
    obtain ⟨hlt, -⟩ := Array.getElem?_eq_some_iff.1 he
    exact absurd hnames (h i hlt inner.id)

end Routes

end Lanewise.Remote.Pool
