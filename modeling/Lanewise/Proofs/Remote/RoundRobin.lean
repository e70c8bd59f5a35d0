import Lanewise.Proofs.Remote.Routing
import Mathlib.Data.List.Rotate

/-!
# Taking turns

A pool counts its turns with 64 bits and looks for a healthy endpoint from the number of the turn
on, once around. As long as the numbers that it looks at are the same with and without a sign, this
is round robin: a kernel goes to a healthy endpoint if there is one, and while all are healthy every
endpoint has its turn once in as many turns as there are endpoints.

Beyond that the numbers are negative, and so are their remainders, which are the numbers of no
endpoints. A pool with several endpoints then chooses none, healthy or not, whenever the number of
the turn is not a multiple of their number. A pool of one endpoint, or of none, never gets there.

## Main definitions

* `Remote.Pool.Signed`: the numbers of a search are the same with a sign.
* `Remote.Pool.Consecutive`, `Remote.Pool.afterPicks`: pools at choices in a row.
* `Remote.Pool.RoundRobin`: choices are safe, and fair in a row.

## Main results

* `Remote.Pool.search_cases`: what a search finds.
* `Remote.Pool.pick_beyond`: a choice with a negative number.
* `Remote.Pool.roundRobin_of_signed`: round robin as long as the numbers last.
-/

namespace Lanewise.Remote

/-! ### Going around -/

/-- The remainders of as many numbers in a row are all remainders. -/
theorem perm_range_add_mod (t n : Nat) :
    ((List.range n).map fun k => (t + k) % n).Perm (List.range n) := by
  have hrotate : ((List.range n).map fun k => (t + k) % n) = (List.range n).rotate t := by
    refine List.ext_getElem (by simp) fun k hk hk' => ?_
    rw [List.getElem_map, List.getElem_rotate, List.getElem_range, List.getElem_range,
      List.length_range, Nat.add_comm]
  rw [hrotate]
  exact List.rotate_perm _ t

theorem exists_add_mod_eq (t : Nat) {n i : Nat} (hi : i < n) : ∃ k < n, (t + k) % n = i := by
  have hmem := (perm_range_add_mod t n).mem_iff.2 (List.mem_range.2 hi)
  obtain ⟨k, hk, hki⟩ := List.mem_map.1 hmem
  exact ⟨k, List.mem_range.1 hk, hki⟩

theorem toInt_add_one {start : Int64} (h : start.toInt + 1 < 0x8000000000000000) :
    (start + 1).toInt = start.toInt + 1 := by
  have hlow := start.le_toInt
  rw [Int64.toInt_add]
  exact Int.bmod_eq_of_le (by change -(2 ^ 64 / 2) ≤ start.toInt + 1; omega)
    (by change start.toInt + 1 < (2 ^ 64 + 1) / 2; omega)

/-- A number below half of the range is the same with a sign. -/
theorem toInt_toInt64 {turn : UInt64} (h : turn.toNat < 0x8000000000000000) :
    turn.toInt64.toInt = turn.toNat := by
  change turn.toBitVec.toInt = turn.toBitVec.toNat
  refine BitVec.toInt_eq_toNat_of_lt ?_
  change 2 * turn.toNat < 2 ^ 64
  omega

/-- A number from half of the range on is negative with a sign. -/
theorem toInt_toInt64_of_le {turn : UInt64} (h : 0x8000000000000000 ≤ turn.toNat) :
    turn.toInt64.toInt = turn.toNat - 0x10000000000000000 := by
  change turn.toBitVec.toInt = turn.toBitVec.toNat - 0x10000000000000000
  rw [BitVec.toInt_eq_toNat_cond, if_neg (by change ¬2 * turn.toNat < 2 ^ 64; omega)]
  rfl

namespace Pool

variable {σ : Type} {p : Pool σ}

/-! ### Searching -/

/-- Whether there is a healthy endpoint with a given number. -/
def healthyAt (p : Pool σ) (i : Nat) : Bool :=
  (p.endpoints[i]?.map (·.healthy)).getD false

theorem healthyAt_iff {i : Nat} :
    p.healthyAt i = true ↔ ∃ e, p.endpoints[i]? = some e ∧ e.healthy = true := by
  rw [healthyAt]
  cases p.endpoints[i]? with
  | none => exact iff_of_false Bool.false_ne_true fun ⟨e, he, _⟩ => by cases he
  | some e => exact ⟨fun h => ⟨e, rfl, h⟩, fun ⟨e', he, h⟩ => Option.some.inj he ▸ h⟩

theorem lt_of_healthyAt {i : Nat} (h : p.healthyAt i = true) : i < p.endpoints.size := by
  obtain ⟨e, he, -⟩ := healthyAt_iff.1 h
  exact (Array.getElem?_eq_some_iff.1 he).1

/-- A search looks at the number where it stands before it goes on. -/
theorem search_succ {start : Int64} {i : Nat} (h : start.toInt.tmod p.endpoints.size = i)
    (n : Nat) :
    p.search start (n + 1) = if p.healthyAt i then .ok i else p.search (start + 1) n := by
  rw [search, h]
  rfl

theorem tmod_size {start : Int64} {t : Nat} (h : start.toInt = t) :
    start.toInt.tmod p.endpoints.size = (t % p.endpoints.size : Nat) := by
  rw [h, Int.ofNat_tmod]

/-- A search whose numbers have a sign that does not matter finds the first healthy endpoint, or
looks at all in vain. -/
theorem search_cases {start : Int64} {t n : Nat} (hstart : start.toInt = t)
    (hn : t + n ≤ 0x8000000000000000) :
    (∃ k < n, p.search start n = .ok ((t + k) % p.endpoints.size) ∧
      p.healthyAt ((t + k) % p.endpoints.size) = true) ∨
    (p.search start n = .error noneHealthy ∧
      ∀ k < n, p.healthyAt ((t + k) % p.endpoints.size) = false) := by
  induction n generalizing start t with
  | zero => exact .inr ⟨rfl, fun k hk => absurd hk (Nat.not_lt_zero k)⟩
  | succ n ih =>
    rw [search_succ (tmod_size hstart)]
    by_cases hhere : p.healthyAt (t % p.endpoints.size) = true
    · rw [if_pos hhere]
      exact .inl ⟨0, Nat.succ_pos n, rfl, hhere⟩
    · rw [if_neg hhere]
      -- With nothing left to look at the next number need not fit any more.
      cases n with
      | zero =>
        refine .inr ⟨rfl, fun k hk => ?_⟩
        obtain rfl : k = 0 := by omega
        exact Bool.eq_false_iff.2 hhere
      | succ n =>
        have hnext : (start + 1).toInt = (t + 1 : Nat) := by
          rw [toInt_add_one (by omega), hstart]
          rfl
        rcases ih hnext (by omega) with ⟨k, hk, hsearch, hhealthy⟩ | ⟨hsearch, hnone⟩
        · rw [Nat.add_assoc, Nat.add_comm 1 k] at hsearch hhealthy
          exact .inl ⟨k + 1, by omega, hsearch, hhealthy⟩
        · refine .inr ⟨hsearch, fun k hk => ?_⟩
          cases k with
          | zero => exact Bool.eq_false_iff.2 hhere
          | succ k =>
            have hk' := hnone k (by omega)
            rwa [Nat.add_assoc, Nat.add_comm 1 k] at hk'

/-! ### Choosing -/

theorem pick_fst (h : p.closed = false) : p.pick.1 = p.search p.turn.toInt64 p.endpoints.size := by
  rw [pick, if_neg (Bool.eq_false_iff.1 h)]

/-- Where there are endpoints, a choice begins with the number of the turn. -/
theorem pick_fst_succ (h : p.closed = false) (hsome : 0 < p.endpoints.size) :
    ∃ n, p.pick.1 = p.search p.turn.toInt64 (n + 1) := by
  obtain ⟨n, hn⟩ := Nat.exists_eq_succ_of_ne_zero (Nat.ne_of_gt hsome)
  exact ⟨n, by rw [pick_fst h, hn]⟩

theorem pick_turn (h : p.closed = false) : p.pick.2.turn = p.turn + 1 := by
  rw [pick, if_neg (Bool.eq_false_iff.1 h)]

/-- The numbers that a search looks at are the same with a sign, or they do not matter since there
is at most one endpoint. -/
def Signed (p : Pool σ) : Prop :=
  p.endpoints.size ≤ 1 ∨ p.turn.toNat + p.endpoints.size ≤ 0x8000000000000000

/-- A choice finds a healthy endpoint, or there is none. -/
theorem pick_cases (hopen : p.closed = false) (h : p.Signed) :
    (∃ i, p.pick.1 = .ok i ∧ p.healthyAt i = true) ∨
      (p.pick.1 = .error noneHealthy ∧ ∀ i, p.healthyAt i = false) := by
  rw [pick_fst hopen]
  have hbeyond {i : Nat} (hi : ¬i < p.endpoints.size) : p.healthyAt i = false :=
    Bool.eq_false_iff.2 fun h => hi (lt_of_healthyAt h)
  rcases h with hone | hsigned
  · rcases Nat.le_one_iff_eq_zero_or_eq_one.1 hone with hsize | hsize
    · rw [hsize]
      exact .inr ⟨rfl, fun i => hbeyond (by omega)⟩
    · have hindex : p.turn.toInt64.toInt.tmod p.endpoints.size = (0 : Nat) := by
        rw [hsize]
        exact Int.tmod_one _
      rw [hsize, search_succ hindex]
      by_cases hhere : p.healthyAt 0 = true
      · rw [if_pos hhere]
        exact .inl ⟨0, rfl, hhere⟩
      · rw [if_neg hhere]
        refine .inr ⟨rfl, fun i => ?_⟩
        cases i with
        | zero => exact Bool.eq_false_iff.2 hhere
        | succ i => exact hbeyond (by omega)
  · cases hsize : p.endpoints.size with
    | zero => exact .inr ⟨rfl, fun i => hbeyond (by omega)⟩
    | succ n =>
      rw [← hsize]
      have hstart : p.turn.toInt64.toInt = p.turn.toNat := toInt_toInt64 (by omega)
      rcases search_cases hstart hsigned with ⟨k, -, hsearch, hhealthy⟩ | ⟨hsearch, hnone⟩
      · exact .inl ⟨_, hsearch, hhealthy⟩
      · refine .inr ⟨hsearch, fun i => ?_⟩
        by_cases hi : i < p.endpoints.size
        · obtain ⟨k, hk, rfl⟩ := exists_add_mod_eq p.turn.toNat hi
          exact hnone k hk
        · exact hbeyond hi

/-- While all endpoints are healthy, each number leads to its remainder. -/
theorem pick_of_healthy (hopen : p.closed = false) (hall : ∀ e ∈ p.endpoints, e.healthy = true)
    (hsome : 0 < p.endpoints.size)
    (hturn : p.endpoints.size ≤ 1 ∨ p.turn.toNat < 0x8000000000000000) :
    p.pick.1 = .ok (p.turn.toNat % p.endpoints.size) := by
  have hindex :
      p.turn.toInt64.toInt.tmod p.endpoints.size = (p.turn.toNat % p.endpoints.size : Nat) := by
    rcases hturn with hone | hsigned
    · have hsize : p.endpoints.size = 1 := by omega
      rw [hsize, Nat.mod_one]
      exact Int.tmod_one _
    · exact tmod_size (toInt_toInt64 hsigned)
  have hlt := Nat.mod_lt p.turn.toNat hsome
  have hhealthy : p.healthyAt (p.turn.toNat % p.endpoints.size) = true :=
    healthyAt_iff.2 ⟨_, Array.getElem?_eq_getElem hlt, hall _ (Array.getElem_mem hlt)⟩
  obtain ⟨n, hn⟩ := pick_fst_succ hopen hsome
  rw [hn, search_succ hindex, if_pos hhealthy]

/-- From half of the range on the number of a turn leads to no endpoint, unless it is a multiple of
the number of endpoints. -/
theorem pick_beyond (hopen : p.closed = false) (hsome : 0 < p.endpoints.size)
    (hturn : 0x8000000000000000 ≤ p.turn.toNat)
    (hmod : ¬p.endpoints.size ∣ 0x10000000000000000 - p.turn.toNat) :
    ∃ k, p.pick.1 = .error (.badTurn (.negSucc k)) := by
  have hlt := p.turn.toNat_lt
  have hstart : p.turn.toInt64.toInt = -((0x10000000000000000 - p.turn.toNat : Nat) : Int) := by
    rw [toInt_toInt64_of_le hturn]
    omega
  obtain ⟨k, hk⟩ : ∃ k, (0x10000000000000000 - p.turn.toNat) % p.endpoints.size = k + 1 :=
    Nat.exists_eq_succ_of_ne_zero fun h => hmod (Nat.dvd_of_mod_eq_zero h)
  have hindex : p.turn.toInt64.toInt.tmod p.endpoints.size = .negSucc k := by
    rw [hstart, Int.neg_tmod, ← Int.ofNat_tmod, hk]
    rfl
  obtain ⟨n, hn⟩ := pick_fst_succ hopen hsome
  exact ⟨k, by rw [hn, search, hindex]⟩

/-! ### Choices in a row -/

/-- Pools at several choices in a row. Between two of them anything may happen that takes no turn
and leaves the pool open, with the same number of endpoints, and all of these healthy. -/
def Consecutive (q : Nat → Pool σ) (n : Nat) : Prop :=
  ∀ k < n, (q k).closed = false ∧ (q k).endpoints.size = n ∧
    (∀ e ∈ (q k).endpoints, e.healthy = true) ∧ (q (k + 1)).turn = (q k).pick.2.turn

/-- The pool after several choices with nothing between them. -/
def afterPicks (p : Pool σ) : Nat → Pool σ
  | 0 => p
  | k + 1 => (p.afterPicks k).pick.2

theorem afterPicks_eq (p : Pool σ) (k : Nat) : ∃ turn, p.afterPicks k = { p with turn } := by
  induction k with
  | zero => exact ⟨p.turn, rfl⟩
  | succ k ih =>
    obtain ⟨turn, hk⟩ := ih
    obtain ⟨turn', hnext⟩ := (p.afterPicks k).pick_snd
    exact ⟨turn', by rw [afterPicks, hnext, hk]⟩

theorem consecutive_afterPicks (hopen : p.closed = false)
    (hall : ∀ e ∈ p.endpoints, e.healthy = true) :
    Consecutive p.afterPicks p.endpoints.size := by
  intro k _
  obtain ⟨turn, hk⟩ := p.afterPicks_eq k
  have hnext : (p.afterPicks (k + 1)).turn = (p.afterPicks k).pick.2.turn := rfl
  rw [hnext, hk]
  exact ⟨hopen, rfl, hall, rfl⟩

theorem Consecutive.turn_eq {q : Nat → Pool σ} {n : Nat} (h : Consecutive q n)
    (hturn : n ≤ 1 ∨ (q 0).turn.toNat + n ≤ 0x8000000000000000) {k : Nat} (hk : k < n) :
    (q k).turn.toNat = (q 0).turn.toNat + k := by
  induction k with
  | zero => rfl
  | succ k ih =>
    obtain ⟨hopen, -, -, hnext⟩ := h k (by omega)
    have hbefore := ih (by omega)
    rw [hnext, pick_turn hopen, UInt64.toNat_add, hbefore, UInt64.toNat_one]
    omega

/-- Choices are safe, and fair while all endpoints are healthy. -/
structure RoundRobin (p : Pool σ) : Prop where
  /-- Where an endpoint is healthy, a healthy endpoint is chosen. -/
  healthy : (∃ e ∈ p.endpoints, e.healthy = true) →
    ∃ i e, p.pick.1 = .ok i ∧ p.endpoints[i]? = some e ∧ e.healthy = true
  /-- Only where none is healthy, there is no choice. -/
  unavailable_iff : p.pick.1 = .error noneHealthy ↔ ∀ e ∈ p.endpoints, e.healthy = false
  /-- No other number is taken for that of an endpoint. -/
  inside : ∀ index, p.pick.1 ≠ .error (.badTurn index)
  /-- As many choices in a row as there are endpoints choose each of them once. -/
  fair : ∀ q : Nat → Pool σ, q 0 = p → Consecutive q p.endpoints.size →
    ((List.range p.endpoints.size).map fun k => (q k).pick.1).Perm
      ((List.range p.endpoints.size).map Except.ok)

/-- An open pool goes around among its healthy endpoints, as long as the numbers of its turns are
the same with a sign. -/
theorem roundRobin_of_signed (hopen : p.closed = false) (h : p.Signed) : p.RoundRobin where
  healthy := by
    rintro ⟨e, he, hhealthy⟩
    obtain ⟨i, hi⟩ := Array.mem_iff_getElem?.1 he
    rcases pick_cases hopen h with ⟨j, hpick, hj⟩ | ⟨-, hnone⟩
    · obtain ⟨e', he', hhealthy'⟩ := healthyAt_iff.1 hj
      exact ⟨j, e', hpick, he', hhealthy'⟩
    · exact absurd (healthyAt_iff.2 ⟨e, hi, hhealthy⟩) (Bool.eq_false_iff.1 (hnone i))
  unavailable_iff := by
    rcases pick_cases hopen h with ⟨j, hpick, hj⟩ | ⟨hpick, hnone⟩
    · obtain ⟨e, he, hhealthy⟩ := healthyAt_iff.1 hj
      refine iff_of_false (fun h => by rw [hpick] at h; cases h) fun hall => ?_
      rw [hall e (Array.mem_of_getElem? he)] at hhealthy
      cases hhealthy
    · refine iff_of_true hpick fun e he => ?_
      obtain ⟨i, hi⟩ := Array.mem_iff_getElem?.1 he
      exact Bool.eq_false_iff.2 fun hhealthy =>
        Bool.eq_false_iff.1 (hnone i) (healthyAt_iff.2 ⟨e, hi, hhealthy⟩)
  inside index hindex := by
    rcases pick_cases hopen h with ⟨j, hpick, -⟩ | ⟨hpick, -⟩
    · rw [hpick] at hindex
      cases hindex
    · rw [hpick] at hindex
      cases hindex
  fair q hq hrow := by
    have hpick (k : Nat) (hk : k < p.endpoints.size) :
        (q k).pick.1 = .ok ((p.turn.toNat + k) % p.endpoints.size) := by
      obtain ⟨hopen', hsize, hall, -⟩ := hrow k hk
      have hturn := hrow.turn_eq (hq ▸ h) hk
      rw [hq] at hturn
      have hsigned : (q k).endpoints.size ≤ 1 ∨ (q k).turn.toNat < 0x8000000000000000 :=
        h.imp (fun hone => hsize ▸ hone) fun hless => by omega
      rw [pick_of_healthy hopen' hall (by omega) hsigned, hturn, hsize]
    have hmap : ((List.range p.endpoints.size).map fun k => (q k).pick.1) =
        ((List.range p.endpoints.size).map fun k =>
          (p.turn.toNat + k) % p.endpoints.size).map .ok := by
      rw [List.map_map]
      exact List.map_congr_left fun k hk => hpick k (List.mem_range.1 hk)
    rw [hmap]
    exact (perm_range_add_mod _ _).map _

/-- The last two turns whose numbers are the same with a sign. -/
theorem pair_roundRobin :
    let p : Pool Cpu := { pair with turn := 0x7FFFFFFFFFFFFFFE }
    p.closed = false ∧ p.Signed ∧ Consecutive p.afterPicks 2 ∧
      (List.range 2).map (fun k => (p.afterPicks k).pick.1.toOption) = [some 0, some 1] ∧
      p.RoundRobin :=
  ⟨rfl, .inr (by decide), consecutive_afterPicks rfl (by decide +kernel), by decide +kernel,
    roundRobin_of_signed rfl (.inr (by decide))⟩

/-- Both endpoints are healthy, but the number of the turn is odd and negative. -/
theorem pair_beyond :
    let p : Pool Cpu := { pair with turn := 0x8000000000000001 }
    p.closed = false ∧ (∀ e ∈ p.endpoints, e.healthy = true) ∧ p.pick.1 = .error (.badTurn (-1)) ∧
      ¬p.RoundRobin := by
  intro p
  have hpick : p.pick.1 = .error (.badTurn (-1)) := by decide +kernel
  exact ⟨rfl, by decide +kernel, hpick, fun h => h.inside (-1) hpick⟩

end Pool

end Lanewise.Remote
