import Lanewise.Meter

/-!
# The account of a meter

A meter with a budget keeps an account of the requests since it was last reset. What it counts are
the steps of the requests that it accepted, and as long as it accepted all of them, what is left is
the rest of the budget. A request is refused exactly if it asks for more than is left, and it uses
the rest up: from then on nothing is left and nothing more is counted, until the next reset makes
the meter as it was at the start.

The requests and their answers are kept in a log beside the meter. The sums are those of natural
numbers, so that nothing can wrap unnoticed: the words of the meter have to spell the same numbers.

## Main definitions

* `Meter.Call`, `Meter.Request`, `Meter.after`: histories of a meter, with the requests since the
  last reset.
* `Meter.granted`: the steps of the requests that were accepted.
* `Meter.Balanced`, `Meter.Accounts`: the invariant, and what a caller sees of it.

## Main results

* `Meter.Balanced.act`: each call keeps the account balanced.
* `Meter.after_accounts`: so does every history.
-/

namespace Lanewise.Meter

variable {m : Meter} {limit n : UInt64}

/-! ### Single requests -/

/-- A meter without a budget accepts all requests. -/
theorem consume_free (h : m.limit = 0) :
    m.consume n = ({ m with consumed := m.consumed + n }, true) :=
  if_pos (beq_iff_eq.2 h)

/-- A meter with a budget accepts what is left of it. -/
theorem consume_budgeted (h : m.limit ≠ 0) :
    m.consume n =
      if m.remaining < n then ({ m with remaining := 0 }, false)
      else ({ m with remaining := m.remaining - n, consumed := m.consumed + n }, true) :=
  if_neg fun hfree => h (beq_iff_eq.1 hfree)

theorem consume_refused (h : m.limit ≠ 0) (hn : m.remaining < n) :
    m.consume n = ({ m with remaining := 0 }, false) := by
  rw [consume_budgeted h, if_pos hn]

theorem consume_accepted (h : m.limit ≠ 0) (hn : ¬m.remaining < n) :
    m.consume n = ({ m with remaining := m.remaining - n, consumed := m.consumed + n }, true) := by
  rw [consume_budgeted h, if_neg hn]

theorem consume_eq_false_iff (h : m.limit ≠ 0) : (m.consume n).2 = false ↔ m.remaining < n := by
  by_cases hn : m.remaining < n
  · rw [consume_refused h hn]
    exact iff_of_true rfl hn
  · rw [consume_accepted h hn]
    exact iff_of_false (fun h => by cases h) hn

theorem consume_limit (m : Meter) (n : UInt64) : (m.consume n).1.limit = m.limit := by
  by_cases h : m.limit = 0
  · rw [consume_free h]
  · by_cases hn : m.remaining < n
    · rw [consume_refused h hn]
    · rw [consume_accepted h hn]

/-- Where nothing is left, a request changes nothing: it asks for nothing, or it is refused. -/
theorem consume_drained (h : m.limit ≠ 0) (hdrained : m.remaining = 0) : (m.consume n).1 = m := by
  by_cases hn : m.remaining < n
  · rw [consume_refused h hn, ← hdrained]
  · have hzero : n = 0 := by
      rw [hdrained, UInt64.not_lt] at hn
      exact UInt64.le_antisymm hn (UInt64.zero_le)
    rw [consume_accepted h hn, hzero, UInt64.sub_zero, UInt64.add_zero]

/-! ### Histories -/

/-- What can be done to a meter. -/
inductive Call
  | consume (n : UInt64)
  | reset
deriving DecidableEq, Repr

/-- A request, and whether it was accepted. -/
structure Request where
  steps : UInt64
  accepted : Bool
deriving DecidableEq, Repr

/-- A call on a meter with a log of the requests since the last reset, the oldest first. -/
def act : Meter × List Request → Call → Meter × List Request
  | (m, log), .consume n => ((m.consume n).1, log ++ [⟨n, (m.consume n).2⟩])
  | (m, _), .reset => (m.reset, [])

/-- What becomes of a fresh meter by several calls, with the requests since the last reset. -/
def after (limit : UInt64) (calls : List Call) : Meter × List Request :=
  calls.foldl act (ofLimit limit, [])

/-- The steps of the requests that were accepted. -/
def granted : List Request → Nat
  | [] => 0
  | r :: log => (if r.accepted then r.steps.toNat else 0) + granted log

theorem granted_append (log log' : List Request) :
    granted (log ++ log') = granted log + granted log' := by
  induction log with
  | nil => exact (Nat.zero_add _).symm
  | cons r log ih => rw [List.cons_append, granted, granted, ih, Nat.add_assoc]

/-- The meter counts what it accepted, and what it has left is the rest of the budget, or nothing
after a refusal. -/
structure Balanced (limit : UInt64) (m : Meter) (log : List Request) : Prop where
  limit_eq : m.limit = limit
  consumed_eq : m.consumed.toNat = granted log
  consumed_le : granted log ≤ limit.toNat
  open_eq : (∀ r ∈ log, r.accepted = true) → m.consumed.toNat + m.remaining.toNat = limit.toNat
  drained_eq : (∃ r ∈ log, r.accepted = false) → m.remaining = 0

namespace Balanced

variable {log : List Request}

theorem ofLimit (limit : UInt64) : Balanced limit (ofLimit limit) [] where
  limit_eq := rfl
  consumed_eq := rfl
  consumed_le := Nat.zero_le _
  open_eq _ := Nat.zero_add _
  drained_eq := by
    rintro ⟨r, hr, -⟩
    cases hr

/-- What is left and what is counted never exceed the budget together. -/
theorem sum_le (h : Balanced limit m log) : m.consumed.toNat + m.remaining.toNat ≤ limit.toNat := by
  by_cases hrefused : ∃ r ∈ log, r.accepted = false
  · rw [h.drained_eq hrefused, h.consumed_eq]
    exact h.consumed_le
  · refine Nat.le_of_eq (h.open_eq fun r hr => ?_)
    exact eq_true_of_ne_false fun hr' => hrefused ⟨r, hr, hr'⟩

theorem refused (h : Balanced limit m log) (r : Request) (hr : r.accepted = false) :
    Balanced limit { m with remaining := 0 } (log ++ [r]) where
  limit_eq := h.limit_eq
  consumed_eq := by
    rw [granted_append, granted, if_neg (Bool.eq_false_iff.1 hr)]
    exact h.consumed_eq
  consumed_le := by
    rw [granted_append, granted, if_neg (Bool.eq_false_iff.1 hr)]
    exact h.consumed_le
  open_eq hopen := by
    rw [hopen r (List.mem_append_right _ (List.mem_singleton_self r))] at hr
    cases hr
  drained_eq _ := rfl

theorem accepted (h : Balanced limit m log) (hn : ¬m.remaining < n) :
    Balanced limit { m with remaining := m.remaining - n, consumed := m.consumed + n }
      (log ++ [⟨n, true⟩]) := by
  have hsum := h.sum_le
  have hle : n.toNat ≤ m.remaining.toNat := UInt64.le_iff_toNat_le.1 (UInt64.not_lt.1 hn)
  have hremaining : (m.remaining - n).toNat = m.remaining.toNat - n.toNat :=
    UInt64.toNat_sub_of_le _ _ (UInt64.le_iff_toNat_le.2 hle)
  -- The sum stays within the limit, which is a word, so it does not wrap.
  have hconsumed : (m.consumed + n).toNat = m.consumed.toNat + n.toNat := by
    have hlimit := limit.toNat_lt
    rw [UInt64.toNat_add]
    omega
  have hgranted : granted (log ++ [⟨n, true⟩]) = granted log + n.toNat := by
    rw [granted_append, granted, if_pos rfl, granted, Nat.add_zero]
  constructor
  case limit_eq => exact h.limit_eq
  case consumed_eq =>
    rw [hgranted, ← h.consumed_eq]
    exact hconsumed
  case consumed_le =>
    rw [hgranted, ← h.consumed_eq]
    omega
  case open_eq =>
    intro hopen
    have hbefore := h.open_eq fun r hr => hopen r (List.mem_append_left _ hr)
    change (m.consumed + n).toNat + (m.remaining - n).toNat = limit.toNat
    omega
  case drained_eq =>
    rintro ⟨r, hr, hrefused⟩
    rcases List.mem_append.1 hr with hr | hr
    · have hdrained := h.drained_eq ⟨r, hr, hrefused⟩
      rw [hdrained] at hremaining
      apply UInt64.toNat_inj.1
      change (m.remaining - n).toNat = 0
      rw [hdrained, hremaining]
      exact Nat.zero_sub _
    · rw [List.mem_singleton.1 hr] at hrefused
      cases hrefused

/-- Each call keeps the account balanced. -/
theorem act (h : Balanced limit m log) (hlimit : limit ≠ 0) (call : Call) :
    Balanced limit (Meter.act (m, log) call).1 (Meter.act (m, log) call).2 := by
  have hbudget : m.limit ≠ 0 := h.limit_eq ▸ hlimit
  cases call with
  | reset =>
    rw [Meter.act, reset, h.limit_eq]
    exact ofLimit limit
  | consume n =>
    rw [Meter.act]
    by_cases hn : m.remaining < n
    · rw [consume_refused hbudget hn]
      exact h.refused ⟨n, false⟩ rfl
    · rw [consume_accepted hbudget hn]
      exact h.accepted hn

theorem foldl_act {s : Meter × List Request} (h : Balanced limit s.1 s.2) (hlimit : limit ≠ 0)
    (calls : List Call) :
      Balanced limit (calls.foldl Meter.act s).1 (calls.foldl Meter.act s).2 := by
  induction calls generalizing s with
  | nil => exact h
  | cons call calls ih => exact ih (h.act hlimit call)

end Balanced

theorem foldl_consume_drained (h : m.limit ≠ 0) (hdrained : m.remaining = 0) (later : List UInt64) :
    later.foldl (fun m n => (m.consume n).1) m = m := by
  induction later with
  | nil => rfl
  | cons n later ih => rw [List.foldl_cons, consume_drained h hdrained, ih]

/-- What a caller sees of a meter with a budget, who has kept the requests since the last reset. -/
structure Accounts (limit : UInt64) (m : Meter) (log : List Request) : Prop where
  limit_eq : m.limit = limit
  /-- The count is the sum of what was accepted, as natural numbers. -/
  consumed_eq : m.consumed.toNat = granted log
  consumed_le : m.consumed ≤ limit
  balance : (∀ r ∈ log, r.accepted = true) → m.consumed.toNat + m.remaining.toNat = m.limit.toNat
  refuses_iff : ∀ n, (m.consume n).2 = false ↔ m.remaining < n
  /-- After a refusal, whatever is requested before the next reset: nothing is left, the count
  stays, and only requests for nothing are accepted. -/
  exhausted : (∃ r ∈ log, r.accepted = false) → ∀ later : List UInt64,
    let m' := later.foldl (fun m n => (m.consume n).1) m
    m'.remaining = 0 ∧ m'.consumed = m.consumed ∧ ∀ n, 0 < n → (m'.consume n).2 = false
  reset_eq : m.reset = ofLimit limit

theorem Balanced.accounts {log : List Request} (h : Balanced limit m log) (hlimit : limit ≠ 0) :
    Accounts limit m log := by
  have hbudget : m.limit ≠ 0 := h.limit_eq ▸ hlimit
  constructor
  case limit_eq => exact h.limit_eq
  case consumed_eq => exact h.consumed_eq
  case consumed_le =>
    rw [UInt64.le_iff_toNat_le, h.consumed_eq]
    exact h.consumed_le
  case balance =>
    rw [h.limit_eq]
    exact h.open_eq
  case refuses_iff => exact fun n => consume_eq_false_iff hbudget
  case exhausted =>
    intro hrefused later
    have hdrained := h.drained_eq hrefused
    dsimp only
    rw [foldl_consume_drained hbudget hdrained]
    refine ⟨hdrained, rfl, fun n hn => ?_⟩
    rw [consume_eq_false_iff hbudget, hdrained]
    exact hn
  case reset_eq => rw [reset, h.limit_eq]

/-- After every history of a meter with a budget: the count is the sum of the requests that were
accepted since the last reset and stays within the limit, count and rest are the limit until a
request is refused, a request is refused exactly if it exceeds the rest, a refusal leaves nothing,
and a reset leads back to the start. -/
theorem after_accounts (h : 0 < limit) (calls : List Call) :
    Accounts limit (after limit calls).1 (after limit calls).2 := by
  have hlimit : limit ≠ 0 := by
    rintro rfl
    exact UInt64.lt_irrefl 0 h
  exact ((Balanced.ofLimit limit).foldl_act hlimit calls).accounts hlimit

/-- Of the greatest budget, requests for all but one step, for two steps and for none. -/
theorem allButOne_accounts :
    0 < (18446744073709551615 : UInt64) ∧
      after 18446744073709551615
        [.consume 5, .reset, .consume 18446744073709551614, .consume 2, .consume 0] =
        (⟨18446744073709551615, 0, 18446744073709551614⟩,
          [⟨18446744073709551614, true⟩, ⟨2, false⟩, ⟨0, true⟩]) ∧
      Accounts 18446744073709551615 ⟨18446744073709551615, 0, 18446744073709551614⟩
        [⟨18446744073709551614, true⟩, ⟨2, false⟩, ⟨0, true⟩] :=
  ⟨by decide, by decide, after_accounts (by decide)
    [.consume 5, .reset, .consume 18446744073709551614, .consume 2, .consume 0]⟩

end Lanewise.Meter
