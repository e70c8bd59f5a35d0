import Lanewise.Proofs.Text.Numerals

/-!
# Texts of integers

An integer has many texts: digits with zeros in front, after a sign or without one. Which integer a
text denotes is told here without a reader, and the reader accepts just the texts that denote an
integer of 64 bits. A text denotes one integer at most.

## Main definitions

* `Numeral.Denotes`: a text of an integer.

## Main results

* `Numeral.int64?_eq_some_iff`: the texts that are read, and their values.
* `Numeral.denotes_toString`: the decimal text of a number denotes the number.
-/

namespace Lanewise.Numeral

/-- A text of decimal digits for a number. It is not empty and may have zeros in front. -/
structure Spells (cs : List Char) (n : Nat) : Prop where
  ne_nil : cs ≠ []
  isDigit : ∀ c ∈ cs, c.isDigit = true
  value : Nat.ofDigitChars 10 cs 0 = n

/-- A text of an integer: digits, perhaps after a sign. -/
inductive Denotes : List Char → Int → Prop
  | digits {cs : List Char} {n : Nat} (h : Spells cs n) : Denotes cs n
  | plus {cs : List Char} {n : Nat} (h : Spells cs n) : Denotes ('+' :: cs) n
  | minus {cs : List Char} {n : Nat} (h : Spells cs n) : Denotes ('-' :: cs) (-n)

variable {cs : List Char} {n : Nat} {v w : Int}

/-! ### Digits -/

/-- What reading one more digit makes of the value so far. -/
def addDigit (acc : Option Nat) (c : Char) : Option Nat :=
  acc.bind fun n => if '0' ≤ c ∧ c ≤ '9' then some (n * 10 + (c.toNat - 48)) else none

theorem foldl_addDigit_none (cs : List Char) : cs.foldl addDigit none = none := by
  induction cs with
  | nil => rfl
  | cons c cs ih => exact ih

/-- By induction on the text, whatever has been read before it. -/
theorem foldl_addDigit_eq_some_iff (cs : List Char) (acc : Nat) :
    cs.foldl addDigit (some acc) = some n ↔
      (∀ c ∈ cs, c.isDigit = true) ∧ Nat.ofDigitChars 10 cs acc = n := by
  induction cs generalizing acc with
  | nil => simp only [List.foldl_nil, Option.some.injEq, List.not_mem_nil, false_implies,
      implies_true, true_and, Nat.ofDigitChars_nil]
  | cons c cs ih =>
    rw [List.foldl_cons, List.forall_mem_cons, Nat.ofDigitChars_cons]
    by_cases hc : '0' ≤ c ∧ c ≤ '9'
    · have hstep : addDigit (some acc) c = some (10 * acc + (c.toNat - '0'.toNat)) := by
        rw [addDigit, Option.bind_some, if_pos hc, Nat.mul_comm]
        rfl
      rw [hstep, ih, isDigit_iff.2 hc, eq_self_iff_true, true_and]
    · have hstep : addDigit (some acc) c = none := by
        rw [addDigit, Option.bind_some, if_neg hc]
      have hnot : c.isDigit ≠ true := fun h => hc (isDigit_iff.1 h)
      simp only [hstep, foldl_addDigit_none, hnot, reduceCtorEq, false_and]

theorem decimalDigits?_eq_some_iff : decimalDigits? cs = some n ↔ Spells cs n := by
  cases cs with
  | nil => exact iff_of_false (fun h => by cases h) fun h => h.ne_nil rfl
  | cons c cs =>
    refine (foldl_addDigit_eq_some_iff (c :: cs) 0).trans ?_
    exact ⟨fun h => ⟨List.cons_ne_nil c cs, h.1, h.2⟩, fun h => ⟨h.isDigit, h.value⟩⟩

theorem Spells.ne_sign {c : Char} (h : Spells (c :: cs) n) : c ≠ '+' ∧ c ≠ '-' := by
  have hc := h.isDigit c List.mem_cons_self
  constructor
  · rintro rfl
    cases hc
  · rintro rfl
    cases hc

/-! ### Signs -/

theorem decimal?_minus (digits : List Char) :
    decimal? ('-' :: digits) = (decimalDigits? digits).map fun n => -Int.ofNat n := by
  rw [decimal?]
  cases decimalDigits? digits with
  | none => rfl
  | some n => rfl

theorem decimal?_eq_some_iff : decimal? cs = some v ↔ Denotes cs v := by
  constructor
  · intro h
    unfold decimal? at h
    split at h
    · next digits =>
      change decimal? ('-' :: digits) = some v at h
      rw [decimal?_minus] at h
      obtain ⟨n, hn, rfl⟩ := Option.map_eq_some_iff.1 h
      exact .minus (decimalDigits?_eq_some_iff.1 hn)
    · obtain ⟨n, hn, rfl⟩ := Option.map_eq_some_iff.1 h
      exact .plus (decimalDigits?_eq_some_iff.1 hn)
    · obtain ⟨n, hn, rfl⟩ := Option.map_eq_some_iff.1 h
      exact .digits (decimalDigits?_eq_some_iff.1 hn)
  · rintro (h | h | h)
    · obtain ⟨c, rest, rfl⟩ := List.exists_cons_of_ne_nil h.ne_nil
      unfold decimal?
      split
      · next heq => exact absurd (List.cons.inj heq).1 h.ne_sign.2
      · next heq => exact absurd (List.cons.inj heq).1 h.ne_sign.1
      · rw [decimalDigits?_eq_some_iff.2 h]
        rfl
    · rw [decimal?, decimalDigits?_eq_some_iff.2 h]
      rfl
    · rw [decimal?_minus, decimalDigits?_eq_some_iff.2 h]
      rfl

/-- A text denotes one integer at most. -/
theorem Denotes.unique (hv : Denotes cs v) (hw : Denotes cs w) : v = w :=
  Option.some.inj ((decimal?_eq_some_iff.2 hv).symm.trans (decimal?_eq_some_iff.2 hw))

/-- The texts that are read, and their values. -/
theorem int64?_eq_some_iff :
    int64? cs = some v ↔ Denotes cs v ∧ -0x8000000000000000 ≤ v ∧ v < 0x8000000000000000 := by
  rw [int64?, Option.filter_eq_some_iff, decimal?_eq_some_iff, decide_eq_true_eq]

theorem spells_toString (n : Nat) : Spells (toString n).toList n := by
  rw [toList_toString]
  exact ⟨List.ne_nil_of_length_pos Nat.length_toDigits_pos, isDigit_of_mem_toDigits,
    Nat.ofDigitChars_ten_toDigits⟩

theorem spells_padded (width n : Nat) : Spells (padded width n).toList n :=
  ⟨padded_ne_nil width n, fun _ => isDigit_of_mem_padded, ofDigitChars_padded width n⟩

/-- The decimal text of a number denotes the number. -/
theorem denotes_toString (n : Nat) : Denotes (toString (n : Int)).toList n :=
  .digits (spells_toString n)

end Lanewise.Numeral
