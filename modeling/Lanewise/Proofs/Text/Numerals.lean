import Lanewise.Text.Numeral
import Lanewise.Word

/-!
# Decimal texts

The decimal text of an integer is a literal for this integer. It begins with a zero only if it is
zero, so it is never taken for an octal numeral, and it has no underscores.

## Main results

* `Numeral.parse?_toString`: the decimal text of an integer is read as the integer.
* `Numeral.ofDigitChars_padded`: so are the digits of a number with zeros in front.
* `Word.parseIn?_text`: the text of a word lies in the range of words.
* `Numeral.isDigit_or_eq_of_mem_toString`, `Word.length_text_le`: the characters of such texts.
-/

namespace Lanewise

namespace Numeral

theorem isDigit_iff {c : Char} : c.isDigit = true ↔ '0' ≤ c ∧ c ≤ '9' := by
  simp only [Char.isDigit, Bool.and_eq_true, decide_eq_true_eq]
  exact Iff.rfl

theorem digits?_of_isDigit {cs : List Char} (h : ∀ c ∈ cs, c.isDigit = true) (acc : Nat) :
    digits? 10 acc cs = some (Nat.ofDigitChars 10 cs acc) := by
  induction cs generalizing acc with
  | nil => rfl
  | cons c cs ih =>
    obtain ⟨hc, hcs⟩ := List.forall_mem_cons.1 h
    have hne : c ≠ '_' := by rintro rfl; cases hc
    have hrange := isDigit_iff.1 hc
    have hle : c.toNat ≤ 57 := hrange.2
    have hlt : c.toNat - 48 < 10 := by omega
    rw [digits?, if_neg hne, digit?, if_pos hrange]
    dsimp only
    rw [if_pos hlt, ih hcs, Nat.ofDigitChars_cons, Nat.mul_comm]
    rfl

/-- Digits need nothing that separates them. -/
theorem separated_of_isDigit {cs : List Char} (h : ∀ c ∈ cs, c.isDigit = true) :
    separated true cs = true := by
  induction cs with
  | nil => rfl
  | cons c cs ih =>
    obtain ⟨hc, hcs⟩ := List.forall_mem_cons.1 h
    have hne : c ≠ '_' := by rintro rfl; cases hc
    rw [separated, if_neg hne, ih hcs]

/-- The digits of a number begin with a zero only if the number is zero. -/
theorem exists_toDigits_eq_cons {n : Nat} (h : 0 < n) :
    ∃ c cs, Nat.toDigits 10 n = c :: cs ∧ c ≠ '0' := by
  induction n using Nat.strongRecOn with
  | ind n ih =>
    rcases Nat.lt_or_ge n 10 with hlt | hge
    · exact ⟨_, _, Nat.toDigits_of_lt_base hlt, mt Nat.digitChar_eq_zero.1 (Nat.ne_of_gt h)⟩
    · obtain ⟨c, cs, hdigits, hc⟩ := ih (n / 10) (by omega) (by omega)
      exact ⟨c, _, by rw [Nat.toDigits_of_base_le (by omega) hge, hdigits, List.cons_append], hc⟩

theorem isDigit_of_mem_toDigits {n : Nat} : ∀ c ∈ Nat.toDigits 10 n, c.isDigit = true :=
  fun _ hc => Nat.isDigit_of_mem_toDigits (by omega) (by omega) hc

theorem unsigned?_toDigits (n : Nat) : unsigned? (Nat.toDigits 10 n) = some n := by
  rcases Nat.eq_zero_or_pos n with rfl | hpos
  · rfl
  · obtain ⟨c, cs, hdigits, hc⟩ := exists_toDigits_eq_cons hpos
    have hall := isDigit_of_mem_toDigits (n := n)
    have hvalue := digits?_of_isDigit hall 0
    rw [Nat.ofDigitChars_ten_toDigits] at hvalue
    rw [hdigits] at hall hvalue ⊢
    obtain ⟨hdigit, hrest⟩ := List.forall_mem_cons.1 hall
    have hne : c ≠ '_' := by rintro rfl; cases hdigit
    have hseparated : separated false (c :: cs) = true := by
      rw [separated, if_neg hne, separated_of_isDigit hrest]
    unfold unsigned?
    split
    · next heq => cases heq
    · next heq => exact absurd (List.cons.inj heq).1 hc
    · next heq => exact absurd (List.cons.inj heq).1 hc
    · rw [if_pos hseparated, hvalue]

theorem parse?_toDigits (n : Nat) : parse? (Nat.toDigits 10 n) = some (n : Int) := by
  unfold parse?
  split
  · next heq =>
    have hdigit := isDigit_of_mem_toDigits '-' (heq ▸ List.mem_cons_self)
    cases hdigit
  · next heq =>
    have hdigit := isDigit_of_mem_toDigits '+' (heq ▸ List.mem_cons_self)
    cases hdigit
  · rw [unsigned?_toDigits]
    rfl

theorem toList_toString_natCast (n : Nat) : (toString (n : Int)).toList = Nat.toDigits 10 n :=
  Nat.toList_repr

theorem toList_toString_negSucc (n : Nat) :
    (toString (Int.negSucc n)).toList = '-' :: Nat.toDigits 10 (n + 1) := by
  have htext : toString (Int.negSucc n) = "-" ++ (n + 1).repr := rfl
  rw [htext, String.toList_append, Nat.toList_repr]
  rfl

/-- The decimal text of an integer is read as the integer. -/
theorem parse?_toString (v : Int) : parse? (toString v).toList = some v := by
  cases v with
  | ofNat n => exact (congrArg parse? (toList_toString_natCast n)).trans (parse?_toDigits n)
  | negSucc n =>
    rw [toList_toString_negSucc, parse?, unsigned?_toDigits]
    rfl

/-- The decimal text of an integer consists of digits, and a sign if it is negative. -/
theorem isDigit_or_eq_of_mem_toString {v : Int} {c : Char} (h : c ∈ (toString v).toList) :
    c.isDigit = true ∨ c = '-' := by
  cases v with
  | ofNat n =>
    have hmem : c ∈ Nat.toDigits 10 n := toList_toString_natCast n ▸ h
    exact .inl (isDigit_of_mem_toDigits c hmem)
  | negSucc n =>
    rw [toList_toString_negSucc] at h
    rcases List.mem_cons.1 h with rfl | hmem
    · exact .inr rfl
    · exact .inl (isDigit_of_mem_toDigits c hmem)

theorem length_toDigits_le {n : Nat} (h : n < 10000000000) : (Nat.toDigits 10 n).length ≤ 10 :=
  (Nat.length_toDigits_le_iff (by omega) (by omega)).2 h

theorem toList_toString (n : Nat) : (toString n).toList = Nat.toDigits 10 n :=
  Nat.toList_repr

theorem toList_padded (width n : Nat) :
    (padded width n).toList = List.replicate (width - (toString n).length) '0' ++
      Nat.toDigits 10 n := by
  rw [padded, String.toList_append, String.toList_ofList, toList_toString]

/-- The digits of a number can be read back, whatever zeros stand in front of them. -/
theorem ofDigitChars_padded (width n : Nat) :
    Nat.ofDigitChars 10 (padded width n).toList 0 = n := by
  simp only [toList_padded, Nat.ofDigitChars_append, Nat.ofDigitChars_replicate_zero, Nat.mul_zero,
    Nat.ofDigitChars_ten_toDigits]

theorem isDigit_of_mem_padded {width n : Nat} {c : Char} (h : c ∈ (padded width n).toList) :
    c.isDigit = true := by
  rw [toList_padded, List.mem_append] at h
  rcases h with hzero | hdigit
  · rw [List.eq_of_mem_replicate hzero]
    rfl
  · exact isDigit_of_mem_toDigits c hdigit

theorem padded_ne_nil (width n : Nat) : (padded width n).toList ≠ [] := by
  rw [toList_padded]
  exact List.append_ne_nil_of_right_ne_nil _ (List.ne_nil_of_length_pos Nat.length_toDigits_pos)

end Numeral

namespace Word

theorem parseIn?_text (w : Word) :
    Numeral.parseIn? least greatest w.text.toList = some w.toInt := by
  rw [Numeral.parseIn?, text, Numeral.parse?_toString]
  exact if_pos ⟨w.le_toInt, Int.le_of_lt_add_one w.toInt_lt⟩

theorem length_text_le (w : Word) : w.text.toList.length ≤ 11 := by
  have hlow := w.le_toInt
  have hhigh := w.toInt_lt
  rw [text]
  generalize w.toInt = v at hlow hhigh
  cases v with
  | ofNat n =>
    rw [Int.ofNat_eq_natCast] at hhigh ⊢
    rw [Numeral.toList_toString_natCast]
    exact Nat.le_succ_of_le (Numeral.length_toDigits_le (by omega))
  | negSucc n =>
    rw [Numeral.toList_toString_negSucc, List.length_cons]
    exact Nat.succ_le_succ (Numeral.length_toDigits_le (by omega))

end Word

end Lanewise
