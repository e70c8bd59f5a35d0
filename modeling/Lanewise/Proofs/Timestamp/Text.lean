import Lanewise.Proofs.Text.Numerals
import Lanewise.Proofs.Text.Integers
import Lanewise.Proofs.Timestamp.Calendar
import Mathlib.Data.List.TakeWhile

/-!
# The text of a point in time

The text of a point in time has a fixed layout, and a reader that goes through the layout part by
part finds every part again, as long as the year has four digits and the offset whole minutes. Each
part has one lemma: the reader of the part takes the text of the part and leaves what follows.

## Main results

* `Timestamp.ofCivil_civil`: a point in time is found from what a clock shows.
* `Timestamp.parse_text`: a point in time is read from its text.
-/

namespace Lanewise.Timestamp

variable {t : Timestamp} {n w : Nat} {rest : List Char}

/-! ### Clocks -/

/-- What a clock shows names the point in time. -/
theorem ofCivil_civil (t : Timestamp) : ofCivil t.civil t.offset t.offset_lt = t := by
  have hdate := (isDate_dateOf (((t.nanos + t.offset * second).fdiv second).fdiv 86400)).daysOf_eq
  simp only [ofCivil, civil, hdate]
  simp only [second, Int.fdiv_eq_ediv_of_nonneg _ (show (0 : Int) ≤ 86400 by decide),
    Int.fdiv_eq_ediv_of_nonneg _ (show (0 : Int) ≤ 1000000000 by decide)]
  cases t with
  | mk nanos offset hoffset =>
    simp only [mk.injEq, and_true]
    omega

theorem civil_month_le (t : Timestamp) : 1 ≤ t.civil.month ∧ t.civil.month ≤ 12 :=
  have hdate := isDate_dateOf (((t.nanos + t.offset * second).fdiv second).fdiv 86400)
  ⟨hdate.month_pos, hdate.month_le⟩

theorem civil_day_le (t : Timestamp) :
    1 ≤ t.civil.day ∧ t.civil.day ≤ daysIn t.civil.year t.civil.month :=
  have hdate := isDate_dateOf (((t.nanos + t.offset * second).fdiv second).fdiv 86400)
  ⟨hdate.day_pos, hdate.day_le⟩

theorem daysIn_le (year : Int) (month : Nat) : daysIn year month ≤ 31 := by
  unfold daysIn
  split
  · split <;> decide
  all_goals decide

theorem civil_time_lt (t : Timestamp) :
    t.civil.hour < 24 ∧ t.civil.minute < 60 ∧ t.civil.seconds < 60 ∧
      t.civil.nanos < 1000000000 := by
  simp only [civil, second, Int.fdiv_eq_ediv_of_nonneg _ (show (0 : Int) ≤ 86400 by decide),
    Int.fdiv_eq_ediv_of_nonneg _ (show (0 : Int) ≤ 1000000000 by decide)]
  omega

/-! ### Parts of the layout -/

theorem length_padded (h : (Nat.toDigits 10 n).length ≤ w) :
    (Numeral.padded w n).toList.length = w := by
  rw [Numeral.toList_padded, List.length_append, List.length_replicate, ← String.length_toList,
    Numeral.toList_toString]
  omega

theorem fixed?_padded (h : (Nat.toDigits 10 n).length ≤ w) (rest : List Char) :
    fixed? w ((Numeral.padded w n).toList ++ rest) = some (n, rest) := by
  have hlength := length_padded h
  have hdigits : ((Numeral.padded w n).toList.all Char.isDigit) = true :=
    List.all_eq_true.2 fun c => Numeral.isDigit_of_mem_padded
  have hvalue := Numeral.decimalDigits?_eq_some_iff.2 (Numeral.spells_padded w n)
  simp only [fixed?, List.take_left' hlength, List.drop_left' hlength, hlength, hdigits, hvalue,
    and_self, if_true, Option.map_some]

theorem number_padded {part : String} (hw : part.length = w) (h : (Nat.toDigits 10 n).length ≤ w)
    (rest : List Char) : number part ((Numeral.padded w n).toList ++ rest) = .ok (n, rest) := by
  rw [number, orExpected, hw, fixed?_padded h]

theorem length_toDigits_le_two (h : n < 100) : (Nat.toDigits 10 n).length ≤ 2 :=
  (Nat.length_toDigits_le_iff (by decide) (by decide)).2 h

theorem length_toDigits_le_four (h : n < 10000) : (Nat.toDigits 10 n).length ≤ 4 :=
  (Nat.length_toDigits_le_iff (by decide) (by decide)).2 h

theorem length_toDigits_le_nine (h : n < 1000000000) : (Nat.toDigits 10 n).length ≤ 9 :=
  (Nat.length_toDigits_le_iff (by decide) (by decide)).2 h

theorem skip_cons (c : Char) (rest : List Char) : skip c (c :: rest) = .ok rest := by
  rw [skip, orExpected, after?, if_pos rfl]

/-! ### Fractions -/

/-- What follows a fraction does not go on like one. -/
def Ends (rest : List Char) : Prop :=
  ∀ c ∈ rest.head?, c.isDigit = false ∧ c ≠ '.' ∧ c ≠ ','

/-- The zeros at the end of nine digits, taken off and put back. -/
theorem exists_fraction (hn : n < 1000000000) (hpos : n ≠ 0) :
    ∃ d ds, fractionText n = .ofList ('.' :: d :: ds) ∧ (∀ c ∈ d :: ds, c.isDigit = true) ∧
      ((d :: ds) ++ List.replicate 9 '0').take 9 = (Numeral.padded 9 n).toList := by
  have hlength := length_padded (length_toDigits_le_nine hn)
  have hvalue := Numeral.ofDigitChars_padded 9 n
  have hdigits : ∀ c ∈ (Numeral.padded 9 n).toList, c.isDigit = true :=
    fun _ => Numeral.isDigit_of_mem_padded
  have htext : fractionText n = .ofList
      ('.' :: ((Numeral.padded 9 n).toList.reverse.dropWhile (· == '0')).reverse) := if_neg hpos
  generalize (Numeral.padded 9 n).toList = cs at hlength hvalue hdigits htext
  have hzeros : (cs.reverse.takeWhile (· == '0')).reverse =
      List.replicate (cs.reverse.takeWhile (· == '0')).length '0' :=
    List.eq_replicate_iff.2 ⟨List.length_reverse, fun c hc => by
      have hzero := List.mem_takeWhile_imp (List.mem_reverse.1 hc)
      exact eq_of_beq hzero⟩
  have hsplit : (cs.reverse.dropWhile (· == '0')).reverse ++
      List.replicate (cs.reverse.takeWhile (· == '0')).length '0' = cs := by
    rw [← hzeros, ← List.reverse_append, List.takeWhile_append_dropWhile, List.reverse_reverse]
  generalize (cs.reverse.dropWhile (· == '0')).reverse = kept at hsplit htext
  generalize (cs.reverse.takeWhile (· == '0')).length = zeros at hsplit
  subst hsplit
  cases kept with
  | nil =>
    rw [List.nil_append, Nat.ofDigitChars_replicate_zero, Nat.mul_zero] at hvalue
    exact absurd hvalue.symm hpos
  | cons d ds =>
    refine ⟨d, ds, htext, fun c hc => hdigits c (List.mem_append_left _ hc), ?_⟩
    rw [List.length_append, List.length_replicate] at hlength
    rw [List.take_append, List.take_of_length_le (by omega), List.take_replicate]
    congr
    omega

theorem Ends.takeWhile_eq (h : Ends rest) : rest.takeWhile Char.isDigit = [] := by
  cases rest with
  | nil => rfl
  | cons c cs => exact List.takeWhile_cons_of_neg (Bool.eq_false_iff.1 (h c rfl).1)

theorem Ends.dropWhile_eq (h : Ends rest) : rest.dropWhile Char.isDigit = rest := by
  cases rest with
  | nil => rfl
  | cons c cs => exact List.dropWhile_cons_of_neg (Bool.eq_false_iff.1 (h c rfl).1)

theorem fraction_fractionText (hn : n < 1000000000) (hrest : Ends rest) :
    fraction ((fractionText n).toList ++ rest) = (n, rest) := by
  rcases Nat.eq_zero_or_pos n with rfl | hpos
  · change fraction rest = (0, rest)
    unfold fraction
    split
    · next c d cs =>
      have hc := hrest c rfl
      rw [if_neg]
      rintro ⟨hmark, -⟩
      exact hmark.elim hc.2.1 hc.2.2
    · rfl
  · obtain ⟨d, ds, htext, hdigits, hpadded⟩ := exists_fraction hn (Nat.ne_of_gt hpos)
    have htake : (d :: ds ++ rest).takeWhile Char.isDigit = d :: ds := by
      rw [List.takeWhile_append_of_pos hdigits, hrest.takeWhile_eq, List.append_nil]
    have hdrop : (d :: ds ++ rest).dropWhile Char.isDigit = rest := by
      rw [List.dropWhile_append_of_pos hdigits, hrest.dropWhile_eq]
    have hvalue := Numeral.decimalDigits?_eq_some_iff.2 (Numeral.spells_padded 9 n)
    rw [htext, String.toList_ofList, List.cons_append, List.cons_append, fraction,
      if_pos ⟨.inl rfl, hdigits d List.mem_cons_self⟩, ← List.cons_append, htake, hdrop]
    dsimp only
    rw [hpadded, hvalue]
    rfl

/-! ### Offsets -/

/-- The text of a number below a hundred in two digits. -/
theorem exists_padded_two (h : n < 100) : ∃ a b, (Numeral.padded 2 n).toList = [a, b] := by
  have hlength := length_padded (length_toDigits_le_two h)
  generalize (Numeral.padded 2 n).toList = cs at hlength
  match cs, hlength with
  | [a, b], _ => exact ⟨a, b, rfl⟩

theorem zone_signed {sign : Char} {h m : Nat} {n : Int} (hsign : sign = '+' ∨ sign = '-')
    (hh : h ≤ 24) (hm : m ≤ 60) (hn : (h : Int) * 3600 + m * 60 = n) :
    zone (sign :: ((Numeral.padded 2 h).toList ++ ':' :: (Numeral.padded 2 m).toList)) =
      .ok (if sign = '+' then n else -n, []) := by
  have hhours := fixed?_padded (length_toDigits_le_two (show h < 100 by omega)) []
  have hminutes := fixed?_padded (length_toDigits_le_two (show m < 100 by omega)) []
  obtain ⟨a, b, hab⟩ := exists_padded_two (show h < 100 by omega)
  obtain ⟨c, d, hcd⟩ := exists_padded_two (show m < 100 by omega)
  rw [hab, List.append_nil] at hhours
  rw [hcd, List.append_nil] at hminutes
  rw [hab, hcd]
  have hsizes : ¬(sign.utf8Size ≠ 1 ∨ (String.ofList [c, d]).utf8ByteSize < 2) := by
    have hascii : sign.utf8Size = 1 := by rcases hsign with rfl | rfl <;> rfl
    have hc := c.utf8Size_pos
    have hd := d.utf8Size_pos
    have htwo : (String.ofList [c, d]).utf8ByteSize = c.utf8Size + d.utf8Size := by simp
    omega
  unfold zone
  split
  · next heq => rcases hsign with rfl | rfl <;> cases heq
  · next heq =>
    simp only [List.cons_append, List.nil_append, List.cons.injEq, true_and] at heq
    obtain ⟨rfl, rfl, rfl, rfl⟩ := heq
    simp only [if_neg hsizes, hhours, hminutes, Option.elim_some, within, decide_eq_true hh,
      decide_eq_true hm, if_true, hn]
    rcases hsign with rfl | rfl <;> rfl
  · next hother => exact absurd rfl (hother _ _ _ _)

theorem zone_offsetText {offset : Int} (hwhole : 60 ∣ offset) (hlt : offset.natAbs < 86400) :
    zone (offsetText offset).toList = .ok (offset, []) := by
  by_cases hzero : offset = 0
  · subst hzero
    rfl
  · have hhours : offset.natAbs / 60 / 60 ≤ 24 := by omega
    have hminutes : offset.natAbs / 60 % 60 ≤ 60 := by omega
    have hvalue : ((offset.natAbs / 60 / 60 : Nat) : Int) * 3600 +
        ((offset.natAbs / 60 % 60 : Nat) : Int) * 60 = offset.natAbs := by omega
    rw [offsetText, if_neg hzero]
    dsimp only
    generalize offset.natAbs / 60 / 60 = h at hhours hvalue ⊢
    generalize offset.natAbs / 60 % 60 = m at hminutes hvalue ⊢
    by_cases hneg : offset ≤ -60
    · have habs : -(offset.natAbs : Int) = offset := by omega
      have hread := zone_signed (.inr rfl) hhours hminutes hvalue
      rw [if_neg (by decide), habs] at hread
      simpa [hneg, String.toList_append] using hread
    · have habs : (offset.natAbs : Int) = offset := by omega
      have hread := zone_signed (.inl rfl) hhours hminutes hvalue
      rw [if_pos rfl, habs] at hread
      simpa [hneg, String.toList_append] using hread

theorem ends_offsetText (offset : Int) : Ends (offsetText offset).toList := by
  intro c hc
  have hmark : c = 'Z' ∨ c = '-' ∨ c = '+' := by
    unfold offsetText at hc
    split at hc
    · exact .inl (Option.some.inj hc).symm
    · simp only [String.toList_append, List.append_assoc] at hc
      split at hc
      · exact .inr (.inl (Option.some.inj hc).symm)
      · exact .inr (.inr (Option.some.inj hc).symm)
  rcases hmark with rfl | rfl | rfl <;> decide

/-! ### The whole text -/

theorem Shown.toList_text (h : t.Shown) :
    t.text.toList = (Numeral.padded 4 t.civil.year.toNat).toList ++ '-' ::
      ((Numeral.padded 2 t.civil.month).toList ++ '-' :: ((Numeral.padded 2 t.civil.day).toList ++
        'T' :: ((Numeral.padded 2 t.civil.hour).toList ++ ':' ::
          ((Numeral.padded 2 t.civil.minute).toList ++ ':' ::
            ((Numeral.padded 2 t.civil.seconds).toList ++
              ((fractionText t.civil.nanos).toList ++ (offsetText t.offset).toList)))))) := by
  have hyear : yearText t.civil.year = Numeral.padded 4 t.civil.year.toNat :=
    if_neg (Int.not_lt.2 h.year_nonneg)
  simp [text, hyear]

theorem short?_padded (h : n < 100) (rest : List Char) :
    short? ((Numeral.padded 2 n).toList ++ rest) = some (n, rest) := by
  rw [short?, fixed?_padded (length_toDigits_le_two h)]

theorem within_of {ok : Bool} (part : String) (h : ok = true) : within part ok = .ok () :=
  if_pos h

theorem bind_of_ok {α β : Type} {x : Except Error α} {a : α} {f : α → Except Error β}
    {r : Except Error β} (h : x = .ok a) (hf : f a = r) : (x >>= f) = r := by
  rw [h]
  exact hf

/-- A point in time is read from its text. -/
theorem parse_text (h : t.Shown) : parse t.text = .ok t := by
  obtain ⟨hmonth, hmonth12⟩ := civil_month_le t
  obtain ⟨hday, hdays⟩ := civil_day_le t
  have hdays31 := daysIn_le t.civil.year t.civil.month
  obtain ⟨hhour, hminute, hsecond, hnanos⟩ := civil_time_lt t
  have hyear : (t.civil.year.toNat : Int) = t.civil.year := Int.toNat_of_nonneg h.year_nonneg
  have hyear4 :=
    length_toDigits_le_four (show t.civil.year.toNat < 10000 by have := h.year_le; omega)
  have htwo {n : Nat} (hn : n < 100) := length_toDigits_le_two hn
  have hzone := zone_offsetText h.whole_minutes t.offset_lt
  have hfraction := fraction_fractionText hnanos (ends_offsetText t.offset)
  rw [parse, h.toList_text]
  refine bind_of_ok (number_padded rfl hyear4 _) ?_
  refine bind_of_ok (skip_cons _ _) (bind_of_ok (number_padded rfl (htwo (by omega)) _) ?_)
  refine bind_of_ok (within_of _ (by simpa using ⟨hmonth, hmonth12⟩)) ?_
  refine bind_of_ok (skip_cons _ _) (bind_of_ok (number_padded rfl (htwo (by omega)) _) ?_)
  refine bind_of_ok (skip_cons _ _)
    (bind_of_ok (by rw [orExpected, short?_padded (show t.civil.hour < 100 by omega)]) ?_)
  refine bind_of_ok (within_of _ (by simpa using hhour)) ?_
  refine bind_of_ok (skip_cons _ _) (bind_of_ok (number_padded rfl (htwo (by omega)) _) ?_)
  refine bind_of_ok (within_of _ (by simpa using hminute)) ?_
  refine bind_of_ok (skip_cons _ _) (bind_of_ok (number_padded rfl (htwo (by omega)) _) ?_)
  refine bind_of_ok (within_of _ (by simpa using hsecond)) ?_
  simp only [hfraction]
  refine bind_of_ok hzone ?_
  rw [hyear, if_neg (fun hne => hne rfl)]
  refine bind_of_ok (within_of _ (by simpa using ⟨hday, hdays⟩)) ?_
  rw [dif_pos t.offset_lt]
  exact congrArg Except.ok (ofCivil_civil t)

end Lanewise.Timestamp
