import Lanewise.Timestamp
import Mathlib.Tactic.IntervalCases

/-!
# The calendar

Four hundred years have 146 097 days, and the calendar repeats after them. Such an era has four
centuries, a century up to twenty-five cycles of four years, and the leap day is the last day of its
year, since years begin in March here. A day of the era is given by a century, a cycle, a year and a
rest; the two leap days that an era has more or less than the cycles say are the ones at the end of
a century. Months take turns of five, with 153 days each.

The date of a day is therefore a date of the calendar, and the day is found from the date again.

## Main definitions

* `Timestamp.EraDay`: a day of an era by century, cycle, year and rest.
* `Timestamp.IsDate`: a date of the calendar for a day.

## Main results

* `Timestamp.isDate_dateOf`: the date of a day is a date of the calendar for this day.
-/

namespace Lanewise.Timestamp

/-- Day `day` of an era lies in century `c`, there in cycle `q`, there in year `y`, and `r` days
after the start of the year. -/
structure EraDay (day c q y r : Int) : Prop where
  eq : day = 36524 * c + 1461 * q + 365 * y + r
  century : 0 ≤ c ∧ c ≤ 3
  cycle : 0 ≤ q ∧ q ≤ 24
  year : 0 ≤ y ∧ y ≤ 3
  rest : 0 ≤ r ∧ r ≤ 365
  /-- The last cycle of a century has a leap day only in the last century. -/
  leap : r = 365 → y = 3 ∧ (q < 24 ∨ c = 3)

theorem exists_eraDay {day : Int} (hpos : 0 ≤ day) (hlt : day < 146097) :
    ∃ c q y r, EraDay day c q y r := by
  have hcentury : ∃ c r, day = 36524 * c + r ∧ 0 ≤ c ∧ c ≤ 3 ∧ 0 ≤ r ∧
      (r < 36524 ∨ r = 36524 ∧ c = 3) :=
    ⟨min (day / 36524) 3, day - 36524 * min (day / 36524) 3, by omega⟩
  obtain ⟨c, r, rfl, hc, hc3, hr, hrc⟩ := hcentury
  have hcycle : ∃ q s, r = 1461 * q + s ∧ 0 ≤ q ∧ q ≤ 24 ∧ 0 ≤ s ∧ s ≤ 1460 ∧
      (s = 1460 → q < 24 ∨ c = 3) :=
    ⟨r / 1461, r % 1461, by omega⟩
  obtain ⟨q, s, rfl, hq, hq24, hs, hs1460, hleap⟩ := hcycle
  exact ⟨c, q, min (s / 365) 3, s - 365 * min (s / 365) 3, by omega, ⟨hc, hc3⟩,
    ⟨hq, hq24⟩, by omega, by omega, by omega⟩

namespace EraDay

variable {day c q y r : Int}

theorem div_sub_div (h : EraDay day c q y r) : day / 36524 - day / 146096 = c := by
  obtain ⟨hday, hc, hq, hy, hr, hleap⟩ := h
  rcases Int.lt_or_le (1461 * q + 365 * y + r) 36524 with hlt | hge
  · have hfull : day / 146096 = 0 := by omega
    have hcentury : day / 36524 = c :=
      ((Int.ediv_emod_unique (r := 1461 * q + 365 * y + r) (by decide)).2 (by omega)).1
    omega
  · obtain ⟨rfl, rfl⟩ : day = 146096 ∧ c = 3 := by omega
    rfl

/-- The year of the era. The day is first moved back by the leap days before it. -/
theorem yearOfEra (h : EraDay day c q y r) :
    (day - day / 1460 + day / 36524 - day / 146096) / 365 = 100 * c + 4 * q + y := by
  have hcentury := h.div_sub_div
  obtain ⟨hday, hc, hq, hy, hr, hleap⟩ := h
  have hcycles : day / 1460 = 25 * c + q ∧ 365 * y + r < 1460 ∨
      day / 1460 = 25 * c + q + 1 ∧ y = 3 ∧ 1 ≤ r := by omega
  omega

theorem dayOfYear (h : EraDay day c q y r) :
    day - (365 * (100 * c + 4 * q + y) + (100 * c + 4 * q + y) / 4 - (100 * c + 4 * q + y) / 100) =
      r := by
  obtain ⟨hday, hc, hq, hy, hr, hleap⟩ := h
  omega

end EraDay

/-- A date of the calendar for a day. -/
structure IsDate (days year : Int) (month day : Nat) : Prop where
  daysOf_eq : daysOf year month day = days
  month_pos : 1 ≤ month
  month_le : month ≤ 12
  day_pos : 1 ≤ day
  day_le : day ≤ daysIn year month

theorem le_daysIn_two (year : Int) : 28 ≤ daysIn year 2 := by
  rw [daysIn]
  split <;> decide

/-- The day of a month that begins in the turn of five is at most the last one. Only the last day of
a year needs a leap year. -/
theorem le_daysIn (year : Int) {r : Int} {m : Nat} (hm : (5 * r + 2) / 153 = m) (hle : m ≤ 11)
    (hr : r ≤ 365) (hleap : r = 365 → daysIn year 2 = 29) :
    r - (153 * m + 2) / 5 + 1 ≤ daysIn year (if m < 10 then m + 3 else m - 9) := by
  have hfebruary := le_daysIn_two year
  interval_cases m
  case «11» =>
    change r - 337 + 1 ≤ (daysIn year 2 : Int)
    omega
  all_goals simp only [daysIn, reduceIte, Nat.reduceLT, Nat.reduceAdd, Nat.reduceSub]; omega

/-- A date whose month is counted from March on, with the day of the year at which it stands. -/
theorem daysOf_ofMarch (era y : Int) (hy : 0 ≤ y) (hy400 : y < 400) {m d : Nat} (hm : m ≤ 11) :
    daysOf (y + era * 400 + if m < 10 then 0 else 1) (if m < 10 then m + 3 else m - 9) (d + 1) =
      era * 146097 + (y * 365 + y / 4 - y / 100 + ((153 * m + 2) / 5 + d)) - 719468 := by
  have hera : (y + era * 400).fdiv 400 = era := by
    rw [Int.fdiv_eq_ediv_of_nonneg _ (by decide)]
    omega
  by_cases hlt : m < 10
  · simp only [daysOf, if_pos hlt, show ¬(m + 3 ≤ 2) by omega, if_false, Int.add_zero, hera]
    omega
  · simp only [daysOf, if_neg hlt, show m - 9 ≤ 2 by omega, if_true, Int.add_sub_cancel, hera]
    omega

theorem isDate_dateOf (days : Int) :
    IsDate days (dateOf days).1 (dateOf days).2.1 (dateOf days).2.2 := by
  have hpos : 0 ≤ days + 719468 - (days + 719468).fdiv 146097 * 146097 := by
    rw [Int.fdiv_eq_ediv_of_nonneg _ (by decide)]
    omega
  have hlt : days + 719468 - (days + 719468).fdiv 146097 * 146097 < 146097 := by
    rw [Int.fdiv_eq_ediv_of_nonneg _ (by decide)]
    omega
  obtain ⟨c, q, y, r, h⟩ := exists_eraDay hpos hlt
  unfold dateOf
  have hrest := h.dayOfYear
  simp only [h.yearOfEra, hrest]
  obtain ⟨hday, hc, hq, hy, hr, hleap⟩ := h
  generalize (days + 719468).fdiv 146097 = era at *
  obtain ⟨m, hm⟩ := Int.eq_ofNat_of_zero_le (a := (5 * r + 2) / 153) (by omega)
  obtain ⟨d, hd⟩ := Int.eq_ofNat_of_zero_le (a := r - (153 * m + 2) / 5) (by omega)
  have hm11 : m ≤ 11 := by omega
  have hmonth : (if (m : Int) < 10 then (m : Int) + 3 else m - 9).toNat = if m < 10 then m + 3
      else m - 9 := by
    split <;> split <;> omega
  have hyear : (if (if (m : Int) < 10 then (m : Int) + 3 else m - 9) ≤ 2 then (1 : Int) else 0) =
      if m < 10 then 0 else 1 := by
    split <;> split <;> omega
  have hd1 : ((d : Int) + 1).toNat = d + 1 := rfl
  simp only [hm, hd, hmonth, hyear, hd1]
  have hlength := le_daysIn (100 * c + 4 * q + y + era * 400 + if m < 10 then 0 else 1) hm hm11 hr.2
    (fun hlast => ?_)
  · exact {
      daysOf_eq := by
        rw [daysOf_ofMarch era _ (by omega) (by omega) hm11]
        omega
      month_pos := by split <;> omega
      month_le := by split <;> omega
      day_pos := by omega
      day_le := by omega }
  · obtain ⟨rfl, hcycle⟩ := hleap hlast
    obtain rfl : m = 11 := by omega
    exact if_pos (by omega)

end Lanewise.Timestamp
