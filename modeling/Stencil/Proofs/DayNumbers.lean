import Stencil.Calendar.Date

set_option autoImplicit false

/-!
The date of a day number. A day of four centuries is split into centuries, into leap periods of four years,
into years and days that are left (`DayParts`); the last of them is short of a day except where the year
ends with a leap day. In these parts the divisions of `ofDays` come out exactly, so every day number has a
date of the calendar, and this date has the number (`toDays_ofDays`).
-/

namespace Stencil.Calendar

namespace Date

/-- A month and a day of this month. -/
structure OnCalendar (date : Date) : Prop where
  month_pos : 1 ≤ date.month
  month_le : date.month ≤ 12
  day_pos : 1 ≤ date.day
  day_le : date.day ≤ daysInMonth date.year date.month

theorem OnCalendar.day_le_31 {date : Date} (calendar : date.OnCalendar) : date.day ≤ 31 := by
  refine Nat.le_trans calendar.day_le ?_
  unfold daysInMonth
  split
  · split <;> decide
  all_goals decide

/-- The days of years of four digits are far from the ends of the range of days. -/
theorem OnCalendar.toDays_bounds {date : Date} (calendar : date.OnCalendar) (low : 0 ≤ date.year)
    (high : date.year ≤ 9999) : -1000000 ≤ date.toDays ∧ date.toDays ≤ 4000000 := by
  have days := calendar.day_le_31
  have shifted : (date.month + 9) % 12 ≤ 11 := by omega
  simp only [toDays, daysBefore]
  split
  · omega
  · omega

theorem isValid_iff {date : Date} :
    date.isValid = true ↔ minYear ≤ date.year ∧ date.year ≤ maxYear ∧ date.OnCalendar := by
  simp only [isValid, Bool.and_eq_true, decide_eq_true_eq]
  constructor
  · rintro ⟨⟨⟨⟨⟨low, high⟩, month⟩, months⟩, day⟩, days⟩
    exact ⟨low, high, month, months, day, days⟩
  · rintro ⟨low, high, month, months, day, days⟩
    exact ⟨⟨⟨⟨⟨low, high⟩, month⟩, months⟩, day⟩, days⟩

/-- A day of four centuries in centuries, periods of four years, years and days. A year has a last day 365
only if the leap day at its end is not left out, which it is at the end of the first three centuries. -/
structure DayParts (day centuries periods years days : Nat) : Prop where
  sum : day = 36524 * centuries + 1461 * periods + 365 * years + days
  centuries_le : centuries ≤ 3
  periods_le : periods ≤ 24
  years_le : years ≤ 3
  days_le : days ≤ 365
  leap : days = 365 → years = 3 ∧ (periods = 24 → centuries = 3)

theorem exists_dayParts {day : Nat} (bounded : day < 146097) :
    ∃ centuries periods years days, DayParts day centuries periods years days := by
  have inCentury : ∃ centuries rest, day = 36524 * centuries + rest ∧ centuries ≤ 3 ∧
      (rest < 36524 ∨ rest = 36524 ∧ centuries = 3) := by
    by_cases last : day = 146096
    · exact ⟨3, 36524, by omega, by omega, .inr ⟨rfl, rfl⟩⟩
    · exact ⟨day / 36524, day % 36524, by omega, by omega, .inl (by omega)⟩
  obtain ⟨centuries, inPeriod, sum, centuries_le, bound⟩ := inCentury
  have inYear : ∃ years days, inPeriod % 1461 = 365 * years + days ∧ years ≤ 3 ∧
      (days < 365 ∨ days = 365 ∧ years = 3) := by
    by_cases last : inPeriod % 1461 = 1460
    · exact ⟨3, 365, by omega, by omega, .inr ⟨rfl, rfl⟩⟩
    · exact ⟨inPeriod % 1461 / 365, inPeriod % 1461 % 365, by omega, by omega, .inl (by omega)⟩
  obtain ⟨years, days, rest, years_le, short⟩ := inYear
  refine ⟨centuries, inPeriod / 1461, years, days, by omega, centuries_le, by omega, years_le, by omega, ?_⟩
  omega

section

variable {day centuries periods years days : Nat}

/-- The year is a quotient by 365 once the leap days are taken off: one in 1460 days, but for those left out
after 36524 days, and for the one at the very end. -/
theorem yearOfEra_eq (parts : DayParts day centuries periods years days) :
    (day - day / 1460 + day / 36524 - day / 146096) / 365 = 100 * centuries + 4 * periods + years := by
  obtain ⟨sum, centuries_le, periods_le, years_le, days_le, leap⟩ := parts
  by_cases last : days = 365 ∧ periods = 24
  · obtain ⟨rfl, rfl⟩ := last
    obtain ⟨rfl, three⟩ := leap rfl
    cases three rfl
    subst sum
    rfl
  · have century : day / 36524 = centuries := by omega
    have era : day / 146096 = 0 := by omega
    obtain ⟨more, skipped, more_le, more_lt⟩ :
        ∃ more, day / 1460 = 25 * centuries + periods + more ∧ more ≤ days ∧ days < more + 365 :=
      ⟨(24 * centuries + periods + 365 * years + days) / 1460, by omega, by omega, by omega⟩
    rw [century, era, skipped]
    omega

theorem dayOfYear_eq (parts : DayParts day centuries periods years days) :
    day - (365 * (100 * centuries + 4 * periods + years) + (100 * centuries + 4 * periods + years) / 4 -
      (100 * centuries + 4 * periods + years) / 100) = days := by
  obtain ⟨sum, centuries_le, periods_le, years_le, days_le, leap⟩ := parts
  have fours : (100 * centuries + 4 * periods + years) / 4 = 25 * centuries + periods := by omega
  have hundreds : (100 * centuries + 4 * periods + years) / 100 = centuries := by omega
  omega

/-- The date of a day in a month that is counted from March. -/
def ofMarch (year : Int) (months day : Nat) : Date :=
  if months < 10 then ⟨year, months + 3, day⟩ else ⟨year + 1, months - 9, day⟩

theorem toDays_ofMarch (year : Int) {months : Nat} (bounded : months ≤ 11) (day : Nat) :
    (ofMarch year months day).toDays =
      365 * year + year / 4 - year / 100 + year / 400 + daysBefore months + day - 1 - 719468 := by
  unfold ofMarch
  by_cases early : months < 10
  · have late : ¬ months + 3 ≤ 2 := by omega
    have same : (months + 3 + 9) % 12 = months := by omega
    simp only [if_pos early, toDays, if_neg late, same]
  · have next : months - 9 ≤ 2 := by omega
    have same : (months - 9 + 9) % 12 = months := by omega
    simp only [if_neg early, toDays, if_pos next, same, Int.add_sub_cancel]

theorem daysInMonth_eq (year : Int) {months : Nat} (early : months < 10) :
    daysInMonth year (months + 3) = daysBefore (months + 1) - daysBefore months := by
  match months, early with
  | 0, _ | 1, _ | 2, _ | 3, _ | 4, _ | 5, _ | 6, _ | 7, _ | 8, _ | 9, _ => rfl

/-- The last month, February, has a day more in a leap year. -/
theorem onCalendar_ofMarch {year : Int} {months day : Nat} (bounded : months ≤ 11) (positive : 1 ≤ day)
    (inMonth : months < 11 → day ≤ daysBefore (months + 1) - daysBefore months)
    (inLast : months = 11 → day ≤ if isLeap (year + 1) then 29 else 28) :
    (ofMarch year months day).OnCalendar := by
  unfold ofMarch
  by_cases early : months < 10
  · rw [if_pos early]
    refine ⟨Nat.le_add_left 1 _, Nat.add_le_add_right (Nat.le_of_lt_succ early) 3, positive, ?_⟩
    rw [daysInMonth_eq year early]
    exact inMonth (by omega)
  · rw [if_neg early]
    obtain rfl | rfl : months = 10 ∨ months = 11 := by omega
    · exact ⟨Nat.le_of_ble_eq_true rfl, Nat.le_of_ble_eq_true rfl, positive, inMonth (by decide)⟩
    · exact ⟨Nat.le_of_ble_eq_true rfl, Nat.le_of_ble_eq_true rfl, positive, inLast rfl⟩

theorem ofDays_eq (parts : DayParts day centuries periods years days) (era : Int) :
    ofDays (era * 146097 + day - 719468) =
      ofMarch ((100 * centuries + 4 * periods + years : Nat) + era * 400) ((5 * days + 2) / 153)
        (days - daysBefore ((5 * days + 2) / 153) + 1) := by
  have short := parts.days_le
  have bounded : day < 146097 := by
    obtain ⟨sum, centuries_le, periods_le, years_le, days_le, leap⟩ := parts
    omega
  have quotient : (era * 146097 + day - 719468 + 719468) / 146097 = era := by omega
  have rest : ((era * 146097 + day - 719468 + 719468) % 146097).toNat = day := by omega
  simp only [ofDays, quotient, rest, yearOfEra_eq parts, dayOfYear_eq parts]
  unfold ofMarch
  by_cases early : (5 * days + 2) / 153 < 10
  · have late : ¬ (5 * days + 2) / 153 + 3 ≤ 2 := by omega
    simp only [if_pos early, if_neg late]
  · have next : (5 * days + 2) / 153 - 9 ≤ 2 := by omega
    simp only [if_neg early, if_pos next]

theorem isLeap_of_parts (parts : DayParts day centuries periods years days) (last : days = 365) (era : Int) :
    isLeap (((100 * centuries + 4 * periods + years : Nat) : Int) + era * 400 + 1) = true := by
  obtain ⟨sum, centuries_le, periods_le, years_le, days_le, leap⟩ := parts
  obtain ⟨three, closing⟩ := leap last
  simp only [isLeap, Bool.and_eq_true, Bool.or_eq_true, beq_iff_eq, bne_iff_ne]
  omega

/-- Every day number is that of a day in a year that begins in March. -/
theorem exists_ofMarch (number : Int) : ∃ year months day, ofDays number = ofMarch year months day ∧
    number = 365 * year + year / 4 - year / 100 + year / 400 + daysBefore months + day - 1 - 719468 ∧
    months ≤ 11 ∧ 1 ≤ day ∧ (months < 11 → day ≤ daysBefore (months + 1) - daysBefore months) ∧
    (months = 11 → day ≤ if isLeap (year + 1) then 29 else 28) := by
  have bounded : ((number + 719468) % 146097).toNat < 146097 := by omega
  obtain ⟨centuries, periods, years, days, parts⟩ := exists_dayParts bounded
  have split : number =
      (number + 719468) / 146097 * 146097 + ((number + 719468) % 146097).toNat - 719468 := by omega
  generalize (number + 719468) / 146097 = era at split
  generalize ((number + 719468) % 146097).toNat = day at parts split
  have short := parts.days_le
  rw [split, ofDays_eq parts]
  refine ⟨_, _, _, rfl, ?_, by omega, by omega, fun inside => ?_, fun last => ?_⟩
  · obtain ⟨sum, centuries_le, periods_le, years_le, days_le, leap⟩ := parts
    have begun : daysBefore ((5 * days + 2) / 153) ≤ days := by
      unfold daysBefore
      omega
    have fours : ((100 * centuries + 4 * periods + years : Nat) + era * 400) / 4 =
        25 * centuries + periods + 100 * era := by omega
    have hundreds : ((100 * centuries + 4 * periods + years : Nat) + era * 400) / 100 =
        centuries + 4 * era := by omega
    have eras : ((100 * centuries + 4 * periods + years : Nat) + era * 400) / 400 = era := by omega
    rw [fours, hundreds, eras]
    omega
  · unfold daysBefore
    omega
  · by_cases leap : days = 365
    · rw [isLeap_of_parts parts leap era, leap]
      decide
    · rw [last]
      have closing : daysBefore 11 = 337 := rfl
      split <;> omega

theorem toDays_ofDays (number : Int) : (ofDays number).toDays = number := by
  obtain ⟨year, months, day, made, sum, bounded, -, -, -⟩ := exists_ofMarch number
  rw [made, toDays_ofMarch year bounded, ← sum]

theorem onCalendar_ofDays (number : Int) : (ofDays number).OnCalendar := by
  obtain ⟨year, months, day, made, -, bounded, positive, inMonth, inLast⟩ := exists_ofMarch number
  rw [made]
  exact onCalendar_ofMarch bounded positive inMonth inLast

end

end Date

end Stencil.Calendar
