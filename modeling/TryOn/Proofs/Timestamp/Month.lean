import Mathlib
import TryOn.Quota.Basic

/-! Calendar months pass in order: of two moments the later one does not fall in an earlier month.
So the moments of one month are an unbroken stretch of time, which is what lets a monthly count be
reset at the first moment of another month. -/

set_option autoImplicit false

namespace TryOn

namespace CivilDate

def monthNumber (date : CivilDate) : Int :=
  12 * date.year + date.month

/-- The era of 400 years that a day falls in; eras begin on the first of March. -/
def era (number : Int) : Int :=
  (number + 719468) / 146097

def dayOfEra (number : Int) : Int :=
  number + 719468 - era number * 146097

def yearOfEra (day : Int) : Int :=
  (day - day / 1460 + day / 36524 - day / 146096) / 365

def dayOfYear (day : Int) : Int :=
  day - (365 * yearOfEra day + yearOfEra day / 4 - yearOfEra day / 100)

def monthOfEra (day : Int) : Int :=
  12 * yearOfEra day + (5 * dayOfYear day + 2) / 153

theorem ofDayNumber_eq (number : Int) :
    ofDayNumber number =
      let day := dayOfEra number
      let march := (5 * dayOfYear day + 2) / 153
      let month := if march < 10 then march + 3 else march - 9
      let year := yearOfEra day + era number * 400
      ⟨if month ≤ 2 then year + 1 else year, month.toNat,
        (dayOfYear day - (153 * march + 2) / 5 + 1).toNat⟩ := rfl

theorem dayOfEra_bounds (number : Int) : 0 ≤ dayOfEra number ∧ dayOfEra number < 146097 := by
  unfold dayOfEra era
  omega

theorem yearOfEra_bounds {day : Int} (low : 0 ≤ day) (high : day < 146097) :
    0 ≤ yearOfEra day ∧ yearOfEra day ≤ 399 := by
  unfold yearOfEra
  omega

/-- The year of a day, given by its century, its group of four years in it, and its place in the
group. The last day of a group is a leap day or missing, and belongs to the fourth year. -/
theorem yearOfEra_eq {century group day : Int} (centuryLow : 0 ≤ century)
    (centuryHigh : century ≤ 3) (groupLow : 0 ≤ group) (groupHigh : group ≤ 24)
    (dayLow : 0 ≤ day) (dayHigh : day ≤ 1460) (inCentury : 1461 * group + day < 36524) :
    ∃ year, 0 ≤ year ∧ year ≤ 3 ∧ 365 * year ≤ day ∧ day ≤ 365 * year + 365
      ∧ (day = 365 * year + 365 → year = 3)
      ∧ yearOfEra (36524 * century + 1461 * group + day) = 100 * century + 4 * group + year := by
  have eras : (36524 * century + 1461 * group + day) / 146096 = 0 := by omega
  have centuries : (36524 * century + 1461 * group + day) / 36524 = century := by omega
  rw [yearOfEra, eras, centuries]
  by_cases leap : day = 1460
  · refine ⟨3, ?_⟩
    omega
  · refine ⟨day / 365, ?_⟩
    omega

theorem dayOfYear_bounds {day : Int} (low : 0 ≤ day) (high : day < 146097) :
    0 ≤ dayOfYear day ∧ dayOfYear day ≤ 365 := by
  by_cases last : day = 146096
  · subst last
    decide
  · obtain ⟨century, group, rest, rfl, centuryLow, centuryHigh, groupLow, groupHigh, restLow,
        restHigh, inCentury⟩ : ∃ century group rest : Int,
          day = 36524 * century + 1461 * group + rest ∧ 0 ≤ century ∧ century ≤ 3 ∧ 0 ≤ group
            ∧ group ≤ 24 ∧ 0 ≤ rest ∧ rest ≤ 1460 ∧ 1461 * group + rest < 36524 :=
      ⟨day / 36524, day % 36524 / 1461, day % 36524 % 1461, by omega⟩
    obtain ⟨year, yearLow, yearHigh, begun, ended, -, same⟩ :=
      yearOfEra_eq centuryLow centuryHigh groupLow groupHigh restLow restHigh inCentury
    have quarters : (100 * century + 4 * group + year) / 4 = 25 * century + group := by omega
    have hundreds : (100 * century + 4 * group + year) / 100 = century := by omega
    rw [dayOfYear, same, quarters, hundreds]
    omega

theorem monthOfEra_bounds {day : Int} (low : 0 ≤ day) (high : day < 146097) :
    0 ≤ monthOfEra day ∧ monthOfEra day < 4800 := by
  have years := yearOfEra_bounds low high
  have days := dayOfYear_bounds low high
  unfold monthOfEra
  omega

theorem yearOfEra_le_succ (day : Int) : yearOfEra day ≤ yearOfEra (day + 1) := by
  -- A leap day takes back the day that has passed at most; the days that a century and an era
  -- add and take never fall together.
  have leapDays : (day + 1) / 1460 ≤ day / 1460 + 1 := by omega
  have centuries : day / 36524 - day / 146096 ≤ (day + 1) / 36524 - (day + 1) / 146096 := by omega
  unfold yearOfEra
  refine Int.ediv_le_ediv (by decide) ?_
  calc
    day - day / 1460 + day / 36524 - day / 146096
        = day - day / 1460 + (day / 36524 - day / 146096) := Int.add_sub_assoc _ _ _
    _ ≤ day + 1 - (day + 1) / 1460 + ((day + 1) / 36524 - (day + 1) / 146096) :=
        Int.add_le_add (by omega) centuries
    _ = day + 1 - (day + 1) / 1460 + (day + 1) / 36524 - (day + 1) / 146096 :=
        (Int.add_sub_assoc _ _ _).symm

/-- From one day of an era to the next the month stays or grows: a new year begins after all
twelve months of the old one. -/
theorem monthOfEra_le_succ {day : Int} (low : 0 ≤ day) (high : day + 1 < 146097) :
    monthOfEra day ≤ monthOfEra (day + 1) := by
  have days := dayOfYear_bounds low (by omega)
  have nextLow : 0 ≤ day + 1 := by omega
  have nextDays := dayOfYear_bounds nextLow high
  unfold monthOfEra
  rcases Int.le_iff_lt_or_eq.1 (yearOfEra_le_succ day) with newYear | sameYear
  · omega
  · have nextDay : dayOfYear (day + 1) = dayOfYear day + 1 := by
      unfold dayOfYear
      rw [← sameYear]
      omega
    rw [nextDay, sameYear]
    omega

theorem month_ofDayNumber (number : Int) :
    1 ≤ (ofDayNumber number).month ∧ (ofDayNumber number).month ≤ 12
      ∧ (ofDayNumber number).monthNumber
        = 4800 * era number + monthOfEra (dayOfEra number) + 3 := by
  obtain ⟨low, high⟩ := dayOfEra_bounds number
  have days := dayOfYear_bounds low high
  rw [ofDayNumber_eq]
  simp only [monthNumber, monthOfEra]
  generalize dayOfYear (dayOfEra number) = day at *
  generalize yearOfEra (dayOfEra number) = year at *
  omega

theorem monthNumber_ofDayNumber_mono :
    Monotone fun number => (ofDayNumber number).monthNumber := by
  refine monotone_int_of_le_succ fun number => ?_
  obtain ⟨low, high⟩ := dayOfEra_bounds number
  obtain ⟨nextLow, nextHigh⟩ := dayOfEra_bounds (number + 1)
  have months := monthOfEra_bounds low high
  have nextMonths := monthOfEra_bounds nextLow nextHigh
  simp only [(month_ofDayNumber _).2.2]
  -- At the turn of an era the months of the era start again, and its 4800 months make up for it.
  by_cases sameEra : era (number + 1) = era number
  · have nextDay : dayOfEra (number + 1) = dayOfEra number + 1 := by
      unfold dayOfEra
      omega
    have passed := monthOfEra_le_succ low (nextDay ▸ nextHigh)
    rw [nextDay, sameEra]
    omega
  · have nextEra : era number + 1 ≤ era (number + 1) := by
      unfold era at *
      omega
    omega

end CivilDate

theorem Timestamp.seconds_le {first second : Timestamp} (ordered : first ≤ second) :
    first.seconds ≤ second.seconds := by
  rw [Timestamp.le_iff, Timestamp.lt_iff] at ordered
  omega

namespace BillingPeriod

/-- The number of the month, counted from the start of year zero. -/
def number (period : BillingPeriod) : Int :=
  12 * period.year + period.month

theorem number_containing_mono {first second : Timestamp} (ordered : first ≤ second) :
    (containing first).number ≤ (containing second).number :=
  CivilDate.monthNumber_ofDayNumber_mono
    (Int.ediv_le_ediv (by decide) (Timestamp.seconds_le ordered))

theorem containing_eq_of_number_eq {first second : Timestamp}
    (same : (containing first).number = (containing second).number) :
    containing first = containing second := by
  have months (moment : Timestamp) :
      1 ≤ (containing moment).month ∧ (containing moment).month ≤ 12 :=
    let ⟨low, high, _⟩ := CivilDate.month_ofDayNumber (moment.seconds / Timestamp.secondsPerDay)
    ⟨low, high⟩
  have firstMonth := months first
  have secondMonth := months second
  generalize containing first = one at *
  generalize containing second = other at *
  cases one
  cases other
  simp only [number, BillingPeriod.mk.injEq] at *
  omega

theorem containing_eq_of_between {first middle last : Timestamp} (early : first ≤ middle)
    (late : middle ≤ last) (same : containing first = containing last) :
    containing middle = containing first := by
  refine containing_eq_of_number_eq (Int.le_antisymm ?_ (number_containing_mono early))
  rw [same]
  exact number_containing_mono late

end BillingPeriod

end TryOn
