import TryOn.Proofs.Timestamp.Month

/-! Days and dates of the calendar stand for each other: the date of a day exists, and its number
is that of the day. -/

set_option autoImplicit false

namespace TryOn

namespace CivilDate

theorem dayNumber_fromMarch {era year march day : Int} (yearLow : 0 ≤ year) (yearHigh : year ≤ 399)
    (marchLow : 0 ≤ march) (marchHigh : march ≤ 11) (dayLow : (153 * march + 2) / 5 ≤ day) :
    let month := if march < 10 then march + 3 else march - 9
    dayNumber ⟨if month ≤ 2 then year + era * 400 + 1 else year + era * 400, month.toNat,
      (day - (153 * march + 2) / 5 + 1).toNat⟩
        = era * 146097 + (year * 365 + year / 4 - year / 100 + day) - 719468 := by
  intro month
  have monthFromMarch : ((month.toNat + 9) % 12 : Nat) = march := by
    simp only [month]
    omega
  have before : (if month.toNat ≤ 2 then
      (if month ≤ 2 then year + era * 400 + 1 else year + era * 400) - 1
      else if month ≤ 2 then year + era * 400 + 1 else year + era * 400) = year + era * 400 := by
    simp only [month]
    omega
  have sameEra : (year + era * 400) / 400 = era := by omega
  simp only [dayNumber, monthFromMarch, before, sameEra, Int.add_sub_cancel]
  omega

theorem dayNumber_ofDayNumber (number : Int) : dayNumber (ofDayNumber number) = number := by
  obtain ⟨low, high⟩ := dayOfEra_bounds number
  obtain ⟨yearLow, yearHigh⟩ := yearOfEra_bounds low high
  obtain ⟨dayLow, dayHigh⟩ := dayOfYear_bounds low high
  rw [ofDayNumber_eq]
  refine (dayNumber_fromMarch yearLow yearHigh (by omega) (by omega) (by omega)).trans ?_
  unfold dayOfYear dayOfEra
  omega

/-- Only a leap year has a 366th day. Counted from March, it is the day before the next year. -/
theorem isLeapYear_of_dayOfYear {day : Int} (low : 0 ≤ day) (high : day < 146097)
    (last : dayOfYear day = 365) (era : Int) :
    isLeapYear (yearOfEra day + era * 400 + 1) = true := by
  have inEra : (yearOfEra day + 1) % 4 = 0
      ∧ ((yearOfEra day + 1) % 100 ≠ 0 ∨ (yearOfEra day + 1) % 400 = 0) := by
    by_cases final : day = 146096
    · subst final
      decide
    · obtain ⟨century, group, rest, rfl, centuryLow, centuryHigh, groupLow, groupHigh, restLow,
          restHigh, inCentury⟩ : ∃ century group rest : Int,
            day = 36524 * century + 1461 * group + rest ∧ 0 ≤ century ∧ century ≤ 3 ∧ 0 ≤ group
              ∧ group ≤ 24 ∧ 0 ≤ rest ∧ rest ≤ 1460 ∧ 1461 * group + rest < 36524 :=
        ⟨day / 36524, day % 36524 / 1461, day % 36524 % 1461, by omega⟩
      obtain ⟨year, yearLow, yearHigh, begun, ended, leap, same⟩ :=
        yearOfEra_eq centuryLow centuryHigh groupLow groupHigh restLow restHigh inCentury
      have quarters : (100 * century + 4 * group + year) / 4 = 25 * century + group := by omega
      have hundreds : (100 * century + 4 * group + year) / 100 = century := by omega
      rw [dayOfYear, same, quarters, hundreds] at last
      rw [same]
      omega
  simp only [isLeapYear, Bool.and_eq_true, Bool.or_eq_true, decide_eq_true_eq]
  omega

/-- Months are counted from March so that a day's place in the year tells its month; the month
before March is as long as the year leaves it. -/
theorem day_le_daysInMonth {year day : Int} (dayLow : 0 ≤ day) (dayHigh : day ≤ 365)
    (leap : day = 365 → isLeapYear (year + 1) = true) :
    let march := (5 * day + 2) / 153
    let month := if march < 10 then march + 3 else march - 9
    (day - (153 * march + 2) / 5 + 1).toNat
      ≤ daysInMonth (if month ≤ 2 then year + 1 else year) month.toNat := by
  intro march month
  have cases : march = 0 ∨ march = 1 ∨ march = 2 ∨ march = 3 ∨ march = 4 ∨ march = 5 ∨ march = 6
      ∨ march = 7 ∨ march = 8 ∨ march = 9 ∨ march = 10 ∨ march = 11 := by omega
  rcases cases with same | same | same | same | same | same | same | same | same | same | same
    | same
  all_goals
    have range : 153 * march ≤ 5 * day + 2 ∧ 5 * day + 2 < 153 * march + 153 := by omega
    simp only [month, same, daysInMonth] at range ⊢
    norm_num
    try split
    all_goals grind

theorem daysInMonth_le (year : Int) (month : Nat) : daysInMonth year month ≤ 31 := by
  unfold daysInMonth
  grind

theorem exists_ofDayNumber (number : Int) : (ofDayNumber number).Exists := by
  obtain ⟨low, high⟩ := dayOfEra_bounds number
  obtain ⟨dayLow, dayHigh⟩ := dayOfYear_bounds low high
  have leap := fun last => isLeapYear_of_dayOfYear low high last (era number)
  obtain ⟨monthLow, monthHigh, -⟩ := month_ofDayNumber number
  refine ⟨monthLow, monthHigh, ?_, day_le_daysInMonth dayLow dayHigh leap⟩
  rw [ofDayNumber_eq]
  simp only
  omega

end CivilDate

end TryOn
