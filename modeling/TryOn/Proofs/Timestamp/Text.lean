import TryOn.Proofs.Text.Numeral
import TryOn.Proofs.Timestamp.Date
import TryOn.Timestamp.Text

/-! A moment is read back from its text, part by part: its date, its time of day, and the fraction
of its second in as few digits as give it. -/

set_option autoImplicit false

namespace TryOn

namespace Timestamp

/-- A moment of the calendar; only the last second of a minute may be a leap second. -/
def Valid (moment : Timestamp) : Prop :=
  moment.isCovered = true ∧ moment.nanos < 2 * nanosPerSecond
    ∧ (nanosPerSecond ≤ moment.nanos → moment.secondOfDay % 60 = 59)

instance (moment : Timestamp) : Decidable moment.Valid :=
  inferInstanceAs (Decidable (_ ∧ _))

theorem skipBlanks_cons {c : Char} (solid : Text.isBlank c = false) (rest : List Char) :
    skipBlanks (c :: rest) = c :: rest := by
  simp [skipBlanks, solid]

theorem separator_cons {mark : Char} (solid : Text.isBlank mark = false) (rest : List Char) :
    separator mark (mark :: rest) = some rest := by
  simp [separator, skipBlanks_cons solid]

theorem isBlank_of_isDigit {c : Char} (digit : c.isDigit = true) : Text.isBlank c = false := by
  simp only [Char.isDigit, Bool.and_eq_true, decide_eq_true_eq] at digit
  have least : 48 ≤ c.toNat := UInt32.le_iff_toNat_le.1 digit.1
  have most : c.toNat ≤ 57 := UInt32.le_iff_toNat_le.1 digit.2
  simp only [Text.isBlank]
  grind

theorem paddedDecimal_cons (width value : Nat) :
    ∃ c rest, Text.paddedDecimal width value = c :: rest ∧ c.isDigit = true := by
  cases shape : Text.paddedDecimal width value with
  | nil => exact absurd shape (Text.paddedDecimal_ne_nil width value)
  | cons c rest =>
    have inside : c ∈ Text.paddedDecimal width value := shape ▸ List.mem_cons_self
    exact ⟨c, rest, rfl, Text.isDigit_of_mem_paddedDecimal inside⟩

theorem skipBlanks_paddedDecimal (width value : Nat) (rest : List Char) :
    skipBlanks (Text.paddedDecimal width value ++ rest)
      = Text.paddedDecimal width value ++ rest := by
  obtain ⟨c, digits, shape, digit⟩ := paddedDecimal_cons width value
  rw [shape]
  exact skipBlanks_cons (isBlank_of_isDigit digit) _

theorem number_paddedDecimal {width value : Nat} (wide : 0 < width) (room : value < 10 ^ width)
    (rest : List Char) :
    number width (Text.paddedDecimal width value ++ rest) = some (value, rest) := by
  have full := Text.length_paddedDecimal wide room
  have taken : (Text.paddedDecimal width value ++ rest).take width
      = Text.paddedDecimal width value := List.take_left' full
  have digits : (Text.paddedDecimal width value).takeWhile Char.isDigit
      = Text.paddedDecimal width value :=
    List.takeWhile_eq_self_iff.2 fun c inside => Text.isDigit_of_mem_paddedDecimal inside
  simp [number, skipBlanks_paddedDecimal, taken, digits, Text.digitsValue?_paddedDecimal]

theorem takeDigits_paddedDecimal (width value : Nat) {rest : List Char} (ends : Text.Ends rest) :
    Text.takeDigits (Text.paddedDecimal width value ++ rest)
      = (Text.paddedDecimal width value, rest) :=
  Text.takeDigits_append (fun _ inside => Text.isDigit_of_mem_paddedDecimal inside) ends

theorem year_yearText (number : Int) {rest : List Char} (ends : Text.Ends rest) :
    year (yearText number ++ rest) = some (number, rest) := by
  unfold yearText
  split
  · rename_i plain
    have room : number.toNat < 10 ^ 4 := by omega
    have whole : (number.toNat : Int) = number := Int.toNat_of_nonneg plain.1
    obtain ⟨c, digits, shape, digit⟩ := paddedDecimal_cons 4 number.toNat
    have read := number_paddedDecimal (by decide) room rest
    rw [year, skipBlanks_paddedDecimal]
    rw [shape] at read ⊢
    split
    · rename_i same
      obtain rfl := (List.cons.inj same).1
      cases digit
    · rename_i same
      obtain rfl := (List.cons.inj same).1
      cases digit
    · rw [List.cons_append] at read
      simp [read, whole]
  · rename_i far
    have taken := takeDigits_paddedDecimal 4 number.natAbs ends
    split
    · rename_i negative
      have whole : -(number.natAbs : Int) = number := by omega
      rw [List.cons_append, year, skipBlanks_cons (c := '-') rfl]
      simp only [taken, Text.digitsValue?_paddedDecimal]
      exact congrArg (fun whole => some (whole, rest)) whole
    · rename_i positive
      have whole : (number.natAbs : Int) = number := by omega
      rw [List.cons_append, year, skipBlanks_cons (c := '+') rfl]
      simp only [taken, Text.digitsValue?_paddedDecimal]
      exact congrArg (fun whole => some (whole, rest)) whole

theorem fraction_paddedDecimal {width value : Nat} {rest : List Char} (wide : 0 < width)
    (most : width ≤ 9) (room : value < 10 ^ width) (ends : Text.Ends rest) :
    fraction ('.' :: (Text.paddedDecimal width value ++ rest))
      = some (value * 10 ^ (9 - width), rest) := by
  have full := Text.length_paddedDecimal wide room
  have kept : (Text.paddedDecimal width value).take 9 = Text.paddedDecimal width value :=
    List.take_of_length_le (by omega)
  simp [fraction, takeDigits_paddedDecimal width value ends, kept,
    Text.digitsValue?_paddedDecimal, full]

theorem fraction_fractionText {nanos : Nat} (less : nanos < nanosPerSecond) {rest : List Char}
    (ends : Text.Ends rest) (noPoint : rest.head? ≠ some '.') :
    fraction (fractionText nanos ++ rest) = some (nanos, rest) := by
  have bound : nanos < 1000000000 := less
  unfold fractionText
  split
  · rename_i none
    subst none
    unfold fraction
    split
    · rename_i same
      rw [List.nil_append] at same
      exact absurd (by rw [same]; rfl) noPoint
    · rfl
  · split
    · rename_i millis
      rw [List.cons_append, fraction_paddedDecimal (by decide) (by decide) (by omega) ends]
      simp only [Option.some.injEq, Prod.mk.injEq, and_true]
      omega
    · split
      · rename_i micros
        rw [List.cons_append, fraction_paddedDecimal (by decide) (by decide) (by omega) ends]
        simp only [Option.some.injEq, Prod.mk.injEq, and_true]
        omega
      · rw [List.cons_append, fraction_paddedDecimal (by decide) (by decide) (by omega) ends]
        simp

theorem ofText?_parts {number : Int} {month day hour minute second nanos : Nat}
    (monthRoom : month < 100) (dayRoom : day < 100) (hourRoom : hour < 100)
    (minuteRoom : minute < 100) (secondRoom : second < 100) (less : nanos < nanosPerSecond)
    {found : Timestamp}
    (read : (let leap := if second = 60 then 1 else 0
      let date : CivilDate := ⟨number, month, day⟩
      if date.Exists ∧ firstYear ≤ number ∧ number ≤ lastYear ∧ hour ≤ 23 ∧ minute ≤ 59
          ∧ second ≤ 60 ∧ (skipBlanks []).isEmpty then
        let moment : Timestamp :=
          ⟨date.dayNumber * secondsPerDay
            + (hour * 3600 + minute * 60 + (second - leap) : Nat) - 0,
            nanos + leap * nanosPerSecond⟩
        if moment.isCovered then some moment else none
      else none) = some found) :
    ofText? (String.ofList (yearText number ++ '-' :: Text.paddedDecimal 2 month
        ++ '-' :: Text.paddedDecimal 2 day ++ 'T' :: Text.paddedDecimal 2 hour
        ++ ':' :: Text.paddedDecimal 2 minute ++ ':' :: Text.paddedDecimal 2 second
        ++ fractionText nanos ++ ['Z'])) = some found := by
  have ends {c : Char} (mark : c.isDigit = false) (rest : List Char) : Text.Ends (c :: rest) := by
    rintro _ ⟨⟩
    exact mark
  have two {value : Nat} (room : value < 100) (rest : List Char) :
      Timestamp.number 2 (Text.paddedDecimal 2 value ++ rest) = some (value, rest) :=
    number_paddedDecimal (by decide) room rest
  rw [ofText?, String.toList_ofList]
  simp only [List.append_assoc, List.cons_append]
  refine Option.bind_eq_some_iff.2 ⟨_, year_yearText number (ends rfl _), ?_⟩
  refine Option.bind_eq_some_iff.2 ⟨_, separator_cons rfl _, ?_⟩
  refine Option.bind_eq_some_iff.2 ⟨_, two monthRoom _, ?_⟩
  refine Option.bind_eq_some_iff.2 ⟨_, separator_cons rfl _, ?_⟩
  refine Option.bind_eq_some_iff.2 ⟨_, two dayRoom _, ?_⟩
  refine Option.bind_eq_some_iff.2 ⟨_, rfl, ?_⟩
  refine Option.bind_eq_some_iff.2 ⟨_, two hourRoom _, ?_⟩
  refine Option.bind_eq_some_iff.2 ⟨_, separator_cons rfl _, ?_⟩
  refine Option.bind_eq_some_iff.2 ⟨_, two minuteRoom _, ?_⟩
  refine Option.bind_eq_some_iff.2 ⟨_, separator_cons rfl _, ?_⟩
  refine Option.bind_eq_some_iff.2 ⟨_, two secondRoom _, ?_⟩
  refine Option.bind_eq_some_iff.2 ⟨_, fraction_fractionText less (ends rfl _) (by simp), ?_⟩
  exact Option.bind_eq_some_iff.2 ⟨(0, []), rfl, read⟩

theorem secondOfDay_lt (moment : Timestamp) : moment.secondOfDay < 86400 := by
  simp only [secondOfDay, secondsPerDay]
  omega

theorem seconds_eq (moment : Timestamp) :
    moment.seconds = moment.seconds / secondsPerDay * secondsPerDay + moment.secondOfDay := by
  simp only [secondOfDay, secondsPerDay]
  omega

theorem Valid.nanos_div_lt {moment : Timestamp} (valid : moment.Valid) :
    moment.nanos / nanosPerSecond < 2 :=
  (Nat.div_lt_iff_lt_mul (by decide)).2 valid.2.1

/-- In a leap second the nanoseconds run on into a second more, which is written as the 60th. -/
theorem Valid.leap {moment : Timestamp} (valid : moment.Valid) :
    (if moment.secondOfDay % 60 + moment.nanos / nanosPerSecond = 60 then 1 else 0)
      = moment.nanos / nanosPerSecond := by
  rcases Nat.lt_or_ge moment.nanos nanosPerSecond with less | more
  · rw [Nat.div_eq_of_lt less, if_neg (by omega)]
  · have one : moment.nanos / nanosPerSecond = 1 :=
      Nat.le_antisymm (Nat.le_of_lt_succ valid.nanos_div_lt) (Nat.div_pos more (by decide))
    rw [one, valid.2.2 more, if_pos rfl]

theorem eq_of_parts (moment : Timestamp) :
    (⟨moment.date.dayNumber * secondsPerDay
        + (moment.secondOfDay / 3600 * 3600 + moment.secondOfDay / 60 % 60 * 60
          + (moment.secondOfDay % 60 + moment.nanos / nanosPerSecond
            - moment.nanos / nanosPerSecond) : Nat) - 0,
      moment.nanos % nanosPerSecond + moment.nanos / nanosPerSecond * nanosPerSecond⟩ : Timestamp)
      = moment := by
  have day : moment.date.dayNumber = moment.seconds / secondsPerDay :=
    CivilDate.dayNumber_ofDayNumber _
  have seconds : moment.secondOfDay / 3600 * 3600 + moment.secondOfDay / 60 % 60 * 60
      + (moment.secondOfDay % 60 + moment.nanos / nanosPerSecond
        - moment.nanos / nanosPerSecond) = moment.secondOfDay := by omega
  have nanos : moment.nanos % nanosPerSecond + moment.nanos / nanosPerSecond * nanosPerSecond
      = moment.nanos := Nat.mod_add_div' _ _
  rw [seconds, nanos, day, Int.sub_zero, ← moment.seconds_eq]

/-- A moment is read back from its text. -/
theorem ofText?_text {moment : Timestamp} (valid : moment.Valid) :
    ofText? moment.text = some moment := by
  have years : firstYear ≤ moment.date.year ∧ moment.date.year ≤ lastYear := by
    simpa [isCovered] using valid.1
  have date : moment.date.Exists := CivilDate.exists_ofDayNumber _
  have monthRoom : moment.date.month < 100 := Nat.lt_of_le_of_lt date.2.1 (by decide)
  have dayRoom : moment.date.day < 100 :=
    Nat.lt_of_le_of_lt (date.2.2.2.trans (CivilDate.daysInMonth_le _ _)) (by decide)
  have inDay := moment.secondOfDay_lt
  have below := valid.nanos_div_lt
  have least : moment.nanos % nanosPerSecond < nanosPerSecond := Nat.mod_lt _ (by decide)
  refine ofText?_parts monthRoom dayRoom (by omega) (by omega) (by omega) least ?_
  simp only [valid.leap, moment.eq_of_parts]
  have last : moment.secondOfDay % 60 + moment.nanos / nanosPerSecond ≤ 60 := by omega
  rw [if_pos ⟨date, years.1, years.2, by omega, by omega, last, rfl⟩, if_pos valid.1]

theorem ofData?_toData {moment : Timestamp} (valid : moment.Valid) :
    ofData? moment.toData = some moment :=
  ofText?_text valid

end Timestamp

end TryOn
