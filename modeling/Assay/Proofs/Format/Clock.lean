import Assay.Proofs.Format.Passing
import Mathlib

/-! The texts of dates and times of day. Each is written by a day of the calendar or a time of day
with digits of fixed width, and a text passes the check of its format exactly if it is what one of
them writes.
-/

namespace Assay.Format
open Number

-----------------------------------------------------------------------------------------
-- Numbers of a fixed width
-----------------------------------------------------------------------------------------

/-- The last digits of a number, with zeros where it has none. -/
def padded
    : Nat → Nat → List Char
  | 0, _ => []
  | width + 1, n => padded width (n / 10) ++ [Nat.digitChar (n % 10)]

theorem length_padded (width n : Nat)
    : (padded width n).length = width := by
  induction width generalizing n with
  | zero => rfl
  | succ width ih => simp [padded, ih]

theorem isAsciiDigit_iff {c : Char}
    : isAsciiDigit c ↔ 48 ≤ c.toNat ∧ c.toNat ≤ 57 := by
  simp only [isAsciiDigit, Bool.and_eq_true, decide_eq_true_eq]
  rfl

/-- The digit of a number below ten is an ASCII digit with that value. -/
theorem digitChar_spec {n : Nat} (small : n < 10)
    : isAsciiDigit (Nat.digitChar n) ∧ (Nat.digitChar n).toNat - '0'.toNat = n := by
  interval_cases n <;> decide

/-- An ASCII digit is the digit of its value. -/
theorem digitChar_of_isAsciiDigit {c : Char} (digit : isAsciiDigit c)
    : Nat.digitChar (c.toNat - '0'.toNat) = c ∧ c.toNat - '0'.toNat < 10 := by
  obtain ⟨least, greatest⟩ := isAsciiDigit_iff.mp digit
  have value : c = Char.ofNat c.toNat := (Char.ofNat_toNat c).symm
  generalize c.toNat = n at *
  subst value
  interval_cases n <;> decide

theorem digitsValue_concat (cs : List Char) (c : Char)
    : digitsValue (cs ++ [c]) = digitsValue cs * 10 + (c.toNat - '0'.toNat) := by
  simp [digitsValue]

theorem digitsOnly?_padded {width n : Nat} (fits : n < 10 ^ width)
    : digitsOnly? (padded width n) = some n := by
  induction width generalizing n with
  | zero =>
      obtain rfl : n = 0 := by simpa using fits
      rfl
  | succ width ih =>
      have digits := ih (n := n / 10) (by rw [pow_succ] at fits; omega)
      simp only [digitsOnly?, Option.ite_none_right_eq_some, Option.some.injEq] at digits ⊢
      obtain ⟨all, value⟩ := digits
      obtain ⟨digit, last⟩ := digitChar_spec (Nat.mod_lt n (by decide : 0 < 10))
      refine ⟨by simp [padded, all, digit], ?_⟩
      rw [padded, digitsValue_concat, value, last]
      omega

/-- Digits are those of their value, by induction on the text from its last character back. -/
theorem eq_padded_of_all {cs : List Char} (all : cs.all isAsciiDigit)
    : cs = padded cs.length (digitsValue cs) ∧ digitsValue cs < 10 ^ cs.length := by
  induction cs using List.reverseRecOn with
  | nil => exact ⟨rfl, Nat.one_pos⟩
  | append_singleton cs c ih =>
      simp only [List.all_append, List.all_cons, List.all_nil, Bool.and_true, Bool.and_eq_true]
        at all
      obtain ⟨same, fits⟩ := ih all.1
      obtain ⟨digit, small⟩ := digitChar_of_isAsciiDigit all.2
      rw [digitsValue_concat, List.length_append, List.length_singleton, padded, pow_succ]
      have front : (digitsValue cs * 10 + (c.toNat - '0'.toNat)) / 10 = digitsValue cs := by omega
      have last : (digitsValue cs * 10 + (c.toNat - '0'.toNat)) % 10 = c.toNat - '0'.toNat := by
        omega
      rw [front, last, digit, ← same]
      exact ⟨rfl, by omega⟩

/-- A text is read as a number exactly if the number, in as many digits, writes it. -/
theorem digitsOnly?_eq_some_iff {cs : List Char} {n : Nat}
    : digitsOnly? cs = some n ↔ n < 10 ^ cs.length ∧ cs = padded cs.length n := by
  constructor
  · intro read
    simp only [digitsOnly?, Option.ite_none_right_eq_some, Option.some.injEq] at read
    obtain ⟨all, rfl⟩ := read
    obtain ⟨same, fits⟩ := eq_padded_of_all all
    exact ⟨fits, same⟩
  · rintro ⟨fits, same⟩
    rw [same]
    exact digitsOnly?_padded fits

-----------------------------------------------------------------------------------------
-- Dates
-----------------------------------------------------------------------------------------

/-- A leap year is one that 4 divides, and one that 100 divides only if 400 does. -/
def IsLeap (year : Nat)
    : Prop :=
  4 ∣ year ∧ (100 ∣ year → 400 ∣ year)

instance (year : Nat) : Decidable (IsLeap year) :=
  inferInstanceAs (Decidable (4 ∣ year ∧ (100 ∣ year → 400 ∣ year)))

/-- The lengths of the months of a year, from its first month on. -/
def monthLengths (year : Nat)
    : List Nat :=
  [31, if IsLeap year then 29 else 28, 31, 30, 31, 30, 31, 31, 30, 31, 30, 31]

/-- A day of the Gregorian calendar, which is carried back to the year 0. -/
structure CalendarDay where
  year : Nat
  month : Nat
  day : Nat
  year_lt : year < 10 ^ 4
  month_pos : 1 ≤ month
  day_pos : 1 ≤ day
  day_le : ∃ length, (monthLengths year)[month - 1]? = some length ∧ day ≤ length

/-- A day as a date: its year in four digits, its month and its place in the month in two. -/
def CalendarDay.text (day : CalendarDay)
    : List Char :=
  padded 4 day.year ++ '-' :: padded 2 day.month ++ '-' :: padded 2 day.day

theorem isLeapYear_iff {year : Nat}
    : isLeapYear year ↔ IsLeap year := by
  simp only [isLeapYear, IsLeap, Bool.and_eq_true, Bool.or_eq_true, beq_iff_eq, bne_iff_ne]
  omega

/-- The calendar has the days that lie within the length of their month. -/
theorem isCalendarDay_iff {year month day : Nat}
    : isCalendarDay year month day
      ↔ 1 ≤ month
        ∧ 1 ≤ day
        ∧ ∃ length, (monthLengths year)[month - 1]? = some length ∧ day ≤ length := by
  simp only [isCalendarDay, Bool.and_eq_true, decide_eq_true_eq]
  have lengths (within : 1 ≤ month ∧ month ≤ 12)
      : (monthLengths year)[month - 1]? = some (monthLength year month) := by
    obtain ⟨least, greatest⟩ := within
    interval_cases month <;> simp [monthLengths, monthLength, isLeapYear_iff]
  constructor
  · rintro ⟨⟨⟨monthPos, monthLe⟩, dayPos⟩, dayLe⟩
    exact ⟨monthPos, dayPos, _, lengths ⟨monthPos, monthLe⟩, dayLe⟩
  · rintro ⟨monthPos, dayPos, length, found, dayLe⟩
    have within : month - 1 < 12 := (List.getElem?_eq_some_iff.mp found).1
    have monthLe : month ≤ 12 := by omega
    obtain rfl := Option.some.inj (found.symm.trans (lengths ⟨monthPos, monthLe⟩))
    exact ⟨⟨⟨monthPos, monthLe⟩, dayPos⟩, dayLe⟩

theorem padded_two (n : Nat)
    : padded 2 n = [Nat.digitChar (n / 10 % 10), Nat.digitChar (n % 10)] :=
  rfl

theorem padded_four (n : Nat)
    : padded 4 n
      = [Nat.digitChar (n / 10 / 10 / 10 % 10), Nat.digitChar (n / 10 / 10 % 10),
          Nat.digitChar (n / 10 % 10), Nat.digitChar (n % 10)] :=
  rfl

/-- A text is a date exactly if a day of the calendar writes it. -/
theorem isDate_iff {cs : List Char}
    : isDate cs ↔ ∃ day : CalendarDay, cs = day.text := by
  constructor
  · intro date
    unfold isDate at date
    split at date
    · split at date
      · rename_i year month day readYear readMonth readDay
        obtain ⟨yearLt, yearText⟩ := digitsOnly?_eq_some_iff.mp readYear
        obtain ⟨-, monthText⟩ := digitsOnly?_eq_some_iff.mp readMonth
        obtain ⟨-, dayText⟩ := digitsOnly?_eq_some_iff.mp readDay
        obtain ⟨monthPos, dayPos, dayLe⟩ := isCalendarDay_iff.mp date
        refine ⟨⟨year, month, day, yearLt, monthPos, dayPos, dayLe⟩, ?_⟩
        simp only [List.length_cons, List.length_nil] at yearText monthText dayText
        simp [CalendarDay.text, ← yearText, ← monthText, ← dayText]
      · nomatch date
    · nomatch date
  · rintro ⟨day, rfl⟩
    have within : day.month - 1 < 12 ∧ day.day < 10 ^ 2 := by
      obtain ⟨length, found, dayLe⟩ := day.day_le
      refine ⟨(List.getElem?_eq_some_iff.mp found).1, ?_⟩
      have short : ∀ other ∈ monthLengths day.year, other ≤ 31 := by
        simp only [monthLengths]
        split <;> decide
      have := short length (List.mem_of_getElem? found)
      omega
    have readYear := digitsOnly?_padded day.year_lt
    have readMonth : digitsOnly? (padded 2 day.month) = some day.month :=
      digitsOnly?_padded (by omega)
    have readDay : digitsOnly? (padded 2 day.day) = some day.day := digitsOnly?_padded within.2
    rw [padded_four] at readYear
    rw [padded_two] at readMonth readDay
    have exists_day := isCalendarDay_iff.mpr ⟨day.month_pos, day.day_pos, day.day_le⟩
    simp only [CalendarDay.text, padded_four, padded_two, List.cons_append, List.nil_append,
      isDate, readYear, readMonth, readDay, exists_day]

-----------------------------------------------------------------------------------------
-- Times of day
-----------------------------------------------------------------------------------------

/-- A time of day, to the second; no second is a leap second. -/
structure TimeOfDay where
  hour : Nat
  minute : Nat
  second : Nat
  hour_le : hour ≤ 23
  minute_le : minute ≤ 59
  second_le : second ≤ 59

/-- A time of day in three times two digits. -/
def TimeOfDay.text (time : TimeOfDay)
    : List Char :=
  padded 2 time.hour ++ ':' :: padded 2 time.minute ++ ':' :: padded 2 time.second

/-- A text is a time of day exactly if a time of day writes it. -/
theorem isTime_iff {cs : List Char}
    : isTime cs ↔ ∃ time : TimeOfDay, cs = time.text := by
  constructor
  · intro holds
    unfold isTime at holds
    split at holds
    · split at holds
      · rename_i hour minute second readHour readMinute readSecond
        obtain ⟨-, hourText⟩ := digitsOnly?_eq_some_iff.mp readHour
        obtain ⟨-, minuteText⟩ := digitsOnly?_eq_some_iff.mp readMinute
        obtain ⟨-, secondText⟩ := digitsOnly?_eq_some_iff.mp readSecond
        simp only [Bool.and_eq_true, decide_eq_true_eq] at holds
        obtain ⟨⟨hourLe, minuteLe⟩, secondLe⟩ := holds
        refine ⟨⟨hour, minute, second, hourLe, minuteLe, secondLe⟩, ?_⟩
        simp only [List.length_cons, List.length_nil] at hourText minuteText secondText
        simp [TimeOfDay.text, ← hourText, ← minuteText, ← secondText]
      · nomatch holds
    · nomatch holds
  · rintro ⟨⟨hour, minute, second, hourLe, minuteLe, secondLe⟩, rfl⟩
    have readHour : digitsOnly? (padded 2 hour) = some hour := digitsOnly?_padded (by omega)
    have readMinute : digitsOnly? (padded 2 minute) = some minute :=
      digitsOnly?_padded (by omega)
    have readSecond : digitsOnly? (padded 2 second) = some second :=
      digitsOnly?_padded (by omega)
    rw [padded_two] at readHour readMinute readSecond
    simp only [TimeOfDay.text, padded_two, List.cons_append, List.nil_append, isTime, readHour,
      readMinute, readSecond, hourLe, minuteLe, secondLe, decide_true, Bool.and_self]

-----------------------------------------------------------------------------------------
-- Dates with times
-----------------------------------------------------------------------------------------

/-- An offset from universal time: none, or hours and minutes before or after it. -/
inductive Offset where
  | none (mark : Char) (universal : mark = 'Z' ∨ mark = 'z')
  | some (sign : Char) (hour minute : Nat) (signed : sign = '+' ∨ sign = '-')
    (hour_le : hour ≤ 23) (minute_le : minute ≤ 59)

/-- An offset as a letter, or as a sign with hours and minutes in two digits. -/
def Offset.text
    : Offset → List Char
  | .none mark _ => [mark]
  | .some sign hour minute _ _ _ => sign :: padded 2 hour ++ ':' :: padded 2 minute

/-- A text is an offset exactly if an offset writes it. -/
theorem isOffset_iff {cs : List Char}
    : isOffset cs ↔ ∃ offset : Offset, cs = offset.text := by
  constructor
  · intro holds
    unfold isOffset at holds
    split at holds
    · exact ⟨.none 'Z' (Or.inl rfl), rfl⟩
    · exact ⟨.none 'z' (Or.inr rfl), rfl⟩
    · split at holds
      · rename_i hour minute readHour readMinute
        obtain ⟨-, hourText⟩ := digitsOnly?_eq_some_iff.mp readHour
        obtain ⟨-, minuteText⟩ := digitsOnly?_eq_some_iff.mp readMinute
        simp only [Bool.and_eq_true, Bool.or_eq_true, beq_iff_eq, decide_eq_true_eq] at holds
        obtain ⟨⟨signed, hourLe⟩, minuteLe⟩ := holds
        refine ⟨.some _ hour minute signed hourLe minuteLe, ?_⟩
        simp only [List.length_cons, List.length_nil] at hourText minuteText
        simp [Offset.text, ← hourText, ← minuteText]
      · nomatch holds
    · nomatch holds
  · rintro ⟨offset, rfl⟩
    cases offset with
    | none mark universal => rcases universal with rfl | rfl <;> rfl
    | some sign hour minute signed hourLe minuteLe =>
        have readHour : digitsOnly? (padded 2 hour) = some hour := digitsOnly?_padded (by omega)
        have readMinute : digitsOnly? (padded 2 minute) = some minute :=
          digitsOnly?_padded (by omega)
        rw [padded_two] at readHour readMinute
        have isSign : (sign == '+' || sign == '-') = true := by simpa using signed
        simp only [Offset.text, padded_two, List.cons_append, List.nil_append, isOffset, readHour,
          readMinute, isSign, hourLe, minuteLe, decide_true, Bool.and_self]

/-- The texts of fractions of a second: nothing, or a point with digits behind it. -/
def IsFraction (cs : List Char)
    : Prop :=
  cs = [] ∨ ∃ digits, cs = '.' :: digits ∧ digits ≠ [] ∧ digits.all isAsciiDigit

/-- An offset begins with neither a point nor a digit. -/
theorem Offset.head_text (offset : Offset)
    : ∃ mark rest, offset.text = mark :: rest ∧ mark ≠ '.' ∧ isAsciiDigit mark = false := by
  cases offset with
  | none mark universal => exact ⟨mark, [], rfl, by rcases universal with rfl | rfl <;> decide⟩
  | some sign hour minute signed hourLe minuteLe =>
      exact ⟨sign, _, rfl, by rcases signed with rfl | rfl <;> decide⟩

/-- An offset may stand behind a fraction. -/
theorem isFractionAndOffset_iff {cs : List Char}
    : isFractionAndOffset cs
      ↔ ∃ fraction, ∃ offset : Offset, IsFraction fraction ∧ cs = fraction ++ offset.text := by
  constructor
  · intro holds
    unfold isFractionAndOffset at holds
    split at holds
    · rename_i rest
      obtain ⟨some, shifted⟩ := Bool.and_eq_true_iff.mp holds
      obtain ⟨offset, behind⟩ := isOffset_iff.mp shifted
      refine ⟨'.' :: rest.takeWhile isAsciiDigit, offset, Or.inr ⟨_, rfl, ?_, ?_⟩, ?_⟩
      · cases rest with
        | nil => nomatch some
        | cons digit rest =>
            have digit : isAsciiDigit digit := some
            simp [digit]
      · exact List.all_takeWhile
      · rw [← behind, List.cons_append, List.takeWhile_append_dropWhile]
    · obtain ⟨offset, behind⟩ := isOffset_iff.mp holds
      exact ⟨[], offset, Or.inl rfl, behind⟩
  · rintro ⟨fraction, offset, isFraction, rfl⟩
    have shifted := isOffset_iff.mpr ⟨offset, rfl⟩
    obtain ⟨mark, rest, behind, noPoint, noDigit⟩ := offset.head_text
    rcases isFraction with rfl | ⟨digits, rfl, some, all⟩
    · rw [behind] at shifted
      rw [List.nil_append, behind]
      unfold isFractionAndOffset
      split
      · rename_i same
        exact absurd (List.cons.inj same).1 noPoint
      · exact shifted
    · have all : ∀ digit ∈ digits, isAsciiDigit digit := List.all_eq_true.mp all
      have rest : (digits ++ offset.text).dropWhile isAsciiDigit = offset.text := by
        rw [List.dropWhile_append_of_pos all, behind,
          List.dropWhile_cons_of_neg (by simp [noDigit])]
      rw [List.cons_append, isFractionAndOffset, rest, shifted, Bool.and_true]
      cases digits with
      | nil => exact absurd rfl some
      | cons digit digits => exact all digit List.mem_cons_self

theorem CalendarDay.length_text (day : CalendarDay)
    : day.text.length = 10 := by
  simp [text, length_padded]

theorem TimeOfDay.length_text (time : TimeOfDay)
    : time.text.length = 8 := by
  simp [text, length_padded]

/-- A text is a date with a time exactly if a day and a time of day write it, with a letter between
them, a fraction or none, and an offset. -/
theorem isDateTime_iff {cs : List Char}
    : isDateTime cs
      ↔ ∃ (day : CalendarDay) (mark : Char) (time : TimeOfDay) (fraction : List Char)
          (offset : Offset),
          (mark = 'T' ∨ mark = 't')
          ∧ IsFraction fraction
          ∧ cs = day.text ++ mark :: (time.text ++ (fraction ++ offset.text)) := by
  constructor
  · intro holds
    unfold isDateTime at holds
    split at holds
    · rename_i mark rest behind
      simp only [Bool.and_eq_true, Bool.or_eq_true, beq_iff_eq] at holds
      obtain ⟨⟨⟨marked, date⟩, timed⟩, shifted⟩ := holds
      obtain ⟨day, dayText⟩ := isDate_iff.mp date
      obtain ⟨time, timeText⟩ := isTime_iff.mp timed
      obtain ⟨fraction, offset, isFraction, offsetText⟩ := isFractionAndOffset_iff.mp shifted
      refine ⟨day, mark, time, fraction, offset, marked, isFraction, ?_⟩
      rw [← offsetText, ← timeText, List.take_append_drop, ← dayText, ← behind,
        List.take_append_drop]
    · nomatch holds
  · rintro ⟨day, mark, time, fraction, offset, marked, isFraction, rfl⟩
    have isMark : (mark == 'T' || mark == 't') = true := by simpa using marked
    simp only [isDateTime, List.drop_left' day.length_text, List.take_left' day.length_text, isMark,
      isDate_iff.mpr ⟨day, rfl⟩, List.take_left' time.length_text,
      List.drop_left' time.length_text, isTime_iff.mpr ⟨time, rfl⟩,
      isFractionAndOffset_iff.mpr ⟨fraction, offset, isFraction, rfl⟩, Bool.and_self]

/-- The texts that pass the formats of dates, of times of day and of dates with times are those that
days of the calendar and times of day write, and no others: nothing stands before or behind them. -/
theorem clock_formats_pass_iff_written (s : String)
    : (Passes FormatRegistry.date s ↔ ∃ day : CalendarDay, s.toList = day.text)
      ∧ (Passes FormatRegistry.time s ↔ ∃ time : TimeOfDay, s.toList = time.text)
      ∧ (Passes FormatRegistry.dateTime s
        ↔ ∃ (day : CalendarDay) (mark : Char) (time : TimeOfDay) (fraction : List Char)
            (offset : Offset),
            (mark = 'T' ∨ mark = 't')
            ∧ IsFraction fraction
            ∧ s.toList = day.text ++ mark :: (time.text ++ (fraction ++ offset.text))) :=
  ⟨passes_date_iff.trans isDate_iff, passes_time_iff.trans isTime_iff,
    passes_dateTime_iff.trans isDateTime_iff⟩

example : isDate "0000-02-29".toList ∧ ¬isDate "1900-02-29".toList := by decide

example : ¬isTime "13:15:47\n".toList := by decide

end Assay.Format
