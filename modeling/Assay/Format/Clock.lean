import Assay.Number.Reading

/-!
Dates and times of day as texts: fixed numbers of ASCII digits between fixed marks, and nothing
before or after them.
-/

namespace Assay.Format
open Number

/-- The value of a text of ASCII digits. -/
def digitsOnly? (cs : List Char)
    : Option Nat :=
  if cs.all isAsciiDigit then some (digitsValue cs) else none

/-- Whether a year has a leap day: each fourth does, of the hundredth years only each fourth. -/
def isLeapYear (year : Nat)
    : Bool :=
  year % 4 == 0 && (year % 100 != 0 || year % 400 == 0)

/-- The number of days of a month. -/
def monthLength (year month : Nat)
    : Nat :=
  if month = 2 then if isLeapYear year then 29 else 28
  else if month = 4 ∨ month = 6 ∨ month = 9 ∨ month = 11 then 30
  else 31

/-- Whether the calendar has a day. -/
def isCalendarDay (year month day : Nat)
    : Bool :=
  1 ≤ month && month ≤ 12 && 1 ≤ day && day ≤ monthLength year month

/-- Whether a text is a date: four digits, two and two, with hyphens between them. -/
def isDate
    : List Char → Bool
  | [y₁, y₂, y₃, y₄, '-', m₁, m₂, '-', d₁, d₂] =>
      match digitsOnly? [y₁, y₂, y₃, y₄], digitsOnly? [m₁, m₂], digitsOnly? [d₁, d₂] with
      | some year, some month, some day => isCalendarDay year month day
      | _, _, _ => false
  | _ => false

/-- Whether a text is a time of day: three times two digits with colons between them. -/
def isTime
    : List Char → Bool
  | [h₁, h₂, ':', m₁, m₂, ':', s₁, s₂] =>
      match digitsOnly? [h₁, h₂], digitsOnly? [m₁, m₂], digitsOnly? [s₁, s₂] with
      | some hour, some minute, some second => hour ≤ 23 && minute ≤ 59 && second ≤ 59
      | _, _, _ => false
  | _ => false

/-- Whether a text is an offset from universal time: a letter for none, or a sign with hours and
minutes. -/
def isOffset
    : List Char → Bool
  | ['Z'] | ['z'] => true
  | [sign, h₁, h₂, ':', m₁, m₂] =>
      match digitsOnly? [h₁, h₂], digitsOnly? [m₁, m₂] with
      | some hour, some minute => (sign == '+' || sign == '-') && hour ≤ 23 && minute ≤ 59
      | _, _ => false
  | _ => false

/-- Whether a text is an offset with or without a fraction of a second before it. -/
def isFractionAndOffset
    : List Char → Bool
  | '.' :: rest => rest.head?.any isAsciiDigit && isOffset (rest.dropWhile isAsciiDigit)
  | rest => isOffset rest

/-- Whether a text is a date, a time of day and an offset from universal time. -/
def isDateTime (cs : List Char)
    : Bool :=
  match cs.drop 10 with
  | mark :: rest =>
      (mark == 'T' || mark == 't') && isDate (cs.take 10) && isTime (rest.take 8)
        && isFractionAndOffset (rest.drop 8)
  | [] => false

end Assay.Format
