import SqlSelect.Number.Numeral
import SqlSelect.Text.Segment

/-!
# `SqlSelect.Calendar.Basic`: dates and times of day

Dates are those of the proleptic Gregorian calendar with astronomical year numbers. A time of day
counts nanoseconds within its second; 1 000 000 000 and more of them stand for a leap second after
second 59, which is written as second 60.

`Date.text`, `Time.text` and `DateTime.text` write the usual forms: a year from 0 to 9999 with
four digits and any other year with a sign and at least four, a time with the fewest of 0, 3, 6
or 9 places that show its fraction.
-/

set_option autoImplicit false

namespace SqlSelect

open Text Number

/-- Whether a year has a 29th of February. -/
def isLeapYear (year : Int) : Bool :=
  year % 4 == 0 && (year % 100 != 0 || year % 400 == 0)

/-- The number of days of a month. -/
def daysInMonth (year : Int) (month : Nat) : Nat :=
  if month = 2 then (if isLeapYear year then 29 else 28)
  else if month = 4 ∨ month = 6 ∨ month = 9 ∨ month = 11 then 30
  else 31

/-- A calendar date. -/
structure Date where
  year : Int
  month : Nat
  day : Nat
  year_mem : -262143 ≤ year ∧ year ≤ 262142
  month_mem : 1 ≤ month ∧ month ≤ 12
  day_mem : 1 ≤ day ∧ day ≤ daysInMonth year month
  deriving DecidableEq, Repr

/-- A time of day. -/
structure Time where
  hour : Nat
  minute : Nat
  second : Nat
  nano : Nat
  hour_lt : hour < 24
  minute_lt : minute < 60
  second_lt : second < 60
  nano_lt : nano < 1000000000 ∨ (second = 59 ∧ nano < 2000000000)
  deriving DecidableEq, Repr

/-- A date with a time of day. -/
structure DateTime where
  date : Date
  time : Time
  deriving DecidableEq, Repr

/-- A number with at least `width` digits. -/
def paddedNumber (width n : Nat) : String :=
  padStart width '0' (String.ofList (digits n))

namespace Date

/-- The date of a year, a month and a day, if there is one. -/
def ofParts? (year : Int) (month day : Nat) : Option Date :=
  if h : (-262143 ≤ year ∧ year ≤ 262142) ∧ (1 ≤ month ∧ month ≤ 12) ∧
      (1 ≤ day ∧ day ≤ daysInMonth year month) then
    some ⟨year, month, day, h.1, h.2.1, h.2.2⟩
  else none

/-- The year with four digits, outside 0 to 9999 with a sign and at least four. -/
def yearText (year : Int) : String :=
  if 0 ≤ year ∧ year ≤ 9999 then paddedNumber 4 year.toNat
  else (if year < 0 then "-" else "+") ++ paddedNumber 4 year.natAbs

/-- Year, month and day with `separator` between them. -/
def layout (separator : String) (d : Date) : String :=
  yearText d.year ++ separator ++ paddedNumber 2 d.month ++ separator ++ paddedNumber 2 d.day

/-- The date as `2024-01-15`. -/
def text (d : Date) : String :=
  d.layout "-"

end Date

namespace Time

/-- The time of the given parts, if there is one. -/
def ofParts? (hour minute second nano : Nat) : Option Time :=
  if h : hour < 24 ∧ minute < 60 ∧ second < 60 ∧
      (nano < 1000000000 ∨ (second = 59 ∧ nano < 2000000000)) then
    some ⟨hour, minute, second, nano, h.1, h.2.1, h.2.2.1, h.2.2.2⟩
  else none

/-- The second as written, 60 for a leap second. -/
def writtenSecond (t : Time) : Nat :=
  t.second + t.nano / 1000000000

/-- Hour, minute and second with `separator` between them, without the fraction. -/
def layout (separator : String) (t : Time) : String :=
  paddedNumber 2 t.hour ++ separator ++ paddedNumber 2 t.minute ++ separator ++
    paddedNumber 2 t.writtenSecond

/-- The fraction of the second with the fewest of 0, 3, 6 or 9 places that show all of it. -/
def fractionText (t : Time) : String :=
  let fraction := t.nano % 1000000000
  if fraction = 0 then ""
  else if fraction % 1000000 = 0 then "." ++ paddedNumber 3 (fraction / 1000000)
  else if fraction % 1000 = 0 then "." ++ paddedNumber 6 (fraction / 1000)
  else "." ++ paddedNumber 9 fraction

/-- The time as `10:30:05.250`. -/
def text (t : Time) : String :=
  t.layout ":" ++ t.fractionText

end Time

namespace DateTime

/-- Date and time with `separator` between them. -/
def textWith (separator : String) (dt : DateTime) : String :=
  dt.date.text ++ separator ++ dt.time.text

/-- The date, a blank and the time. -/
def text (dt : DateTime) : String :=
  dt.textWith " "

end DateTime

end SqlSelect
