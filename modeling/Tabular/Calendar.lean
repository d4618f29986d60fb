import Tabular.Decimal.Binary
import Tabular.Decimal.Numeral
import Tabular.Text.Blank
import Tabular.Text.Letter
import Tabular.Text.Pad

/-!
# Calendar dates

Dates of the Gregorian calendar, extended to all years, with the year 0 before the year 1.

* `Date.number` counts the days since the first day of the year 1, and `Date.ofNumber` finds
  the day of a number.
* `Date.iso` writes a date as year, month and day.
* `normalizeDate?` reads the common spellings of a date; `isStrictDate` knows the shape of
  the written form.
* `dateOfSerial?` is the day of a spreadsheet's serial number.
-/

namespace Tabular

/-- A day of the calendar. -/
structure Date where
  year : Int
  month : Nat
  day : Nat
  deriving DecidableEq, Repr

namespace Date

/-- Every fourth year is a leap year, of the centuries every fourth. -/
def isLeap (year : Int) : Bool := year % 4 == 0 && (year % 100 != 0 || year % 400 == 0)

/-- The length of a month. -/
def daysInMonth (year : Int) : Nat → Nat
  | 2 => if isLeap year then 29 else 28
  | 4 | 6 | 9 | 11 => 30
  | _ => 31

/-- The day exists. -/
def isReal (d : Date) : Bool :=
  1 ≤ d.month && d.month ≤ 12 && 1 ≤ d.day && d.day ≤ daysInMonth d.year d.month

/-- The count of days from the first day of the year 1 to the first day of a year. -/
def daysBefore (year : Int) : Int :=
  365 * (year - 1) + (year - 1).fdiv 4 - (year - 1).fdiv 100 + (year - 1).fdiv 400

/-- The count of days of a year before a month. -/
def daysBeforeMonth (year : Int) : Nat → Nat
  | 0 => 0
  | 1 => 0
  | m + 1 => daysBeforeMonth year m + daysInMonth year m

/-- The number of a day, counted from the first day of the year 1. -/
def number (d : Date) : Int := daysBefore d.year + daysBeforeMonth d.year d.month + (d.day - 1)

/-- The year that a day lies in. Four hundred years have 146097 days, so the first guess is
off by one year at most. -/
def yearOf (n : Int) : Int :=
  let guess := (400 * n).fdiv 146097 + 1
  if n < daysBefore guess then guess - 1
  else if n < daysBefore (guess + 1) then guess
  else guess + 1

/-- Finds the month of the `rest`-th day of a year, from month `m` on, within `fuel` months. -/
def monthFrom (year : Int) : Nat → Nat → Nat → Nat × Nat
  | 0, m, rest => (m, rest)
  | fuel + 1, m, rest =>
    if rest < daysInMonth year m then (m, rest)
    else monthFrom year fuel (m + 1) (rest - daysInMonth year m)

/-- The day of a number. -/
def ofNumber (n : Int) : Date :=
  let year := yearOf n
  let (month, rest) := monthFrom year 11 1 (n - daysBefore year).toNat
  ⟨year, month, rest + 1⟩

/-- The year with at least four digits; years outside 0 to 9999 have a sign. -/
def yearText (year : Int) : String :=
  (if year < 0 then "-" else if year > 9999 then "+" else "") ++ padZeros 4 year.natAbs

/-- A date as year, month and day. -/
def iso (d : Date) : String :=
  yearText d.year ++ "-" ++ padZeros 2 d.month ++ "-" ++ padZeros 2 d.day

/-- Dates outside these years are not represented. -/
def inRange (d : Date) : Bool := -262143 ≤ d.year && d.year ≤ 262142

end Date

/-- Year, month and day in the written form: ten characters, digits of any script. -/
def isStrictDate (s : String) : Bool :=
  match s.toList with
  | [y₁, y₂, y₃, y₄, '-', m₁, m₂, '-', d₁, d₂] =>
    [y₁, y₂, y₃, y₄, m₁, m₂, d₁, d₂].all isDecimalDigit
  | _ => false

/-- What stands between the numbers of a date. -/
def isDateSeparator (c : Char) : Bool := c == '-' || c == '/' || c == '.'

/-- One or two digits in front, and what follows them. -/
def shortNumber? : List Char → Option (Nat × List Char)
  | c :: d :: rest =>
    if isDigit c then
      if isDigit d then some (digitsValue [c, d], rest) else some (digitValue c, d :: rest)
    else none
  | [c] => if isDigit c then some (digitValue c, []) else none
  | [] => none

/-- What may follow a date: nothing, or a blank or a `T` and more text on the line. -/
def isDateTail : List Char → Bool
  | [] => true
  | c :: rest => (c == ' ' || c == 'T') && !rest.contains '\n'

/-- Reads a date with four digits for the year, one or two for month and day, and
possibly a time after it. -/
def Date.read? (cs : List Char) : Option Date := do
  match cs with
  | y₁ :: y₂ :: y₃ :: y₄ :: s :: rest =>
    if [y₁, y₂, y₃, y₄].all isDigit && isDateSeparator s then
      let (month, rest) ← shortNumber? rest
      match rest with
      | t :: rest =>
        if isDateSeparator t then
          let (day, rest) ← shortNumber? rest
          let d : Date := ⟨digitsValue [y₁, y₂, y₃, y₄], month, day⟩
          if isDateTail rest && d.isReal then some d else none
        else none
      | [] => none
    else none
  | _ => none

/-- **The written form of a date that a text spells**, blanks around it left aside. -/
def normalizeDate? (s : String) : Option String := (Date.read? (trim s.toList)).map Date.iso

/-- Day zero of spreadsheet serial numbers. -/
def serialEpoch : Date := ⟨1899, 12, 30⟩

/-- The date of a serial number, whose fraction is the time of day. -/
def dateOfSerial? (serial : Float) : Option Date := do
  let n ← (Binary.ofFloat serial).floor
  let d := Date.ofNumber (serialEpoch.number + n)
  if d.inRange then some d else none

end Tabular
