import Formulary.Text.Numeral

/-!
# Dates and months

Days of the proleptic Gregorian calendar, with a year zero and negative years before it, in the range of years that
the calendar covers.  The wire form of a date is `YYYY-MM-DD`.
-/

namespace Formulary

/-- The first year of the calendar. -/
def firstYear : Int := -262143

/-- The last year of the calendar. -/
def lastYear : Int := 262142

/-- Every fourth year is a leap year, but of the full centuries only every fourth. -/
def isLeapYear (year : Int) : Bool :=
  year % 4 == 0 && (year % 100 != 0 || year % 400 == 0)

/-- The number of days of a month. -/
def daysInMonth (year : Int) (month : Nat) : Nat :=
  if month = 2 then (if isLeapYear year then 29 else 28)
  else if month = 4 ∨ month = 6 ∨ month = 9 ∨ month = 11 then 30
  else 31

/-- A month of a year. -/
structure Month where
  year : Int
  number : Nat
  number_mem : 1 ≤ number ∧ number ≤ 12 := by omega
deriving DecidableEq

/-- A day of the calendar. -/
structure Date where
  year : Int
  month : Nat
  day : Nat
  year_mem : firstYear ≤ year ∧ year ≤ lastYear
  month_mem : 1 ≤ month ∧ month ≤ 12
  day_mem : 1 ≤ day ∧ day ≤ daysInMonth year month
deriving DecidableEq

namespace Month

/-- Months are numbered without a gap, from the first month of the year zero. -/
def index (m : Month) : Int := m.year * 12 + ((m.number : Int) - 1)

/-- The month with a given index. -/
def ofIndex (i : Int) : Month where
  year := i / 12
  number := (i % 12).toNat + 1

end Month

namespace Date

/-- The date with these numbers, if there is one. -/
def ofNumbers? (year : Int) (month day : Nat) : Option Date :=
  if h : (firstYear ≤ year ∧ year ≤ lastYear) ∧ (1 ≤ month ∧ month ≤ 12)
      ∧ 1 ≤ day ∧ day ≤ daysInMonth year month then
    some ⟨year, month, day, h.1, h.2.1, h.2.2⟩
  else none

/-- The month in which a date lies. -/
def inMonth (d : Date) : Month := ⟨d.year, d.month, d.month_mem⟩

/-- The day after, unless the calendar ends. -/
def next? (d : Date) : Option Date :=
  if d.day < daysInMonth d.year d.month then ofNumbers? d.year d.month (d.day + 1)
  else if d.month < 12 then ofNumbers? d.year (d.month + 1) 1
  else ofNumbers? (d.year + 1) 1 1

/-- The day before, unless the calendar begins. -/
def previous? (d : Date) : Option Date :=
  if 1 < d.day then ofNumbers? d.year d.month (d.day - 1)
  else if 1 < d.month then ofNumbers? d.year (d.month - 1) (daysInMonth d.year (d.month - 1))
  else ofNumbers? (d.year - 1) 12 31

/-- The digits of year, month and day in a text of the shape `YYYY-MM-DD`. -/
def isoDigits? : List Char → Option (List Char × List Char × List Char)
  | [y₁, y₂, y₃, y₄, '-', m₁, m₂, '-', d₁, d₂] =>
    if [y₁, y₂, y₃, y₄, m₁, m₂, d₁, d₂].all Char.isDigit then some ([y₁, y₂, y₃, y₄], [m₁, m₂], [d₁, d₂])
    else none
  | _ => none

/-- The date that a text in wire form names, if that day exists. -/
def ofIso? (s : String) : Option Date := do
  let (year, month, day) ← isoDigits? s.toList
  ofNumbers? (Numeral.value year) (Numeral.value month) (Numeral.value day)

/-- The wire form of a date, which fits years of four digits. -/
def iso (d : Date) : String :=
  String.ofList (Numeral.padded 4 d.year.toNat ++ '-' :: Numeral.padded 2 d.month ++ '-' :: Numeral.padded 2 d.day)

end Date

end Formulary
