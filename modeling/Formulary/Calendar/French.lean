import Formulary.Calendar.Date

/-!
# Dates in French

The long form of a date, as in `15 janvier 2025`, and the short label of a month, as in `Fév 2025`.  Neither pads its
numbers, and a year before the year zero has a minus sign.
-/

namespace Formulary.French

/-- The name of the month with this number. -/
def monthName : Nat → String
  | 1 => "janvier"
  | 2 => "février"
  | 3 => "mars"
  | 4 => "avril"
  | 5 => "mai"
  | 6 => "juin"
  | 7 => "juillet"
  | 8 => "août"
  | 9 => "septembre"
  | 10 => "octobre"
  | 11 => "novembre"
  | _ => "décembre"

/-- The abbreviation of the month with this number. -/
def monthAbbreviation : Nat → String
  | 1 => "Jan"
  | 2 => "Fév"
  | 3 => "Mar"
  | 4 => "Avr"
  | 5 => "Mai"
  | 6 => "Juin"
  | 7 => "Juil"
  | 8 => "Août"
  | 9 => "Sep"
  | 10 => "Oct"
  | 11 => "Nov"
  | _ => "Déc"

/-- The long form of a date: day, month and year. -/
def fullDate (d : Date) : String :=
  String.ofList (Numeral.ofNat d.day ++ ' ' :: (monthName d.month).toList ++ ' ' :: Numeral.ofInt d.year)

/-- The label of a month: its abbreviation and the year. -/
def shortMonth (m : Month) : String :=
  String.ofList ((monthAbbreviation m.number).toList ++ ' ' :: Numeral.ofInt m.year)

/-- The text shown for a form value: a date in wire form in its long form, any other value as it is. -/
def display (value : String) : String :=
  match Date.ofIso? value with
  | some d => fullDate d
  | none => value

end Formulary.French
