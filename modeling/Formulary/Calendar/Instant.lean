import Formulary.Calendar.Date
import Formulary.Text.Pieces

/-!
# Instants

A moment in universal time, to the nanosecond; the second numbered 60 is a leap second.  The written form is the
timestamp `YYYY-MM-DDTHH:MM:SS[.fff]Z`, and the form that is read is wider: any offset from universal time, white space
before each field, and numbers without leading zeros.
-/

namespace Formulary

/-- A moment in universal time. -/
structure Instant where
  date : Date
  hour : Nat
  minute : Nat
  second : Nat
  nano : Nat
  hour_lt : hour < 24
  minute_lt : minute < 60
  second_le : second ≤ 60
  nano_lt : nano < 1000000000
deriving DecidableEq

namespace Instant

/-- A number that is greater for a later instant and different for a different one. -/
def rank (t : Instant) : Int :=
  let months := t.date.inMonth.index
  (((((months * 31 + ((t.date.day : Int) - 1)) * 24 + t.hour) * 60 + t.minute) * 61 + t.second) * 1000000000) + t.nano

/-- The instant that a clock shows which is `offset` minutes ahead of universal time. -/
def ofLocal? (date : Date) (hour minute second nano : Nat) (offset : Int) : Option Instant := do
  let minutes : Int := hour * 60 + minute - offset
  let date ←
    if minutes / 1440 = 0 then some date
    else if minutes / 1440 = 1 then date.next?
    else if minutes / 1440 = -1 then date.previous?
    else none
  let ofDay := (minutes % 1440).toNat
  if h : second ≤ 60 ∧ nano < 1000000000 then
    some ⟨date, ofDay / 60, ofDay % 60, second, nano, by omega, by omega, h.1, h.2⟩
  else none

/-! ### Reading -/

/-- A number of one to `width` digits at the start of a text, and what follows. -/
def number? (width : Nat) (cs : List Char) : Option (Nat × List Char) :=
  match Numeral.spanDigits width cs with
  | ([], _) => none
  | (digits, rest) => some (Numeral.value digits, rest)

/-- A field of one or two digits after white space. -/
def field? (cs : List Char) : Option (Nat × List Char) := number? 2 (Text.dropBlanks cs)

/-- A year after white space: with a sign any number of digits, without one at most four. -/
def year? (cs : List Char) : Option (Int × List Char) :=
  match Text.dropBlanks cs with
  | '-' :: rest => (number? rest.length rest).map (fun (n, rest) => (-(n : Int), rest))
  | '+' :: rest => (number? rest.length rest).map (fun (n, rest) => ((n : Int), rest))
  | rest => (number? 4 rest).map (fun (n, rest) => ((n : Int), rest))

/-- What follows the mark `c`, which may stand after white space. -/
def after? (c : Char) (cs : List Char) : Option (List Char) :=
  match Text.dropBlanks cs with
  | d :: rest => if d = c then some rest else none
  | [] => none

/-- The nanoseconds of a fraction after a point, if there is one; digits after the ninth do not count. -/
def fraction? : List Char → Option (Nat × List Char)
  | '.' :: cs =>
    match Numeral.spanDigits 9 cs with
    | ([], _) => none
    | (digits, rest) =>
      some (Numeral.value (digits ++ List.replicate (9 - digits.length) '0'), rest.dropWhile Char.isDigit)
  | cs => some (0, cs)

/-- The minutes of an offset after its sign: two digits of hours, two of minutes, colons and white space between. -/
def offsetMinutes? : List Char → Option (Nat × List Char)
  | h₁ :: h₂ :: cs =>
    match cs.dropWhile (fun c => c = ':' ∨ Text.isBlank c) with
    | m₁ :: m₂ :: rest =>
      let hours := Numeral.value [h₁, h₂]
      let minutes := Numeral.value [m₁, m₂]
      if [h₁, h₂, m₁, m₂].all Char.isDigit ∧ minutes < 60 ∧ hours < 24 then some (hours * 60 + minutes, rest)
      else none
    | _ => none
  | _ => none

/-- The offset from universal time at the start of a text, in minutes: `UTC` or `Z` in either case, or a sign and the
offset, where the minus sign of typography counts as one. -/
def offset? : List Char → Option (Int × List Char)
  | 'Z' :: rest => some (0, rest)
  | 'z' :: rest => some (0, rest)
  | '+' :: rest => (offsetMinutes? rest).map (fun (n, rest) => ((n : Int), rest))
  | '-' :: rest => (offsetMinutes? rest).map (fun (n, rest) => (-(n : Int), rest))
  | '−' :: rest => (offsetMinutes? rest).map (fun (n, rest) => (-(n : Int), rest))
  | u :: t :: c :: rest => if [u, t, c].map Char.toUpper = ['U', 'T', 'C'] then some (0, rest) else none
  | _ => none

/-- The instant that a timestamp names. -/
def ofChars? (cs : List Char) : Option Instant := do
  let (year, cs) ← year? cs
  let (month, cs) ← field? (← after? '-' cs)
  let (day, cs) ← field? (← after? '-' cs)
  let cs ← match cs with
    | c :: rest => if c = 'T' ∨ c = 't' ∨ c = ' ' then some rest else none
    | [] => none
  let (hour, cs) ← field? cs
  let (minute, cs) ← field? (← after? ':' cs)
  let (second, cs) ← field? (← after? ':' cs)
  let (nano, cs) ← fraction? cs
  let (offset, cs) ← offset? (Text.dropBlanks cs)
  let date ← Date.ofNumbers? year month day
  if Text.dropBlanks cs = [] ∧ hour < 24 ∧ minute < 60 then ofLocal? date hour minute second nano offset
  else none

/-- The instant that a timestamp names. -/
def ofTimestamp? (s : String) : Option Instant := ofChars? s.toList

/-! ### Writing -/

/-- A year of four digits as such, any other with its sign and at least four digits. -/
def yearChars (year : Int) : List Char :=
  if 0 ≤ year ∧ year ≤ 9999 then Numeral.padded 4 year.natAbs
  else (if year < 0 then '-' else '+') :: Numeral.padded 4 year.natAbs

/-- The fraction of a second: nothing, or a point and the least of 3, 6 and 9 digits that loses nothing. -/
def fractionChars (nano : Nat) : List Char :=
  if nano = 0 then []
  else if nano % 1000000 = 0 then '.' :: Numeral.padded 3 (nano / 1000000)
  else if nano % 1000 = 0 then '.' :: Numeral.padded 6 (nano / 1000)
  else '.' :: Numeral.padded 9 nano

/-- The timestamp of an instant in universal time. -/
def timestamp (t : Instant) : String :=
  let date := yearChars t.date.year ++ '-' :: Numeral.padded 2 t.date.month ++ '-' :: Numeral.padded 2 t.date.day
  let time := Numeral.padded 2 t.hour ++ ':' :: Numeral.padded 2 t.minute ++ ':' :: Numeral.padded 2 t.second
  String.ofList (date ++ 'T' :: time ++ fractionChars t.nano ++ ['Z'])

end Instant

end Formulary
