import Formulary.Calendar.Date
import Formulary.Template.Variable
import Formulary.Text.Pieces

/-!
# Values of a form

When a value is a number, an email address or one of the options of a choice.  A number has an optional sign and digits
with an optional point inside or before them.  An address is a local part of atoms with dots between, an `@`, and a
domain of at least two labels, the last of letters alone.
-/

namespace Formulary.FormValue

/-! ### Numbers -/

/-- Digits, digits around a point, or a point and digits. -/
def isUnsignedNumber (cs : List Char) : Bool :=
  match cs.dropWhile Char.isDigit with
  | [] => Numeral.isNumeral cs
  | '.' :: fraction => Numeral.isNumeral fraction
  | _ => false

def isNumber : List Char → Bool
  | '+' :: cs => isUnsignedNumber cs
  | '-' :: cs => isUnsignedNumber cs
  | cs => isUnsignedNumber cs

/-! ### Email addresses -/

/-- The characters of an atom. -/
def isAtomChar (c : Char) : Bool := c.isAlphanum || "!#$%&'*+/=?^_`\x7b|\x7d~-".toList.contains c

def isAtom (cs : List Char) : Bool := !cs.isEmpty && cs.all isAtomChar

/-- One to 63 letters, digits and hyphens, without a hyphen at either end. -/
def isLabel (cs : List Char) : Bool :=
  !cs.isEmpty && cs.length ≤ 63 && cs.all (fun c => c.isAlphanum || c = '-')
    && cs.head? != some '-' && cs.getLast? != some '-'

/-- Two to 63 letters. -/
def isTopLabel (cs : List Char) : Bool := 2 ≤ cs.length && cs.length ≤ 63 && cs.all Char.isAlpha

/-- At least two labels with dots between. -/
def isDomain (cs : List Char) : Bool :=
  let labels := Text.split '.' cs
  2 ≤ labels.length && labels.dropLast.all isLabel && labels.getLast?.any isTopLabel

/-- The form of an address, of whatever length. -/
def isAddress (cs : List Char) : Bool :=
  match cs.dropWhile (· ≠ '@') with
  | [] => false
  | _ :: domain => (Text.split '.' (cs.takeWhile (· ≠ '@'))).all isAtom && isDomain domain

/-- The greatest length of an address. -/
def maxAddressLength : Nat := 254

/-- The greatest length of the local part of an address. -/
def maxLocalLength : Nat := 64

/-- An address within the limits of length. -/
def isEmail (cs : List Char) : Bool :=
  isAddress cs && cs.length ≤ maxAddressLength && (cs.takeWhile (· ≠ '@')).length ≤ maxLocalLength

end Formulary.FormValue
