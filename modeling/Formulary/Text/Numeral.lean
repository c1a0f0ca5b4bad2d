/-!
# Numerals

Numbers in ASCII digits, most significant first, and the numbers that such digits stand for: decimal ones, and
hexadecimal ones, which are read in either case and written in lower case.
-/

namespace Formulary.Numeral

/-- The digits of `n`, without leading zeros. -/
def ofNat (n : Nat) : List Char := Nat.toDigits 10 n

/-- The numeral of an integer; a negative one starts with a minus sign. -/
def ofInt (i : Int) : List Char :=
  if i < 0 then '-' :: ofNat i.natAbs else ofNat i.natAbs

/-- The numeral of `n` with as many leading zeros as `width` digits need. -/
def padded (width n : Nat) : List Char :=
  List.replicate (width - (ofNat n).length) '0' ++ ofNat n

/-- The number that a sequence of digits stands for. -/
def value (digits : List Char) : Nat := Nat.ofDigitChars 10 digits 0

theorem value_ofNat (n : Nat) : value (ofNat n) = n :=
  Nat.ofDigitChars_toDigits (by decide) (by decide)

/-- The first digits of a text, at most `width` of them, and what follows. -/
def spanDigits : Nat → List Char → List Char × List Char
  | width + 1, c :: cs =>
    if c.isDigit then
      let (digits, rest) := spanDigits width cs
      (c :: digits, rest)
    else ([], c :: cs)
  | _, cs => ([], cs)

/-- A text of digits alone, and at least one. -/
def isNumeral (cs : List Char) : Bool := !cs.isEmpty && cs.all Char.isDigit

/-- An integer written as an optional sign and one or more digits. -/
def readInt? : List Char → Option Int
  | '+' :: cs => if isNumeral cs then some (value cs) else none
  | '-' :: cs => if isNumeral cs then some (-(value cs : Int)) else none
  | cs => if isNumeral cs then some (value cs) else none

end Formulary.Numeral

namespace Formulary.Hex

/-- The number that one digit stands for. -/
def digit? (c : Char) : Option Nat :=
  if '0' ≤ c ∧ c ≤ '9' then some (c.toNat - 0x30)
  else if 'a' ≤ c ∧ c ≤ 'f' then some (c.toNat - 0x57)
  else if 'A' ≤ c ∧ c ≤ 'F' then some (c.toNat - 0x37)
  else none

/-- The number that a sequence of digits stands for, most significant first. -/
def value? (digits : List Char) : Option Nat :=
  digits.foldlM (fun n c => (digit? c).map (n * 16 + ·)) 0

/-- The numeral of `n` with as many leading zeros as `width` digits need. -/
def padded (width n : Nat) : List Char :=
  List.replicate (width - (Nat.toDigits 16 n).length) '0' ++ Nat.toDigits 16 n

end Formulary.Hex
