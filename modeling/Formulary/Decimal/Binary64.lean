import Formulary.Decimal.Ratio

/-!
# Doubles

The finite floating-point numbers of 64 bits that are not negative, as exact values, and the arithmetic on them that
rounds an exact result to the nearest, of two equally near the one with an even mantissa.
-/

namespace Formulary

/-- The number `mantissa * 2 ^ exponent`.  The mantissa has 53 binary digits unless the exponent is the least one. -/
structure Binary64 where
  mantissa : Nat
  exponent : Int
  mantissa_lt : mantissa < 9007199254740992
  exponent_mem : -1074 ≤ exponent ∧ exponent ≤ 971
  normal : 4503599627370496 ≤ mantissa ∨ exponent = -1074
deriving DecidableEq

namespace Binary64

def zero : Binary64 := ⟨0, -1074, by decide, by decide, Or.inr rfl⟩

/-- The least mantissa of 53 binary digits. -/
def leastNormal : Nat := 4503599627370496

/-- The double with this mantissa and exponent, if there is one. -/
def ofParts? (mantissa : Nat) (exponent : Int) : Option Binary64 :=
  if h : mantissa < 9007199254740992 ∧ (-1074 ≤ exponent ∧ exponent ≤ 971)
      ∧ (4503599627370496 ≤ mantissa ∨ exponent = -1074) then
    some ⟨mantissa, exponent, h.1, h.2.1, h.2.2⟩
  else none

/-- The exact value. -/
def toRatio (x : Binary64) : Ratio := (Ratio.ofNat x.mantissa).scaleTwo x.exponent

/-- The exponent at which a number has a mantissa of 53 binary digits, or the least exponent. -/
def exponentOf (r : Ratio) : Int :=
  let e : Int := (r.num.log2 : Int) - r.den.log2 - 52
  max (if (r.scaleTwo (-e)).lt (Ratio.ofNat leastNormal) then e - 1 else e) (-1074)

/-- The double nearest to a number; none if that is beyond the greatest. -/
def ofRatio? (r : Ratio) : Option Binary64 :=
  if r.num = 0 then some zero
  else
    let e := exponentOf r
    let m := (r.scaleTwo (-e)).round
    if m = 2 * leastNormal then ofParts? leastNormal (e + 1) else ofParts? m e

/-- The rounded product; none beyond the greatest double. -/
def mul? (x y : Binary64) : Option Binary64 := ofRatio? (x.toRatio.mul y.toRatio)

/-- The rounded quotient; none beyond the greatest double. -/
def div? (x y : Binary64) : Option Binary64 := ofRatio? (x.toRatio.div y.toRatio)

/-- The ends of the interval of numbers that round to a double that is not zero. -/
def interval (x : Binary64) : Ratio × Ratio :=
  let below := if x.mantissa = leastNormal ∧ x.exponent ≠ -1074 then 1 else 2
  ((Ratio.ofNat (4 * x.mantissa - below)).scaleTwo (x.exponent - 2),
    (Ratio.ofNat (4 * x.mantissa + 2)).scaleTwo (x.exponent - 2))

/-- Whether a number rounds to `x`; the ends of the interval do if the mantissa is even. -/
def admits (x : Binary64) (r : Ratio) : Bool :=
  let (low, high) := x.interval
  if x.mantissa % 2 = 0 then low.le r && r.le high else low.lt r && r.lt high

end Binary64

end Formulary
