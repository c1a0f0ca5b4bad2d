import Formulary.Decimal.Binary64
import Formulary.Text.Numeral

/-!
# Shortest decimals

The decimal with the fewest digits among those that read back as a given double, the nearest of them to it.
-/

namespace Formulary

/-- The number `significand * 10 ^ power`. -/
structure Decimal where
  significand : Nat
  power : Int
deriving DecidableEq

namespace Decimal

/-- The exact value. -/
def toRatio (d : Decimal) : Ratio := (Ratio.ofNat d.significand).scaleTen d.power

/-- The digits of the significand. -/
def digits (d : Decimal) : List Char := Numeral.ofNat d.significand

/-- The power of ten of the first digit. -/
def leading (d : Decimal) : Int := d.power + (d.digits.length - 1 : Int)

/-- The same number without zeros at the end of its significand. -/
def strip (d : Decimal) : Decimal :=
  if h : 0 < d.significand ∧ d.significand % 10 = 0 then strip ⟨d.significand / 10, d.power + 1⟩ else d
termination_by d.significand
decreasing_by exact Nat.div_lt_self h.1 (by decide)

/-- The number in plain decimals, with at least one digit on either side of the point. -/
def plain (d : Decimal) : List Char :=
  let ds := d.digits
  if d.leading < 0 then '0' :: '.' :: List.replicate (-d.leading - 1).toNat '0' ++ ds
  else
    let whole := d.leading.toNat + 1
    if ds.length ≤ whole then ds ++ List.replicate (whole - ds.length) '0' ++ ['.', '0']
    else ds.take whole ++ '.' :: ds.drop whole

/-- The number with one digit before the point, no point if that is the only one, and a signed power of ten. -/
def scientific (d : Decimal) : List Char :=
  let ds := d.digits
  let point := if ds.length ≤ 1 then [] else ['.']
  ds.take 1 ++ point ++ ds.drop 1 ++ 'e' :: (if d.leading < 0 then '-' else '+') :: Numeral.ofNat d.leading.natAbs

end Decimal

/-- The power of ten of the first digit of a number that is not zero. -/
def Ratio.leading (r : Ratio) : Int :=
  if r.den ≤ r.num then ((Numeral.ofNat r.floor).length : Int) - 1
  else -((Numeral.ofNat ((r.den + r.num - 1) / r.num - 1)).length : Int)

namespace Binary64

/-- The decimals just below and just above `x` whose last digit has a given power of ten, the nearer one first. -/
def neighbours (x : Binary64) (power : Int) : List Decimal :=
  let r := x.toRatio.scaleTen (-power)
  if r.floorIsNearest then [⟨r.floor, power⟩, ⟨r.floor + 1, power⟩] else [⟨r.floor + 1, power⟩, ⟨r.floor, power⟩]

/-- The shortest decimal that reads back as `x`, of those the nearest; seventeen digits always suffice. -/
def shortest (x : Binary64) : Decimal :=
  if x.mantissa = 0 then ⟨0, 0⟩
  else
    let first := x.toRatio.leading
    let found := (List.range 17).findSome? fun (i : Nat) =>
      (x.neighbours (first - i)).find? (fun d => x.admits d.toRatio)
    (found.getD ⟨0, 0⟩).strip

end Binary64

end Formulary
