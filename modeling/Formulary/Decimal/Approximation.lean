import Formulary.Decimal.Binary64
import Formulary.Json.Value

/-!
# Doubles of number literals

A literal is taken as a significand below `2 ^ 64` times a power of ten.  The double of the literal is the significand
as a double, multiplied or divided by the power of ten as a double; with three roundings it can miss the double nearest
to the literal.
-/

namespace Formulary

namespace Significand

/-- The greatest significand is one less than this. -/
def bound : Nat := 18446744073709551616

/-- The leading digits of a number that make a significand, and how many digits come after them. -/
def ofWhole (n : Nat) : Nat × Nat :=
  if _h : n < bound then (n, 0)
  else
    let (s, dropped) := ofWhole (n / 10)
    (s, dropped + 1)
termination_by n
decreasing_by exact Nat.div_lt_self (Nat.lt_of_lt_of_le (by decide) (Nat.le_of_not_lt _h)) (by decide)

/-- A significand with the digits of a fraction added as long as it stays one, and how many of them were added. -/
def absorb (s : Nat) : List (Fin 10) → Nat × Nat
  | [] => (s, 0)
  | d :: ds =>
    if s * 10 + d.val < bound then
      let (s, added) := absorb (s * 10 + d.val) ds
      (s, added + 1)
    else (s, 0)

end Significand

namespace Binary64

/-- The greatest power of ten that is a double. -/
def maxPower : Nat := 308

/-- The power of ten as a double, for powers up to the greatest. -/
def pow10 (n : Nat) : Binary64 := (ofRatio? (Ratio.ofNat (tenTo n))).getD zero

/-- The double divided by a power of ten, in steps of the greatest power. -/
def divPow10? (x : Binary64) (n : Nat) : Option Binary64 :=
  if _h : n ≤ maxPower then x.div? (pow10 n)
  else if x.mantissa = 0 then some x
  else do
    let y ← x.div? (pow10 maxPower)
    divPow10? y (n - maxPower)
termination_by n
decreasing_by simp only [maxPower] at *; omega

/-- The double multiplied by a power of ten; none beyond the greatest double. -/
def mulPow10? (x : Binary64) (n : Nat) : Option Binary64 :=
  if n ≤ maxPower then x.mul? (pow10 n)
  else if x.mantissa = 0 then some x
  else none

end Binary64

/-- The double of a literal without its sign; none beyond the greatest double. -/
def JsonNumber.magnitude? (n : JsonNumber) : Option Binary64 := do
  let (whole, dropped) := Significand.ofWhole n.whole
  let (significand, added) := Significand.absorb whole n.fraction
  let power : Int := dropped - added + n.exponent.getD 0
  let x ← Binary64.ofRatio? (Ratio.ofNat significand)
  if 0 ≤ power then x.mulPow10? power.toNat else x.divPow10? (-power).toNat

end Formulary
