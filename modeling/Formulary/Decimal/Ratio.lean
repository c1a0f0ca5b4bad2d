/-!
# Ratios

Quotients of natural numbers, as exact values on the way from one way of writing numbers to another.
-/

namespace Formulary

/-- The power of ten. -/
def tenTo (n : Nat) : Nat := Nat.pow 10 n

/-- The number `num / den`. -/
structure Ratio where
  num : Nat
  den : Nat

namespace Ratio

def ofNat (n : Nat) : Ratio := ⟨n, 1⟩

/-- The number times a power of two. -/
def scaleTwo (r : Ratio) (e : Int) : Ratio :=
  if 0 ≤ e then ⟨r.num <<< e.toNat, r.den⟩ else ⟨r.num, r.den <<< (-e).toNat⟩

/-- The number times a power of ten. -/
def scaleTen (r : Ratio) (e : Int) : Ratio :=
  if 0 ≤ e then ⟨r.num * tenTo e.toNat, r.den⟩ else ⟨r.num, r.den * tenTo (-e).toNat⟩

def mul (r s : Ratio) : Ratio := ⟨r.num * s.num, r.den * s.den⟩

def div (r s : Ratio) : Ratio := ⟨r.num * s.den, r.den * s.num⟩

/-- Whether one number is less than another. -/
def lt (r s : Ratio) : Bool := r.num * s.den < s.num * r.den

/-- Whether one number is not greater than another. -/
def le (r s : Ratio) : Bool := r.num * s.den ≤ s.num * r.den

/-- The greatest integer that is not greater. -/
def floor (r : Ratio) : Nat := r.num / r.den

/-- Whether the greatest integer not above the number is the nearest; if it is as near as the next one, the even one of
the two is. -/
def floorIsNearest (r : Ratio) : Bool :=
  let twice := 2 * (r.num % r.den)
  twice < r.den || (twice = r.den && r.floor % 2 = 0)

/-- The nearest integer, of two equally near the even one. -/
def round (r : Ratio) : Nat := if r.floorIsNearest then r.floor else r.floor + 1

end Ratio

end Formulary
