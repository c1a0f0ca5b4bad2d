import Formulary.Decimal.Shortest
import Mathlib.Algebra.Order.Field.Power
import Mathlib.Algebra.Order.Floor.Semifield
import Mathlib.Data.Int.Log
import Mathlib.Data.Rat.Floor
import Mathlib.Tactic.FieldSimp
import Mathlib.Tactic.Linarith
import Mathlib.Tactic.NormNum
import Mathlib.Tactic.Positivity

/-!
# Ratios as rational numbers

The operations on ratios with a denominator are those of the rational numbers.
-/

namespace Formulary

namespace Ratio

/-- The rational number. -/
def toRat (r : Ratio) : ℚ := r.num / r.den

variable {r s : Ratio}

theorem toRat_ofNat (n : Nat) : (ofNat n).toRat = n := by simp [toRat, ofNat]

theorem den_scaleTwo_pos (hr : 0 < r.den) (e : Int) : 0 < (r.scaleTwo e).den := by
  unfold scaleTwo
  split
  · exact hr
  · rw [Nat.shiftLeft_eq]
    positivity

theorem den_scaleTen_pos (hr : 0 < r.den) (e : Int) : 0 < (r.scaleTen e).den := by
  unfold scaleTen tenTo
  split
  · exact hr
  · exact Nat.mul_pos hr (Nat.pow_pos (by decide))

theorem toRat_scaleTwo (r : Ratio) (e : Int) : (r.scaleTwo e).toRat = r.toRat * 2 ^ e := by
  unfold scaleTwo
  split
  next he =>
    obtain ⟨n, rfl⟩ := Int.eq_ofNat_of_zero_le he
    simp only [toRat, Int.toNat_natCast, Nat.shiftLeft_eq, Nat.cast_mul, Nat.cast_pow, Nat.cast_ofNat, zpow_natCast]
    ring
  next he =>
    obtain ⟨n, rfl⟩ : ∃ n : Nat, e = -(n : Int) := ⟨(-e).toNat, by omega⟩
    simp only [toRat, neg_neg, Int.toNat_natCast, Nat.shiftLeft_eq, Nat.cast_mul, Nat.cast_pow, Nat.cast_ofNat,
      zpow_neg, zpow_natCast]
    rw [div_mul_eq_div_div, div_eq_mul_inv _ ((2 : ℚ) ^ n)]

theorem toRat_scaleTen (r : Ratio) (e : Int) : (r.scaleTen e).toRat = r.toRat * 10 ^ e := by
  unfold scaleTen tenTo
  split
  next he =>
    obtain ⟨n, rfl⟩ := Int.eq_ofNat_of_zero_le he
    simp only [toRat, Int.toNat_natCast, Nat.pow_eq, Nat.cast_mul, Nat.cast_pow, Nat.cast_ofNat, zpow_natCast]
    ring
  next he =>
    obtain ⟨n, rfl⟩ : ∃ n : Nat, e = -(n : Int) := ⟨(-e).toNat, by omega⟩
    simp only [toRat, neg_neg, Int.toNat_natCast, Nat.pow_eq, Nat.cast_mul, Nat.cast_pow, Nat.cast_ofNat, zpow_neg,
      zpow_natCast]
    rw [div_mul_eq_div_div, div_eq_mul_inv _ ((10 : ℚ) ^ n)]

theorem lt_iff (hr : 0 < r.den) (hs : 0 < s.den) : r.lt s = true ↔ r.toRat < s.toRat := by
  have hr : (0 : ℚ) < r.den := by exact_mod_cast hr
  have hs : (0 : ℚ) < s.den := by exact_mod_cast hs
  rw [lt, decide_eq_true_eq, toRat, toRat, div_lt_div_iff₀ hr hs]
  exact_mod_cast Iff.rfl

theorem le_iff (hr : 0 < r.den) (hs : 0 < s.den) : r.le s = true ↔ r.toRat ≤ s.toRat := by
  have hr : (0 : ℚ) < r.den := by exact_mod_cast hr
  have hs : (0 : ℚ) < s.den := by exact_mod_cast hs
  rw [le, decide_eq_true_eq, toRat, toRat, div_le_div_iff₀ hr hs]
  exact_mod_cast Iff.rfl

theorem toRat_nonneg (r : Ratio) : 0 ≤ r.toRat := by
  unfold toRat
  positivity

/-! ### Integers below and above -/

theorem floor_eq (r : Ratio) : r.floor = ⌊r.toRat⌋₊ := (Nat.floor_div_eq_div r.num r.den).symm

theorem floor_le (r : Ratio) : (r.floor : ℚ) ≤ r.toRat := by
  rw [floor_eq]
  exact Nat.floor_le r.toRat_nonneg

theorem lt_floor_add_one (r : Ratio) : r.toRat < r.floor + 1 := by
  rw [floor_eq]
  exact Nat.lt_floor_add_one _

/-- The distance to the integer below in units of the denominator. -/
theorem toRat_sub_floor (hr : 0 < r.den) : r.toRat - r.floor = (r.num % r.den : ℕ) / r.den := by
  have hden : (r.den : ℚ) ≠ 0 := by positivity
  have hdivmod : (r.den : ℚ) * (r.num / r.den : ℕ) + (r.num % r.den : ℕ) = r.num := by
    exact_mod_cast Nat.div_add_mod r.num r.den
  rw [toRat, floor, ← hdivmod]
  field_simp
  ring

/-- The nearer of the integers below and above is not more than half away. -/
theorem abs_sub_nearest_le (hr : 0 < r.den) :
    |(if r.floorIsNearest then r.floor else r.floor + 1 : ℕ) - r.toRat| ≤ 1 / 2 := by
  have hden : (0 : ℚ) < r.den := by exact_mod_cast hr
  have hfloor := toRat_sub_floor hr
  split
  next hnearest =>
    have htwice : 2 * (r.num % r.den) ≤ r.den := by
      simp only [floorIsNearest, Bool.or_eq_true, Bool.and_eq_true, decide_eq_true_eq] at hnearest
      omega
    have htwice : 2 * ((r.num % r.den : ℕ) : ℚ) ≤ r.den := by exact_mod_cast htwice
    have hhalf : ((r.num % r.den : ℕ) : ℚ) / r.den ≤ 1 / 2 := by
      rw [div_le_div_iff₀ hden two_pos]
      linarith
    have := r.floor_le
    rw [abs_le]
    constructor <;> linarith
  next hnot =>
    have htwice : r.den ≤ 2 * (r.num % r.den) := by
      simp only [floorIsNearest, Bool.or_eq_true, Bool.and_eq_true, decide_eq_true_eq] at hnot
      omega
    have htwice : (r.den : ℚ) ≤ 2 * ((r.num % r.den : ℕ) : ℚ) := by exact_mod_cast htwice
    have hhalf : 1 / 2 ≤ ((r.num % r.den : ℕ) : ℚ) / r.den := by
      rw [div_le_div_iff₀ two_pos hden]
      linarith
    have := r.lt_floor_add_one
    rw [abs_le]
    push_cast
    constructor <;> linarith

/-! ### Orders of magnitude -/

theorem length_ofNat {n : Nat} (hn : 0 < n) : (Numeral.ofNat n).length = Nat.log 10 n + 1 := by
  have hpos : 0 < (Numeral.ofNat n).length := List.length_pos_iff.2 Nat.toDigits_ne_nil
  have hle (k : Nat) (hk : 0 < k) : (Numeral.ofNat n).length ≤ k ↔ Nat.log 10 n < k :=
    (Nat.length_toDigits_le_iff (by decide) hk).trans (Nat.log_lt_iff_lt_pow (by decide) hn.ne').symm
  exact Nat.le_antisymm ((hle _ (Nat.succ_pos _)).2 (Nat.lt_succ_self _)) ((hle _ hpos).1 le_rfl)

theorem length_ofNat_pred {n : Nat} (hn : 1 < n) : (Numeral.ofNat (n - 1)).length = Nat.clog 10 n := by
  have hpos : 0 < (Numeral.ofNat (n - 1)).length := List.length_pos_iff.2 Nat.toDigits_ne_nil
  have hle (k : Nat) (hk : 0 < k) : (Numeral.ofNat (n - 1)).length ≤ k ↔ Nat.clog 10 n ≤ k := by
    refine (Nat.length_toDigits_le_iff (by decide) hk).trans ?_
    rw [Nat.clog_le_iff_le_pow (by decide)]
    omega
  exact Nat.le_antisymm ((hle _ (Nat.clog_pos (by decide) hn)).2 le_rfl) ((hle _ hpos).1 le_rfl)

/-- The quotient of two numbers rounded up. -/
theorem ceil_inv_toRat (hnum : 0 < r.num) : ⌈r.toRat⁻¹⌉₊ = (r.den + r.num - 1) / r.num := by
  have hnum' : (0 : ℚ) < r.num := by exact_mod_cast hnum
  refine eq_of_forall_ge_iff fun k => ?_
  rw [Nat.ceil_le, toRat, inv_div, div_le_iff₀ hnum', ← Nat.lt_succ_iff, Nat.div_lt_iff_lt_mul hnum, Nat.succ_mul]
  norm_cast
  omega

theorem leading_eq_log (h : 0 < r.toRat) : r.leading = Int.log 10 r.toRat := by
  have hnum : 0 < r.num := Nat.pos_of_ne_zero fun hzero => by simp [toRat, hzero] at h
  have hden : 0 < r.den := Nat.pos_of_ne_zero fun hzero => by simp [toRat, hzero] at h
  have hden' : (0 : ℚ) < r.den := by exact_mod_cast hden
  unfold leading
  split
  next hle =>
    have hone : 1 ≤ r.toRat := by
      rw [toRat, le_div_iff₀ hden', one_mul]
      exact_mod_cast hle
    have hfloor : 0 < r.floor := Nat.div_pos hle hden
    rw [Int.log_of_one_le_right 10 hone, ← floor_eq, length_ofNat hfloor]
    omega
  next hlt =>
    have hone : r.toRat ≤ 1 := by
      rw [toRat, div_le_one hden']
      exact_mod_cast Nat.le_of_not_le hlt
    have hquotient : 1 < (r.den + r.num - 1) / r.num := by
      rw [← Nat.succ_le_iff, Nat.le_div_iff_mul_le hnum]
      omega
    rw [Int.log_of_right_le_one 10 hone, ceil_inv_toRat hnum, length_ofNat_pred hquotient]

end Ratio

end Formulary
