import Formulary.Proofs.Decimal.Ratio

/-!
# Orders of magnitude of shortest decimals

The shortest decimal of a double is not zero if the double is not, as seventeen digits always suffice.  It is found
among the neighbours of the double on ever finer grids of decimals, so that no power of ten lies strictly between the
two; if the double does not admit a power of ten, both are on the same side of it
(`Binary64.le_leading_shortest_iff`).
-/

namespace Formulary

namespace Decimal

variable {d : Decimal} {k : Int}

/-- The rational number. -/
def value (d : Decimal) : ℚ := d.significand * 10 ^ d.power

theorem toRat_toRatio (d : Decimal) : d.toRatio.toRat = d.value := by
  rw [toRatio, Ratio.toRat_scaleTen, Ratio.toRat_ofNat, value]

theorem value_pos (h : 0 < d.significand) : 0 < d.value := by
  have h : (0 : ℚ) < d.significand := by exact_mod_cast h
  unfold value
  positivity

/-- Another power of ten decides with which the first digit is compared. -/
theorem le_leading_iff (h : 0 < d.significand) : k ≤ d.leading ↔ (10 : ℚ) ^ k ≤ d.value := by
  have hten (p : Int) : (0 : ℚ) < 10 ^ p := zpow_pos (by norm_num) p
  have hpos : (0 : ℚ) < d.significand := by exact_mod_cast h
  calc k ≤ d.leading ↔ k - d.power ≤ Int.log 10 (d.significand : ℚ) := by
        rw [Int.log_natCast, leading, digits, Ratio.length_ofNat h]
        omega
    _ ↔ (10 : ℚ) ^ (k - d.power) ≤ d.significand := by
        rw [← Int.zpow_le_iff_le_log (by decide) hpos, Nat.cast_ofNat]
    _ ↔ (10 : ℚ) ^ k ≤ d.value := by
        rw [zpow_sub₀ (by norm_num), div_le_iff₀ (hten _), value]

theorem strip_spec (d : Decimal) : d.strip.value = d.value ∧ (0 < d.significand → 0 < d.strip.significand) := by
  induction d using strip.induct with
  | case1 d h ih =>
    obtain ⟨hvalue, hpos⟩ := ih
    have hten : d.significand = 10 * (d.significand / 10) := by omega
    rw [strip, dif_pos h]
    refine ⟨hvalue.trans ?_, fun _ => hpos (by simp only; omega)⟩
    rw [value, value, zpow_add_one₀ (by norm_num), hten]
    simp only [Nat.mul_div_cancel_left _ (show 0 < 10 by decide)]
    push_cast
    ring
  | case2 d h =>
    rw [strip, dif_neg h]
    exact ⟨rfl, id⟩

end Decimal

namespace Binary64

variable {x : Binary64} {d : Decimal} {k p : Int}

/-- The rational number. -/
def value (x : Binary64) : ℚ := x.mantissa * 2 ^ x.exponent

/-- The upper end of the interval of numbers that round to the double. -/
def high (x : Binary64) : ℚ := (x.mantissa + 1 / 2) * 2 ^ x.exponent

theorem toRat_toRatio (x : Binary64) : x.toRatio.toRat = x.value := by
  rw [toRatio, Ratio.toRat_scaleTwo, Ratio.toRat_ofNat, value]

theorem value_pos (hx : 0 < x.mantissa) : 0 < x.value := by
  have hx : (0 : ℚ) < x.mantissa := by exact_mod_cast hx
  unfold value
  positivity

theorem leading_eq_log (hx : 0 < x.mantissa) : x.toRatio.leading = Int.log 10 x.value := by
  rw [Ratio.leading_eq_log (toRat_toRatio x ▸ value_pos hx), toRat_toRatio]

/-! ### The interval of a double -/

theorem den_toRatio_pos (x : Binary64) : 0 < x.toRatio.den := Ratio.den_scaleTwo_pos Nat.one_pos _

theorem toRat_high (x : Binary64) : x.interval.2.toRat = x.high := by
  rw [interval, Ratio.toRat_scaleTwo, Ratio.toRat_ofNat, high, zpow_sub₀ (by norm_num)]
  push_cast
  ring

theorem le_high_of_admits (h : x.admits d.toRatio = true) : d.value ≤ x.high := by
  have hd : 0 < d.toRatio.den := Ratio.den_scaleTen_pos Nat.one_pos _
  have hhigh : 0 < x.interval.2.den := Ratio.den_scaleTwo_pos Nat.one_pos _
  rw [← Decimal.toRat_toRatio, ← toRat_high]
  unfold admits at h
  simp only at h
  split at h
  · exact (Ratio.le_iff hd hhigh).1 (Bool.and_eq_true_iff.1 h).2
  · exact ((Ratio.lt_iff hd hhigh).1 (Bool.and_eq_true_iff.1 h).2).le

/-- What lies near a double is in its interval.  Below a power of two the doubles are twice as dense, but the mantissa
is half the greatest one there. -/
theorem admits_of_near (hx : 0 < x.mantissa) (h : |d.value - x.value| ≤ x.value / (2 * 10 ^ 16)) :
    x.admits d.toRatio = true := by
  have hd : 0 < d.toRatio.den := Ratio.den_scaleTen_pos Nat.one_pos _
  have hden (e : Int) (n : Nat) : 0 < ((Ratio.ofNat n).scaleTwo e).den := Ratio.den_scaleTwo_pos Nat.one_pos e
  have hunit : (0 : ℚ) < 2 ^ x.exponent := zpow_pos two_pos _
  have hmantissa : (x.mantissa : ℚ) < 9007199254740992 := by exact_mod_cast x.mantissa_lt
  have hscaled := mul_lt_mul_of_pos_right hmantissa hunit
  obtain ⟨hbelow, habove⟩ := abs_le.1 h
  rw [value] at hbelow habove
  have hhigh : d.value < x.interval.2.toRat := by
    rw [toRat_high, high]
    linarith
  have hlow : x.interval.1.toRat < d.value := by
    rw [interval, Ratio.toRat_scaleTwo, Ratio.toRat_ofNat, zpow_sub₀ (by norm_num)]
    split
    next hleast =>
      rw [hleast.1, leastNormal] at hbelow ⊢
      norm_num at hbelow ⊢
      linarith
    next =>
      rw [Nat.cast_sub (by omega)]
      push_cast
      linarith
  rw [← Decimal.toRat_toRatio] at hlow hhigh
  unfold admits
  simp only
  split
  · exact Bool.and_eq_true_iff.2 ⟨(Ratio.le_iff (hden _ _) hd).2 hlow.le, (Ratio.le_iff hd (hden _ _)).2 hhigh.le⟩
  · exact Bool.and_eq_true_iff.2 ⟨(Ratio.lt_iff (hden _ _) hd).2 hlow, (Ratio.lt_iff hd (hden _ _)).2 hhigh⟩

/-! ### Neighbours -/

theorem toRat_scaled (x : Binary64) (p : Int) : (x.toRatio.scaleTen (-p)).toRat = x.value / 10 ^ p := by
  rw [Ratio.toRat_scaleTen, toRat_toRatio, zpow_neg, div_eq_mul_inv]

theorem of_mem_neighbours (h : d ∈ x.neighbours p) : d.power = p ∧ ⌊x.value / 10 ^ p⌋₊ ≤ d.significand := by
  rw [← toRat_scaled, ← Ratio.floor_eq]
  unfold neighbours at h
  simp only at h
  split at h
  all_goals
    simp only [List.mem_cons, List.not_mem_nil, or_false] at h
    rcases h with rfl | rfl <;> simp

/-- A neighbour is not below a power of ten on the grid that the double is not below. -/
theorem pow_le_value_of_mem_neighbours (h : d ∈ x.neighbours p) (hp : p ≤ k) (hk : (10 : ℚ) ^ k ≤ x.value) :
    (10 : ℚ) ^ k ≤ d.value := by
  obtain ⟨n, rfl⟩ : ∃ n : Nat, k = p + n := ⟨(k - p).toNat, by omega⟩
  obtain ⟨hpower, hfloor⟩ := of_mem_neighbours h
  have hunit : (0 : ℚ) < 10 ^ p := zpow_pos (by norm_num) p
  rw [zpow_add₀ (by norm_num), zpow_natCast, mul_comm] at hk ⊢
  have hsignificand : 10 ^ n ≤ d.significand := by
    refine (Nat.le_floor ?_).trans hfloor
    rw [le_div_iff₀ hunit]
    exact_mod_cast hk
  rw [Decimal.value, hpower]
  gcongr
  exact_mod_cast hsignificand

/-- The nearer neighbour is not more than half a unit of the grid away. -/
theorem exists_near_mem_neighbours (x : Binary64) (p : Int) :
    ∃ d ∈ x.neighbours p, |d.value - x.value| ≤ 10 ^ p / 2 := by
  have hunit : (0 : ℚ) < 10 ^ p := zpow_pos (by norm_num) p
  have hnear := Ratio.abs_sub_nearest_le (Ratio.den_scaleTen_pos x.den_toRatio_pos (-p))
  rw [toRat_scaled] at hnear
  refine ⟨⟨if (x.toRatio.scaleTen (-p)).floorIsNearest then (x.toRatio.scaleTen (-p)).floor
    else (x.toRatio.scaleTen (-p)).floor + 1, p⟩, ?_, ?_⟩
  · unfold neighbours
    split <;> simp_all
  · have hvalue : x.value = x.value / 10 ^ p * 10 ^ p := by field_simp
    rw [Decimal.value, hvalue, ← sub_mul, abs_mul, abs_of_pos hunit]
    linarith [mul_le_mul_of_nonneg_right hnear hunit.le]

/-! ### The search -/

/-- Seventeen digits always suffice. -/
theorem exists_admitted (hx : 0 < x.mantissa) :
    ∃ d ∈ x.neighbours (Int.log 10 x.value - 16), x.admits d.toRatio = true := by
  obtain ⟨d, hd, hnear⟩ := x.exists_near_mem_neighbours (Int.log 10 x.value - 16)
  have hpow : (10 : ℚ) ^ Int.log 10 x.value ≤ x.value := by
    exact_mod_cast Int.zpow_log_le_self (b := 10) (by decide) (value_pos hx)
  refine ⟨d, hd, admits_of_near hx (hnear.trans ?_)⟩
  rw [zpow_sub₀ (by norm_num), div_div, mul_comm (2 : ℚ)]
  exact div_le_div_of_nonneg_right hpow (by positivity)

/-- The shortest decimal is an admitted neighbour on a grid that is not coarser than the first digit. -/
theorem exists_shortest (hx : 0 < x.mantissa) :
    ∃ d p, p ≤ Int.log 10 x.value ∧ d ∈ x.neighbours p ∧ x.admits d.toRatio = true ∧ x.shortest = d.strip := by
  have hshortest : x.shortest = (((List.range 17).findSome? fun (i : Nat) =>
      (x.neighbours (Int.log 10 x.value - i)).find? (fun d => x.admits d.toRatio)).getD ⟨0, 0⟩).strip := by
    rw [shortest, if_neg hx.ne', leading_eq_log hx]
  obtain ⟨d, hfound⟩ : ∃ d, ((List.range 17).findSome? fun (i : Nat) =>
      (x.neighbours (Int.log 10 x.value - i)).find? (fun d => x.admits d.toRatio)) = some d := by
    rw [← Option.isSome_iff_exists, List.findSome?_isSome_iff]
    exact ⟨16, by decide, List.find?_isSome.2 (exists_admitted hx)⟩
  obtain ⟨i, -, hi⟩ := List.exists_of_findSome?_eq_some hfound
  have hadmits : x.admits d.toRatio = true := by simpa using List.find?_some hi
  refine ⟨d, Int.log 10 x.value - i, by omega, List.mem_of_find?_eq_some hi, hadmits, ?_⟩
  rw [hshortest, hfound, Option.getD_some]

/-- A double and its shortest decimal are on the same side of a power of ten that no double below it admits. -/
theorem le_leading_shortest_iff (hx : 0 < x.mantissa) (hk : x.value < 10 ^ k → x.high < 10 ^ k) :
    k ≤ x.shortest.leading ↔ (10 : ℚ) ^ k ≤ x.value := by
  have hlog (k : Int) : (10 : ℚ) ^ k ≤ x.value ↔ k ≤ Int.log 10 x.value := by
    exact_mod_cast Int.zpow_le_iff_le_log (b := 10) (by decide) (value_pos hx)
  obtain ⟨d, p, hp, hd, hadmits, hshortest⟩ := exists_shortest hx
  have hfirst := pow_le_value_of_mem_neighbours hd hp ((hlog _).2 le_rfl)
  have hpos : 0 < d.significand := by
    refine Nat.pos_of_ne_zero fun hzero => ?_
    rw [Decimal.value, hzero, Nat.cast_zero, zero_mul] at hfirst
    exact absurd hfirst (not_le.2 (zpow_pos (by norm_num) _))
  obtain ⟨hstrip, hstrip_pos⟩ := d.strip_spec
  rw [hshortest, Decimal.le_leading_iff (hstrip_pos hpos), hstrip]
  constructor
  · intro hle
    by_contra hlt
    exact absurd (hle.trans (le_high_of_admits hadmits)) (not_le.2 (hk (not_le.1 hlt)))
  · exact fun hle => (zpow_le_zpow_right₀ (by norm_num) ((hlog k).1 hle)).trans hfirst

end Binary64

end Formulary
