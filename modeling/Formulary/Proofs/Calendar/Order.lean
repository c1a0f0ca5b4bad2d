import Formulary.Calendar.Instant
import Formulary.Proofs.Calendar.Date
import Mathlib.Data.Int.Order.Basic
import Mathlib.Order.Lattice
import Mathlib.Data.List.Lex

/-!
# The order of instants

Of two instants the one comes first that has the smaller year, or in the same year the smaller month, and so on down to
the nanoseconds.  The ranks of instants are in this order (`Instant.rank_le_rank_iff`), as no number that a calendar or a
clock shows reaches the base by which the greater one is multiplied.
-/

namespace Formulary.Instant

/-- What the calendar and the clock show at an instant, from the year to the nanoseconds. -/
def numbers (t : Instant) : List Int := [t.date.year, t.date.month, t.date.day, t.hour, t.minute, t.second, t.nano]

theorem numbers_injective : Function.Injective numbers := by
  rintro ⟨⟨year, month, day, _, _, _⟩, hour, minute, second, nano, _, _, _, _⟩
    ⟨⟨year', month', day', _, _, _⟩, hour', minute', second', nano', _, _, _, _⟩ h
  simp only [numbers, List.cons.injEq, Int.natCast_inj, and_true] at h
  obtain ⟨rfl, rfl, rfl, rfl, rfl, rfl, rfl⟩ := h
  rfl

instance : LinearOrder Instant := LinearOrder.lift' numbers numbers_injective

/-- Of two numbers with a last digit each, the digits before it are compared first. -/
theorem mul_add_lt_iff {base a b x y : Int} (hx : 0 ≤ x ∧ x < base) (hy : 0 ≤ y ∧ y < base) :
    a * base + x < b * base + y ↔ a < b ∨ a = b ∧ x < y := by
  have hbase : 0 ≤ base := by omega
  rcases Int.lt_trichotomy a b with h | rfl | h
  · have hmul := Int.mul_le_mul_of_nonneg_right (show a + 1 ≤ b from h) hbase
    rw [Int.add_mul] at hmul
    omega
  · omega
  · have hmul := Int.mul_le_mul_of_nonneg_right (show b + 1 ≤ a from h) hbase
    rw [Int.add_mul] at hmul
    omega

theorem rank_lt_rank_iff {s t : Instant} : s.rank < t.rank ↔ s < t := by
  have hday (d : Date) : 1 ≤ d.day ∧ d.day ≤ 31 := ⟨d.day_mem.1, d.day_mem.2.trans (daysInMonth_le _ _)⟩
  have := hday s.date; have := s.date.month_mem
  have := s.hour_lt; have := s.minute_lt; have := s.second_le; have := s.nano_lt
  have := hday t.date; have := t.date.month_mem
  have := t.hour_lt; have := t.minute_lt; have := t.second_le; have := t.nano_lt
  have hlt : s < t ↔ s.numbers < t.numbers := Iff.rfl
  simp only [hlt, numbers, List.cons_lt_cons_iff, List.lt_irrefl, and_false, or_false, rank, Date.inMonth, Month.index]
  simp (disch := omega) only [mul_add_lt_iff]
  omega

theorem rank_le_rank_iff {s t : Instant} : s.rank ≤ t.rank ↔ s ≤ t := by
  rw [← not_lt, ← not_lt, rank_lt_rank_iff]

end Formulary.Instant
