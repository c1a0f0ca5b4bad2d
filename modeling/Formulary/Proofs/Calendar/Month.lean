import Formulary.Calendar.Date
import Mathlib.Data.List.Chain

/-!
# Months in a row

The months in a row up to a given one (`Month.upTo`) follow one another without a gap, also over the turn of a year, and
no month comes twice.  The calendar has a first year, and of a longer row it has only as many months as there are in it
(`Month.filter_upTo`).
-/

namespace Formulary.Month

/-- The month after. -/
def next (m : Month) : Month :=
  if h : m.number < 12 then { year := m.year, number := m.number + 1 } else { year := m.year + 1, number := 1 }

/-- The month before. -/
def previous (m : Month) : Month :=
  if h : 1 < m.number then { year := m.year, number := m.number - 1, number_mem := by have := m.number_mem; omega }
  else { year := m.year - 1, number := 12 }

/-- Some months in a row of which the last one is given. -/
def upTo (last : Month) : Nat → List Month
  | 0 => []
  | n + 1 => previous^[n] last :: upTo last n

/-- How many months the calendar has up to a month. -/
def place (m : Month) : Nat := 12 * (m.year - firstYear).toNat + m.number

variable {m last : Month} {i : Int} {k n : Nat}

/-! ### Numbers of months -/

theorem index_injective : Function.Injective index := by
  intro a b h
  obtain ⟨year, number, hnumber⟩ := a
  obtain ⟨year', number', hnumber'⟩ := b
  simp only [index] at h
  obtain rfl : year = year' := by omega
  obtain rfl : number = number' := by omega
  rfl

theorem index_ofIndex (i : Int) : (ofIndex i).index = i := by
  simp only [ofIndex, index]
  omega

theorem index_next (m : Month) : m.next.index = m.index + 1 := by
  have := m.number_mem
  unfold next
  split <;> simp only [index] <;> omega

theorem index_previous (m : Month) : m.previous.index = m.index - 1 := by
  have := m.number_mem
  unfold previous
  split <;> simp only [index] <;> omega

theorem index_iterate_previous (m : Month) (k : Nat) : (previous^[k] m).index = m.index - k := by
  induction k with
  | zero => simp
  | succ k ih =>
    rw [Function.iterate_succ_apply', index_previous, ih]
    omega

theorem next_previous (m : Month) : m.previous.next = m := by
  apply index_injective
  rw [index_next, index_previous]
  omega

theorem ofIndex_sub (last : Month) (k : Nat) : ofIndex (last.index - k) = previous^[k] last := by
  apply index_injective
  rw [index_ofIndex, index_iterate_previous]

/-! ### The row -/

theorem length_upTo (last : Month) (n : Nat) : (upTo last n).length = n := by
  induction n with
  | zero => rfl
  | succ n ih => rw [upTo, List.length_cons, ih]

theorem getLast?_upTo (last : Month) (n : Nat) : (upTo last (n + 1)).getLast? = some last := by
  induction n with
  | zero => rfl
  | succ n ih => rw [upTo, List.getLast?_cons, ih, Option.getD_some]

/-- Each month of the row is followed by the month after it. -/
theorem isChain_upTo (last : Month) (n : Nat) : (upTo last n).IsChain fun a b => b = a.next := by
  induction n with
  | zero => exact .nil
  | succ n ih =>
    rw [upTo, List.isChain_cons]
    refine ⟨fun b hb => ?_, ih⟩
    cases n with
    | zero => cases hb
    | succ n =>
      obtain rfl := Option.some.inj hb
      rw [Function.iterate_succ_apply', next_previous]

theorem mem_upTo_iff : m ∈ upTo last n ↔ last.index - n < m.index ∧ m.index ≤ last.index := by
  induction n with
  | zero =>
    refine iff_of_false List.not_mem_nil ?_
    omega
  | succ n ih =>
    have hindex := index_iterate_previous last n
    rw [upTo, List.mem_cons, ih, ← index_injective.eq_iff, hindex]
    omega

theorem nodup_upTo (last : Month) (n : Nat) : (upTo last n).Nodup := by
  induction n with
  | zero => exact .nil
  | succ n ih =>
    refine List.nodup_cons.2 ⟨fun hmem => ?_, ih⟩
    rw [mem_upTo_iff, index_iterate_previous] at hmem
    omega

/-! ### The start of the calendar -/

theorem firstYear_le_iterate_iff (h : firstYear ≤ last.year) :
    firstYear ≤ (previous^[k] last).year ↔ k < last.place := by
  have hindex := index_iterate_previous last k
  have hnumber := (previous^[k] last).number_mem
  simp only [index] at hindex
  rw [place]
  omega

/-- The row without the months before the calendar. -/
theorem filter_upTo (h : firstYear ≤ last.year) (n : Nat) :
    (upTo last n).filter (fun m => firstYear ≤ m.year) = upTo last (min n last.place) := by
  induction n with
  | zero => rw [Nat.zero_min, upTo, List.filter_nil]
  | succ n ih =>
    rw [upTo, List.filter_cons, ih]
    simp only [decide_eq_true_iff, firstYear_le_iterate_iff h]
    split
    · rename_i hlt
      rw [Nat.min_eq_left (Nat.le_of_lt hlt), Nat.min_eq_left hlt, upTo]
    · rename_i hle
      rw [Nat.min_eq_right (Nat.le_of_not_lt hle), Nat.min_eq_right (Nat.le_succ_of_le (Nat.le_of_not_lt hle))]

end Formulary.Month
