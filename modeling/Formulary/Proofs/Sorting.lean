import Mathlib.Data.List.Basic
import Mathlib.Order.Lattice

/-!
# Stable sorting

A sorted list with one entry more has it behind all that come before it and in front of all others
(`mergeSort_cons_eq`), so that entries that compare equal stay in their order.  Hence sorting goes together with leaving
entries out: it keeps sublists (`mergeSort_sublist_mergeSort`), and it does not matter whether entries are left out
before or after it (`filter_mergeSort`).  Where only entries that compare equal are left, sorting has done nothing to
them (`filter_mergeSort_of_tied`).

All of this asks for an order that is transitive and total, which an order by a key is (`trans_of_key`, `total_of_key`).
-/

namespace Formulary.Sorting

variable {α : Type} {le : α → α → Bool}

/-! ### Orders by a key -/

section Key

variable {κ : Type} [LinearOrder κ] {key : α → κ} (h : ∀ a b, le a b = true ↔ key a ≤ key b)

include h

theorem trans_of_key (a b c : α) (hab : le a b = true) (hbc : le b c = true) : le a c = true :=
  (h a c).2 (le_trans ((h a b).1 hab) ((h b c).1 hbc))

theorem total_of_key (a b : α) : (le a b || le b a) = true := by
  rw [Bool.or_eq_true, h, h]
  exact le_total (key a) (key b)

theorem pairwise_key (l : List α) : (l.mergeSort le).Pairwise fun a b => key a ≤ key b :=
  (List.pairwise_mergeSort (trans_of_key h) (total_of_key h) l).imp (h _ _).1

end Key

/-! ### Sorting what is left -/

variable (trans : ∀ a b c, le a b = true → le b c = true → le a c = true) (total : ∀ a b, (le a b || le b a) = true)

include trans total

/-- The first entry of a list is sorted behind the entries that come before it and in front of those that do not. -/
theorem mergeSort_cons_eq (a : α) (l : List α) :
    (a :: l).mergeSort le =
      (l.mergeSort le).filter (fun b => !le a b) ++ a :: (l.mergeSort le).filter (le a) := by
  obtain ⟨front, back, hcons, hl, hfront⟩ := List.mergeSort_cons trans total a l
  have hsorted : (front ++ a :: back).Pairwise (fun b c => le b c = true) :=
    hcons ▸ List.pairwise_mergeSort trans total (a :: l)
  have hback : ∀ b ∈ back, le a b = true := by
    rw [List.pairwise_append, List.pairwise_cons] at hsorted
    exact hsorted.2.1.1
  have hfilter : (l.mergeSort le).filter (fun b => !le a b) = front := by
    rw [hl, List.filter_append, List.filter_eq_self.2 hfront, List.filter_eq_nil_iff.2 fun b hb => by simp [hback b hb],
      List.append_nil]
  have hfilter' : (l.mergeSort le).filter (le a) = back := by
    rw [hl, List.filter_append, List.filter_eq_self.2 hback,
      List.filter_eq_nil_iff.2 fun b hb => by simpa using hfront b hb, List.nil_append]
  rw [hcons, hfilter, hfilter']

/-- Whatever is left out of a list is left out of the sorted list, and nothing else changes. -/
theorem mergeSort_sublist_mergeSort {l m : List α} (h : l.Sublist m) :
    (l.mergeSort le).Sublist (m.mergeSort le) := by
  induction h with
  | slnil => exact List.Sublist.refl _
  | @cons l m a h ih =>
    obtain ⟨front, back, hcons, hm, _⟩ := List.mergeSort_cons trans total a m
    rw [hm] at ih
    rw [hcons]
    exact ih.trans (List.Sublist.append_left (List.sublist_cons_self a back) front)
  | @cons_cons l m a h ih =>
    rw [mergeSort_cons_eq trans total a l, mergeSort_cons_eq trans total a m]
    exact List.Sublist.append (ih.filter _) ((ih.filter _).cons_cons a)

/-- What is left of a sorted list is what is left of the list, sorted. -/
theorem filter_mergeSort (p : α → Bool) (l : List α) : (l.mergeSort le).filter p = (l.filter p).mergeSort le := by
  induction l with
  | nil => rw [List.filter_nil, List.mergeSort_nil, List.filter_nil]
  | cons a l ih =>
    by_cases ha : p a = true
    · rw [List.filter_cons_of_pos ha, mergeSort_cons_eq trans total, mergeSort_cons_eq trans total, ← ih,
        List.filter_append, List.filter_cons_of_pos ha, List.filter_comm p, List.filter_comm p]
    · obtain ⟨front, back, hcons, hl, _⟩ := List.mergeSort_cons trans total a l
      rw [List.filter_cons_of_neg ha, ← ih, hcons, hl, List.filter_append, List.filter_append,
        List.filter_cons_of_neg ha]

/-- Entries that compare equal stay in their order. -/
theorem filter_mergeSort_of_tied {p : α → Bool} (tied : ∀ a b, p a = true → p b = true → le a b = true) (l : List α) :
    (l.mergeSort le).filter p = l.filter p := by
  rw [filter_mergeSort trans total]
  refine List.mergeSort_of_pairwise (List.pairwise_of_forall_mem_list fun a ha b hb => ?_)
  exact tied a b (List.mem_filter.1 ha).2 (List.mem_filter.1 hb).2

end Formulary.Sorting
