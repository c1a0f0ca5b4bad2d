import Mathlib.Algebra.Ring.Nat
import Mathlib.Data.List.Nodup

/-!
# Counting by keys

To count how many entries of a list have each of some keys, one pass is enough: every entry goes to the first count
under its key.  If the keys are distinct, each count is in the end the number of entries with its key (`foldl_add`), and
the counts add up to the number of entries with one of the keys (`sum_countP`).
-/

namespace Formulary.Counting

variable {α κ : Type} [DecidableEq κ]

/-- The counts when one more entry has a key: the first count under this key goes up, if there is one. -/
def add (key : κ) : List (κ × Nat) → List (κ × Nat)
  | [] => []
  | (k, n) :: counts => if k = key then (k, n + 1) :: counts else (k, n) :: add key counts

variable {keys : List κ} {p q : α → Bool} {f : α → κ} {xs : List α}

theorem add_map (hkeys : keys.Nodup) (key : κ) (count : κ → Nat) :
    add key (keys.map fun k => (k, count k)) = keys.map fun k => (k, count k + if key = k then 1 else 0) := by
  induction keys with
  | nil => rfl
  | cons k keys ih =>
    obtain ⟨hk, hkeys⟩ := List.nodup_cons.1 hkeys
    rw [List.map_cons, List.map_cons, add]
    by_cases hkey : k = key
    · subst hkey
      rw [if_pos rfl, if_pos rfl]
      refine congrArg _ (List.map_congr_left fun k' hk' => ?_)
      have hne : k ≠ k' := fun he => hk (he ▸ hk')
      rw [if_neg hne, Nat.add_zero]
    · rw [if_neg hkey, if_neg (Ne.symm hkey), Nat.add_zero, ih hkeys]

/-- One pass counts the entries under each key. -/
theorem foldl_add (hkeys : keys.Nodup) (xs : List α) (count : κ → Nat) :
    xs.foldl (fun counts x => add (f x) counts) (keys.map fun k => (k, count k)) =
      keys.map fun k => (k, count k + xs.countP fun x => f x = k) := by
  induction xs generalizing count with
  | nil => rfl
  | cons x xs ih =>
    rw [List.foldl_cons, add_map hkeys, ih]
    refine List.map_congr_left fun k _ => congrArg (Prod.mk k) ?_
    rw [List.countP_cons]
    simp only [decide_eq_true_iff]
    omega

theorem countP_add_countP (h : ∀ x, p x = true → q x = false) (xs : List α) :
    xs.countP p + xs.countP q = xs.countP fun x => p x || q x := by
  induction xs with
  | nil => rfl
  | cons x xs ih =>
    have hx := h x
    simp only [List.countP_cons]
    cases hp : p x <;> cases hq : q x <;> simp_all <;> omega

/-- Under distinct keys no entry is counted twice. -/
theorem sum_countP (hkeys : keys.Nodup) (xs : List α) :
    (keys.map fun k => xs.countP fun x => f x = k).sum = xs.countP fun x => f x ∈ keys := by
  induction keys with
  | nil => simp
  | cons k keys ih =>
    obtain ⟨hk, hkeys⟩ := List.nodup_cons.1 hkeys
    rw [List.map_cons, List.sum_cons, ih hkeys, countP_add_countP]
    · refine List.countP_congr fun x _ => ?_
      simp
    · intro x hx
      rw [decide_eq_true_iff] at hx
      rw [decide_eq_false_iff_not, hx]
      exact hk

end Formulary.Counting
