import Formulary.Text.Pieces
import Mathlib.Data.List.Basic

/-!
# Splitting a text at a separator

The parts of a text are without the separator, and they are the only texts without it that give the whole text when
they are joined (`split_intercalate`).
-/

namespace Formulary.Text

variable {separator c : Char} {cs part rest : List Char} {parts : List (List Char)}

theorem split_cons_of_ne (h : c ≠ separator) (cs : List Char) :
    ∃ part parts, split separator cs = part :: parts ∧ split separator (c :: cs) = (c :: part) :: parts := by
  obtain ⟨part, parts, hcs⟩ := List.exists_cons_of_ne_nil (split_ne_nil separator cs)
  refine ⟨part, parts, hcs, ?_⟩
  rw [split, if_neg h, hcs]

theorem not_mem_of_mem_split (h : part ∈ split separator cs) : separator ∉ part := by
  induction cs generalizing part with
  | nil =>
    obtain rfl := List.mem_singleton.1 h
    exact List.not_mem_nil
  | cons c cs ih =>
    by_cases hc : c = separator
    · rw [split, if_pos hc] at h
      rcases List.mem_cons.1 h with rfl | h
      · exact List.not_mem_nil
      · exact ih h
    · obtain ⟨first, parts, hcs, hsplit⟩ := split_cons_of_ne hc cs
      rw [hsplit] at h
      rcases List.mem_cons.1 h with rfl | h
      · have hfirst := ih (hcs ▸ List.mem_cons_self)
        simp [hfirst, Ne.symm hc]
      · exact ih (hcs ▸ List.mem_cons_of_mem first h)

theorem split_of_not_mem (h : separator ∉ part) : split separator part = [part] := by
  induction part with
  | nil => rfl
  | cons c part ih =>
    rw [List.mem_cons, not_or] at h
    rw [split, if_neg (Ne.symm h.1), ih h.2]

theorem split_append_separator (h : separator ∉ part) (rest : List Char) :
    split separator (part ++ separator :: rest) = part :: split separator rest := by
  induction part with
  | nil => rw [List.nil_append, split, if_pos rfl]
  | cons c part ih =>
    rw [List.mem_cons, not_or] at h
    rw [List.cons_append, split, if_neg (Ne.symm h.1), ih h.2]

/-- Texts without the separator are the parts of what they are joined to. -/
theorem split_intercalate (hne : parts ≠ []) (h : ∀ part ∈ parts, separator ∉ part) :
    split separator ([separator].intercalate parts) = parts := by
  induction parts with
  | nil => exact absurd rfl hne
  | cons part parts ih =>
    obtain ⟨hpart, hparts⟩ := List.forall_mem_cons.1 h
    cases parts with
    | nil => rw [List.intercalate_singleton, split_of_not_mem hpart]
    | cons second parts =>
      rw [List.intercalate_cons_cons, List.append_assoc, List.singleton_append, split_append_separator hpart,
        ih (List.cons_ne_nil _ _) hparts]

theorem not_mem_intercalate (hc : c ≠ separator) (h : ∀ part ∈ parts, c ∉ part) : c ∉ [separator].intercalate parts := by
  induction parts with
  | nil => exact List.not_mem_nil
  | cons part parts ih =>
    obtain ⟨hpart, hparts⟩ := List.forall_mem_cons.1 h
    cases parts with
    | nil => rwa [List.intercalate_singleton]
    | cons second parts =>
      rw [List.intercalate_cons_cons]
      simp [hpart, hc, ih hparts]

end Formulary.Text
