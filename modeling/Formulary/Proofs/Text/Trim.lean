import Formulary.Text.Pieces
import Mathlib.Data.List.DropRight

/-!
# Trimming a text

Trimming takes the white space from both ends of a text.  What is left of a text neither starts nor ends with white
space, so that there is nothing to trim in it (`trim_trim`), as in every such text (`trim_eq_self`), and the text is
padded with the white space that is taken (`padded_trimChars`).
-/

namespace Formulary

/-- A text with white space around it. -/
inductive Padded (cs : List Char) : List Char → Prop
  | intro {before after : List Char} (hbefore : ∀ c ∈ before, Text.isBlank c = true)
      (hafter : ∀ c ∈ after, Text.isBlank c = true) : Padded cs (before ++ (cs ++ after))

namespace Text

theorem isBlank_of_isDigit {c : Char} (h : c.isDigit = true) : isBlank c = false := by
  obtain ⟨hlow, hhigh⟩ := Char.isDigit_iff_toNat.1 h
  have hzero : '0'.toNat = 48 := rfl
  have hnine : '9'.toNat = 57 := rfl
  simp only [isBlank, Bool.or_eq_false_iff, Bool.and_eq_false_iff, decide_eq_false_iff_not, beq_eq_false_iff_ne]
  omega

theorem trimChars_eq (cs : List Char) : trimChars cs = (cs.dropWhile isBlank).rdropWhile isBlank := rfl

/-- What is left of a text does not start with white space. -/
theorem dropWhile_isBlank_trimChars (cs : List Char) : (trimChars cs).dropWhile isBlank = trimChars cs := by
  have hpre : trimChars cs <+: cs.dropWhile isBlank := List.rdropWhile_prefix _ _
  rw [List.dropWhile_eq_self_iff]
  intro hl
  rw [hpre.getElem hl]
  exact List.dropWhile_get_zero_not _ _ (by have := hpre.length_le; omega)

@[simp] theorem trimChars_trimChars (cs : List Char) : trimChars (trimChars cs) = trimChars cs := by
  rw [trimChars_eq (trimChars cs), dropWhile_isBlank_trimChars, trimChars_eq, List.rdropWhile_idempotent]

/-- White space around a text that has none at its ends is trimmed away. -/
theorem trimChars_padded {before cs after : List Char} (hbefore : ∀ c ∈ before, isBlank c = true)
    (hafter : ∀ c ∈ after, isBlank c = true) (hcs : trimChars cs = cs) : trimChars (before ++ (cs ++ after)) = cs := by
  rw [trimChars_eq, List.dropWhile_append_of_pos hbefore]
  cases cs with
  | nil => rw [List.nil_append, List.dropWhile_eq_nil_iff.2 hafter, List.rdropWhile_nil]
  | cons c cs =>
    have hstart : (c :: cs).dropWhile isBlank = c :: cs := hcs ▸ dropWhile_isBlank_trimChars (c :: cs)
    have hc : ¬ isBlank c = true := fun hblank => by
      rw [List.dropWhile_cons_of_pos hblank] at hstart
      have hle := (List.dropWhile_suffix isBlank (l := cs)).length_le
      rw [hstart, List.length_cons] at hle
      omega
    rw [trimChars_eq, hstart] at hcs
    rw [List.cons_append, List.dropWhile_cons_of_neg hc, ← List.cons_append, List.rdropWhile, List.reverse_append,
      List.dropWhile_append_of_pos fun d hd => hafter d (List.mem_reverse.1 hd)]
    exact hcs

theorem trimChars_eq_self {cs : List Char} (hstart : ∀ c ∈ cs.head?, isBlank c = false)
    (hend : ∀ c ∈ cs.getLast?, isBlank c = false) : trimChars cs = cs := by
  have hdrop : cs.dropWhile isBlank = cs := by
    rw [List.dropWhile_eq_self_iff]
    intro hl
    rw [hstart _ (List.head?_eq_getElem? ▸ List.getElem?_eq_getElem hl)]
    exact Bool.false_ne_true
  have hrdrop : cs.rdropWhile isBlank = cs := by
    rw [List.rdropWhile_eq_self_iff]
    intro hne
    rw [hend _ (List.getLast?_eq_some_getLast hne)]
    exact Bool.false_ne_true
  rw [trimChars_eq, hdrop, hrdrop]

theorem trim_eq_self {s : String} (hstart : ∀ c ∈ s.toList.head?, isBlank c = false)
    (hend : ∀ c ∈ s.toList.getLast?, isBlank c = false) : trim s = s := by
  rw [trim, trimChars_eq_self hstart hend, String.ofList_toList]

/-- A text is what is left of it with white space around. -/
theorem padded_trimChars (cs : List Char) : Padded (trimChars cs) cs := by
  have hpadded : Padded (trimChars cs)
      (cs.takeWhile isBlank ++ (trimChars cs ++ (cs.dropWhile isBlank).rtakeWhile isBlank)) :=
    .intro (fun _ hc => List.mem_takeWhile_imp hc) (fun _ hc => List.mem_rtakeWhile_imp hc)
  rwa [trimChars_eq, List.rdropWhile_append_rtakeWhile, List.takeWhile_append_dropWhile] at hpadded

@[simp] theorem trim_trim (s : String) : trim (trim s) = trim s := by
  simp only [trim, String.toList_ofList, trimChars_trimChars]

end Text

theorem Padded.trimChars_eq {cs padded : List Char} (h : Padded cs padded) (hcs : Text.trimChars cs = cs) :
    Text.trimChars padded = cs := by
  cases h with
  | intro hbefore hafter => exact Text.trimChars_padded hbefore hafter hcs

end Formulary
