import Formulary.Text.Pieces
import Mathlib.Data.List.Basic

/-!
# Cuts of a text

A cut follows the text from left to right: at each place it takes the token that starts there, or one character if there
is none (`cut_of_read?`, `cut_of_read?_eq_none`).  What is to be shown of a cut is shown along this way
(`Recogniser.induction`).
-/

namespace Formulary.Text

deriving instance DecidableEq for Piece

variable {α : Type} {r : Recogniser α} {a : α} {c : Char} {chars rest cs : List Char}

@[simp] theorem cut_nil (r : Recogniser α) : cut r [] = [] := by
  rw [cut]

/-- Where a token starts it is taken. -/
theorem cut_of_read? (h : r.read? (chars ++ rest) = some (a, rest)) :
    cut r (chars ++ rest) = .token a chars :: cut r rest := by
  cases chars with
  | nil =>
    have hlt := r.length_lt h
    rw [List.nil_append] at hlt
    omega
  | cons c chars =>
    rw [List.cons_append] at h
    rw [List.cons_append, cut]
    split
    · rename_i b rest' h'
      obtain ⟨rfl, rfl⟩ := Prod.mk.inj (Option.some.inj (h.symm.trans h'))
      have hlength : (c :: (chars ++ rest)).length - rest.length = (c :: chars).length := by
        simp only [List.length_cons, List.length_append]
        omega
      rw [hlength, ← List.cons_append, List.take_left]
    · rename_i h'
      rw [h] at h'
      cases h'

/-- Where no token starts one character is taken. -/
theorem cut_of_read?_eq_none (h : r.read? (c :: cs) = none) : cut r (c :: cs) = .plain c :: cut r cs := by
  rw [cut]
  split
  · rename_i h'
    rw [h] at h'
    cases h'
  · rfl

/-- Where no token starts before the rest of a text, the characters before it are taken one by one. -/
theorem cut_append_of_read?_eq_none (h : ∀ v, v <:+ chars → v ≠ [] → r.read? (v ++ rest) = none) :
    cut r (chars ++ rest) = chars.map .plain ++ cut r rest := by
  induction chars with
  | nil => rfl
  | cons c chars ih =>
    have hread := h (c :: chars) List.suffix_rfl (List.cons_ne_nil c chars)
    rw [List.cons_append] at hread ⊢
    rw [cut_of_read?_eq_none hread, ih fun v hv => h v (hv.trans (List.suffix_cons c chars))]
    rfl

/-- What holds of the empty text, and before a token or a character of a text of which it holds, holds of all texts. -/
theorem Recogniser.induction (r : Recogniser α) {motive : List Char → Prop} (nil : motive [])
    (token : ∀ a chars rest, r.read? (chars ++ rest) = some (a, rest) → motive rest → motive (chars ++ rest))
    (plain : ∀ c cs, r.read? (c :: cs) = none → motive cs → motive (c :: cs)) (cs : List Char) : motive cs := by
  fun_induction cut r cs with
  | case1 => exact nil
  | case2 c cs a rest h ih =>
    obtain ⟨chars, _, he⟩ := r.take h
    rw [he] at h ⊢
    exact token a chars rest h ih
  | case3 c cs h ih => exact plain c cs h ih

theorem exists_of_cut_eq_token_cons {pieces : List (Piece α)} (h : cut r cs = .token a chars :: pieces) :
    ∃ rest, cs = chars ++ rest ∧ r.read? (chars ++ rest) = some (a, rest) ∧ cut r rest = pieces := by
  cases cs using r.induction with
  | nil =>
    rw [cut_nil] at h
    cases h
  | token b chars' rest hread _ =>
    rw [cut_of_read? hread] at h
    obtain ⟨he, rfl⟩ := List.cons.inj h
    obtain ⟨rfl, rfl⟩ := Piece.token.inj he
    exact ⟨rest, rfl, hread, rfl⟩
  | plain d cs hread _ =>
    rw [cut_of_read?_eq_none hread] at h
    cases (List.cons.inj h).1

theorem exists_of_cut_eq_plain_cons {pieces : List (Piece α)} (h : cut r cs = .plain c :: pieces) :
    ∃ rest, cs = c :: rest ∧ r.read? (c :: rest) = none ∧ cut r rest = pieces := by
  cases cs using r.induction with
  | nil =>
    rw [cut_nil] at h
    cases h
  | token b chars' rest hread _ =>
    rw [cut_of_read? hread] at h
    cases (List.cons.inj h).1
  | plain d cs hread _ =>
    rw [cut_of_read?_eq_none hread] at h
    obtain ⟨he, rfl⟩ := List.cons.inj h
    obtain rfl := Piece.plain.inj he
    exact ⟨cs, rfl, hread, rfl⟩

/-- Every token of a text is recognised where it stands. -/
theorem exists_read?_of_mem_tokens (h : (a, chars) ∈ tokens r cs) :
    ∃ rest, r.read? (chars ++ rest) = some (a, rest) := by
  induction cs using r.induction with
  | nil => simp [tokens] at h
  | token b chars' rest hread ih =>
    simp only [tokens, cut_of_read? hread, List.filterMap_cons, Piece.token?] at h
    rcases List.mem_cons.1 h with he | h
    · obtain ⟨rfl, rfl⟩ := Prod.mk.inj he
      exact ⟨rest, hread⟩
    · exact ih h
  | plain c cs hread ih =>
    simp only [tokens, cut_of_read?_eq_none hread, List.filterMap_cons, Piece.token?] at h
    exact ih h

/-- A text without tokens is copied where a character outside tokens is. -/
theorem flatMap_cut_eq_self (h : tokens r cs = []) {f : Piece α → List Char} (hplain : ∀ c, f (.plain c) = [c]) :
    (cut r cs).flatMap f = cs := by
  have hf : ∀ piece ∈ cut r cs, f piece = piece.chars := by
    intro piece hpiece
    cases piece with
    | plain c => exact hplain c
    | token a chars => cases List.filterMap_eq_nil_iff.1 h _ hpiece
  rw [List.flatMap_congr hf, flatMap_chars_cut]

end Formulary.Text
