import Mathlib.Computability.RegularExpressions

/-!
# Regular expressions over characters

The building blocks of patterns for whole texts: a character of a class, repetitions of it, and parts with a separator
between them or behind them.  For each of them there is a lemma that tells the texts that it matches.
-/

namespace Formulary.Text.Regular

open RegularExpression

/-- One character of a class. -/
def oneOf (chars : List Char) : RegularExpression Char := (chars.map .char).foldr (· + ·) 0

/-- One or more times. -/
def several (p : RegularExpression Char) : RegularExpression Char := p * p.star

/-- At most `n` times. -/
def atMost (n : Nat) (p : RegularExpression Char) : RegularExpression Char := (1 + p) ^ n

variable {p q : RegularExpression Char} {chars cs : List Char} {c : Char} {n : Nat}

/-! ### Characters of a class -/

theorem mem_oneOf_iff : cs ∈ (oneOf chars).matches' ↔ ∃ c ∈ chars, cs = [c] := by
  induction chars with
  | nil => exact ⟨fun h => (Language.notMem_zero cs h).elim, nofun⟩
  | cons d chars ih =>
    rw [List.exists_mem_cons_iff, ← ih]
    exact Language.mem_add _ _ _

/-- Texts of the class `oneOf chars`, one after the other, are a text of characters of the class. -/
theorem flatten_of_forall_mem_oneOf {parts : List (List Char)} (h : ∀ part ∈ parts, part ∈ (oneOf chars).matches') :
    parts.flatten.length = parts.length ∧ ∀ c ∈ parts.flatten, c ∈ chars := by
  induction parts with
  | nil => exact ⟨rfl, nofun⟩
  | cons part parts ih =>
    obtain ⟨hpart, hparts⟩ := List.forall_mem_cons.1 h
    obtain ⟨c, hc, rfl⟩ := mem_oneOf_iff.1 hpart
    obtain ⟨hlength, hmem⟩ := ih hparts
    refine ⟨by simp [hlength], ?_⟩
    rw [List.flatten_cons, List.singleton_append, List.forall_mem_cons]
    exact ⟨hc, hmem⟩

theorem singletons_mem_oneOf (h : ∀ c ∈ cs, c ∈ chars) :
    ∀ part ∈ cs.map fun c => [c], part ∈ (oneOf chars).matches' := by
  intro part hpart
  obtain ⟨c, hc, rfl⟩ := List.mem_map.1 hpart
  exact mem_oneOf_iff.2 ⟨c, h c hc, rfl⟩

theorem mem_star_oneOf_iff : cs ∈ (oneOf chars).star.matches' ↔ ∀ c ∈ cs, c ∈ chars := by
  rw [matches'_star, Language.mem_kstar]
  constructor
  · rintro ⟨parts, rfl, hparts⟩
    exact (flatten_of_forall_mem_oneOf hparts).2
  · intro h
    exact ⟨cs.map fun c => [c], (List.flatMap_singleton' cs).symm, singletons_mem_oneOf h⟩

theorem mem_several_oneOf_iff : cs ∈ (several (oneOf chars)).matches' ↔ cs ≠ [] ∧ ∀ c ∈ cs, c ∈ chars := by
  rw [several, matches'_mul, Language.mem_mul]
  constructor
  · rintro ⟨first, hfirst, rest, hrest, rfl⟩
    obtain ⟨c, hc, rfl⟩ := mem_oneOf_iff.1 hfirst
    exact ⟨List.cons_ne_nil c rest, List.forall_mem_cons.2 ⟨hc, mem_star_oneOf_iff.1 hrest⟩⟩
  · rintro ⟨hne, h⟩
    obtain ⟨c, rest, rfl⟩ := List.exists_cons_of_ne_nil hne
    obtain ⟨hc, hrest⟩ := List.forall_mem_cons.1 h
    exact ⟨[c], mem_oneOf_iff.2 ⟨c, hc, rfl⟩, rest, mem_star_oneOf_iff.2 hrest, rfl⟩

theorem mem_pow_oneOf_iff : cs ∈ (oneOf chars ^ n).matches' ↔ cs.length = n ∧ ∀ c ∈ cs, c ∈ chars := by
  rw [matches'_pow, Language.mem_pow]
  constructor
  · rintro ⟨parts, rfl, rfl, hparts⟩
    exact flatten_of_forall_mem_oneOf hparts
  · rintro ⟨rfl, h⟩
    exact ⟨cs.map fun c => [c], (List.flatMap_singleton' cs).symm, List.length_map _, singletons_mem_oneOf h⟩

theorem mem_atMost_oneOf_iff : cs ∈ (atMost n (oneOf chars)).matches' ↔ cs.length ≤ n ∧ ∀ c ∈ cs, c ∈ chars := by
  rw [atMost, matches'_pow, matches'_add, matches'_epsilon]
  induction n generalizing cs with
  | zero =>
    rw [pow_zero, Language.mem_one, Nat.le_zero, List.length_eq_zero_iff, iff_self_and]
    rintro rfl
    exact nofun
  | succ n ih =>
    rw [pow_succ', Language.mem_mul]
    constructor
    · rintro ⟨first, hfirst, rest, hrest, rfl⟩
      obtain ⟨hlength, hmem⟩ := ih.1 hrest
      rcases (Language.mem_add _ _ _).1 hfirst with hfirst | hfirst
      · obtain rfl := (Language.mem_one _).1 hfirst
        exact ⟨Nat.le_succ_of_le hlength, hmem⟩
      · obtain ⟨c, hc, rfl⟩ := mem_oneOf_iff.1 hfirst
        exact ⟨Nat.succ_le_succ hlength, List.forall_mem_cons.2 ⟨hc, hmem⟩⟩
    · rintro ⟨hlength, hmem⟩
      cases cs with
      | nil => exact ⟨[], .inl rfl, [], ih.2 ⟨Nat.zero_le n, hmem⟩, rfl⟩
      | cons c cs =>
        obtain ⟨hc, hcs⟩ := List.forall_mem_cons.1 hmem
        exact ⟨[c], .inr (mem_oneOf_iff.2 ⟨c, hc, rfl⟩), cs, ih.2 ⟨Nat.le_of_succ_le_succ hlength, hcs⟩, rfl⟩

/-! ### Parts and separators -/

theorem mem_char_mul_iff : cs ∈ (char c * p).matches' ↔ ∃ part ∈ p.matches', cs = c :: part := by
  rw [matches'_mul, Language.mem_mul]
  constructor
  · rintro ⟨_, rfl, part, hpart, rfl⟩
    exact ⟨part, hpart, rfl⟩
  · rintro ⟨part, hpart, rfl⟩
    exact ⟨[c], rfl, part, hpart, rfl⟩

theorem mem_mul_char_iff : cs ∈ (p * char c).matches' ↔ ∃ part ∈ p.matches', cs = part ++ [c] := by
  rw [matches'_mul, Language.mem_mul]
  constructor
  · rintro ⟨part, hpart, _, rfl, rfl⟩
    exact ⟨part, hpart, rfl⟩
  · rintro ⟨part, hpart, rfl⟩
    exact ⟨part, hpart, [c], rfl, rfl⟩

/-- If a pattern matches the images of what another one matches, repetitions of it match what follows one another. -/
theorem mem_star_iff {f : List Char → List Char} (hf : ∀ cs, cs ∈ q.matches' ↔ ∃ part ∈ p.matches', cs = f part) :
    cs ∈ q.star.matches' ↔ ∃ parts : List (List Char), (∀ part ∈ parts, part ∈ p.matches') ∧ cs = parts.flatMap f := by
  rw [matches'_star, Language.mem_kstar]
  constructor
  · rintro ⟨images, rfl, himages⟩
    induction images with
    | nil => exact ⟨[], nofun, rfl⟩
    | cons image images ih =>
      obtain ⟨himage, hrest⟩ := List.forall_mem_cons.1 himages
      obtain ⟨part, hpart, rfl⟩ := (hf image).1 himage
      obtain ⟨parts, hparts, hflatten⟩ := ih hrest
      refine ⟨part :: parts, List.forall_mem_cons.2 ⟨hpart, hparts⟩, ?_⟩
      rw [List.flatten_cons, hflatten, List.flatMap_cons]
  · rintro ⟨parts, hparts, rfl⟩
    refine ⟨parts.map f, rfl, fun image himage => ?_⟩
    obtain ⟨part, hpart, rfl⟩ := List.mem_map.1 himage
    exact (hf _).2 ⟨part, hparts part hpart, rfl⟩

theorem intercalate_cons (part : List Char) (parts : List (List Char)) :
    [c].intercalate (part :: parts) = part ++ parts.flatMap (c :: ·) := by
  induction parts generalizing part with
  | nil => simp
  | cons next parts ih => rw [List.intercalate_cons_cons, ih, List.flatMap_cons]; simp

theorem intercalate_append_singleton (parts : List (List Char)) (last : List Char) :
    [c].intercalate (parts ++ [last]) = parts.flatMap (· ++ [c]) ++ last := by
  induction parts with
  | nil => simp
  | cons part parts ih =>
    have hne : parts ++ [last] ≠ [] := List.append_ne_nil_of_right_ne_nil parts (List.cons_ne_nil last [])
    obtain ⟨next, rest, hrest⟩ := List.exists_cons_of_ne_nil hne
    rw [List.cons_append, hrest, List.intercalate_cons_cons, ← hrest, ih, List.flatMap_cons]
    simp only [List.append_assoc]

/-- Parts with a character between them. -/
theorem mem_separated_iff : cs ∈ (p * (char c * p).star).matches' ↔
    ∃ parts, parts ≠ [] ∧ (∀ part ∈ parts, part ∈ p.matches') ∧ cs = [c].intercalate parts := by
  rw [matches'_mul, Language.mem_mul]
  simp only [mem_star_iff fun _ => mem_char_mul_iff]
  constructor
  · rintro ⟨first, hfirst, _, ⟨rest, hrest, rfl⟩, rfl⟩
    exact ⟨first :: rest, List.cons_ne_nil _ _, List.forall_mem_cons.2 ⟨hfirst, hrest⟩, (intercalate_cons _ _).symm⟩
  · rintro ⟨parts, hne, hparts, rfl⟩
    obtain ⟨first, rest, rfl⟩ := List.exists_cons_of_ne_nil hne
    obtain ⟨hfirst, hrest⟩ := List.forall_mem_cons.1 hparts
    exact ⟨first, hfirst, _, ⟨rest, hrest, rfl⟩, (intercalate_cons _ _).symm⟩

/-- Parts with a character behind each of them, and a last part. -/
theorem mem_terminated_iff : cs ∈ (several (p * char c) * q).matches' ↔
    ∃ parts last, parts ≠ [] ∧ (∀ part ∈ parts, part ∈ p.matches') ∧ last ∈ q.matches' ∧
      cs = [c].intercalate (parts ++ [last]) := by
  simp only [several, matches'_mul (_ * _), Language.mem_mul, mem_star_iff fun _ => mem_mul_char_iff, mem_mul_char_iff]
  constructor
  · rintro ⟨_, ⟨_, ⟨first, hfirst, rfl⟩, _, ⟨rest, hrest, rfl⟩, rfl⟩, last, hlast, rfl⟩
    refine ⟨first :: rest, last, List.cons_ne_nil _ _, List.forall_mem_cons.2 ⟨hfirst, hrest⟩, hlast, ?_⟩
    rw [intercalate_append_singleton, List.flatMap_cons]
  · rintro ⟨parts, last, hne, hparts, hlast, rfl⟩
    obtain ⟨first, rest, rfl⟩ := List.exists_cons_of_ne_nil hne
    obtain ⟨hfirst, hrest⟩ := List.forall_mem_cons.1 hparts
    refine ⟨_, ⟨_, ⟨first, hfirst, rfl⟩, _, ⟨rest, hrest, rfl⟩, rfl⟩, last, hlast, ?_⟩
    rw [intercalate_append_singleton, List.flatMap_cons]

end Formulary.Text.Regular
