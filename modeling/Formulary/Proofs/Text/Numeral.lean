import Formulary.Text.Numeral
import Mathlib.Algebra.Ring.Nat
import Mathlib.Data.List.Induction
import Mathlib.Data.List.TakeWhile
import Mathlib.Data.Nat.Digits.Defs

/-!
# Reading numerals back

A numeral consists of digits, and leading zeros do not change the number for which it stands (`value_padded`).
Numerals of one width are the numbers below a power of ten (`padded_value`).  A reader that takes digits up to a width
takes a numeral of that width as a whole, and a shorter one if no digit follows it (`spanDigits_append`).  The numeral of
an integer may have a sign and leading zeros (`readInt?_eq_some_iff`), and the one that is written for it determines it
(`ofInt_injective`).
-/

namespace Formulary.Numeral

variable {c : Char} {width n k : Nat} {i : Int} {digits rest cs a b : List Char}

theorem toList_toString_nat (n : Nat) : (toString n).toList = ofNat n := String.toList_ofList

theorem toList_toString_int (i : Int) : (toString i).toList = ofInt i := by
  cases i with
  | ofNat n => exact toList_toString_nat n
  | negSucc n =>
    have hneg : ofInt (.negSucc n) = '-' :: ofNat (n + 1) := if_pos (Int.negSucc_lt_zero n)
    rw [hneg, ← toList_toString_nat]
    exact String.toList_append

theorem ofNat_ne_nil (n : Nat) : ofNat n ≠ [] := Nat.toDigits_ne_nil

theorem isDigit_of_mem_ofNat (h : c ∈ ofNat n) : c.isDigit = true :=
  Nat.isDigit_of_mem_toDigits (by decide) (by decide) h

theorem isDigit_of_mem_padded (h : c ∈ padded width n) : c.isDigit = true := by
  rcases List.mem_append.1 h with h | h
  · rw [(List.mem_replicate.1 h).2]
    rfl
  · exact isDigit_of_mem_ofNat h

theorem padded_ne_nil (width n : Nat) : padded width n ≠ [] := by
  simp [padded, ofNat_ne_nil]

/-- A numeral starts with a digit, with or without leading zeros. -/
theorem exists_ofNat_eq_cons (n : Nat) : ∃ c cs, c.isDigit = true ∧ ofNat n = c :: cs := by
  obtain ⟨c, cs, h⟩ := List.exists_cons_of_ne_nil (ofNat_ne_nil n)
  exact ⟨c, cs, isDigit_of_mem_ofNat (h ▸ List.mem_cons_self), h⟩

theorem exists_padded_eq_cons (width n : Nat) : ∃ c cs, c.isDigit = true ∧ padded width n = c :: cs := by
  obtain ⟨c, cs, h⟩ := List.exists_cons_of_ne_nil (padded_ne_nil width n)
  exact ⟨c, cs, isDigit_of_mem_padded (h ▸ List.mem_cons_self), h⟩

/-- A number that fits the width is written with just as many digits. -/
theorem length_padded (hwidth : 0 < width) (h : n < 10 ^ width) : (padded width n).length = width := by
  have hle : (ofNat n).length ≤ width := (Nat.length_toDigits_le_iff (by decide) hwidth).2 h
  rw [padded, List.length_append, List.length_replicate]
  omega

theorem value_padded (width n : Nat) : value (padded width n) = n := by
  rw [value, padded, Nat.ofDigitChars_append, Nat.ofDigitChars_replicate_zero, Nat.mul_zero]
  exact value_ofNat n

theorem value_append_singleton (digits : List Char) (c : Char) :
    value (digits ++ [c]) = 10 * value digits + (c.toNat - '0'.toNat) := by
  rw [value, Nat.ofDigitChars_append, Nat.ofDigitChars_cons]
  rfl

/-- Digits before others count by the places that these take. -/
theorem value_append (digits rest : List Char) :
    value (digits ++ rest) = 10 ^ rest.length * value digits + value rest := by
  rw [value, Nat.ofDigitChars_append, Nat.ofDigitChars_eq_ofDigitChars_zero]
  rfl

/-- A digit stands for a number below ten. -/
theorem exists_toNat_eq (h : c.isDigit = true) : ∃ d < 10, c.toNat = '0'.toNat + d := by
  obtain ⟨hlow, hhigh⟩ := Char.isDigit_iff_toNat.1 h
  have hwidth : '9'.toNat = '0'.toNat + 9 := rfl
  exact ⟨c.toNat - '0'.toNat, by omega, by omega⟩

theorem value_lt (hdigits : ∀ c ∈ digits, c.isDigit = true) : value digits < 10 ^ digits.length := by
  induction digits using List.reverseRecOn with
  | nil => decide
  | append_singleton digits c ih =>
    obtain ⟨d, hd, hc⟩ := exists_toNat_eq (hdigits c (by simp))
    have hlt := ih fun e he => hdigits e (List.mem_append_left _ he)
    rw [value_append_singleton, List.length_append, List.length_singleton, Nat.pow_succ, hc]
    omega

/-- Numerals with as many digits stand for different numbers. -/
theorem value_inj (ha : ∀ c ∈ a, c.isDigit = true) (hb : ∀ c ∈ b, c.isDigit = true) (hlength : a.length = b.length)
    (h : value a = value b) : a = b := by
  induction a using List.reverseRecOn generalizing b with
  | nil => exact (List.length_eq_zero_iff.1 hlength.symm).symm
  | append_singleton a c ih =>
    rcases List.eq_nil_or_concat b with rfl | ⟨b, d, rfl⟩
    · simp at hlength
    · rw [List.concat_eq_append] at hb hlength h ⊢
      rw [value_append_singleton, value_append_singleton] at h
      obtain ⟨m, hm, hc⟩ := exists_toNat_eq (ha c (by simp))
      obtain ⟨k, hk, hd⟩ := exists_toNat_eq (hb d (by simp))
      have hmk : m = k := by omega
      have htail : a = b :=
        ih (fun e he => ha e (List.mem_append_left _ he)) (fun e he => hb e (List.mem_append_left _ he))
          (by simpa using hlength) (by omega)
      have hlast : c = d := Char.toNat_inj.1 (by rw [hc, hd, hmk])
      rw [htail, hlast]

/-- Digits are what is written, with as many digits, for the number for which they stand. -/
theorem padded_value (hne : digits ≠ []) (hdigits : ∀ c ∈ digits, c.isDigit = true) :
    padded digits.length (value digits) = digits :=
  value_inj (fun _ => isDigit_of_mem_padded) hdigits
    (length_padded (List.length_pos_iff.2 hne) (value_lt hdigits)) (value_padded _ _)

theorem value_append_replicate_zero (digits : List Char) (k : Nat) :
    value (digits ++ List.replicate k '0') = 10 ^ k * value digits := by
  rw [value, Nat.ofDigitChars_append, Nat.ofDigitChars_replicate_zero, value]

/-- Digits are read as a whole if there are as many as the width allows, or fewer and no digit follows. -/
theorem spanDigits_append (hdigits : ∀ c ∈ digits, c.isDigit = true) (hle : digits.length ≤ width)
    (hrest : digits.length = width ∨ ∀ c ∈ rest.head?, c.isDigit = false) :
    spanDigits width (digits ++ rest) = (digits, rest) := by
  induction digits generalizing width with
  | nil =>
    rcases hrest with hzero | hrest
    · rw [← hzero]
      rfl
    · cases rest with
      | nil => cases width <;> rfl
      | cons c rest =>
        cases width with
        | zero => rfl
        | succ width =>
          have hc : c.isDigit = false := hrest c rfl
          simp [spanDigits, hc]
  | cons c digits ih =>
    cases width with
    | zero => simp at hle
    | succ width =>
      have hspan := ih (fun d hd => hdigits d (List.mem_cons_of_mem c hd)) (Nat.le_of_succ_le_succ hle)
        (hrest.imp_left Nat.succ.inj)
      simp [spanDigits, hdigits c List.mem_cons_self, hspan]

theorem head?_ofNat_ne_zero (h : n ≠ 0) : (ofNat n).head? ≠ some '0' := by
  rw [ofNat]
  induction n using Nat.base_induction 10 (by decide) with
  | single m hm =>
    have hdigit : ∀ m < 10, m ≠ 0 → m.digitChar ≠ '0' := by decide
    rw [Nat.toDigits_of_lt_base hm]
    exact fun heq => hdigit m hm h (Option.some.inj heq)
  | digit m k hk hm ih =>
    have hhead := ih (by omega)
    rw [← Nat.toDigits_append_toDigits (by decide) hm hk]
    cases hcons : Nat.toDigits 10 m with
    | nil => exact absurd hcons Nat.toDigits_ne_nil
    | cons c cs => rwa [hcons] at hhead

/-- Digits that follow one another are skipped up to the first other character. -/
theorem dropWhile_isDigit_eq_self (h : ∀ c ∈ rest.head?, c.isDigit = false) : rest.dropWhile Char.isDigit = rest := by
  cases rest with
  | nil => rfl
  | cons c rest => exact List.dropWhile_cons_of_neg (by simp [h c rfl])

theorem takeWhile_isDigit_append (hdigits : ∀ c ∈ digits, c.isDigit = true)
    (hrest : ∀ c ∈ rest.head?, c.isDigit = false) : (digits ++ rest).takeWhile Char.isDigit = digits := by
  have hnil : rest.takeWhile Char.isDigit = [] := by
    cases rest with
    | nil => rfl
    | cons c rest => exact List.takeWhile_cons_of_neg (by simp [hrest c rfl])
  rw [List.takeWhile_append_of_pos hdigits, hnil, List.append_nil]

theorem dropWhile_isDigit_append (hdigits : ∀ c ∈ digits, c.isDigit = true)
    (hrest : ∀ c ∈ rest.head?, c.isDigit = false) : (digits ++ rest).dropWhile Char.isDigit = rest := by
  rw [List.dropWhile_append_of_pos hdigits, dropWhile_isDigit_eq_self hrest]

theorem isNumeral_iff : isNumeral digits = true ↔ digits ≠ [] ∧ ∀ c ∈ digits, c.isDigit = true := by
  simp [isNumeral]

theorem isNumeral_ofNat (n : Nat) : isNumeral (ofNat n) = true :=
  isNumeral_iff.2 ⟨ofNat_ne_nil n, fun _ => isDigit_of_mem_ofNat⟩

theorem isNumeral_takeWhile (h : cs.takeWhile Char.isDigit ≠ []) :
    isNumeral (cs.takeWhile Char.isDigit) = true :=
  isNumeral_iff.2 ⟨h, fun _ => List.mem_takeWhile_imp⟩

/-! ### Integers -/

/-- Digits count by their places, from the last one on. -/
theorem value_eq_ofDigits (digits : List Char) :
    value digits = Nat.ofDigits 10 (digits.reverse.map fun c => c.toNat - '0'.toNat) := by
  induction digits using List.reverseRecOn with
  | nil => rfl
  | append_singleton digits c ih =>
    rw [value_append_singleton, List.reverse_append, List.reverse_singleton, List.singleton_append, List.map_cons,
      Nat.ofDigits_cons, ih, Nat.add_comm]

/-- A numeral of an integer: one digit or more in ASCII, which count by their places, after an optional sign. -/
inductive Denotes : List Char → Int → Prop
  | intro {sign digits : List Char} {factor : Int} (hsign : (sign, factor) ∈ [([], 1), (['+'], 1), (['-'], -1)])
      (hne : digits ≠ []) (hdigits : ∀ c ∈ digits, c.isDigit = true) :
      Denotes (sign ++ digits) (factor * (Nat.ofDigits 10 (digits.reverse.map fun c => c.toNat - '0'.toNat) : Nat))

/-- No sign stands before digits. -/
theorem readInt?_of_isNumeral (h : isNumeral cs = true) : readInt? cs = some (value cs : Int) := by
  obtain ⟨-, hdigits⟩ := isNumeral_iff.1 h
  unfold readInt?
  split
  next => exact absurd (hdigits '+' List.mem_cons_self) (by decide)
  next => exact absurd (hdigits '-' List.mem_cons_self) (by decide)
  next => rw [if_pos h]

theorem readInt?_eq_some_iff : readInt? cs = some i ↔ Denotes cs i := by
  constructor
  · intro h
    have hdenotes {digits : List Char} (sign : List Char) (factor : Int)
        (hsign : (sign, factor) ∈ [([], 1), (['+'], 1), (['-'], -1)])
        (h : (if isNumeral digits then some (factor * (value digits : Int)) else none) = some i) :
        Denotes (sign ++ digits) i := by
      split at h
      next hnumeral =>
        obtain ⟨hne, hdigits⟩ := isNumeral_iff.1 hnumeral
        obtain rfl := Option.some.inj h
        rw [value_eq_ofDigits]
        exact .intro hsign hne hdigits
      next => cases h
    unfold readInt? at h
    split at h
    next => exact hdenotes ['+'] 1 (by simp) (by simpa using h)
    next => exact hdenotes ['-'] (-1) (by simp) (by simpa using h)
    next => exact hdenotes [] 1 (by simp) (by simpa using h)
  · rintro ⟨hsign, hne, hdigits⟩
    have hnumeral := isNumeral_iff.2 ⟨hne, hdigits⟩
    rw [← value_eq_ofDigits]
    simp only [List.mem_cons, Prod.mk.injEq, List.not_mem_nil, or_false] at hsign
    rcases hsign with ⟨rfl, rfl⟩ | ⟨rfl, rfl⟩ | ⟨rfl, rfl⟩
    · rw [List.nil_append, readInt?_of_isNumeral hnumeral, Int.one_mul]
    · simp [readInt?, hnumeral]
    · simp [readInt?, hnumeral]

/-- The numeral that is written for an integer is read as this integer. -/
theorem readInt?_ofInt (i : Int) : readInt? (ofInt i) = some i := by
  by_cases h : i < 0
  · have hi : -(i.natAbs : Int) = i := by omega
    rw [ofInt, if_pos h, readInt?, if_pos (isNumeral_ofNat _), value_ofNat, hi]
  · have hi : (i.natAbs : Int) = i := by omega
    rw [ofInt, if_neg h, readInt?_of_isNumeral (isNumeral_ofNat _), value_ofNat, hi]

theorem ofNat_injective : Function.Injective ofNat := Function.LeftInverse.injective value_ofNat

theorem ofInt_injective : Function.Injective ofInt := by
  intro i j h
  have hread := readInt?_ofInt i
  rw [h, readInt?_ofInt] at hread
  exact (Option.some.inj hread).symm

theorem not_mem_ofNat (hc : c.isDigit = false) : c ∉ ofNat n := fun hmem => by
  rw [isDigit_of_mem_ofNat hmem] at hc
  cases hc

theorem not_mem_ofInt (hc : c.isDigit = false) (hminus : c ≠ '-') : c ∉ ofInt i := by
  unfold ofInt
  split
  next => exact List.not_mem_cons_of_ne_of_not_mem hminus (not_mem_ofNat hc)
  next => exact not_mem_ofNat hc

end Formulary.Numeral
