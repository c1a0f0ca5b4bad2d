import Formulary.Json.Printer
import Formulary.Json.Reader
import Formulary.Proofs.Json.Grammar
import Formulary.Proofs.Text.Numeral

/-!
# Number literals

A number is read as the grammar says, digit by digit, unless what follows goes on with it (`number?_of_number`,
`number_of_number?`).  What is written for a number is a literal of the grammar for it (`number_numberChars`).
-/

namespace Formulary.Json

open Grammar

namespace Reader

variable {c : Char} {cs rest digits : List Char} {n : Nat}

/-- A text that does not go on with a number. -/
def EndsNumber (rest : List Char) : Prop := ∀ c ∈ rest.head?, c.isDigit = false ∧ c ≠ '.' ∧ c ≠ 'e' ∧ c ≠ 'E'

theorem EndsNumber.head?_not_isDigit (h : EndsNumber rest) : ∀ c ∈ rest.head?, c.isDigit = false :=
  fun c hc => (h c hc).1

/-! ### Runs of digits -/

theorem exponentDigits?_append (hdigits : Numeral.isNumeral digits = true)
    (hrest : ∀ c ∈ rest.head?, c.isDigit = false) :
    exponentDigits? (digits ++ rest) = some (Numeral.value digits, rest) := by
  obtain ⟨hne, hall⟩ := Numeral.isNumeral_iff.1 hdigits
  rw [exponentDigits?, Numeral.takeWhile_isDigit_append hall hrest, Numeral.dropWhile_isDigit_append hall hrest]
  split
  next => exact absurd rfl hne
  next => rfl

theorem exists_of_exponentDigits? (h : exponentDigits? cs = some (n, rest)) :
    ∃ digits, Numeral.isNumeral digits = true ∧ n = Numeral.value digits ∧ cs = digits ++ rest := by
  unfold exponentDigits? at h
  split at h
  next => cases h
  next hne =>
    cases h
    exact ⟨_, Numeral.isNumeral_takeWhile hne, rfl, List.takeWhile_append_dropWhile.symm⟩

/-- The whole part is read up to the first character that is no digit. -/
theorem whole?_of_whole (h : Whole cs n rest) (hrest : ∀ c ∈ rest.head?, c.isDigit = false) :
    whole? cs = some (n, rest) := by
  cases h with
  | zero => rfl
  | @digits ds rest hdigits hzero =>
    -- digits that do not start with zero are read as those of an exponent are
    have hne : ∀ tail, ds ++ rest ≠ '0' :: tail := by
      intro tail he
      obtain ⟨d, ds, rfl⟩ := List.exists_cons_of_ne_nil (Numeral.isNumeral_iff.1 hdigits).1
      exact hzero (congrArg some (List.cons.inj he).1)
    rw [whole?.eq_2 _ hne]
    exact exponentDigits?_append hdigits hrest

theorem whole_of_whole? (h : whole? cs = some (n, rest)) : Whole cs n rest := by
  unfold whole? at h
  split at h
  next => 
    cases h
    exact .zero _
  next hzero =>
    obtain ⟨digits, hdigits, rfl, rfl⟩ := exists_of_exponentDigits? h
    refine .digits rest hdigits fun hhead => ?_
    obtain ⟨tail, htail⟩ := List.head?_eq_some_iff.1 hhead
    exact hzero (tail ++ rest) (by rw [htail]; rfl)

theorem fraction?_of_fraction {ds : List (Fin 10)} (h : Fraction cs ds rest) (hpoint : rest.head? ≠ some '.')
    (hrest : ∀ c ∈ rest.head?, c.isDigit = false) : fraction? cs = some (ds, rest) := by
  have hdigit : ∀ d : Fin 10, (Nat.digitChar d.val).isDigit = true := by decide
  have hvalue : ∀ d : Fin 10, digitValue (Nat.digitChar d.val) = d := by decide
  cases h with
  | absent =>
    rw [fraction?.eq_2]
    rintro cs rfl
    exact hpoint rfl
  | digits rest hne =>
    have hdigits : ∀ c ∈ ds.map (fun d => Nat.digitChar d.val), c.isDigit = true := by
      intro c hc
      obtain ⟨d, -, rfl⟩ := List.mem_map.1 hc
      exact hdigit d
    rw [List.cons_append, fraction?, Numeral.takeWhile_isDigit_append hdigits hrest,
      Numeral.dropWhile_isDigit_append hdigits hrest]
    split
    next hnil => exact absurd (List.map_eq_nil_iff.1 hnil) hne
    next => simp [hvalue, Function.comp_def]

theorem digitChar_digitValue (hc : c.isDigit = true) : Nat.digitChar (digitValue c).val = c := by
  obtain ⟨d, hd, hc⟩ := Numeral.exists_toNat_eq hc
  have hchar : ∀ d < 10, Nat.digitChar (Fin.ofNat 10 ('0'.toNat + d - '0'.toNat)).val = Char.ofNat ('0'.toNat + d) := by
    decide
  rw [digitValue, hc, hchar d hd, ← hc, Char.ofNat_toNat]

theorem fraction_of_fraction? {ds : List (Fin 10)} (h : fraction? cs = some (ds, rest)) : Fraction cs ds rest := by
  unfold fraction? at h
  split at h
  next cs =>
    split at h
    next => cases h
    next hne =>
      cases h
      have hchars : ((cs.takeWhile Char.isDigit).map digitValue).map (fun d => Nat.digitChar d.val)
          = cs.takeWhile Char.isDigit := by
        rw [List.map_map]
        exact (List.map_congr_left fun c hc => digitChar_digitValue (List.mem_takeWhile_imp hc)).trans (List.map_id _)
      have hfraction := Fraction.digits (cs.dropWhile Char.isDigit)
        (mt List.map_eq_nil_iff.1 hne : (cs.takeWhile Char.isDigit).map digitValue ≠ [])
      rwa [hchars, List.cons_append, List.takeWhile_append_dropWhile] at hfraction
  next =>
    cases h
    exact .absent _

theorem exponent?_of_exponent {e : Option Int} (h : Exponent cs e rest) (hrest : EndsNumber rest) :
    exponent? cs = some (e, rest) := by
  cases h with
  | absent =>
    cases cs with
    | nil => rfl
    | cons c cs =>
      obtain ⟨-, -, hlower, hupper⟩ := hrest c rfl
      exact if_neg (not_or.2 ⟨hlower, hupper⟩)
  | @digits mark sign ds factor _ hmark hsign hdigits =>
    have hread := exponentDigits?_append hdigits hrest.head?_not_isDigit
    have hmark : mark = 'e' ∨ mark = 'E' := by simpa using hmark
    simp only [List.mem_cons, Prod.mk.injEq, List.not_mem_nil, or_false] at hsign
    rcases hsign with ⟨rfl, rfl⟩ | ⟨rfl, rfl⟩ | ⟨rfl, rfl⟩
    · -- the first digit is no sign
      obtain ⟨hne, hall⟩ := Numeral.isNumeral_iff.1 hdigits
      obtain ⟨d, ds, rfl⟩ := List.exists_cons_of_ne_nil hne
      have hd := hall d List.mem_cons_self
      simp only [List.cons_append, List.nil_append, exponent?, if_pos hmark] at hread ⊢
      split
      next heq =>
        rw [(List.cons.inj heq).1] at hd
        cases hd
      next heq =>
        rw [(List.cons.inj heq).1] at hd
        cases hd
      next => simp only [hread, Option.map_some, Int.one_mul]
    · simp only [List.cons_append, List.nil_append, exponent?, if_pos hmark, hread, Option.map_some, Int.one_mul]
    · simp only [List.cons_append, List.nil_append, exponent?, if_pos hmark, hread, Option.map_some, Int.neg_mul,
        Int.one_mul]

theorem exponent_of_exponent? {e : Option Int} (h : exponent? cs = some (e, rest)) : Exponent cs e rest := by
  unfold exponent? at h
  split at h
  next c cs =>
    split at h
    next hmark =>
      have hmark : c ∈ ['e', 'E'] := by simpa using hmark
      have hdigits {cs : List Char} (sign : List Char) (factor : Int)
          (hsign : (sign, factor) ∈ [([], 1), (['+'], 1), (['-'], -1)])
          (h : (exponentDigits? cs).map (fun p => (some (factor * p.1), p.2)) = some (e, rest)) :
          Exponent (c :: sign ++ cs) e rest := by
        obtain ⟨⟨n, rest⟩, hread, he⟩ := Option.map_eq_some_iff.1 h
        cases he
        obtain ⟨ds, hds, rfl, rfl⟩ := exists_of_exponentDigits? hread
        rw [← List.append_assoc]
        exact .digits rest hmark hsign hds
      split at h
      next => exact hdigits ['+'] 1 (by simp) (by simpa using h)
      next => exact hdigits ['-'] (-1) (by simp) (by simpa using h)
      next => exact hdigits [] 1 (by simp) (by simpa using h)
    next => cases h; exact .absent _
  next => cases h; exact .absent _

theorem head?_of_exponent {e : Option Int} (h : Exponent cs e rest) (hrest : EndsNumber rest) :
    ∀ c ∈ cs.head?, c.isDigit = false ∧ c ≠ '.' := by
  intro c hc
  cases h with
  | absent => exact ⟨(hrest c hc).1, (hrest c hc).2.1⟩
  | @digits mark sign ds factor _ hmark _ _ =>
    obtain rfl : mark = c := Option.some.inj hc
    simp only [List.mem_cons, List.not_mem_nil, or_false] at hmark
    rcases hmark with rfl | rfl <;> decide

theorem head?_of_fraction {ds : List (Fin 10)} (h : Fraction cs ds rest)
    (hrest : ∀ c ∈ rest.head?, c.isDigit = false) : ∀ c ∈ cs.head?, c.isDigit = false := by
  intro c hc
  cases h with
  | absent => exact hrest c hc
  | digits rest hne =>
    obtain rfl : '.' = c := Option.some.inj hc
    rfl

theorem unsigned?_of_unsigned {n : JsonNumber} (h : Unsigned cs n rest) (hrest : EndsNumber rest) :
    unsigned? n.negative cs = some (n, rest) := by
  obtain ⟨cs₁, cs₂, hwhole, hfraction, hexponent⟩ := h
  have hhead := head?_of_exponent hexponent hrest
  have hdigit : ∀ c ∈ cs₂.head?, c.isDigit = false := fun c hc => (hhead c hc).1
  have hpoint : cs₂.head? ≠ some '.' := fun he => (hhead _ he).2 rfl
  have hwhole := whole?_of_whole hwhole (head?_of_fraction hfraction hdigit)
  have hfraction := fraction?_of_fraction hfraction hpoint hdigit
  have hexponent := exponent?_of_exponent hexponent hrest
  simp only [unsigned?, hwhole, hfraction, hexponent, Option.bind_eq_bind, Option.bind_some, Option.pure_def]

theorem unsigned_of_unsigned? {n : JsonNumber} {negative : Bool} (h : unsigned? negative cs = some (n, rest)) :
    n.negative = negative ∧ Unsigned cs n rest := by
  simp only [unsigned?, Option.bind_eq_bind, Option.bind_eq_some_iff, Option.pure_def] at h
  obtain ⟨⟨whole, cs₁⟩, hwhole, ⟨fraction, cs₂⟩, hfraction, ⟨exponent, cs₃⟩, hexponent, he⟩ := h
  cases he
  exact ⟨rfl, cs₁, cs₂, whole_of_whole? hwhole, fraction_of_fraction? hfraction, exponent_of_exponent? hexponent⟩

theorem exists_of_unsigned {n : JsonNumber} (h : Unsigned cs n rest) : ∃ c tail, cs = c :: tail ∧ c.isDigit = true := by
  obtain ⟨cs₁, cs₂, hwhole, -⟩ := h
  generalize n.whole = whole at hwhole
  cases hwhole with
  | zero => exact ⟨'0', _, rfl, rfl⟩
  | digits _ hdigits =>
    obtain ⟨hne, hall⟩ := Numeral.isNumeral_iff.1 hdigits
    obtain ⟨d, ds, rfl⟩ := List.exists_cons_of_ne_nil hne
    exact ⟨d, _, rfl, hall d List.mem_cons_self⟩

/-- A number is read as a whole, unless what follows goes on with it. -/
theorem number?_of_number {n : JsonNumber} (h : Number cs n rest) (hrest : EndsNumber rest) :
    number? cs = some (n, rest) := by
  cases h with
  | plain hn h =>
    obtain ⟨c, tail, rfl, hc⟩ := exists_of_unsigned h
    have hminus : ∀ cs, c :: tail ≠ '-' :: cs := by
      intro cs he
      rw [(List.cons.inj he).1] at hc
      cases hc
    rw [number?.eq_2 _ hminus, ← hn]
    exact unsigned?_of_unsigned h hrest
  | minus hn h =>
    rw [number?, ← hn]
    exact unsigned?_of_unsigned h hrest

theorem number_of_number? {n : JsonNumber} (h : number? cs = some (n, rest)) : Number cs n rest := by
  unfold number? at h
  split at h
  next =>
    obtain ⟨hn, h⟩ := unsigned_of_unsigned? h
    exact .minus hn h
  next =>
    obtain ⟨hn, h⟩ := unsigned_of_unsigned? h
    exact .plain hn h

end Reader

/-! ### What is written -/

/-- The point and the digits after it, if there are any. -/
def fractionChars (digits : List (Fin 10)) : List Char :=
  if digits = [] then [] else '.' :: digits.flatMap fun d => Numeral.ofNat d.val

/-- The mark and the exponent, if there is one. -/
def exponentChars : Option Int → List Char
  | some e => 'e' :: Numeral.ofInt e
  | none => []

theorem numberChars_eq (n : JsonNumber) :
    numberChars n = (if n.negative then ['-'] else []) ++ Numeral.ofNat n.whole ++ fractionChars n.fraction
      ++ exponentChars n.exponent := by
  unfold numberChars exponentChars
  rfl

theorem whole_ofNat (n : Nat) (rest : List Char) : Whole (Numeral.ofNat n ++ rest) n rest := by
  by_cases hzero : n = 0
  · rw [hzero]
    exact .zero rest
  · have hwhole := Whole.digits rest (Numeral.isNumeral_ofNat n) (Numeral.head?_ofNat_ne_zero hzero)
    rwa [Numeral.value_ofNat] at hwhole

theorem fraction_fractionChars (digits : List (Fin 10)) (rest : List Char) :
    Fraction (fractionChars digits ++ rest) digits rest := by
  have hofNat : ∀ d : Fin 10, Numeral.ofNat d.val = [Nat.digitChar d.val] := by decide
  unfold fractionChars
  split
  next hnil =>
    rw [hnil]
    exact .absent rest
  next hne =>
    simp only [hofNat]
    rw [← List.map_eq_flatMap]
    exact .digits rest hne

theorem exponent_exponentChars (exponent : Option Int) (rest : List Char) :
    Exponent (exponentChars exponent ++ rest) exponent rest := by
  cases exponent with
  | none => exact .absent rest
  | some e =>
    have hmark : 'e' ∈ ['e', 'E'] := List.mem_cons_self
    have hdigits := Numeral.isNumeral_ofNat e.natAbs
    by_cases hneg : e < 0
    · have hsign : (['-'], (-1 : Int)) ∈ [([], 1), (['+'], 1), (['-'], -1)] := by simp
      have hexponent := Exponent.digits rest hmark hsign hdigits
      have he : -1 * (Numeral.value (Numeral.ofNat e.natAbs) : Int) = e := by rw [Numeral.value_ofNat]; omega
      rw [he] at hexponent
      rw [exponentChars, Numeral.ofInt, if_pos hneg]
      exact hexponent
    · have hsign : ([], (1 : Int)) ∈ [([], 1), (['+'], 1), (['-'], -1)] := List.mem_cons_self
      have hexponent := Exponent.digits rest hmark hsign hdigits
      have he : 1 * (Numeral.value (Numeral.ofNat e.natAbs) : Int) = e := by rw [Numeral.value_ofNat]; omega
      rw [he] at hexponent
      rw [exponentChars, Numeral.ofInt, if_neg hneg]
      exact hexponent

/-- What is written for a number is a number of the grammar. -/
theorem number_numberChars (n : JsonNumber) (rest : List Char) : Number (numberChars n ++ rest) n rest := by
  have hunsigned : Unsigned (Numeral.ofNat n.whole ++ (fractionChars n.fraction ++ (exponentChars n.exponent ++ rest)))
      n rest :=
    ⟨_, _, whole_ofNat n.whole _, fraction_fractionChars n.fraction _, exponent_exponentChars n.exponent rest⟩
  rw [numberChars_eq]
  cases hn : n.negative with
  | true => simpa [hn] using Number.minus hn hunsigned
  | false => simpa [hn] using Number.plain hn hunsigned

end Formulary.Json
