import Formulary.Form.Report
import Formulary.Proofs.Decimal.Shortest
import Formulary.Proofs.Form.Submission
import Formulary.Proofs.Text.Trim

/-!
# Numbers given as numbers

A number of a submission is taken as a text: an integer of 64 bits as its numeral, any other number as the shortest
decimal of a double, with an exponent if the double is not zero and is less than `10 ^ -5` or at least `10 ^ 16`.  As a
value of a form a number has no exponent, so that only the other ones are numbers there (`isNumber_iff_isPlain`).
-/

namespace Formulary

namespace Binary64

variable {x : Binary64}

/-- The mantissa of a double with another exponent than the least one has 53 binary digits. -/
theorem le_mantissa (h : x.exponent ≠ -1074) : (4503599627370496 : ℚ) ≤ x.mantissa := by
  exact_mod_cast x.normal.resolve_right h

/-- No double below `10 ^ 16` is as near to it as the double `10 ^ 16`. -/
theorem high_lt_ten_pow_16 (h : x.value < 10 ^ (16 : Int)) : x.high < 10 ^ (16 : Int) := by
  have hmantissa : (x.mantissa : ℚ) < 9007199254740992 := by exact_mod_cast x.mantissa_lt
  have hnonneg : (0 : ℚ) ≤ x.mantissa := x.mantissa.cast_nonneg
  rw [value] at h
  rw [high]
  norm_num at h ⊢
  rcases lt_trichotomy x.exponent 1 with hlt | heq | hgt
  · have hunit : (2 : ℚ) ^ x.exponent ≤ 2 ^ (0 : Int) := zpow_le_zpow_right₀ (by norm_num) (by omega)
    have hpos : (0 : ℚ) < 2 ^ x.exponent := zpow_pos two_pos _
    rw [zpow_zero] at hunit
    nlinarith
  · rw [heq, zpow_one] at h ⊢
    have hlt : x.mantissa < 5000000000000000 := by
      have : (x.mantissa : ℚ) < 5000000000000000 := by linarith
      exact_mod_cast this
    have hle : (x.mantissa : ℚ) ≤ 4999999999999999 := by exact_mod_cast Nat.le_of_lt_succ hlt
    linarith
  · have hunit : (2 : ℚ) ^ (2 : Int) ≤ 2 ^ x.exponent := zpow_le_zpow_right₀ (by norm_num) (by omega)
    have hleast := le_mantissa (x := x) (by omega)
    norm_num at hunit
    nlinarith

/-- The double nearest to `10 ^ -5` is greater, and no other double is as near. -/
theorem high_lt_ten_pow_neg_5 (h : x.value < 10 ^ (-5 : Int)) : x.high < 10 ^ (-5 : Int) := by
  have hmantissa : (x.mantissa : ℚ) ≤ 9007199254740991 := by exact_mod_cast Nat.le_of_lt_succ x.mantissa_lt
  have hpos : (0 : ℚ) < 2 ^ x.exponent := zpow_pos two_pos _
  have hnonneg : (0 : ℚ) ≤ x.mantissa := x.mantissa.cast_nonneg
  rw [value] at h
  rw [high]
  norm_num at h ⊢
  rcases lt_trichotomy x.exponent (-69) with hlt | heq | hgt
  · have hunit : (2 : ℚ) ^ x.exponent ≤ 2 ^ (-70 : Int) := zpow_le_zpow_right₀ (by norm_num) (by omega)
    norm_num at hunit
    nlinarith
  · rw [heq] at h ⊢
    norm_num at h ⊢
    have hlt : x.mantissa < 5902958103587057 := by
      have : (x.mantissa : ℚ) < 5902958103587057 := by linarith
      exact_mod_cast this
    have hle : (x.mantissa : ℚ) ≤ 5902958103587056 := by exact_mod_cast Nat.le_of_lt_succ hlt
    linarith
  · have hunit : (2 : ℚ) ^ (-68 : Int) ≤ 2 ^ x.exponent := zpow_le_zpow_right₀ (by norm_num) (by omega)
    have hleast := le_mantissa (x := x) (by omega)
    norm_num at hunit
    nlinarith

end Binary64

/-- The literal is an integer of 64 bits, or its double is zero or of an order of magnitude that is written without an
exponent. -/
def JsonNumber.IsPlain (n : JsonNumber) : Prop :=
  (∃ i, n.int? = some i ∧ FormValues.Fits64 i) ∨
    ∃ x, n.magnitude? = some x ∧ (x.mantissa = 0 ∨ 10 ^ (-5 : Int) ≤ x.value ∧ x.value < 10 ^ (16 : Int))

namespace FormValue

variable {cs whole fraction : List Char}

/-! ### Texts that are numbers -/

theorem isUnsignedNumber_of_isNumeral (h : Numeral.isNumeral cs = true) : isUnsignedNumber cs = true := by
  have hdrop : cs.dropWhile Char.isDigit = [] := List.dropWhile_eq_nil_iff.2 (Numeral.isNumeral_iff.1 h).2
  rw [isUnsignedNumber, hdrop]
  exact h

theorem isUnsignedNumber_point (hwhole : Numeral.isNumeral whole = true) (hfraction : Numeral.isNumeral fraction = true) :
    isUnsignedNumber (whole ++ '.' :: fraction) = true := by
  have hdrop : (whole ++ '.' :: fraction).dropWhile Char.isDigit = '.' :: fraction :=
    List.dropWhile_append_of_pos (Numeral.isNumeral_iff.1 hwhole).2
  rw [isUnsignedNumber, hdrop]
  exact hfraction

theorem isNumber_of_isUnsignedNumber {c : Char} (hc : c.isDigit = true) (h : isUnsignedNumber (c :: cs) = true) :
    isNumber (c :: cs) = true := by
  unfold isNumber
  split
  next heq =>
    rw [(List.cons.inj heq).1] at hc
    cases hc
  next heq =>
    rw [(List.cons.inj heq).1] at hc
    cases hc
  next => exact h

/-- No letter stands in a number. -/
theorem e_not_mem_of_isUnsignedNumber (h : isUnsignedNumber cs = true) : 'e' ∉ cs := by
  have hnumeral {cs : List Char} (h : Numeral.isNumeral cs = true) : 'e' ∉ cs := fun hmem =>
    absurd ((Numeral.isNumeral_iff.1 h).2 _ hmem) (by decide)
  unfold isUnsignedNumber at h
  split at h
  next => exact hnumeral h
  next fraction hdrop =>
    rw [← List.takeWhile_append_dropWhile (p := Char.isDigit) (l := cs), hdrop]
    intro hmem
    rcases List.mem_append.1 hmem with hmem | hmem
    · exact absurd (List.mem_takeWhile_imp hmem) (by decide)
    · rcases List.mem_cons.1 hmem with heq | hmem
      · cases heq
      · exact hnumeral h hmem
  next => cases h

theorem e_not_mem_of_isNumber (h : isNumber cs = true) : 'e' ∉ cs := by
  unfold isNumber at h
  split at h
  next => simpa using e_not_mem_of_isUnsignedNumber h
  next => simpa using e_not_mem_of_isUnsignedNumber h
  next => exact e_not_mem_of_isUnsignedNumber h

end FormValue

namespace Decimal

variable (d : Decimal)

theorem isNumeral_digits : Numeral.isNumeral d.digits = true := Numeral.isNumeral_ofNat d.significand

/-- Plain decimals have digits on either side of the point. -/
theorem exists_plain_eq : ∃ whole fraction, d.plain = whole ++ '.' :: fraction ∧ Numeral.isNumeral whole = true ∧
    Numeral.isNumeral fraction = true := by
  obtain ⟨hne, hdigits⟩ := Numeral.isNumeral_iff.1 d.isNumeral_digits
  have hzeros (n : Nat) : ∀ c ∈ List.replicate n '0', c.isDigit = true := fun c hc =>
    (List.mem_replicate.1 hc).2 ▸ rfl
  unfold plain
  simp only
  split
  · refine ⟨['0'], List.replicate (-d.leading - 1).toNat '0' ++ d.digits, rfl, rfl, Numeral.isNumeral_iff.2 ⟨?_, ?_⟩⟩
    · simp [hne]
    · exact List.forall_mem_append.2 ⟨hzeros _, hdigits⟩
  · split
    next hlength =>
      refine ⟨d.digits ++ List.replicate (d.leading.toNat + 1 - d.digits.length) '0', ['0'], by simp,
        Numeral.isNumeral_iff.2 ⟨by simp [hne], ?_⟩, rfl⟩
      exact List.forall_mem_append.2 ⟨hdigits, hzeros _⟩
    next hlength =>
      refine ⟨d.digits.take (d.leading.toNat + 1), d.digits.drop (d.leading.toNat + 1), rfl,
        Numeral.isNumeral_iff.2 ⟨by simp [hne], fun c hc => hdigits c (List.mem_of_mem_take hc)⟩,
        Numeral.isNumeral_iff.2 ⟨?_, fun c hc => hdigits c (List.mem_of_mem_drop hc)⟩⟩
      rw [Ne, List.drop_eq_nil_iff]
      exact hlength

theorem e_mem_scientific : 'e' ∈ d.scientific := by simp [scientific]

theorem isBlank_of_mem_plain {c : Char} (hc : c ∈ d.plain) : Text.isBlank c = false := by
  obtain ⟨whole, fraction, hplain, hwhole, hfraction⟩ := d.exists_plain_eq
  rw [hplain] at hc
  rcases List.mem_append.1 hc with hc | hc
  · exact Text.isBlank_of_isDigit ((Numeral.isNumeral_iff.1 hwhole).2 c hc)
  · rcases List.mem_cons.1 hc with rfl | hc
    · rfl
    · exact Text.isBlank_of_isDigit ((Numeral.isNumeral_iff.1 hfraction).2 c hc)

theorem isBlank_of_mem_scientific {c : Char} (hc : c ∈ d.scientific) : Text.isBlank c = false := by
  have hdigits (c : Char) (hc : c ∈ d.digits) : Text.isBlank c = false :=
    Text.isBlank_of_isDigit ((Numeral.isNumeral_iff.1 d.isNumeral_digits).2 c hc)
  simp only [scientific, List.mem_append, List.mem_cons] at hc
  rcases hc with ((hc | hc) | hc) | rfl | rfl | hc
  · exact hdigits c (List.mem_of_mem_take hc)
  · split at hc
    · cases hc
    · rw [List.mem_singleton.1 hc]
      rfl
  · exact hdigits c (List.mem_of_mem_drop hc)
  · rfl
  · split <;> rfl
  · exact Text.isBlank_of_isDigit (Numeral.isDigit_of_mem_ofNat hc)

end Decimal

namespace FormValues

open FormValue

variable {x : Binary64} {n : JsonNumber} {text : String}

/-! ### Texts of numbers -/

theorem isPlainPower_shortest (hx : 0 < x.mantissa) :
    isPlainPower x.shortest.leading = true ↔ 10 ^ (-5 : Int) ≤ x.value ∧ x.value < 10 ^ (16 : Int) := by
  rw [← x.le_leading_shortest_iff hx Binary64.high_lt_ten_pow_neg_5, ← not_le,
    ← x.le_leading_shortest_iff hx Binary64.high_lt_ten_pow_16]
  simp only [isPlainPower, Bool.and_eq_true, decide_eq_true_eq]
  omega

theorem isPlainPower_zero (hx : x.mantissa = 0) : isPlainPower x.shortest.leading = true := by
  rw [Binary64.shortest, if_pos hx]
  decide

/-- The text of a double is a number if it has no exponent. -/
theorem isNumber_doubleChars (negative : Bool) :
    isNumber ((if negative then ['-'] else []) ++ doubleChars x) = true ↔ isPlainPower x.shortest.leading = true := by
  by_cases hpower : isPlainPower x.shortest.leading = true
  · have hchars : doubleChars x = x.shortest.plain := if_pos hpower
    refine iff_of_true ?_ hpower
    obtain ⟨whole, fraction, hplain, hwhole, hfraction⟩ := x.shortest.exists_plain_eq
    have hunsigned := isUnsignedNumber_point hwhole hfraction
    rw [hchars, hplain]
    cases negative with
    | true => exact hunsigned
    | false =>
      obtain ⟨hne, hdigits⟩ := Numeral.isNumeral_iff.1 hwhole
      obtain ⟨c, cs, rfl⟩ := List.exists_cons_of_ne_nil hne
      exact isNumber_of_isUnsignedNumber (hdigits c List.mem_cons_self) hunsigned
  · have hchars : doubleChars x = x.shortest.scientific := if_neg hpower
    refine iff_of_false (fun h => e_not_mem_of_isNumber h ?_) hpower
    rw [hchars]
    exact List.mem_append_right _ x.shortest.e_mem_scientific

theorem isNumber_toString (i : Int) : isNumber (toString i).toList = true := by
  rw [Numeral.toList_toString_int, Numeral.ofInt]
  have hunsigned := isUnsignedNumber_of_isNumeral (Numeral.isNumeral_ofNat i.natAbs)
  obtain ⟨c, cs, hc, hcons⟩ := Numeral.exists_ofNat_eq_cons i.natAbs
  split
  · exact hunsigned
  · rw [hcons] at hunsigned ⊢
    exact isNumber_of_isUnsignedNumber hc hunsigned

/-- The text of a number literal is a number just if it is written without an exponent. -/
theorem isNumber_iff_isPlain (h : Spells (.number n) text) : isNumber text.toList = true ↔ n.IsPlain := by
  cases h with
  | integer hi hfits => exact iff_of_true (isNumber_toString _) (.inl ⟨_, hi, hfits⟩)
  | @double n x hnone hx =>
    rw [String.toList_ofList, isNumber_doubleChars]
    constructor
    · intro hpower
      refine .inr ⟨x, hx, or_iff_not_imp_left.2 fun hzero => ?_⟩
      exact (isPlainPower_shortest (Nat.pos_of_ne_zero hzero)).1 hpower
    · rintro (⟨i, hi, hfits⟩ | ⟨y, hy, hplain⟩)
      · exact absurd hfits (hnone i hi)
      · obtain rfl := Option.some.inj (hx.symm.trans hy)
        rcases Nat.eq_zero_or_pos x.mantissa with hzero | hpos
        · exact isPlainPower_zero hzero
        · exact (isPlainPower_shortest hpos).2 (hplain.resolve_left hpos.ne')

theorem isBlank_of_mem_doubleChars {c : Char} (hc : c ∈ doubleChars x) : Text.isBlank c = false := by
  unfold doubleChars at hc
  simp only at hc
  split at hc
  · exact x.shortest.isBlank_of_mem_plain hc
  · exact x.shortest.isBlank_of_mem_scientific hc

theorem doubleChars_ne_nil (x : Binary64) : doubleChars x ≠ [] := by
  unfold doubleChars
  simp only
  split
  · obtain ⟨whole, fraction, hplain, -, -⟩ := x.shortest.exists_plain_eq
    simp [hplain]
  · exact List.ne_nil_of_mem x.shortest.e_mem_scientific

/-- There is no white space in the text of a number. -/
theorem trim_of_spells (h : Spells (.number n) text) : Text.trim text = text ∧ text ≠ "" := by
  have hblank : text.toList ≠ [] ∧ ∀ c ∈ text.toList, Text.isBlank c = false := by
    cases h with
    | @integer n i hi hfits =>
      have hdigits (c : Char) (hc : c ∈ Numeral.ofNat i.natAbs) : Text.isBlank c = false :=
        Text.isBlank_of_isDigit (Numeral.isDigit_of_mem_ofNat hc)
      rw [Numeral.toList_toString_int, Numeral.ofInt]
      split
      · exact ⟨List.cons_ne_nil _ _, List.forall_mem_cons.2 ⟨rfl, hdigits⟩⟩
      · exact ⟨Numeral.ofNat_ne_nil _, hdigits⟩
    | @double n x hnone hx =>
      have hsign : ∀ c ∈ if n.negative then ['-'] else [], Text.isBlank c = false := by
        cases n.negative <;> simp [Text.isBlank]
      rw [String.toList_ofList]
      refine ⟨List.append_ne_nil_of_right_ne_nil _ (doubleChars_ne_nil x), ?_⟩
      exact List.forall_mem_append.2 ⟨hsign, fun c hc => isBlank_of_mem_doubleChars hc⟩
  refine ⟨Text.trim_eq_self (fun c hc => hblank.2 c (List.mem_of_mem_head? hc))
    (fun c hc => hblank.2 c (List.mem_of_mem_getLast? hc)), ?_⟩
  rintro rfl
  exact hblank.1 rfl

/-- The text under a name whose last value is a number. -/
theorem exists_get?_of_last_number {s name : String} {members : List (JsonString × Json)} {values : FormValues}
    (hvalues : ofText s = .ok values) (hs : Json.IsText s (.object members)) (hn : Json.Last members name (.number n)) :
    ∃ text, values.get? name = some text ∧ Spells (.number n) text := by
  have hreads := reads_ofText s
  rw [hvalues] at hreads
  cases hreads with
  | ok hv hscalar hkeys hget =>
    cases hs.unique hv.1
    obtain ⟨text, htext⟩ := Table.mem_keys_iff.1 ((hkeys name).2 ⟨_, hn.mem⟩)
    obtain ⟨w, hw, hspells⟩ := (hget name text).1 htext
    obtain rfl := Last.unique hw hn
    exact ⟨text, htext, hspells⟩

end FormValues

/-- The text of a number is accepted of a number variable just if it is written without an exponent. -/
theorem Settings.judge_number {s : Settings} {v : Variable} {n : JsonNumber} {text : String}
    (hkind : v.kind = .number) (h : FormValues.Spells (.number n) text) :
    (n.IsPlain → s.judge v text = .ok text) ∧ (¬ n.IsPlain → s.judge v text = .error .notANumber) := by
  obtain ⟨htrim, hne⟩ := FormValues.trim_of_spells h
  have hfault : s.valueFault? v text = if FormValue.isNumber text.toList then none else some .notANumber := by
    unfold valueFault?
    simp only [hkind]
  unfold judge
  simp only [htrim, if_neg hne, hfault, ← FormValues.isNumber_iff_isPlain h]
  constructor
  · intro hnumber
    rw [if_pos hnumber]
  · intro hnumber
    rw [if_neg hnumber]

end Formulary
