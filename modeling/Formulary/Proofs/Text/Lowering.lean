import Formulary.Text.Case
import Mathlib.Data.List.Count
import Mathlib.Data.List.DropRight
import Mathlib.Data.List.Infix

/-!
# The lower case of a part of a text

A text gets longer in lower case by one character for each `İ`, and by no other one (`length_lower`).

Of what stands around a text its lower case depends on nothing but which Σs in it end a word (`lowerBetween_congr`).  A
text settles its Σs (`Settled`) if that does not depend on anything around it.  Then its lower case is a part of the
lower case of every text of which it is a part itself, and otherwise there is a text of which it is a part, though its
lower case is not (`settled_iff`).
-/

namespace Formulary.Text

variable {cs ds xs ys before after before' after' : List Char}

/-! ### Lengths -/

theorem lowerOf_dottedCapital : lowerOf 'İ' = ['i', '\u0307'] := by decide +kernel

theorem length_lowerOf (c : Char) : (lowerOf c).length = if c = 'İ' then 2 else 1 := by
  by_cases hc : c = 'İ'
  · rw [if_pos hc, hc, lowerOf_dottedCapital]
    rfl
  · have hn : (c.toNat == 0x130) = false := beq_false_of_ne fun h => hc (Char.toNat_inj.1 h)
    simp [lowerOf, lowerExpansions, List.lookup_cons, hn, hc]

theorem length_lowerAfter (before cs : List Char) : (lowerAfter before cs).length = cs.length + cs.count 'İ' := by
  induction cs generalizing before with
  | nil => rfl
  | cons c cs ih =>
    rw [lowerAfter, List.length_append, ih, List.length_cons, List.count_cons]
    by_cases hsigma : c = 'Σ'
    · subst hsigma
      simp
      omega
    · rw [if_neg hsigma, length_lowerOf]
      by_cases hc : c = 'İ'
      · simp [hc]
        omega
      · simp [hc]
        omega

theorem length_lower (s : String) : (lower s).length = s.length + s.toList.count 'İ' := by
  rw [← String.length_toList, lower, String.toList_ofList, length_lowerAfter, String.length_toList]

theorem lower_dottedCapital : lower "İ" = "i\u0307" := by decide +kernel

/-- Of the texts with fewer than two characters only one has two in lower case. -/
theorem two_le_length_lower_iff {s : String} (h : s.length < 2) : 2 ≤ (lower s).length ↔ s = "İ" := by
  rw [length_lower, ← String.toList_inj, ← String.length_toList]
  rw [← String.length_toList] at h
  rcases hs : s.toList with _ | ⟨c, _ | ⟨d, cs⟩⟩
  · simp
  · by_cases hc : c = 'İ' <;> simp [hc]
  · rw [hs, List.length_cons, List.length_cons] at h
    omega

/-! ### A text between two others -/

/-- Whether a Σ that stands between two texts ends a word. -/
def endsWord (before after : List Char) : Bool := startsCased before.reverse && !startsCased after

/-- The lower case of Σ at the end of a word and elsewhere. -/
def lowerSigma (ends : Bool) : Char := if ends then 'ς' else 'σ'

/-- The lower case of the middle one of three texts that stand one after the other. -/
def lowerBetween (before : List Char) : List Char → List Char → List Char
  | [], _ => []
  | c :: cs, after =>
    (if c = 'Σ' then [lowerSigma (endsWord before (cs ++ after))] else lowerOf c) ++
      lowerBetween (before ++ [c]) cs after

theorem lowerAfter_reverse (before cs : List Char) : lowerAfter before.reverse cs = lowerBetween before cs [] := by
  induction cs generalizing before with
  | nil => rfl
  | cons c cs ih => rw [lowerAfter, lowerBetween, ← ih, List.reverse_concat, List.append_nil, lowerSigma, endsWord]

theorem toList_lower (s : String) : (lower s).toList = lowerBetween [] s.toList [] := by
  rw [lower, String.toList_ofList, ← lowerAfter_reverse, List.reverse_nil]

theorem lowerBetween_append (before xs ys after : List Char) :
    lowerBetween before (xs ++ ys) after =
      lowerBetween before xs (ys ++ after) ++ lowerBetween (before ++ xs) ys after := by
  induction xs generalizing before with
  | nil => rw [List.append_nil]; rfl
  | cons c xs ih =>
    rw [List.cons_append, lowerBetween, lowerBetween, ih, List.append_assoc, List.append_assoc, List.append_assoc,
      List.singleton_append]

/-- What the lower cases of the Σs in a text have to do with each other in two places, those of the whole text have. -/
theorem lowerBetween_rel {R : List Char → List Char → Prop} (refl : ∀ cs, R cs cs)
    (append : ∀ {cs ds cs' ds'}, R cs ds → R cs' ds' → R (cs ++ cs') (ds ++ ds'))
    (h : ∀ xs ys, cs = xs ++ 'Σ' :: ys →
      R [lowerSigma (endsWord (before ++ xs) (ys ++ after))] [lowerSigma (endsWord (before' ++ xs) (ys ++ after'))]) :
    R (lowerBetween before cs after) (lowerBetween before' cs after') := by
  induction cs generalizing before before' with
  | nil => exact refl []
  | cons c cs ih =>
    have htail : R (lowerBetween (before ++ [c]) cs after) (lowerBetween (before' ++ [c]) cs after') := by
      refine ih fun xs ys hcs => ?_
      simpa using h (c :: xs) ys (by rw [hcs, List.cons_append])
    rw [lowerBetween, lowerBetween]
    refine append ?_ htail
    by_cases hc : c = 'Σ'
    · rw [if_pos hc, if_pos hc]
      simpa using h [] cs (by rw [hc, List.nil_append])
    · rw [if_neg hc, if_neg hc]
      exact refl _

/-- A text has the same lower case in two places where the same Σs in it end a word. -/
theorem lowerBetween_congr
    (h : ∀ xs ys, cs = xs ++ 'Σ' :: ys →
      endsWord (before ++ xs) (ys ++ after) = endsWord (before' ++ xs) (ys ++ after')) :
    lowerBetween before cs after = lowerBetween before' cs after' := by
  refine lowerBetween_rel (fun _ => rfl) (fun h h' => h ▸ h' ▸ rfl) fun xs ys hcs => ?_
  rw [h xs ys hcs]

/-! ### Counting the Σs that end a word -/

/-- Whether a text has no more `ς` than another one and no fewer `σ`. -/
def FewerFinals (cs ds : List Char) : Prop := cs.count 'ς' ≤ ds.count 'ς' ∧ ds.count 'σ' ≤ cs.count 'σ'

theorem FewerFinals.append {cs' ds' : List Char} (h : FewerFinals cs ds) (h' : FewerFinals cs' ds') :
    FewerFinals (cs ++ cs') (ds ++ ds') := by
  unfold FewerFinals at *
  simp only [List.count_append]
  omega

theorem fewerFinals_lowerSigma :
    ∀ ends ends' : Bool, (ends = true → ends' = true) → FewerFinals [lowerSigma ends] [lowerSigma ends'] := by
  unfold FewerFinals
  decide

theorem fewerFinals_lowerBetween
    (h : ∀ xs ys, cs = xs ++ 'Σ' :: ys → endsWord (before ++ xs) (ys ++ after) = true →
      endsWord (before' ++ xs) (ys ++ after') = true) :
    FewerFinals (lowerBetween before cs after) (lowerBetween before' cs after') :=
  lowerBetween_rel (fun _ => ⟨Nat.le_refl _, Nat.le_refl _⟩) FewerFinals.append fun xs ys hcs =>
    fewerFinals_lowerSigma _ _ (h xs ys hcs)

/-- If one Σ ends a word in the second place only, and none in the first place only, both counts differ. -/
theorem count_lowerBetween_lt (before after before' after' : List Char)
    (h : ∀ xs' ys', xs ++ 'Σ' :: ys = xs' ++ 'Σ' :: ys' → endsWord (before ++ xs') (ys' ++ after) = true →
      endsWord (before' ++ xs') (ys' ++ after') = true)
    (hends : endsWord (before ++ xs) (ys ++ after) = false) (hends' : endsWord (before' ++ xs) (ys ++ after') = true) :
    (lowerBetween before (xs ++ 'Σ' :: ys) after).count 'ς' < (lowerBetween before' (xs ++ 'Σ' :: ys) after').count 'ς' ∧
      (lowerBetween before' (xs ++ 'Σ' :: ys) after').count 'σ' <
        (lowerBetween before (xs ++ 'Σ' :: ys) after).count 'σ' := by
  have hfront : FewerFinals (lowerBetween before xs ('Σ' :: ys ++ after))
      (lowerBetween before' xs ('Σ' :: ys ++ after')) := by
    refine fewerFinals_lowerBetween fun xs' ys' hxs => ?_
    simpa using h xs' (ys' ++ 'Σ' :: ys) (by simp [hxs])
  have hback : FewerFinals (lowerBetween (before ++ xs ++ ['Σ']) ys after)
      (lowerBetween (before' ++ xs ++ ['Σ']) ys after') := by
    refine fewerFinals_lowerBetween fun xs' ys' hys => ?_
    simpa using h (xs ++ 'Σ' :: xs') ys' (by simp [hys])
  have hfinal : [lowerSigma true].count 'ς' = 1 ∧ [lowerSigma true].count 'σ' = 0 := by decide
  have hmedial : [lowerSigma false].count 'ς' = 0 ∧ [lowerSigma false].count 'σ' = 1 := by decide
  unfold FewerFinals at hfront hback
  rw [lowerBetween_append, lowerBetween_append, lowerBetween, lowerBetween, hends, hends', if_pos rfl, if_pos rfl]
  simp only [List.count_append]
  omega

/-! ### Texts that settle their Σs -/

theorem startsCased_of_all (h : cs.all isCaseIgnorable = true) : startsCased cs = false := by
  have hnil : cs.dropWhile isCaseIgnorable = [] := List.dropWhile_eq_nil_iff.2 (List.all_eq_true.1 h)
  rw [startsCased, hnil]

theorem startsCased_append (cs ds : List Char) :
    startsCased (cs ++ ds) = if cs.all isCaseIgnorable then startsCased ds else startsCased cs := by
  unfold startsCased
  by_cases h : cs.all isCaseIgnorable = true
  · rw [List.dropWhile_append_of_pos (List.all_eq_true.1 h), if_pos h]
  · have hne : cs.dropWhile isCaseIgnorable ≠ [] := fun hnil =>
      h (List.all_eq_true.2 (List.dropWhile_eq_nil_iff.1 hnil))
    rw [if_neg h, List.dropWhile_append, if_neg (by simpa using hne)]
    cases hcs : cs.dropWhile isCaseIgnorable with
    | nil => exact absurd hcs hne
    | cons c cs => rfl

/-- Whether a Σ between two parts of a text may end a word in one place where the text stands and not in another.  No
cased character follows it in the text, and either all that is before it is passed over, or a cased character is before
it and all that is after it is passed over. -/
def Unsettled (before after : List Char) : Prop :=
  startsCased after = false ∧
    (before.all isCaseIgnorable = true ∨ startsCased before.reverse = true ∧ after.all isCaseIgnorable = true)

/-- Whether a text itself decides which of its Σs end a word. -/
def Settled (cs : List Char) : Prop := ∀ xs ys, cs = xs ++ 'Σ' :: ys → ¬ Unsettled xs ys

theorem endsWord_of_not_unsettled (h : ¬ Unsettled xs ys) (before after : List Char) :
    endsWord (before ++ xs) (ys ++ after) = endsWord xs ys := by
  unfold endsWord
  rw [List.reverse_append, startsCased_append, startsCased_append, List.all_reverse]
  by_cases hys : ys.all isCaseIgnorable = true
  · have hfalse := startsCased_of_all hys
    by_cases hxs : xs.all isCaseIgnorable = true
    · exact absurd ⟨hfalse, .inl hxs⟩ h
    · have hcased : startsCased xs.reverse = false := by
        by_contra hcased
        exact h ⟨hfalse, .inr ⟨Bool.not_eq_false _ ▸ hcased, hys⟩⟩
      rw [if_neg hxs, hcased, Bool.false_and, Bool.false_and]
  · rw [if_neg hys]
    by_cases hxs : xs.all isCaseIgnorable = true
    · have hcased : startsCased ys = true := by
        by_contra hcased
        exact h ⟨Bool.eq_false_iff.2 hcased, .inl hxs⟩
      rw [hcased, Bool.not_true, Bool.and_false, Bool.and_false]
    · rw [if_neg hxs]

theorem Settled.lowerBetween_eq (h : Settled cs) (before after : List Char) :
    lowerBetween before cs after = lowerBetween [] cs [] := by
  refine lowerBetween_congr fun xs ys hcs => ?_
  rw [endsWord_of_not_unsettled (h xs ys hcs), endsWord_of_not_unsettled (h xs ys hcs)]

/-! ### Texts that do not -/

theorem lowerOf_a : lowerOf 'a' = ['a'] := by decide +kernel

theorem startsCased_a : startsCased ['a'] = true := by decide +kernel

theorem lowerBetween_letter (before after : List Char) : lowerBetween before ['a'] after = ['a'] := by
  rw [lowerBetween, lowerBetween, if_neg (by decide), lowerOf_a, List.append_nil]

/-- Whatever ends a word still does so behind a letter. -/
theorem endsWord_letter_append (h : endsWord xs ys = true) : endsWord (['a'] ++ xs) ys = true := by
  rw [endsWord, Bool.and_eq_true] at h ⊢
  refine ⟨?_, h.2⟩
  rw [List.reverse_append, startsCased_append]
  split
  · exact startsCased_a
  · exact h.1

/-- Whatever ends a word in front of a letter does so without it. -/
theorem endsWord_of_append_letter (h : endsWord xs (ys ++ ['a']) = true) : endsWord xs ys = true := by
  rw [endsWord, Bool.and_eq_true, Bool.not_eq_true', startsCased_append] at h
  rw [endsWord, Bool.and_eq_true, Bool.not_eq_true']
  refine ⟨h.1, ?_⟩
  by_cases hys : ys.all isCaseIgnorable = true
  · exact startsCased_of_all hys
  · rw [if_neg hys] at h
    exact h.2

-- Behind a letter the unsettled Σ is no `σ` any more, so that there are too few of them.
theorem not_infix_letter_append (hys : startsCased ys = false) (hxs : xs.all isCaseIgnorable = true) :
    ¬ lowerBetween [] (xs ++ 'Σ' :: ys) [] <:+: lowerBetween [] (['a'] ++ (xs ++ 'Σ' :: ys)) [] := by
  intro hinfix
  have hcount := hinfix.sublist.count_le 'σ'
  have hends : endsWord xs ys = false := by
    rw [endsWord, startsCased_of_all (List.all_reverse.trans hxs), Bool.false_and]
  have hends' : endsWord (['a'] ++ xs) ys = true := by
    rw [endsWord, hys, List.reverse_append, startsCased_append, List.all_reverse, if_pos hxs]
    exact congrArg (· && true) startsCased_a
  have hlt := (count_lowerBetween_lt [] [] ['a'] [] (fun xs' ys' _ h => endsWord_letter_append h)
    (by simpa using hends) (by simpa using hends')).2
  have hletter : ['a'].count 'σ' = 0 := rfl
  rw [lowerBetween_append [] ['a'], lowerBetween_letter, List.count_append, hletter, Nat.zero_add] at hcount
  exact Nat.not_le.2 hlt hcount

-- In front of a letter it is no `ς` any more.
theorem not_infix_append_letter (hxs : startsCased xs.reverse = true) (hys : ys.all isCaseIgnorable = true) :
    ¬ lowerBetween [] (xs ++ 'Σ' :: ys) [] <:+: lowerBetween [] ((xs ++ 'Σ' :: ys) ++ ['a']) [] := by
  intro hinfix
  have hcount := hinfix.sublist.count_le 'ς'
  have hends : endsWord xs (ys ++ ['a']) = false := by
    rw [endsWord, startsCased_append, if_pos hys, startsCased_a, Bool.not_true, Bool.and_false]
  have hends' : endsWord xs ys = true := by
    rw [endsWord, hxs, startsCased_of_all hys]
    rfl
  have hlt := (count_lowerBetween_lt [] ['a'] [] [] (fun xs' ys' _ h => ?_)
    (by simpa using hends) (by simpa using hends')).1
  · have hletter : ['a'].count 'ς' = 0 := rfl
    rw [lowerBetween_append [] _ ['a'], lowerBetween_letter, List.count_append, hletter, Nat.add_zero] at hcount
    exact Nat.not_le.2 hlt hcount
  · rw [List.append_nil]
    exact endsWord_of_append_letter h

/-- The lower case of a text is a part of the lower case of every text of which it is a part, if and only if the text
settles its Σs. -/
theorem settled_iff : Settled cs ↔ ∀ whole, cs <:+: whole → lowerBetween [] cs [] <:+: lowerBetween [] whole [] := by
  constructor
  · rintro h whole ⟨before, after, rfl⟩
    rw [List.append_assoc, lowerBetween_append [] before, lowerBetween_append _ cs, h.lowerBetween_eq (_ ++ before)]
    exact List.infix_append' _ _ _
  · rintro h xs ys rfl ⟨hys, hxs | ⟨hxs, hys'⟩⟩
    · exact not_infix_letter_append hys hxs (h _ (List.suffix_cons _ _).isInfix)
    · exact not_infix_append_letter hxs hys' (h _ (List.prefix_append _ _).isInfix)

end Formulary.Text
