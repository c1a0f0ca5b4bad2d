import Formulary.Form.Value
import Formulary.Proofs.Text.Regular
import Formulary.Proofs.Text.Split

/-!
# Email addresses

An address has atoms before the `@` and labels behind it, with dots between (`Address`), and its text determines these
parts (`Address.text_injective`).  Which texts are accepted as addresses is told in two further ways, by cutting the
text at the `@` and at the dots, and by a pattern with limits on the number of bytes; all three agree
(`FormValue.isEmail_iff_address`), since an address is in ASCII, where a character is a byte.
-/

namespace Formulary

namespace Address

/-! ### Characters and parts -/

def letters : List Char := "ABCDEFGHIJKLMNOPQRSTUVWXYZabcdefghijklmnopqrstuvwxyz".toList

def alphanumerics : List Char := letters ++ "0123456789".toList

def atomChars : List Char := alphanumerics ++ "!#$%&'*+/=?^_`\x7b|\x7d~-".toList

theorem ascii_atomChars : ∀ c ∈ atomChars, c.toNat < 128 := by
  have hall : (atomChars.all fun c => decide (c.toNat < 128)) = true := by decide +kernel
  exact fun c hc => of_decide_eq_true (List.all_eq_true.1 hall c hc)

theorem ascii_alphanumerics : ∀ c ∈ alphanumerics, c.toNat < 128 := fun c hc =>
  ascii_atomChars c (List.mem_append_left _ hc)

theorem ascii_letters : ∀ c ∈ letters, c.toNat < 128 := fun c hc => ascii_alphanumerics c (List.mem_append_left _ hc)

structure IsAtom (cs : List Char) : Prop where
  ne_nil : cs ≠ []
  mem : ∀ c ∈ cs, c ∈ atomChars

structure IsLabel (cs : List Char) : Prop where
  ne_nil : cs ≠ []
  length_le : cs.length ≤ 63
  mem : ∀ c ∈ cs, c ∈ alphanumerics ++ ['-']
  head?_ne : cs.head? ≠ some '-'
  getLast?_ne : cs.getLast? ≠ some '-'

structure IsTopLabel (cs : List Char) : Prop where
  le_length : 2 ≤ cs.length
  length_le : cs.length ≤ 63
  mem : ∀ c ∈ cs, c ∈ letters

end Address

open Address

/-- The parts of an address, of whatever length. -/
@[ext]
structure Address where
  atoms : List (List Char)
  /-- The labels but the last. -/
  labels : List (List Char)
  top : List Char
  atoms_ne_nil : atoms ≠ []
  isAtom : ∀ atom ∈ atoms, IsAtom atom
  labels_ne_nil : labels ≠ []
  isLabel : ∀ label ∈ labels, IsLabel label
  isTopLabel : IsTopLabel top

namespace Address

def localPart (a : Address) : List Char := ['.'].intercalate a.atoms

def domain (a : Address) : List Char := ['.'].intercalate (a.labels ++ [a.top])

def chars (a : Address) : List Char := a.localPart ++ '@' :: a.domain

def text (a : Address) : String := String.ofList a.chars

variable {a : Address} {c : Char} {cs : List Char}

theorem not_mem_of_isAtom (hc : c ∉ atomChars) (h : IsAtom cs) : c ∉ cs := fun hm => hc (h.mem c hm)

theorem at_not_mem_localPart (a : Address) : '@' ∉ a.localPart :=
  Text.not_mem_intercalate (by decide) fun atom hatom => not_mem_of_isAtom (by decide) (a.isAtom atom hatom)

theorem split_localPart (a : Address) : Text.split '.' a.localPart = a.atoms :=
  Text.split_intercalate a.atoms_ne_nil fun atom hatom => not_mem_of_isAtom (by decide) (a.isAtom atom hatom)

theorem split_domain (a : Address) : Text.split '.' a.domain = a.labels ++ [a.top] := by
  have hne : a.labels ++ [a.top] ≠ [] := List.append_ne_nil_of_right_ne_nil _ (List.cons_ne_nil _ _)
  refine Text.split_intercalate hne fun label hlabel hdot => ?_
  rcases List.mem_append.1 hlabel with hlabel | hlabel
  · exact absurd ((a.isLabel label hlabel).mem _ hdot) (by decide)
  · obtain rfl := List.mem_singleton.1 hlabel
    exact absurd (a.isTopLabel.mem _ hdot) (by decide)

theorem forall_ne_at (a : Address) : ∀ c ∈ a.localPart, decide (c ≠ '@') = true := by
  intro c hc
  apply decide_eq_true
  rintro rfl
  exact a.at_not_mem_localPart hc

theorem takeWhile_chars (a : Address) : a.chars.takeWhile (· ≠ '@') = a.localPart := by
  rw [chars, List.takeWhile_append_of_pos a.forall_ne_at, List.takeWhile_cons_of_neg (by simp), List.append_nil]

theorem dropWhile_chars (a : Address) : a.chars.dropWhile (· ≠ '@') = '@' :: a.domain := by
  rw [chars, List.dropWhile_append_of_pos a.forall_ne_at, List.dropWhile_cons_of_neg (by simp)]

/-- The text of an address determines its parts. -/
theorem text_injective : Function.Injective text := by
  intro a b h
  have hchars : a.chars = b.chars := String.ofList_inj.1 h
  have hlocal : a.localPart = b.localPart := by rw [← takeWhile_chars, hchars, takeWhile_chars]
  have hdomain : '@' :: a.domain = '@' :: b.domain := by rw [← dropWhile_chars, hchars, dropWhile_chars]
  have hatoms : a.atoms = b.atoms := by rw [← split_localPart, hlocal, split_localPart]
  have hlabels : a.labels ++ [a.top] = b.labels ++ [b.top] := by
    rw [← split_domain, (List.cons.inj hdomain).2, split_domain]
  obtain ⟨hinit, htop⟩ := List.append_inj' hlabels rfl
  exact Address.ext hatoms hinit (List.singleton_inj.1 htop)

/-- The characters of an address are those of atoms, the dots and the `@`. -/
theorem toNat_lt_of_mem_chars (a : Address) (hc : c ∈ a.chars) : c.toNat < 128 := by
  by_contra hlarge
  have hdot : c ≠ '.' := fun he => hlarge (he ▸ by decide)
  have hat : c ≠ '@' := fun he => hlarge (he ▸ by decide)
  have hhyphen : c ≠ '-' := fun he => hlarge (he ▸ by decide)
  have hlocal : c ∉ a.localPart :=
    Text.not_mem_intercalate hdot fun atom hatom hm => hlarge (ascii_atomChars c ((a.isAtom atom hatom).mem c hm))
  have hdomain : c ∉ a.domain := by
    refine Text.not_mem_intercalate hdot fun label hlabel hm => ?_
    rcases List.mem_append.1 hlabel with hlabel | hlabel
    · rcases List.mem_append.1 ((a.isLabel label hlabel).mem c hm) with hm | hm
      · exact hlarge (ascii_alphanumerics c hm)
      · exact hhyphen (List.mem_singleton.1 hm)
    · obtain rfl := List.mem_singleton.1 hlabel
      exact hlarge (ascii_letters c (a.isTopLabel.mem c hm))
  rw [chars, List.mem_append, List.mem_cons] at hc
  exact hc.elim hlocal fun hc => hc.elim hat hdomain

/-! ### The pattern of addresses -/

section Pattern

open RegularExpression Text.Regular

def atom : RegularExpression Char := several (oneOf atomChars)

/-- A letter or digit, and if there are more characters, the last one is a letter or digit again. -/
def label : RegularExpression Char :=
  oneOf alphanumerics * (1 + atMost 61 (oneOf (alphanumerics ++ ['-'])) * oneOf alphanumerics)

def topLabel : RegularExpression Char := oneOf letters ^ 2 * atMost 61 (oneOf letters)

/-- The pattern of a whole address. -/
def pattern : RegularExpression Char :=
  atom * (char '.' * atom).star * (char '@' * (several (label * char '.') * topLabel))

theorem mem_atom_iff : cs ∈ atom.matches' ↔ IsAtom cs := by
  rw [atom, mem_several_oneOf_iff]
  exact ⟨fun ⟨hne, hmem⟩ => ⟨hne, hmem⟩, fun ⟨hne, hmem⟩ => ⟨hne, hmem⟩⟩

theorem mem_topLabel_iff : cs ∈ topLabel.matches' ↔ IsTopLabel cs := by
  rw [topLabel, matches'_mul, Language.mem_mul]
  simp only [mem_pow_oneOf_iff, mem_atMost_oneOf_iff]
  constructor
  · rintro ⟨first, ⟨hfirst, hletters⟩, rest, ⟨hrest, hletters'⟩, rfl⟩
    refine ⟨?_, ?_, ?_⟩
    · rw [List.length_append]
      omega
    · rw [List.length_append]
      omega
    · exact fun c hc => (List.mem_append.1 hc).elim (hletters c) (hletters' c)
  · rintro ⟨hle, hlength, hmem⟩
    refine ⟨cs.take 2, ⟨List.length_take_of_le hle, fun c hc => hmem c (List.mem_of_mem_take hc)⟩, cs.drop 2,
      ⟨?_, fun c hc => hmem c (List.mem_of_mem_drop hc)⟩, List.take_append_drop 2 cs⟩
    rw [List.length_drop]
    omega

theorem mem_alphanumerics_iff : c ∈ alphanumerics ↔ c ∈ alphanumerics ++ ['-'] ∧ c ≠ '-' := by
  have hhyphen : '-' ∉ alphanumerics := by decide
  rw [List.mem_append, List.mem_singleton]
  constructor
  · exact fun h => ⟨.inl h, fun he => hhyphen (he ▸ h)⟩
  · exact fun h => h.1.resolve_right h.2

theorem mem_label_iff : cs ∈ label.matches' ↔ IsLabel cs := by
  have hmem : ∀ c ∈ alphanumerics, c ∈ alphanumerics ++ ['-'] ∧ c ≠ '-' := fun c => mem_alphanumerics_iff.1
  rw [label, matches'_mul, Language.mem_mul]
  simp only [mem_oneOf_iff, matches'_add, matches'_epsilon, Language.mem_add, Language.mem_one, matches'_mul,
    Language.mem_mul, mem_atMost_oneOf_iff]
  constructor
  · rintro ⟨_, ⟨c, hc, rfl⟩, _, rfl | ⟨middle, ⟨hlength, hmiddle⟩, _, ⟨d, hd, rfl⟩, rfl⟩, rfl⟩
    · have hne := (hmem c hc).2
      exact ⟨List.cons_ne_nil _ _, by simp, by simpa using (hmem c hc).1, by simpa using hne, by simpa using hne⟩
    · refine ⟨List.cons_ne_nil _ _, ?_, ?_, ?_, ?_⟩
      · simp only [List.singleton_append, List.length_cons, List.length_append, List.length_nil]
        omega
      · intro e he
        rw [List.singleton_append, List.mem_cons, List.mem_append, List.mem_singleton] at he
        rcases he with rfl | he | rfl
        · exact (hmem _ hc).1
        · exact hmiddle e he
        · exact (hmem _ hd).1
      · simpa using (hmem c hc).2
      · rw [← List.append_assoc, List.getLast?_concat]
        simpa using (hmem d hd).2
  · rintro ⟨hne, hlength, hchars, hhead, hlast⟩
    obtain ⟨c, rest, rfl⟩ := List.exists_cons_of_ne_nil hne
    obtain ⟨hc, hrest⟩ := List.forall_mem_cons.1 hchars
    have hc' : c ∈ alphanumerics := mem_alphanumerics_iff.2 ⟨hc, fun he => hhead (he ▸ rfl)⟩
    refine ⟨[c], ⟨c, hc', rfl⟩, rest, ?_, rfl⟩
    rcases List.eq_nil_or_concat rest with rfl | ⟨middle, d, rfl⟩
    · exact .inl rfl
    · rw [List.concat_eq_append] at hlength hlast hrest ⊢
      rw [← List.cons_append, List.getLast?_concat] at hlast
      have hd : d ∈ alphanumerics :=
        mem_alphanumerics_iff.2 ⟨hrest d (by simp), fun he => hlast (he ▸ rfl)⟩
      refine .inr ⟨middle, ⟨?_, fun e he => hrest e (List.mem_append_left _ he)⟩, [d], ⟨d, hd, rfl⟩, rfl⟩
      simp only [List.length_cons, List.length_append, List.length_nil] at hlength
      omega

/-- The pattern is the form of addresses. -/
theorem mem_pattern_iff : cs ∈ pattern.matches' ↔ ∃ a : Address, a.chars = cs := by
  rw [pattern, matches'_mul, Language.mem_mul]
  simp only [mem_char_mul_iff, mem_separated_iff, mem_terminated_iff, mem_atom_iff, mem_label_iff, mem_topLabel_iff]
  constructor
  · rintro ⟨_, ⟨atoms, hatoms, hatom, rfl⟩, _, ⟨_, ⟨labels, top, hlabels, hlabel, htop, rfl⟩, rfl⟩, rfl⟩
    exact ⟨⟨atoms, labels, top, hatoms, hatom, hlabels, hlabel, htop⟩, rfl⟩
  · rintro ⟨a, rfl⟩
    exact ⟨_, ⟨a.atoms, a.atoms_ne_nil, a.isAtom, rfl⟩, _,
      ⟨_, ⟨a.labels, a.top, a.labels_ne_nil, a.isLabel, a.isTopLabel, rfl⟩, rfl⟩, rfl⟩

end Pattern

end Address

/-! ### Cutting an address -/

namespace FormValue

variable {c : Char} {cs : List Char}

/-- Two classes of ASCII characters are the same if they have the same of the first 128 characters. -/
theorem iff_mem_of_ascii {test : Char → Bool} {chars : List Char} (htest : ∀ c, test c = true → c.toNat < 128)
    (hchars : ∀ c ∈ chars, c.toNat < 128) (h : ∀ n < 128, test (Char.ofNat n) = decide (Char.ofNat n ∈ chars))
    (c : Char) : test c = true ↔ c ∈ chars := by
  by_cases hc : c.toNat < 128
  · have heq := h c.toNat hc
    rw [Char.ofNat_toNat] at heq
    rw [heq, decide_eq_true_iff]
  · exact iff_of_false (fun ht => hc (htest c ht)) fun hm => hc (hchars c hm)

theorem toNat_lt_of_isAlpha (h : c.isAlpha = true) : c.toNat < 128 := by
  rcases Bool.or_eq_true_iff.1 h with hupper | hlower
  · have hle : c.val ≤ 'Z'.val := (of_decide_eq_true hupper).2
    exact Nat.lt_of_le_of_lt (UInt32.le_iff_toNat_le.1 hle) (by decide)
  · have hle : c.val ≤ 'z'.val := of_decide_eq_true (Bool.and_eq_true_iff.1 hlower).2
    exact Nat.lt_of_le_of_lt (UInt32.le_iff_toNat_le.1 hle) (by decide)

theorem toNat_lt_of_isDigit (h : c.isDigit = true) : c.toNat < 128 :=
  Nat.lt_of_le_of_lt (Char.isDigit_iff_toNat.1 h).2 (by decide)

theorem isAlpha_iff : c.isAlpha = true ↔ c ∈ letters :=
  iff_mem_of_ascii (fun _ => toNat_lt_of_isAlpha) ascii_letters (by decide +kernel) c

theorem isDigit_iff : c.isDigit = true ↔ c ∈ "0123456789".toList := by
  have hdigits : ∀ c ∈ "0123456789".toList, c.toNat < 128 := fun c hc =>
    ascii_alphanumerics c (List.mem_append_right _ hc)
  exact iff_mem_of_ascii (fun _ => toNat_lt_of_isDigit) hdigits (by decide +kernel) c

theorem isAlphanum_iff : c.isAlphanum = true ↔ c ∈ alphanumerics := by
  rw [Char.isAlphanum, Bool.or_eq_true, isAlpha_iff, isDigit_iff, alphanumerics, List.mem_append]

theorem isAtomChar_iff : isAtomChar c = true ↔ c ∈ atomChars := by
  rw [isAtomChar, Bool.or_eq_true, isAlphanum_iff, List.contains_iff_mem, atomChars, List.mem_append]

theorem isAtom_iff : isAtom cs = true ↔ IsAtom cs := by
  simp only [isAtom, Bool.and_eq_true, Bool.not_eq_true', List.isEmpty_eq_false_iff, List.all_eq_true, isAtomChar_iff]
  exact ⟨fun ⟨hne, hmem⟩ => ⟨hne, hmem⟩, fun ⟨hne, hmem⟩ => ⟨hne, hmem⟩⟩

theorem isLabel_iff : isLabel cs = true ↔ IsLabel cs := by
  simp only [isLabel, Bool.and_eq_true, Bool.not_eq_true', List.isEmpty_eq_false_iff, decide_eq_true_iff,
    List.all_eq_true, Bool.or_eq_true, isAlphanum_iff, bne_iff_ne, and_assoc]
  have hmem : (∀ c ∈ cs, c ∈ alphanumerics ∨ c = '-') ↔ ∀ c ∈ cs, c ∈ alphanumerics ++ ['-'] := by
    simp only [List.mem_append, List.mem_singleton]
  rw [hmem]
  exact ⟨fun ⟨h₁, h₂, h₃, h₄, h₅⟩ => ⟨h₁, h₂, h₃, h₄, h₅⟩, fun ⟨h₁, h₂, h₃, h₄, h₅⟩ => ⟨h₁, h₂, h₃, h₄, h₅⟩⟩

theorem isTopLabel_iff : isTopLabel cs = true ↔ IsTopLabel cs := by
  simp only [isTopLabel, Bool.and_eq_true, decide_eq_true_iff, List.all_eq_true, isAlpha_iff, and_assoc]
  exact ⟨fun ⟨h₁, h₂, h₃⟩ => ⟨h₁, h₂, h₃⟩, fun ⟨h₁, h₂, h₃⟩ => ⟨h₁, h₂, h₃⟩⟩

theorem isDomain_iff : isDomain cs = true ↔
    ∃ labels top, labels ≠ [] ∧ (∀ label ∈ labels, IsLabel label) ∧ IsTopLabel top ∧
      Text.split '.' cs = labels ++ [top] := by
  simp only [isDomain, Bool.and_eq_true, decide_eq_true_iff, List.all_eq_true, isLabel_iff, and_assoc]
  constructor
  · rintro ⟨hlength, hlabels, htop⟩
    rcases List.eq_nil_or_concat (Text.split '.' cs) with hnil | ⟨labels, top, hsplit⟩
    · exact absurd hnil (Text.split_ne_nil '.' cs)
    · rw [List.concat_eq_append] at hsplit
      rw [hsplit] at hlength hlabels htop
      rw [List.dropLast_concat] at hlabels
      refine ⟨labels, top, ?_, hlabels, isTopLabel_iff.1 (by simpa using htop), hsplit⟩
      rintro rfl
      simp at hlength
  · rintro ⟨labels, top, hne, hlabels, htop, hsplit⟩
    have hpos := List.length_pos_iff.2 hne
    rw [hsplit, List.dropLast_concat, List.length_append, List.length_singleton]
    exact ⟨by omega, hlabels, by simpa using isTopLabel_iff.2 htop⟩

/-- A text can be cut as an address if and only if it is the text of one. -/
theorem isAddress_iff : isAddress cs = true ↔ ∃ a : Address, a.chars = cs := by
  constructor
  · intro h
    have hcs := List.takeWhile_append_dropWhile (p := fun c => decide (c ≠ '@')) (l := cs)
    unfold isAddress at h
    split at h
    · cases h
    · rename_i d domain hdrop
      rw [Bool.and_eq_true, List.all_eq_true] at h
      obtain ⟨hatoms, hdomain⟩ := h
      obtain ⟨labels, top, hlabels, hlabel, htop, hsplit⟩ := isDomain_iff.1 hdomain
      obtain rfl : '@' = d := by
        have hhead := List.head?_dropWhile_not (fun c => decide (c ≠ '@')) cs
        rw [hdrop] at hhead
        exact (not_not.1 (of_decide_eq_false hhead)).symm
      let a : Address := ⟨_, labels, top, Text.split_ne_nil '.' _, fun atom hatom => isAtom_iff.1 (hatoms atom hatom),
        hlabels, hlabel, htop⟩
      have hlocal : a.localPart = cs.takeWhile (· ≠ '@') := Text.join_split _ _
      have hdomain' : a.domain = domain := by rw [Address.domain, ← hsplit, Text.join_split]
      refine ⟨a, ?_⟩
      rw [chars, hlocal, hdomain', ← hdrop]
      exact hcs
  · rintro ⟨a, rfl⟩
    simp only [isAddress, dropWhile_chars, takeWhile_chars, split_localPart, Bool.and_eq_true, List.all_eq_true,
      isAtom_iff]
    exact ⟨a.isAtom, isDomain_iff.2 ⟨a.labels, a.top, a.labels_ne_nil, a.isLabel, a.isTopLabel, a.split_domain⟩⟩

/-! ### Limits of length -/

/-- In ASCII there is one byte to each character. -/
theorem utf8ByteSize_ofList_of_ascii (h : ∀ c ∈ cs, c.toNat < 128) : (String.ofList cs).utf8ByteSize = cs.length := by
  induction cs with
  | nil => rfl
  | cons c cs ih =>
    obtain ⟨hc, hcs⟩ := List.forall_mem_cons.1 h
    have hsize : c.utf8Size = 1 := Char.utf8Size_eq_one_iff.2 (UInt32.le_iff_toNat_le.2 (Nat.le_of_lt_succ hc))
    rw [String.ofList_cons, String.utf8ByteSize_append, ih hcs, String.utf8ByteSize_singleton, hsize, List.length_cons,
      Nat.add_comm]

theorem isEmail_iff : isEmail cs = true ↔
    (∃ a : Address, a.chars = cs) ∧ cs.length ≤ 254 ∧ (cs.takeWhile (· ≠ '@')).length ≤ 64 := by
  simp only [isEmail, Bool.and_eq_true, decide_eq_true_iff, isAddress_iff, and_assoc]
  rfl

/-- What is accepted as an email address is the text of an address with at most 64 characters before the `@` and 254 in
all, and what is matched by the pattern of addresses and has at most 64 bytes before the first `@` and 254 in all.
There is one way to take an address apart. -/
theorem isEmail_iff_address (value : String) :
    (isEmail value.toList = true ↔ ∃ a : Address, a.text = value ∧ a.localPart.length ≤ 64 ∧ value.length ≤ 254) ∧
      Function.Injective Address.text ∧
      (isEmail value.toList = true ↔
        value.toList ∈ Address.pattern.matches' ∧ value.utf8ByteSize ≤ 254 ∧
          (String.ofList (value.toList.takeWhile (· ≠ '@'))).utf8ByteSize ≤ 64) := by
  refine ⟨?_, Address.text_injective, ?_⟩
  · rw [isEmail_iff]
    constructor
    · rintro ⟨⟨a, ha⟩, hlength, hlocal⟩
      rw [← ha, takeWhile_chars] at hlocal
      exact ⟨a, by rw [text, ha, String.ofList_toList], hlocal, hlength⟩
    · rintro ⟨a, rfl, hlocal, hlength⟩
      rw [text, String.toList_ofList, takeWhile_chars]
      rw [text, String.length_ofList] at hlength
      exact ⟨⟨a, rfl⟩, hlength, hlocal⟩
  · rw [isEmail_iff, mem_pattern_iff]
    refine and_congr_right fun ⟨a, ha⟩ => ?_
    have hascii : ∀ c ∈ value.toList, c.toNat < 128 := fun c hc => a.toNat_lt_of_mem_chars (ha ▸ hc)
    have hwhole := utf8ByteSize_ofList_of_ascii hascii
    rw [String.ofList_toList] at hwhole
    rw [hwhole, utf8ByteSize_ofList_of_ascii fun c hc => hascii c (List.takeWhile_subset _ hc)]

end FormValue

end Formulary
