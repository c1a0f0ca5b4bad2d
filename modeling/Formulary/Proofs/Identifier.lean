import Formulary.Identifier
import Formulary.Proofs.Text.Hex

/-!
# Reading identifiers back

An identifier has several forms (`Uuid.Form`).  In most of them its digits stand in groups
(`Uuid.unhyphenate?_hyphenate`), with or without something around the groups that is taken away (`Uuid.unwrap_braced`,
`Uuid.unwrap_named`).  Each form names the identifier (`Uuid.ofText?_of_form`), and so does the written one
(`Uuid.ofText?_text`).
-/

namespace Formulary

namespace Uuid

variable {id : Uuid} {n : Nat} {sizes : List Nat} {digits mark cs : List Char} {s : String}

/-- Groups with hyphens between are read as the digits of which they are made. -/
theorem unhyphenate?_hyphenate (h : cs.length = sizes.sum) : unhyphenate? sizes (hyphenate sizes cs) = some cs := by
  fun_induction hyphenate sizes cs with
  | case1 cs =>
    obtain rfl : cs = [] := List.eq_nil_of_length_eq_zero h
    rfl
  | case2 n cs => simpa [unhyphenate?] using h
  | case3 n m sizes cs ih =>
    have hsum : cs.length = n + (m :: sizes).sum := h
    have hlength : (cs.take n).length = n := List.length_take_of_le (by omega)
    have hdrop : (cs.take n ++ '-' :: hyphenate (m :: sizes) (cs.drop n)).drop n
        = '-' :: hyphenate (m :: sizes) (cs.drop n) := List.drop_left' hlength
    have htake : (cs.take n ++ '-' :: hyphenate (m :: sizes) (cs.drop n)).take n = cs.take n :=
      List.take_left' hlength
    have hrest : unhyphenate? (m :: sizes) (hyphenate (m :: sizes) (cs.drop n)) = some (cs.drop n) :=
      ih (by rw [List.length_drop]; omega)
    rw [unhyphenate?, hdrop]
    simp [hrest, htake]

/-- Between the groups there is one hyphen less than there are groups. -/
theorem length_hyphenate (h : cs.length = (n :: sizes).sum) :
    (hyphenate (n :: sizes) cs).length = cs.length + sizes.length := by
  induction sizes generalizing n cs with
  | nil => rfl
  | cons m sizes ih =>
    have hsum : cs.length = n + (m :: sizes).sum := h
    have hrest : (hyphenate (m :: sizes) (cs.drop n)).length = (cs.drop n).length + sizes.length :=
      ih (by rw [List.length_drop]; omega)
    rw [hyphenate, List.length_append, List.length_cons, hrest, List.length_take, List.length_drop, List.length_cons]
    omega

/-! ### The forms of an identifier -/

/-- The digits of an identifier, with letters of either case. -/
def HasDigits (id : Uuid) (digits : List Char) : Prop := digits.map Char.toLower = Hex.padded 32 id.toNat

/-- The forms of an identifier: its digits alone, in groups with hyphens between, and the groups in braces or after the
scheme. -/
inductive Form (id : Uuid) : List Char → Prop
  | bare {digits : List Char} (h : id.HasDigits digits) : Form id digits
  | hyphenated {digits : List Char} (h : id.HasDigits digits) : Form id (hyphenate groups digits)
  | braced {digits : List Char} (h : id.HasDigits digits) : Form id ('{' :: (hyphenate groups digits ++ ['}']))
  | named {digits mark : List Char} (h : id.HasDigits digits) (hmark : mark.map Char.toLower = scheme) :
      Form id (mark ++ hyphenate groups digits)

theorem HasDigits.length_eq (h : id.HasDigits digits) : digits.length = 32 := by
  have hlength : (Hex.padded 32 id.toNat).length = 32 := Hex.length_padded (by decide) (by have := id.isLt; omega)
  rw [← hlength, ← h, List.length_map]

theorem HasDigits.value?_eq (h : id.HasDigits digits) : Hex.value? digits = some id.toNat := by
  rw [← Hex.value?_map_toLower, h, Hex.value?_padded]

theorem HasDigits.length_hyphenate (h : id.HasDigits digits) : (hyphenate groups digits).length = 36 := by
  rw [groups, Uuid.length_hyphenate h.length_eq, h.length_eq]
  rfl

/-- Groups that start with a digit are neither in braces nor after the scheme. -/
theorem HasDigits.unwrap_hyphenate (h : id.HasDigits digits) :
    unwrap (hyphenate groups digits) = hyphenate groups digits := by
  have hother : ∀ d < 16, Nat.digitChar d ≠ 'u' ∧ Nat.digitChar d ≠ '{' := by decide
  cases digits with
  | nil => cases h.length_eq
  | cons c cs =>
    have hmem : c.toLower ∈ Hex.padded 32 id.toNat := by
      rw [← h]
      exact List.mem_cons_self
    obtain ⟨d, hd, hc⟩ := Hex.exists_digitChar_of_mem_padded hmem
    obtain ⟨hscheme, hbrace⟩ := hother d hd
    obtain ⟨tail, htail⟩ : ∃ tail, hyphenate groups (c :: cs) = c :: tail := ⟨_, rfl⟩
    have hu : ((c :: tail).take scheme.length).map Char.toLower ≠ scheme := by
      intro heq
      exact hscheme (hc ▸ (List.cons.inj heq).1)
    rw [htail, unwrap, if_neg hu, if_neg]
    rintro ⟨heq, -⟩
    obtain rfl : c = '{' := Option.some.inj heq
    exact hbrace hc.symm

theorem unwrap_braced (cs : List Char) : unwrap ('{' :: (cs ++ ['}'])) = cs := by
  have hscheme : (('{' :: (cs ++ ['}'])).take scheme.length).map Char.toLower ≠ scheme := by
    intro h
    cases (List.cons.inj h).1
  have hlast : ('{' :: (cs ++ ['}'])).getLast? = some '}' := by
    rw [← List.cons_append, List.getLast?_concat]
  rw [unwrap, if_neg hscheme, if_pos ⟨rfl, hlast⟩, List.drop_one, List.tail_cons, List.dropLast_concat]

theorem unwrap_named (hmark : mark.map Char.toLower = scheme) (cs : List Char) : unwrap (mark ++ cs) = cs := by
  have hlength : mark.length = scheme.length := by rw [← hmark, List.length_map]
  rw [unwrap, List.take_left' hlength, if_pos hmark, List.drop_left' hlength]

/-- An identifier is named by each of its forms. -/
theorem ofText?_of_form (h : id.Form s.toList) : ofText? s = some id := by
  have hread {digits : List Char} (hdigits : id.HasDigits digits) (hs : digits? s.toList = some digits) :
      ofText? s = some id := by
    rw [ofText?, hs]
    simp [hdigits.value?_eq]
  have hgroups {digits : List Char} (hdigits : id.HasDigits digits) (hs : s.toList.length ≠ 32)
      (hunwrap : unwrap s.toList = hyphenate groups digits) : digits? s.toList = some digits := by
    rw [digits?, if_neg hs, hunwrap, unhyphenate?_hyphenate hdigits.length_eq]
  generalize hcs : s.toList = cs at h hread hgroups
  cases h with
  | bare h => exact hread h (if_pos h.length_eq)
  | hyphenated h => exact hread h (hgroups h (by rw [h.length_hyphenate]; decide) h.unwrap_hyphenate)
  | @braced digits h =>
    refine hread h (hgroups h ?_ (unwrap_braced _))
    rw [List.length_cons, List.length_append, h.length_hyphenate]
    omega
  | @named digits mark h hmark =>
    refine hread h (hgroups h ?_ (unwrap_named hmark _))
    rw [List.length_append, h.length_hyphenate]
    omega

theorem form_text (id : Uuid) : id.Form id.text.toList := by
  rw [text, String.toList_ofList]
  exact .hyphenated (Hex.map_toLower_padded 32 id.toNat)

/-- The written form of an identifier names it. -/
theorem ofText?_text (id : Uuid) : ofText? id.text = some id := ofText?_of_form id.form_text

example : ofText? "\x7b6F9619FF-8B86-D011-B42D-00C04FC964FF\x7d" = ofText? "6f9619ff8b86d011b42d00c04fc964ff" := by
  decide

end Uuid

end Formulary
