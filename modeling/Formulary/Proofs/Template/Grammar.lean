import Formulary.Template.Filling
import Mathlib.Data.List.TakeWhile

/-!
# The grammar of placeholders and blanks

Both stand between two opening and two closing braces, with no closing brace between: a placeholder is a name with an
optional suffix that is not empty (`Placeholder.Written`), and a blank for a name is this name with an optional suffix
(`Blank.Written`).  A text starts with one of them if and only if it is read there (`Placeholder.read?_eq_some_iff`,
`Blank.read?_eq_some_iff`).
-/

namespace Formulary

/-- Where a text without closing braces ends before a closing brace is determined by the whole text. -/
theorem append_closing_inj {a b x y : List Char} (ha : '}' ∉ a) (hb : '}' ∉ b) (h : a ++ '}' :: x = b ++ '}' :: y) :
    a = b ∧ x = y := by
  induction a generalizing b with
  | nil =>
    cases b with
    | nil => exact ⟨rfl, (List.cons.inj h).2⟩
    | cons d b => exact absurd ((List.cons.inj h).1 ▸ List.mem_cons_self) hb
  | cons c a ih =>
    cases b with
    | nil => exact absurd ((List.cons.inj h).1 ▸ List.mem_cons_self) ha
    | cons d b =>
      obtain ⟨rfl, htail⟩ := List.cons.inj h
      rw [List.mem_cons, not_or] at ha hb
      obtain ⟨rfl, rfl⟩ := ih ha.2 hb.2 htail
      exact ⟨rfl, rfl⟩

/-- What stands between braces, with the braces. -/
def braced (inner : List Char) : List Char := '{' :: '{' :: (inner ++ ['}', '}'])

theorem braced_append (inner rest : List Char) :
    braced inner ++ rest = '{' :: '{' :: (inner ++ '}' :: '}' :: rest) := by
  simp [braced]

theorem braced_append_eq_iff {a b x y : List Char} :
    braced a ++ x = braced b ++ y ↔ a ++ '}' :: '}' :: x = b ++ '}' :: '}' :: y := by
  rw [braced_append, braced_append, List.cons_inj_right, List.cons_inj_right]

theorem braced_append_inj {a b x y : List Char} (ha : '}' ∉ a) (hb : '}' ∉ b) (h : braced a ++ x = braced b ++ y) :
    a = b ∧ x = y := by
  obtain ⟨rfl, hrest⟩ := append_closing_inj ha hb (braced_append_eq_iff.1 h)
  exact ⟨rfl, (List.cons.inj hrest).2⟩

/-! ### Words and suffixes -/

/-- One or more characters of names and types. -/
structure IsWord (name : List Char) : Prop where
  ne_nil : name ≠ []
  isWordChar : ∀ c ∈ name, isWordChar c = true

namespace IsWord

variable {name : List Char} {c : Char}

/-- A word has no character of the braces and colons around it. -/
theorem not_mem (h : IsWord name) (hc : Formulary.isWordChar c = false) : c ∉ name := by
  intro hm
  rw [h.isWordChar c hm] at hc
  cases hc

/-- A word ends where a character follows that does not belong to words. -/
theorem takeWhile_append (h : IsWord name) (hc : Formulary.isWordChar c = false) (rest : List Char) :
    (name ++ c :: rest).takeWhile Formulary.isWordChar = name := by
  rw [List.takeWhile_append_of_pos h.isWordChar, List.takeWhile_cons_of_neg (by simp [hc]), List.append_nil]

theorem dropWhile_append (h : IsWord name) (hc : Formulary.isWordChar c = false) (rest : List Char) :
    (name ++ c :: rest).dropWhile Formulary.isWordChar = c :: rest := by
  rw [List.dropWhile_append_of_pos h.isWordChar, List.dropWhile_cons_of_neg (by simp [hc])]

end IsWord

section Suffix

variable {suffix : List Char} (hbrace : '}' ∉ suffix)

include hbrace

theorem forall_ne_closing : ∀ c ∈ suffix, decide (c ≠ '}') = true := by
  intro c hc
  apply decide_eq_true
  rintro rfl
  exact hbrace hc

/-- A suffix ends where a closing brace follows. -/
theorem takeWhile_suffix (rest : List Char) : (suffix ++ '}' :: rest).takeWhile (· ≠ '}') = suffix := by
  rw [List.takeWhile_append_of_pos (forall_ne_closing hbrace), List.takeWhile_cons_of_neg (by simp), List.append_nil]

theorem dropWhile_suffix (rest : List Char) : (suffix ++ '}' :: rest).dropWhile (· ≠ '}') = '}' :: rest := by
  rw [List.dropWhile_append_of_pos (forall_ne_closing hbrace), List.dropWhile_cons_of_neg (by simp)]

end Suffix

theorem not_mem_takeWhile_suffix (cs : List Char) : '}' ∉ cs.takeWhile (· ≠ '}') := fun h => by
  simpa using List.mem_takeWhile_imp h

namespace Placeholder

/-- What a placeholder is between its braces. -/
inductive Written : Placeholder → List Char → Prop
  | bare {name : List Char} (hname : IsWord name) : Written ⟨name, none, none⟩ name
  | suffixed {name suffix : List Char} (hname : IsWord name) (hsuffix : suffix ≠ []) (hbrace : '}' ∉ suffix) :
      Written ⟨name, (parts suffix).1, (parts suffix).2⟩ (name ++ ':' :: suffix)

variable {p : Placeholder} {inner cs rest : List Char}

theorem Written.isWord (h : Written p inner) : IsWord p.name := by
  cases h with
  | bare hname => exact hname
  | suffixed hname hsuffix hbrace => exact hname

theorem Written.not_mem (h : Written p inner) : '}' ∉ inner := by
  have hname := h.isWord.not_mem (c := '}') (by decide)
  cases h with
  | bare _ => exact hname
  | suffixed _ hsuffix hbrace => simp [hname, hbrace]

/-- A placeholder is read where one is written. -/
theorem read?_braced (h : Written p inner) (rest : List Char) : read? (braced inner ++ rest) = some (p, rest) := by
  rw [braced_append]
  cases h with
  | bare hname =>
    have htake := hname.takeWhile_append (c := '}') (by decide) ('}' :: rest)
    have hdrop := hname.dropWhile_append (c := '}') (by decide) ('}' :: rest)
    obtain ⟨c, name, rfl⟩ := List.exists_cons_of_ne_nil hname.ne_nil
    simp only [read?, htake, hdrop]
    rfl
  | @suffixed name suffix hname hsuffix hbrace =>
    rw [List.append_assoc, List.cons_append]
    have htake := hname.takeWhile_append (c := ':') (by decide) (suffix ++ '}' :: '}' :: rest)
    have hdrop := hname.dropWhile_append (c := ':') (by decide) (suffix ++ '}' :: '}' :: rest)
    have htake' := takeWhile_suffix hbrace ('}' :: rest)
    have hdrop' := dropWhile_suffix hbrace ('}' :: rest)
    obtain ⟨c, name, rfl⟩ := List.exists_cons_of_ne_nil hname.ne_nil
    obtain ⟨d, suffix, rfl⟩ := List.exists_cons_of_ne_nil hsuffix
    simp only [read?, htake, hdrop, htake', hdrop', afterClosing?, Option.map_some]

/-- A text starts with a placeholder if and only if one is written there between braces. -/
theorem read?_eq_some_iff :
    read? cs = some (p, rest) ↔ ∃ inner, Written p inner ∧ cs = braced inner ++ rest := by
  constructor
  · intro h
    unfold read? at h
    split at h
    · rename_i cs
      have hcs := List.takeWhile_append_dropWhile (p := isWordChar) (l := cs)
      split at h
      · cases h
      · rename_i hne
        have hname : IsWord (cs.takeWhile isWordChar) := ⟨hne, fun c hc => List.mem_takeWhile_imp hc⟩
        split at h
        · rename_i cs' hcolon
          split at h
          · cases h
          · rename_i hsuffix
            obtain ⟨rest', hclosing, he⟩ := Option.map_eq_some_iff.1 h
            obtain ⟨rfl, rfl⟩ := Prod.mk.inj he
            have hcs' := List.takeWhile_append_dropWhile (p := (· ≠ '}')) (l := cs')
            refine ⟨_, .suffixed hname hsuffix (not_mem_takeWhile_suffix cs'), ?_⟩
            rw [braced_append, List.append_assoc, List.cons_append, ← eq_of_afterClosing? hclosing, hcs', ← hcolon,
              hcs]
        · obtain ⟨rest', hclosing, he⟩ := Option.map_eq_some_iff.1 h
          obtain ⟨rfl, rfl⟩ := Prod.mk.inj he
          refine ⟨_, .bare hname, ?_⟩
          rw [braced_append, ← eq_of_afterClosing? hclosing, hcs]
    · cases h
  · rintro ⟨inner, h, rfl⟩
    exact read?_braced h rest

end Placeholder

namespace Blank

/-- What a blank for a name is between its braces. -/
inductive Written (name : String) : List Char → Prop
  | bare : Written name name.toList
  | suffixed {suffix : List Char} (hbrace : '}' ∉ suffix) : Written name (name.toList ++ ':' :: suffix)

variable {name : String} {inner cs rest : List Char} {names : List String}

/-- After the opening braces a blank for a name is read if and only if one is written there. -/
theorem after?_eq_some_iff :
    after? name cs = some rest ↔ ∃ inner, Written name inner ∧ cs = inner ++ '}' :: '}' :: rest := by
  unfold after?
  constructor
  · intro h
    split at h
    · rename_i hname
      obtain ⟨cs', rfl⟩ := List.isPrefixOf_iff_prefix.1 hname
      rw [List.drop_left] at h
      split at h
      · rename_i cs'
        have hcs' := List.takeWhile_append_dropWhile (p := (· ≠ '}')) (l := cs')
        refine ⟨_, .suffixed (not_mem_takeWhile_suffix cs'), ?_⟩
        rw [List.append_assoc, List.cons_append, ← Placeholder.eq_of_afterClosing? h, hcs']
      · exact ⟨_, .bare, congrArg _ (Placeholder.eq_of_afterClosing? h)⟩
    · cases h
  · rintro ⟨inner, h, rfl⟩
    cases h with
    | bare =>
      rw [if_pos (List.isPrefixOf_iff_prefix.2 (List.prefix_append _ _)), List.drop_left]
      rfl
    | suffixed hbrace =>
      rw [List.append_assoc, if_pos (List.isPrefixOf_iff_prefix.2 (List.prefix_append _ _)), List.drop_left,
        List.cons_append]
      simp only [dropWhile_suffix hbrace]
      rfl

/-- A blank for a name stands at the start of a text. -/
def At (name : String) (cs : List Char) : Prop := ∃ inner rest, Written name inner ∧ cs = braced inner ++ rest

theorem at_iff : At name cs ↔ ∃ tail rest, cs = '{' :: '{' :: tail ∧ after? name tail = some rest := by
  constructor
  · rintro ⟨inner, rest, hinner, rfl⟩
    exact ⟨_, rest, braced_append inner rest, after?_eq_some_iff.2 ⟨inner, hinner, rfl⟩⟩
  · rintro ⟨tail, rest, rfl, hafter⟩
    obtain ⟨inner, hinner, rfl⟩ := after?_eq_some_iff.1 hafter
    exact ⟨inner, rest, hinner, (braced_append inner rest).symm⟩

/-- What is read is a blank for one of the names. -/
theorem written_of_recogniser_read? (h : (recogniser names).read? cs = some (name, rest)) :
    name ∈ names ∧ ∃ inner, Written name inner ∧ cs = braced inner ++ rest := by
  simp only [recogniser, read?] at h
  split at h
  · obtain ⟨n, hn, h⟩ := List.exists_of_findSome?_eq_some h
    obtain ⟨tail, hafter, he⟩ := Option.map_eq_some_iff.1 h
    obtain ⟨rfl, rfl⟩ := Prod.mk.inj he
    obtain ⟨inner, hinner, rfl⟩ := after?_eq_some_iff.1 hafter
    exact ⟨List.mem_mergeSort.1 hn, inner, hinner, (braced_append _ _).symm⟩
  · cases h

theorem recogniser_read?_eq_none_iff : (recogniser names).read? cs = none ↔ ∀ name ∈ names, ¬ At name cs := by
  constructor
  · intro h name hname hat
    obtain ⟨tail, rest, rfl, hafter⟩ := at_iff.1 hat
    have hnone := List.findSome?_eq_none_iff.1 h name (List.mem_mergeSort.2 hname)
    rw [hafter] at hnone
    cases hnone
  · intro h
    cases hread : (recogniser names).read? cs with
    | none => rfl
    | some m =>
      obtain ⟨hname, inner, hinner, hcs⟩ := written_of_recogniser_read? hread
      exact absurd ⟨inner, m.2, hinner, hcs⟩ (h m.1 hname)

/-! ### Blanks for words

After a word no character of it follows, so that at most one word has a blank at the start of a text and the order of
the names does not matter. -/

theorem Written.takeWhile_append (h : Written name inner) (hname : IsWord name.toList) (rest : List Char) :
    (inner ++ '}' :: rest).takeWhile isWordChar = name.toList := by
  cases h with
  | bare => exact hname.takeWhile_append (by decide) rest
  | @suffixed suffix hbrace =>
    rw [List.append_assoc, List.cons_append]
    exact hname.takeWhile_append (by decide) _

theorem Written.not_mem (h : Written name inner) (hname : IsWord name.toList) : '}' ∉ inner := by
  have hbraces := hname.not_mem (c := '}') (by decide)
  cases h with
  | bare => exact hbraces
  | suffixed hbrace => simp [hbraces, hbrace]

theorem recogniser_read?_eq_some_iff (hnames : ∀ name ∈ names, IsWord name.toList) :
    (recogniser names).read? cs = some (name, rest) ↔
      name ∈ names ∧ ∃ inner, Written name inner ∧ cs = braced inner ++ rest := by
  refine ⟨written_of_recogniser_read?, ?_⟩
  rintro ⟨hmem, inner, hinner, hcs⟩
  have hsome : (recogniser names).read? cs ≠ none :=
    fun hnone => recogniser_read?_eq_none_iff.1 hnone name hmem ⟨inner, rest, hinner, hcs⟩
  obtain ⟨⟨n, tail⟩, hn⟩ := Option.ne_none_iff_exists'.1 hsome
  obtain ⟨hmem', inner', hinner', hcs'⟩ := written_of_recogniser_read? hn
  obtain ⟨rfl, rfl⟩ := braced_append_inj (hinner.not_mem (hnames name hmem)) (hinner'.not_mem (hnames n hmem'))
    (hcs.symm.trans hcs')
  have hname := (hinner.takeWhile_append (hnames name hmem) []).symm.trans
    (hinner'.takeWhile_append (hnames n hmem') [])
  rw [hn, String.toList_inj.1 hname]

/-! ### Placeholders and blanks -/

/-- What is written as a placeholder is a blank for its name. -/
theorem written_of_placeholder {p : Placeholder} (h : p.Written inner) (hname : p.name = name.toList) :
    Written name inner := by
  cases h with
  | bare _ =>
    obtain rfl : inner = name.toList := hname
    exact .bare
  | @suffixed word suffix _ hsuffix hbrace =>
    obtain rfl : word = name.toList := hname
    exact .suffixed hbrace

/-- A blank for a word is written as a placeholder with this name, or with an empty suffix. -/
theorem Written.placeholder (h : Written name inner) (hname : IsWord name.toList) :
    (∃ p : Placeholder, p.Written inner ∧ p.name = name.toList) ∨ inner = name.toList ++ [':'] := by
  cases h with
  | bare => exact .inl ⟨_, .bare hname, rfl⟩
  | @suffixed suffix hbrace =>
    by_cases hsuffix : suffix = []
    · exact .inr (by rw [hsuffix])
    · exact .inl ⟨_, .suffixed hname hsuffix hbrace, rfl⟩

end Blank

end Formulary
