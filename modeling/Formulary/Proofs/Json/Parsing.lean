import Formulary.Proofs.Json.NumberLiteral
import Formulary.Proofs.Json.StringLiteral

/-!
# Reading JSON texts

A text is read as a value if and only if the grammar says that it is a JSON text with this value (`ofText?_eq_some_iff`).
In one direction the proof goes along the calls of the reader, in the other along the derivation, which takes a character
for every two calls at least.
-/

namespace Formulary.Json

open Grammar

namespace Reader

variable {c : Char} {cs ds rest : List Char} {v : Json} {vs : List Json} {ms : List (JsonString × Json)}

/-! ### White space -/

theorem isSpace_iff : isSpace c = true ↔ c ∈ [' ', '\t', '\n', '\r'] := by
  simp [isSpace]

theorem space_skipSpace (cs : List Char) : Space cs (skipSpace cs) :=
  ⟨cs.takeWhile isSpace, fun _ hc => isSpace_iff.1 (List.mem_takeWhile_imp hc), List.takeWhile_append_dropWhile.symm⟩

theorem skipSpace_of_space (h : Space cs rest) : skipSpace cs = skipSpace rest := by
  obtain ⟨gap, hgap, rfl⟩ := h
  exact List.dropWhile_append_of_pos fun c hc => isSpace_iff.2 (hgap c hc)

theorem skipSpace_cons (h : isSpace c = false) (cs : List Char) : skipSpace (c :: cs) = c :: cs :=
  List.dropWhile_cons_of_neg (by simp [h])

theorem space_refl (cs : List Char) : Space cs cs := ⟨[], nofun, rfl⟩

theorem space_trans (h : Space cs ds) (h' : Space ds rest) : Space cs rest := by
  obtain ⟨gap, hgap, rfl⟩ := h
  obtain ⟨gap', hgap', rfl⟩ := h'
  refine ⟨gap ++ gap', fun c hc => ?_, (List.append_assoc ..).symm⟩
  exact (List.mem_append.1 hc).elim (hgap c) (hgap' c)

theorem length_le_of_space (h : Space cs rest) : rest.length ≤ cs.length := by
  obtain ⟨gap, -, rfl⟩ := h
  simp

theorem elements_of_space (h : Space cs ds) (hvs : Elements ds vs rest) : Elements cs vs rest := by
  cases hvs with
  | one hv =>
    obtain ⟨hspace, hv, hrest⟩ := hv
    exact .one (.mk (space_trans h hspace) hv hrest)
  | cons hv hvs =>
    obtain ⟨hspace, hv, hrest⟩ := hv
    exact .cons (.mk (space_trans h hspace) hv hrest) hvs

theorem members_of_space (h : Space cs ds) (hms : Members ds ms rest) : Members cs ms rest := by
  cases hms with
  | one hm =>
    obtain ⟨hspace, hname, hcolon, hv⟩ := hm
    exact .one (.mk (space_trans h hspace) hname hcolon hv)
  | cons hm hms =>
    obtain ⟨hspace, hname, hcolon, hv⟩ := hm
    exact .cons (.mk (space_trans h hspace) hname hcolon hv) hms

/-! ### What is read -/

mutual

/-- A value that is read is one of the grammar. -/
theorem value_of_value? {cs rest : List Char} {v : Json} :
    ∀ fuel, value? fuel cs = some (v, rest) → Value (skipSpace cs) v rest
  | 0, h => by cases h
  | fuel + 1, h => by
    rw [value?] at h
    generalize skipSpace cs = ds at h
    split at h
    case h_1 => cases h; exact .null _
    case h_2 => cases h; exact .yes _
    case h_3 => cases h; exact .no _
    case h_4 =>
      obtain ⟨⟨s, rest⟩, hs, he⟩ := Option.map_eq_some_iff.1 h
      cases he
      exact .string (string?_eq_some_iff.1 hs)
    case h_5 ds =>
      split at h
      next hempty =>
        cases h
        exact .emptyArray (hempty ▸ space_skipSpace ds)
      next =>
        obtain ⟨⟨vs, rest⟩, hvs, he⟩ := Option.map_eq_some_iff.1 h
        cases he
        exact .array (elements_of_space (space_skipSpace ds) (elements_of_items? fuel hvs))
    case h_6 ds =>
      split at h
      next hempty =>
        cases h
        exact .emptyObject (hempty ▸ space_skipSpace ds)
      next =>
        obtain ⟨⟨ms, rest⟩, hms, he⟩ := Option.map_eq_some_iff.1 h
        cases he
        exact .object (members_of_space (space_skipSpace ds) (members_of_members? fuel hms))
    case h_7 =>
      obtain ⟨⟨n, rest⟩, hn, he⟩ := Option.map_eq_some_iff.1 h
      cases he
      exact .number (number_of_number? hn)

theorem elements_of_items? {cs rest : List Char} {vs : List Json} :
    ∀ fuel, items? fuel cs = some (vs, rest) → Elements cs vs (']' :: rest)
  | 0, h => by cases h
  | fuel + 1, h => by
    simp only [items?, Option.bind_eq_bind, Option.bind_eq_some_iff] at h
    obtain ⟨⟨v, after⟩, hv, h⟩ := h
    have helement {rest : List Char} (hrest : skipSpace after = rest) : Element cs v rest :=
      .mk (space_skipSpace cs) (value_of_value? fuel hv) (hrest ▸ space_skipSpace after)
    split at h
    next hcomma =>
      obtain ⟨⟨vs, rest⟩, hvs, he⟩ := Option.bind_eq_some_iff.1 h
      cases he
      exact .cons (helement hcomma) (elements_of_items? fuel hvs)
    next hclosing =>
      cases h
      exact .one (helement hclosing)
    next => cases h

theorem members_of_members? {cs rest : List Char} {ms : List (JsonString × Json)} :
    ∀ fuel, members? fuel cs = some (ms, rest) → Members cs ms ('}' :: rest)
  | 0, h => by cases h
  | fuel + 1, h => by
    rw [members?] at h
    split at h
    next hquote =>
      simp only [Option.bind_eq_bind, Option.bind_eq_some_iff] at h
      obtain ⟨⟨name, cs₂⟩, hname, h⟩ := h
      split at h
      next cs₃ hcolon =>
        obtain ⟨⟨v, after⟩, hv, h⟩ := Option.bind_eq_some_iff.1 h
        have hmember {rest : List Char} (hrest : skipSpace after = rest) : Member cs (name, v) rest :=
          .mk (hquote ▸ space_skipSpace cs) (string?_eq_some_iff.1 hname) (hcolon ▸ space_skipSpace cs₂)
            (.mk (space_skipSpace cs₃) (value_of_value? fuel hv) (hrest ▸ space_skipSpace after))
        split at h
        next hcomma =>
          obtain ⟨⟨ms, rest⟩, hms, he⟩ := Option.bind_eq_some_iff.1 h
          cases he
          exact .cons (hmember hcomma) (members_of_members? fuel hms)
        next hclosing =>
          cases h
          exact .one (hmember hclosing)
        next => cases h
      next => cases h
    next => cases h

end

/-! ### What is derived -/

theorem length_lt_of_points {ns : List Nat} (h : Points cs ns rest) : rest.length < cs.length := by
  induction h with
  | quote => exact Nat.lt_succ_self _
  | plain _ _ _ _ ih => exact Nat.lt_succ_of_lt ih
  | escaped _ _ ih => exact Nat.lt_succ_of_lt (Nat.lt_succ_of_lt ih)
  | numbered _ _ ih =>
    simp only [List.length_cons]
    omega

theorem length_lt_of_unsigned {n : JsonNumber} (h : Unsigned cs n rest) : rest.length < cs.length := by
  obtain ⟨cs₁, cs₂, hwhole, hfraction, hexponent⟩ := h
  have hwhole : cs₁.length < cs.length := by
    generalize n.whole = whole at hwhole
    cases hwhole with
    | zero => exact Nat.lt_succ_self _
    | digits _ hdigits =>
      have := List.length_pos_iff.2 (Numeral.isNumeral_iff.1 hdigits).1
      rw [List.length_append]
      omega
  have hfraction : cs₂.length ≤ cs₁.length := by
    generalize n.fraction = fraction at hfraction
    cases hfraction with
    | absent => exact Nat.le_refl _
    | digits => simp only [List.cons_append, List.length_cons, List.length_append]; omega
  have hexponent : rest.length ≤ cs₂.length := by
    generalize n.exponent = exponent at hexponent
    cases hexponent with
    | absent => exact Nat.le_refl _
    | digits => simp only [List.cons_append, List.length_cons, List.length_append]; omega
  omega

theorem length_lt_of_name {name : JsonString} {cs cs₁ cs₂ cs₃ : List Char} (h₁ : Space cs ('"' :: cs₁))
    (h₂ : Unquoted cs₁ name cs₂) (h₃ : Space cs₂ (':' :: cs₃)) : cs₃.length < cs.length := by
  obtain ⟨_, h₂, _⟩ := h₂
  have h₁ := length_le_of_space h₁
  have h₂ := length_lt_of_points h₂
  have h₃ := length_le_of_space h₃
  simp only [List.length_cons] at h₁ h₃
  omega

mutual

theorem length_lt_of_value {cs rest : List Char} {v : Json} : Value cs v rest → rest.length < cs.length
  | .null _ | .yes _ | .no _ => by
    simp only [List.length_cons]
    omega
  | .number (.plain _ h) => length_lt_of_unsigned h
  | .number (.minus _ h) => Nat.lt_succ_of_lt (length_lt_of_unsigned h)
  | .string ⟨_, h, _⟩ => Nat.lt_succ_of_lt (length_lt_of_points h)
  | .emptyArray h | .emptyObject h => by
    have := length_le_of_space h
    simp only [List.length_cons] at this ⊢
    omega
  | .array h => by
    have := length_lt_of_elements h
    simp only [List.length_cons] at this ⊢
    omega
  | .object h => by
    have := length_lt_of_members h
    simp only [List.length_cons] at this ⊢
    omega

theorem length_lt_of_element {cs rest : List Char} {v : Json} : Element cs v rest → rest.length < cs.length
  | .mk h₁ h₂ h₃ => by
    have := length_le_of_space h₁
    have := length_lt_of_value h₂
    have := length_le_of_space h₃
    omega

theorem length_lt_of_elements {cs rest : List Char} {vs : List Json} : Elements cs vs rest → rest.length < cs.length
  | .one h => length_lt_of_element h
  | .cons h h' => Nat.lt_trans (length_lt_of_elements h') (Nat.lt_of_succ_lt (length_lt_of_element h))

theorem length_lt_of_member {cs rest : List Char} {m : JsonString × Json} : Member cs m rest → rest.length < cs.length
  | .mk h₁ h₂ h₃ h₄ => Nat.lt_trans (length_lt_of_element h₄) (length_lt_of_name h₁ h₂ h₃)

theorem length_lt_of_members {cs rest : List Char} {ms : List (JsonString × Json)} :
    Members cs ms rest → rest.length < cs.length
  | .one h => length_lt_of_member h
  | .cons h h' => Nat.lt_trans (length_lt_of_members h') (Nat.lt_of_succ_lt (length_lt_of_member h))

end

theorem endsNumber_cons (h : c ∈ [' ', '\t', '\n', '\r', ',', ']', '}']) (cs : List Char) : EndsNumber (c :: cs) := by
  intro d hd
  obtain rfl : c = d := Option.some.inj hd
  revert h
  simp only [List.mem_cons, List.not_mem_nil, or_false]
  rintro (rfl | rfl | rfl | rfl | rfl | rfl | rfl) <;> decide

theorem endsNumber_of_space (h : Space cs rest) (hrest : EndsNumber rest) : EndsNumber cs := by
  obtain ⟨gap, hgap, rfl⟩ := h
  cases gap with
  | nil => exact hrest
  | cons c gap => exact endsNumber_cons (List.mem_append_left [',', ']', '}'] (hgap c List.mem_cons_self)) _

/-- What starts a number starts nothing else. -/
theorem not_mem_of_starts_number (hc : c = '-' ∨ c.isDigit = true) :
    c ∉ [' ', '\t', '\n', '\r', 'n', 't', 'f', '"', '[', '{'] := by
  rcases hc with rfl | hc
  · decide
  · intro hmem
    simp only [List.mem_cons, List.not_mem_nil, or_false] at hmem
    rcases hmem with rfl | rfl | rfl | rfl | rfl | rfl | rfl | rfl | rfl | rfl <;> cases hc

theorem value?_of_number {n : JsonNumber} (h : Number cs n rest) (hrest : EndsNumber rest) (fuel : Nat) :
    value? (fuel + 1) cs = some (.number n, rest) := by
  have hread := number?_of_number h hrest
  obtain ⟨c, tail, rfl, hc⟩ : ∃ c tail, cs = c :: tail ∧ (c = '-' ∨ c.isDigit = true) := by
    cases h with
    | plain _ h =>
      obtain ⟨c, tail, rfl, hc⟩ := exists_of_unsigned h
      exact ⟨c, tail, rfl, .inr hc⟩
    | minus _ h => exact ⟨'-', _, rfl, .inl rfl⟩
  have hne := not_mem_of_starts_number hc
  have hspace : isSpace c = false := Bool.eq_false_iff.2 fun h => hne (by
    have := isSpace_iff.1 h
    simp_all)
  rw [value?, skipSpace_cons hspace]
  split
  case h_7 => rw [hread, Option.map_some]
  all_goals
    rename_i heq
    rw [(List.cons.inj heq).1] at hne
    exact absurd (by decide) hne

theorem value?_of_space (h : Space cs ds) (fuel : Nat) : value? fuel cs = value? fuel ds := by
  cases fuel with
  | zero => rfl
  | succ fuel => rw [value?, value?, skipSpace_of_space h]

theorem items?_of_space (h : Space cs ds) (fuel : Nat) : items? fuel cs = items? fuel ds := by
  cases fuel with
  | zero => rfl
  | succ fuel => rw [items?, items?, value?_of_space h]

theorem members?_of_space (h : Space cs ds) (fuel : Nat) : members? fuel cs = members? fuel ds := by
  cases fuel with
  | zero => rfl
  | succ fuel => rw [members?, members?, skipSpace_of_space h]

theorem items?_bracket (fuel : Nat) (cs : List Char) : items? fuel (']' :: cs) = none := by
  match fuel with
  | 0 => rfl
  | 1 => rfl
  | fuel + 2 => rfl

theorem members?_brace (fuel : Nat) (cs : List Char) : members? fuel ('}' :: cs) = none := by
  match fuel with
  | 0 => rfl
  | fuel + 1 => rfl

mutual

/-- A value of the grammar is read, if the fuel allows for its length. -/
theorem value?_of_value {cs rest : List Char} {v : Json} (h : Value cs v rest) (hrest : EndsNumber rest) (fuel : Nat)
    (hfuel : 2 * cs.length ≤ fuel + 2 * rest.length + 1) : value? fuel cs = some (v, rest) := by
  have hlt := length_lt_of_value h
  obtain ⟨fuel, rfl⟩ : ∃ n, fuel = n + 1 := ⟨fuel - 1, by omega⟩
  match h with
  | .null _ | .yes _ | .no _ => rfl
  | .number h => exact value?_of_number h hrest fuel
  | .string h =>
    rw [value?, skipSpace_cons rfl]
    simp only [string?_eq_some_iff.2 h, Option.map_some]
  | .emptyArray h =>
    rw [value?, skipSpace_cons rfl]
    simp only [skipSpace_of_space h, skipSpace_cons (c := ']') rfl]
  | .emptyObject h =>
    rw [value?, skipSpace_cons rfl]
    simp only [skipSpace_of_space h, skipSpace_cons (c := '}') rfl]
  | @Value.array cs _ _ h =>
    simp only [List.length_cons] at hfuel
    have hitems := items?_of_elements h rfl fuel (by omega)
    rw [items?_of_space (space_skipSpace cs)] at hitems
    rw [value?, skipSpace_cons rfl]
    simp only
    split
    next hempty =>
      rw [hempty, items?_bracket] at hitems
      cases hitems
    next => rw [hitems, Option.map_some]
  | @Value.object cs _ _ h =>
    simp only [List.length_cons] at hfuel
    have hmembers := members?_of_members h rfl fuel (by omega)
    rw [members?_of_space (space_skipSpace cs)] at hmembers
    rw [value?, skipSpace_cons rfl]
    simp only
    split
    next hempty =>
      rw [hempty, members?_brace] at hmembers
      cases hmembers
    next => rw [hmembers, Option.map_some]

theorem exists_value?_of_element {cs rest : List Char} {v : Json} (h : Element cs v rest) (hrest : EndsNumber rest)
    (fuel : Nat) (hfuel : 2 * cs.length ≤ fuel + 2 * rest.length + 1) :
    ∃ tail, value? fuel cs = some (v, tail) ∧ Space tail rest := by
  match h with
  | @Element.mk _ _ cs₂ _ _ hbefore hv hafter =>
    have := length_le_of_space hbefore
    have := length_le_of_space hafter
    refine ⟨cs₂, ?_, hafter⟩
    rw [value?_of_space hbefore]
    exact value?_of_value hv (endsNumber_of_space hafter hrest) fuel (by omega)

theorem items?_of_elements {cs tail rest : List Char} {vs : List Json} (h : Elements cs vs tail)
    (htail : tail = ']' :: rest) (fuel : Nat) (hfuel : 2 * cs.length ≤ fuel + 2 * rest.length + 2) :
    items? fuel cs = some (vs, rest) := by
  have hlt := length_lt_of_elements h
  have hlength : tail.length = rest.length + 1 := by rw [htail, List.length_cons]
  obtain ⟨fuel, rfl⟩ : ∃ n, fuel = n + 1 := ⟨fuel - 1, by omega⟩
  match h with
  | .one hv =>
    have hends : EndsNumber tail := htail ▸ endsNumber_cons (by decide) rest
    obtain ⟨after, hread, hafter⟩ := exists_value?_of_element hv hends fuel (by omega)
    have hskip : skipSpace after = ']' :: rest := by rw [skipSpace_of_space hafter, htail, skipSpace_cons rfl]
    simp [items?, hread, hskip]
  | @Elements.cons _ cs₁ _ _ _ hv hvs =>
    have hcs₁ := length_lt_of_element hv
    have htail' := length_lt_of_elements hvs
    simp only [List.length_cons] at hcs₁
    obtain ⟨after, hread, hafter⟩ := exists_value?_of_element hv (endsNumber_cons (by decide) cs₁) fuel (by
      simp only [List.length_cons]
      omega)
    have hskip : skipSpace after = ',' :: cs₁ := by rw [skipSpace_of_space hafter, skipSpace_cons rfl]
    have hitems := items?_of_elements hvs htail fuel (by omega)
    simp [items?, hread, hskip, hitems]

theorem members?_of_members {cs tail rest : List Char} {ms : List (JsonString × Json)} (h : Members cs ms tail)
    (htail : tail = '}' :: rest) (fuel : Nat) (hfuel : 2 * cs.length ≤ fuel + 2 * rest.length + 2) :
    members? fuel cs = some (ms, rest) := by
  have hlt := length_lt_of_members h
  have hlength : tail.length = rest.length + 1 := by rw [htail, List.length_cons]
  obtain ⟨fuel, rfl⟩ : ∃ n, fuel = n + 1 := ⟨fuel - 1, by omega⟩
  match h with
  | .one (@Member.mk _ _ _ cs₃ _ _ _ hbefore hname hcolon hv) =>
    have hends : EndsNumber tail := htail ▸ endsNumber_cons (by decide) rest
    have hcs₃ := length_lt_of_name hbefore hname hcolon
    obtain ⟨after, hread, hafter⟩ := exists_value?_of_element hv hends fuel (by omega)
    have hskip : skipSpace after = '}' :: rest := by rw [skipSpace_of_space hafter, htail, skipSpace_cons rfl]
    simp [members?, skipSpace_of_space hbefore, skipSpace_cons (c := '"') rfl, string?_eq_some_iff.2 hname,
      skipSpace_of_space hcolon, skipSpace_cons (c := ':') rfl, hread, hskip]
  | @Members.cons _ cs₁ _ _ _ (@Member.mk _ _ _ cs₃ _ _ _ hbefore hname hcolon hv) hms =>
    have hcs₃ := length_lt_of_name hbefore hname hcolon
    have hcs₁ := length_lt_of_element hv
    have htail' := length_lt_of_members hms
    simp only [List.length_cons] at hcs₁
    obtain ⟨after, hread, hafter⟩ := exists_value?_of_element hv (endsNumber_cons (by decide) cs₁) fuel (by
      simp only [List.length_cons]
      omega)
    have hskip : skipSpace after = ',' :: cs₁ := by rw [skipSpace_of_space hafter, skipSpace_cons rfl]
    have hmembers := members?_of_members hms htail fuel (by omega)
    simp [members?, skipSpace_of_space hbefore, skipSpace_cons (c := '"') rfl, string?_eq_some_iff.2 hname,
      skipSpace_of_space hcolon, skipSpace_cons (c := ':') rfl, hread, hskip, hmembers]

end

end Reader

open Reader

theorem ofText?_eq_some_iff {s : String} {v : Json} : ofText? s = some v ↔ IsText s v := by
  unfold ofText? ofChars? IsText
  constructor
  · intro h
    split at h
    next v rest hread =>
      split at h
      next hrest =>
        cases h
        exact .mk (space_skipSpace _) (value_of_value? _ hread) (hrest ▸ space_skipSpace rest)
      next => cases h
    next => cases h
  · intro h
    obtain ⟨rest, hread, hrest⟩ := exists_value?_of_element h nofun (2 * s.toList.length + 1) (by omega)
    rw [hread]
    exact if_pos (skipSpace_of_space hrest)

/-- A text has one value. -/
theorem IsText.unique {s : String} {v w : Json} (hv : IsText s v) (hw : IsText s w) : v = w :=
  Option.some.inj ((ofText?_eq_some_iff.2 hv).symm.trans (ofText?_eq_some_iff.2 hw))

end Formulary.Json
