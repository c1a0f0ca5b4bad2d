import Formulary.Json.Printer
import Formulary.Json.Reader
import Formulary.Proofs.Json.Grammar
import Formulary.Proofs.Text.Hex

/-!
# String literals

A string literal is read as the grammar says, with the text that its code points give, if they give one
(`string?_eq_some_iff`).  What is written for a string is a literal of the grammar for it, whatever characters it has
(`exists_stringChars_eq_cons`).
-/

namespace Formulary.Json

open Grammar

namespace Reader

variable {c : Char} {cs rest : List Char} {ns : List Nat} {n : Nat}

/-! ### Code points -/

theorem escaped?_eq_some_iff {e : Char} : escaped? e = some c ↔ (e, c) ∈ escapes := by
  have hall : ∀ p ∈ escapes, escaped? p.1 = some p.2 := by decide
  refine ⟨fun h => ?_, hall (e, c)⟩
  unfold escaped? at h
  split at h <;> cases h <;> decide

theorem points_of_codePoints? (h : codePoints? cs = some (ns, rest)) : Points cs ns rest := by
  fun_induction codePoints? cs generalizing ns rest with
  | case1 => cases h
  | case2 => cases h; exact .quote _
  | case3 a b c d cs ih =>
    simp only [Option.bind_eq_bind, Option.bind_eq_some_iff] at h
    obtain ⟨n, hn, ⟨ns, rest⟩, hns, he⟩ := h
    cases he
    exact .numbered hn (ih hns)
  | case4 e cs _ ih =>
    simp only [Option.bind_eq_bind, Option.bind_eq_some_iff] at h
    obtain ⟨c, hc, ⟨ns, rest⟩, hns, he⟩ := h
    cases he
    exact .escaped (escaped?_eq_some_iff.1 hc) (ih hns)
  | case5 c cs h1 h2 h3 h4 => cases h
  | case6 c cs hquote _ _ hc ih =>
    simp only [Option.bind_eq_bind, Option.bind_eq_some_iff] at h
    obtain ⟨⟨ns, rest⟩, hns, he⟩ := h
    cases he
    obtain ⟨hcontrol, hbackslash⟩ := not_or.1 hc
    exact .plain (by simpa using hquote) hbackslash hcontrol (ih hns)

theorem codePoints?_of_points (h : Points cs ns rest) : codePoints? cs = some (ns, rest) := by
  induction h with
  | quote rest => rfl
  | plain hquote hbackslash hcontrol _ ih => simp [codePoints?, hbackslash, hcontrol, ih]
  | @escaped e c cs rest ns he _ ih =>
    have hu : e ≠ 'u' := by
      rintro rfl
      revert he
      simp [escapes]
    simp [codePoints?, hu, escaped?_eq_some_iff.2 he, ih]
  | numbered hn _ ih => simp [codePoints?, hn, ih]

/-! ### Characters of code points -/

theorem isValidChar_toNat (c : Char) : c.toNat < 0xD800 ∨ 0xDFFF < c.toNat ∧ c.toNat < 0x110000 := c.valid

theorem toNat_ofNat_of_isValidChar (h : n < 0xD800 ∨ 0xDFFF < n ∧ n < 0x110000) : (Char.ofNat n).toNat = n := by
  rw [Char.ofNat, dif_pos h]
  rfl

theorem isSurrogate_eq_false (c : Char) : isHighSurrogate c.toNat = false ∧ isLowSurrogate c.toNat = false := by
  have hvalid := isValidChar_toNat c
  simp only [isHighSurrogate, isLowSurrogate, Bool.and_eq_false_iff, decide_eq_false_iff_not]
  omega

theorem joinPairs?_single (c : Char) (ns : List Nat) : joinPairs? (c.toNat :: ns) = (joinPairs? ns).map (c :: ·) := by
  obtain ⟨hhigh, hlow⟩ := isSurrogate_eq_false c
  cases ns <;> simp [joinPairs?, hhigh, hlow]

theorem joinPairs?_of_encodes (h : Encodes ns cs) : joinPairs? ns = some cs := by
  induction h with
  | nil => rfl
  | single c _ ih => rw [joinPairs?_single, ih, Option.map_some]
  | @pair c ns cs hc _ ih =>
    have hvalid := isValidChar_toNat c
    have hhigh : isHighSurrogate (0xD800 + (c.toNat - 0x10000) / 0x400) = true := by
      simp only [isHighSurrogate, Bool.and_eq_true, decide_eq_true_eq]
      omega
    have hlow : isLowSurrogate (0xDC00 + (c.toNat - 0x10000) % 0x400) = true := by
      simp only [isLowSurrogate, Bool.and_eq_true, decide_eq_true_eq]
      omega
    have hjoin : 0x10000 + (0xD800 + (c.toNat - 0x10000) / 0x400 - 0xD800) * 0x400
        + (0xDC00 + (c.toNat - 0x10000) % 0x400 - 0xDC00) = c.toNat := by omega
    rw [joinPairs?, if_pos hhigh, if_pos hlow, hjoin, ih, Char.ofNat_toNat, Option.map_some]

/-- A code point that is no surrogate is that of a character. -/
theorem toNat_ofNat_of_not_surrogate (hn : n < 0x110000) (hhigh : isHighSurrogate n = false)
    (hlow : isLowSurrogate n = false) : (Char.ofNat n).toNat = n := by
  simp only [isHighSurrogate, isLowSurrogate, Bool.and_eq_false_iff, decide_eq_false_iff_not] at hhigh hlow
  exact toNat_ofNat_of_isValidChar (by omega)

theorem encodes_of_joinPairs? (hns : ∀ n ∈ ns, n < 0x110000) (h : joinPairs? ns = some cs) : Encodes ns cs := by
  fun_induction joinPairs? ns generalizing cs with
  | case1 =>
    cases h
    exact .nil
  | case2 high low ns hhigh hlow ih =>
    obtain ⟨cs, hcs, rfl⟩ := Option.map_eq_some_iff.1 h
    simp only [isHighSurrogate, isLowSurrogate, Bool.and_eq_true, decide_eq_true_eq] at hhigh hlow
    generalize hchar : Char.ofNat (0x10000 + (high - 0xD800) * 0x400 + (low - 0xDC00)) = c
    have hc : c.toNat = 0x10000 + (high - 0xD800) * 0x400 + (low - 0xDC00) := by
      rw [← hchar]
      exact toNat_ofNat_of_isValidChar (by omega)
    have hpair := Encodes.pair (c := c) (by omega) (ih (fun n hn => hns n (by simp [hn])) hcs)
    have hfirst : 0xD800 + (c.toNat - 0x10000) / 0x400 = high := by omega
    have hsecond : 0xDC00 + (c.toNat - 0x10000) % 0x400 = low := by omega
    rwa [hfirst, hsecond] at hpair
  | case3 => cases h
  | case4 => cases h
  | case5 n m ns hhigh hlow ih =>
    obtain ⟨cs, hcs, rfl⟩ := Option.map_eq_some_iff.1 h
    have hn := toNat_ofNat_of_not_surrogate (hns n List.mem_cons_self) (Bool.eq_false_iff.2 hhigh)
      (Bool.eq_false_iff.2 hlow)
    have hsingle := Encodes.single (Char.ofNat n) (ih (fun n hn => hns n (List.mem_cons_of_mem _ hn)) hcs)
    rwa [hn] at hsingle
  | case6 => cases h
  | case7 n hn =>
    cases h
    simp only [Bool.or_eq_true, not_or, Bool.not_eq_true] at hn
    have hsingle := Encodes.single (Char.ofNat n) .nil
    rwa [toNat_ofNat_of_not_surrogate (hns n List.mem_cons_self) hn.1 hn.2] at hsingle

theorem joinPairs?_eq_some_iff (hns : ∀ n ∈ ns, n < 0x110000) : joinPairs? ns = some cs ↔ Encodes ns cs :=
  ⟨encodes_of_joinPairs? hns, joinPairs?_of_encodes⟩

theorem encodes_unique {ds : List Char} (h : Encodes ns cs) (h' : Encodes ns ds) : cs = ds :=
  Option.some.inj ((joinPairs?_of_encodes h).symm.trans (joinPairs?_of_encodes h'))

theorem lt_of_mem_points (h : Points cs ns rest) : ∀ n ∈ ns, n < 0x110000 := by
  have hchar (c : Char) : c.toNat < 0x110000 := by
    have := isValidChar_toNat c
    omega
  induction h with
  | quote => nofun
  | plain _ _ _ _ ih => exact List.forall_mem_cons.2 ⟨hchar _, ih⟩
  | escaped _ _ ih => exact List.forall_mem_cons.2 ⟨hchar _, ih⟩
  | numbered hn _ ih =>
    have hfour : 16 ^ 4 < 0x110000 := by decide
    exact List.forall_mem_cons.2 ⟨Nat.lt_trans (Hex.value?_lt hn) hfour, ih⟩

/-- A string literal is read as the grammar says. -/
theorem string?_eq_some_iff {s : JsonString} : string? cs = some (s, rest) ↔ Unquoted cs s rest := by
  have htext {ns : List Nat} (hns : Points cs ns rest) (t : String) :
      (joinPairs? ns).map String.ofList = some t ↔ Encodes ns t.toList := by
    rw [← joinPairs?_eq_some_iff (lt_of_mem_points hns), Option.map_eq_some_iff]
    constructor
    · rintro ⟨cs, hcs, rfl⟩
      rwa [String.toList_ofList]
    · intro h
      exact ⟨_, h, String.ofList_toList⟩
  simp only [string?, Option.bind_eq_bind, Option.bind_eq_some_iff]
  constructor
  · rintro ⟨⟨ns, rest'⟩, hread, he⟩
    cases he
    have hns := points_of_codePoints? hread
    exact ⟨ns, hns, htext hns⟩
  · rintro ⟨ns, hns, hs⟩
    refine ⟨(ns, rest), codePoints?_of_points hns, ?_⟩
    have he : (joinPairs? ns).map String.ofList = s := Option.ext fun t => (htext hns t).trans (hs t).symm
    rw [← he]
    rfl

end Reader

/-! ### What is written -/

/-- A character is written inside a literal as one code point. -/
theorem Grammar.Points.escape {cs rest : List Char} {ns : List Nat} (h : Points cs ns rest) (c : Char) :
    Points (escape c ++ cs) (c.toNat :: ns) rest := by
  unfold Json.escape
  iterate 7
    split
    next heq =>
      subst heq
      exact .escaped (by decide) h
  split
  next hcontrol =>
    have hlt : c.toNat < 32 := UInt32.lt_iff_toNat_lt.1 hcontrol
    have hlength : (Hex.padded 4 c.toNat).length = 4 := Hex.length_padded (by decide) (by omega)
    have hvalue : Hex.value? (Hex.padded 4 c.toNat) = some c.toNat := Hex.value?_padded 4 c.toNat
    match Hex.padded 4 c.toNat, hlength, hvalue with
    | [_, _, _, _], _, hvalue => exact .numbered hvalue h
  next hquote hbackslash _ _ _ _ _ hcontrol => exact .plain hquote hbackslash hcontrol h

theorem encodes_map_toNat (cs : List Char) : Encodes (cs.map Char.toNat) cs := by
  induction cs with
  | nil => exact .nil
  | cons c cs ih => exact .single c ih

theorem points_flatMap_escape (cs rest : List Char) :
    Points (cs.flatMap escape ++ '"' :: rest) (cs.map Char.toNat) rest := by
  induction cs with
  | nil => exact .quote rest
  | cons c cs ih =>
    rw [List.flatMap_cons, List.append_assoc]
    exact ih.escape c

/-- What is written for a string is a literal of the grammar for it. -/
theorem exists_stringChars_eq_cons (s : JsonString) :
    ∃ cs, stringChars s = '"' :: cs ∧ ∀ rest, Unquoted (cs ++ rest) s rest := by
  cases s with
  | none =>
    refine ⟨"\\ud800\"".toList, rfl, fun rest => ⟨[0xD800], .numbered rfl (.quote rest), fun t => ⟨nofun, ?_⟩⟩⟩
    intro h
    cases Reader.joinPairs?_of_encodes h
  | some s =>
    refine ⟨s.toList.flatMap escape ++ ['"'], rfl, fun rest => ⟨s.toList.map Char.toNat, ?_, fun t => ?_⟩⟩
    · rw [List.append_assoc]
      exact points_flatMap_escape s.toList rest
    · have hs := encodes_map_toNat s.toList
      rw [Option.some.injEq, ← String.toList_inj]
      exact ⟨fun h => h ▸ hs, Reader.encodes_unique hs⟩

end Formulary.Json
