import Formulary.Proofs.Calendar.Date
import Formulary.Proofs.Table
import Formulary.Proofs.Template.Grammar
import Formulary.Proofs.Text.Pattern

/-!
# Scanning a template for blanks

A template is scanned from left to right, and where blanks for several names stand, the longest of these names is taken
(`Blank.Scan`).  The names alone decide where the blanks are, and the text is filled piece by piece
(`exists_scan_fill`).  A search for the pattern of the names finds the same blanks: it tries the names from the longest
one on, and a name after which no blank closes is given up for a shorter one (`Blank.head?_ways_pattern`).  The engine
that searches may refuse a pattern, as one that is too large; the text is then left as it is.
-/

namespace Formulary

namespace Blank

variable {name other : String} {names : List String} {inner cs rest : List Char} {pieces : List (Text.Piece String)}

/-- The pieces of a text that is scanned for blanks for some names. -/
inductive Scan (names : List String) : List Char → List (Text.Piece String) → Prop
  | nil : Scan names [] []
  /-- Of the names for which a blank stands there the longest one is taken, and scanning goes on behind the blank. -/
  | blank {name : String} {inner rest : List Char} {pieces : List (Text.Piece String)} (hname : name ∈ names)
      (hinner : Written name inner)
      (hlongest : ∀ other ∈ names, At other (braced inner ++ rest) → other.utf8ByteSize ≤ name.utf8ByteSize)
      (hrest : Scan names rest pieces) : Scan names (braced inner ++ rest) (.token name (braced inner) :: pieces)
  | plain {c : Char} {cs : List Char} {pieces : List (Text.Piece String)} (hnone : ∀ name ∈ names, ¬ At name (c :: cs))
      (hcs : Scan names cs pieces) : Scan names (c :: cs) (.plain c :: pieces)

/-! ### The longest name -/

theorem precedes_trans (a b c : String) (hab : precedes a b = true) (hbc : precedes b c = true) :
    precedes a c = true := by
  simp only [precedes, Bool.or_eq_true, Bool.and_eq_true, decide_eq_true_eq, Bool.not_eq_true', decide_eq_false_iff_not,
    String.not_lt] at hab hbc ⊢
  rcases hab with hab | ⟨hab, hle⟩
  · exact .inl (by omega)
  · rcases hbc with hbc | ⟨hbc, hle'⟩
    · exact .inl (by omega)
    · exact .inr ⟨hab.trans hbc, String.le_trans hle hle'⟩

theorem precedes_total (a b : String) : (precedes a b || precedes b a) = true := by
  simp only [precedes, Bool.or_eq_true, Bool.and_eq_true, decide_eq_true_eq, Bool.not_eq_true', decide_eq_false_iff_not,
    String.not_lt]
  rcases Nat.lt_trichotomy a.utf8ByteSize b.utf8ByteSize with hlt | heq | hlt
  · exact .inr (.inl hlt)
  · rcases String.le_total a b with hle | hle
    · exact .inl (.inr ⟨heq, hle⟩)
    · exact .inr (.inr ⟨heq.symm, hle⟩)
  · exact .inl (.inl hlt)

theorem utf8ByteSize_le_of_precedes (h : precedes name other = true) : other.utf8ByteSize ≤ name.utf8ByteSize := by
  simp only [precedes, Bool.or_eq_true, Bool.and_eq_true, decide_eq_true_eq] at h
  omega

theorem utf8ByteSize_le_of_read? (h : (recogniser names).read? cs = some (name, rest)) (hother : other ∈ names)
    (hat : At other cs) : other.utf8ByteSize ≤ name.utf8ByteSize := by
  obtain ⟨tail, rest', rfl, hafter⟩ := at_iff.1 hat
  obtain ⟨before, found, behind, hsorted, hfound, hbefore⟩ := List.findSome?_eq_some_iff.1 h
  obtain ⟨_, _, he⟩ := Option.map_eq_some_iff.1 hfound
  obtain ⟨rfl, _⟩ := Prod.mk.inj he
  -- the names before the one that is found have no blank here, and those behind it are not longer
  have hpairwise := List.pairwise_mergeSort precedes_trans precedes_total names
  rw [hsorted] at hpairwise
  have hmem : other ∈ names.mergeSort precedes := List.mem_mergeSort.2 hother
  rw [hsorted] at hmem
  rcases List.mem_append.1 hmem with hmem | hmem
  · have hnone := hbefore other hmem
    rw [hafter] at hnone
    cases hnone
  · rcases List.mem_cons.1 hmem with rfl | hmem
    · exact Nat.le_refl _
    · exact utf8ByteSize_le_of_precedes ((List.pairwise_cons.1 (List.pairwise_append.1 hpairwise).2.1).1 other hmem)

theorem eq_of_prefix_of_utf8ByteSize_le (h : name.toList <+: other.toList)
    (hle : other.utf8ByteSize ≤ name.utf8ByteSize) : name = other := by
  obtain ⟨tail, htail⟩ := h
  have hother : other = name ++ String.ofList tail := by
    rw [← String.toList_inj, String.toList_append, String.toList_ofList, htail]
  rw [hother, String.utf8ByteSize_append] at hle
  have hempty : String.ofList tail = "" := String.utf8ByteSize_eq_zero_iff.1 (by omega)
  rw [hother, hempty, String.append_empty]

theorem Written.startsWith (h : Written name inner) : name.toList <+: inner := by
  cases h with
  | bare => exact List.prefix_rfl
  | suffixed _ => exact List.prefix_append _ _

theorem eq_of_utf8ByteSize_eq (h : At name cs) (hother : At other cs) (hsize : name.utf8ByteSize = other.utf8ByteSize) :
    name = other := by
  obtain ⟨inner, rest, hinner, rfl⟩ := h
  obtain ⟨inner', rest', hinner', hcs⟩ := hother
  have hname : name.toList <+: inner ++ '}' :: '}' :: rest := hinner.startsWith.trans (List.prefix_append _ _)
  have hname' : other.toList <+: inner' ++ '}' :: '}' :: rest' := hinner'.startsWith.trans (List.prefix_append _ _)
  rw [← braced_append_eq_iff.1 hcs] at hname'
  rcases List.prefix_or_prefix_of_prefix hname hname' with hle | hle
  · exact eq_of_prefix_of_utf8ByteSize_le hle (by omega)
  · exact (eq_of_prefix_of_utf8ByteSize_le hle (by omega)).symm

theorem Written.rest_unique {inner' rest' : List Char} (h : Written name inner) (h' : Written name inner')
    (hcs : braced inner ++ rest = braced inner' ++ rest') : rest = rest' := by
  have hafter : after? name (inner ++ '}' :: '}' :: rest) = some rest := after?_eq_some_iff.2 ⟨inner, h, rfl⟩
  have hafter' : after? name (inner ++ '}' :: '}' :: rest) = some rest' :=
    after?_eq_some_iff.2 ⟨inner', h', braced_append_eq_iff.1 hcs⟩
  exact Option.some.inj (hafter.symm.trans hafter')

/-- What is read is the blank for the longest name for which one stands there. -/
theorem read?_eq_some_iff_longest : (recogniser names).read? cs = some (name, rest) ↔
    (name ∈ names ∧ ∃ inner, Written name inner ∧ cs = braced inner ++ rest) ∧
      ∀ other ∈ names, At other cs → other.utf8ByteSize ≤ name.utf8ByteSize := by
  constructor
  · intro h
    exact ⟨written_of_recogniser_read? h, fun other => utf8ByteSize_le_of_read? h⟩
  · rintro ⟨⟨hname, inner, hinner, hcs⟩, hlongest⟩
    have hat : At name cs := ⟨inner, rest, hinner, hcs⟩
    cases hread : (recogniser names).read? cs with
    | none => exact absurd hat (recogniser_read?_eq_none_iff.1 hread name hname)
    | some m =>
      obtain ⟨found, rest'⟩ := m
      obtain ⟨hfound, inner', hinner', hcs'⟩ := written_of_recogniser_read? hread
      have hat' : At found cs := ⟨inner', rest', hinner', hcs'⟩
      have hsize : found.utf8ByteSize = name.utf8ByteSize :=
        Nat.le_antisymm (hlongest found hfound hat') (utf8ByteSize_le_of_read? hread hname hat)
      obtain rfl := eq_of_utf8ByteSize_eq hat' hat hsize
      rw [hinner.rest_unique hinner' (hcs.symm.trans hcs')]

example : read? ["nom:client", "nom"] "\x7b\x7bnom:text\x7d\x7d".toList = some ("nom", []) := by decide

/-- There is one way to scan a text, and it is the cut into the blanks that are read. -/
theorem scan_iff : Scan names cs pieces ↔ pieces = Text.cut (recogniser names) cs := by
  constructor
  · intro h
    induction h with
    | nil => rw [Text.cut_nil]
    | @blank name inner rest pieces hname hinner hlongest hrest ih =>
      rw [Text.cut_of_read? (read?_eq_some_iff_longest.2 ⟨⟨hname, inner, hinner, rfl⟩, hlongest⟩), ih]
    | plain hnone hcs ih => rw [Text.cut_of_read?_eq_none (recogniser_read?_eq_none_iff.2 hnone), ih]
  · rintro rfl
    induction cs using (recogniser names).induction with
    | nil =>
      rw [Text.cut_nil]
      exact .nil
    | token name chars rest hread ih =>
      rw [Text.cut_of_read? hread]
      obtain ⟨⟨hname, inner, hinner, hcs⟩, hlongest⟩ := read?_eq_some_iff_longest.1 hread
      obtain rfl := List.append_cancel_right hcs
      exact .blank hname hinner hlongest ih
    | plain c cs hread ih =>
      rw [Text.cut_of_read?_eq_none hread]
      exact .plain (recogniser_read?_eq_none_iff.1 hread) ih

theorem Scan.congr {names' : List String} (hnames : ∀ name, name ∈ names ↔ name ∈ names') (h : Scan names cs pieces) :
    Scan names' cs pieces := by
  induction h with
  | nil => exact .nil
  | blank hname hinner hlongest hrest ih =>
    exact .blank ((hnames _).1 hname) hinner (fun other hother => hlongest other ((hnames other).2 hother)) ih
  | plain hnone hcs ih => exact .plain (fun name hname => hnone name ((hnames name).2 hname)) ih

/-! ### Searching for blanks -/

open Text Pattern

/-- What stands behind the name of a blank: a suffix or none, and the closing braces. -/
def ending : Pattern := both (maybe (both (literal [':']) (run (· ≠ '}')))) (literal ['}', '}'])

/-- The pattern by which the blanks for some names are found. -/
def pattern (names : List String) : Pattern :=
  both (literal ['{', '{']) (both (group (anyOf (names.map fun name => literal name.toList))) ending)

theorem ways_closing (cs : List Char) :
    (literal ['}', '}']).ways cs = ((Placeholder.afterClosing? cs).map (Way.mk [])).toList := by
  unfold Placeholder.afterClosing?
  split
  case h_1 => rfl
  case h_2 h =>
    refine ways_literal_eq_nil ?_
    rintro ⟨tail, htail⟩
    exact h tail htail.symm

/-- The ways to go on behind the name `name`, which is already read. -/
theorem ways_ending (name : String) (cs : List Char) :
    ending.ways cs = ((after? name (name.toList ++ cs)).map (Way.mk [])).toList := by
  unfold after?
  rw [if_pos (List.isPrefixOf_iff_prefix.2 (List.prefix_append _ _)), List.drop_left]
  split
  case h_1 rest =>
    have hclosing (c : Char) (tail : List Char) (hc : c ≠ '}') : (literal ['}', '}']).ways (c :: tail) = [] := by
      refine ways_literal_eq_nil fun h => hc ?_
      obtain ⟨_, htail⟩ := h
      exact (List.cons.inj htail).1.symm
    rw [← ways_closing, ending]
    exact ways_both_maybe_literal_run (fun c tail hc => hclosing c tail (of_decide_eq_true hc))
      (fun tail => hclosing ':' tail (by decide)) rest
  case h_2 h =>
    rw [← ways_closing]
    refine ways_both_maybe_of_ways_eq_nil (ways_both_of_ways_eq_nil (ways_literal_eq_nil ?_) _) _
    rintro ⟨tail, htail⟩
    exact h tail htail.symm

theorem ways_name (name : String) (cs : List Char) :
    (both (group (literal name.toList)) ending).ways cs = ((after? name cs).map (Way.mk [name.toList])).toList := by
  by_cases hname : name.toList <+: cs
  · obtain ⟨tail, rfl⟩ := hname
    have hprefix := List.isPrefixOf_iff_prefix.2 (List.prefix_append name.toList tail)
    rw [ways, ways, ways, if_pos hprefix, List.drop_left, List.map_singleton, List.flatMap_singleton, ways_ending name]
    cases after? name (name.toList ++ tail) with
    | none => rfl
    | some rest => simp
  · have hnone : after? name cs = none := if_neg (mt List.isPrefixOf_iff_prefix.1 hname)
    rw [hnone, ways_both_of_ways_eq_nil]
    · rfl
    · rw [ways, ways_literal_eq_nil hname, List.map_nil]

/-- The first way to find a blank is the one that is read. -/
theorem head?_ways_pattern (names : List String) (cs : List Char) :
    ((pattern names).ways cs).head? = (read? names cs).map fun m => ⟨[m.1.toList], m.2⟩ := by
  unfold read?
  split
  case h_1 cs =>
    have hways : (pattern names).ways ('{' :: '{' :: cs)
        = names.flatMap fun name => ((after? name cs).map (Way.mk [name.toList])).toList := by
      refine (ways_both_literal_append ['{', '{'] cs _).trans ?_
      simp only [← ways_name]
      simp only [ways, ways_anyOf, List.flatMap_map, List.map_flatMap, List.flatMap_assoc]
    rw [hways, List.head?_flatMap, List.map_findSome?]
    congr 1
    funext name
    rw [Option.head?_toList, Function.comp_apply, Option.map_map]
    rfl
  case h_2 h =>
    rw [pattern, ways_both_of_ways_eq_nil]
    · rfl
    · refine ways_literal_eq_nil ?_
      rintro ⟨tail, htail⟩
      exact h tail htail.symm

/-- The pattern for the blanks of a text, with the longest names first. -/
def namesPattern (names : List String) : Pattern := pattern (names.mergeSort precedes)

/-- The search for blanks; names are tried in the order of the pattern. -/
def search (names : List String) : Recogniser (List (List Char)) :=
  (namesPattern names).recogniser (takesSome_both_literal (by decide) _)

theorem search_read? (names : List String) (cs : List Char) :
    (search names).read? cs = ((recogniser names).read? cs).map (Prod.map (fun name => [name.toList]) id) := by
  have h := congrArg (Option.map fun w : Way => (w.groups, w.rest)) (head?_ways_pattern (names.mergeSort precedes) cs)
  rw [Option.map_map] at h
  exact h

end Blank

/-- The text with the blanks that are found in it replaced, each by the value of the name that was found.  It is left as
it is if there are no values, and if the engine that searches does not accept the pattern of their names. -/
def fillBySearch (accepts : Text.Pattern → Bool) (body : String) (values : FormValues) : String :=
  if values.isEmpty then body
  else if accepts (Blank.namesPattern values.keys) then
    String.ofList (Text.replaceAll (Blank.search values.keys) (fun groups chars =>
      match groups with
      | name :: _ => fillPiece values (.token (String.ofList name) chars)
      | [] => chars) body.toList)
  else body

theorem fill_eq_replaceAll (body : String) (values : FormValues) :
    fill body values = String.ofList (Text.replaceAll (Blank.recogniser values.keys)
      (fun name chars => fillPiece values (.token name chars)) body.toList) := by
  rw [fill, Text.replaceAll]
  congr 2
  funext piece
  cases piece <;> rfl

theorem fill_of_isEmpty {values : FormValues} (h : values.isEmpty = true) (body : String) : fill body values = body := by
  have hkeys : values.keys = [] := by
    rw [Table.keys, List.isEmpty_iff.1 h, List.map_nil]
  have htokens : Text.tokens (Blank.recogniser values.keys) body.toList = [] := by
    refine List.eq_nil_iff_forall_not_mem.2 fun m hm => ?_
    obtain ⟨rest, hread⟩ := Text.exists_read?_of_mem_tokens hm
    obtain ⟨hname, _⟩ := Blank.written_of_recogniser_read? hread
    rw [hkeys] at hname
    cases hname
  rw [fill, Text.flatMap_cut_eq_self htokens fun _ => rfl, String.ofList_toList]

theorem fillBySearch_eq (accepts : Text.Pattern → Bool) (body : String) (values : FormValues) :
    fillBySearch accepts body values = if accepts (Blank.namesPattern values.keys) then fill body values else body := by
  unfold fillBySearch
  by_cases hempty : values.isEmpty = true
  · rw [if_pos hempty, fill_of_isEmpty hempty, ite_self]
  · rw [if_neg hempty]
    by_cases haccepts : accepts (Blank.namesPattern values.keys) = true
    · rw [if_pos haccepts, if_pos haccepts, fill_eq_replaceAll]
      refine congrArg String.ofList (Text.replaceAll_congr (Blank.search_read? values.keys) ?_ body.toList)
      intro name chars
      dsimp only
      rw [String.ofList_toList]
    · rw [if_neg haccepts, if_neg haccepts]

/-! ### What a scanned text becomes -/

/-- What stands for a piece: a character for itself, and for a blank the value of its name, a date in wire form written
in full. -/
inductive StandsFor (values : FormValues) : Text.Piece String → List Char → Prop
  | plain (c : Char) : StandsFor values (.plain c) [c]
  | date {name value : String} {chars : List Char} {d : Date} (hvalue : values.get? name = some value)
      (hyear : 0 ≤ d.year ∧ d.year ≤ 9999) (hdate : d.iso = value) :
      StandsFor values (.token name chars) (French.fullDate d).toList
  | text {name value : String} {chars : List Char} (hvalue : values.get? name = some value)
      (hdate : ∀ d : Date, 0 ≤ d.year ∧ d.year ≤ 9999 → d.iso ≠ value) :
      StandsFor values (.token name chars) value.toList

theorem standsFor_fillPiece {values : FormValues} {name value : String} (h : values.get? name = some value)
    (chars : List Char) : StandsFor values (.token name chars) (fillPiece values (.token name chars)) := by
  simp only [fillPiece, h, French.display]
  cases hdate : Date.ofIso? value with
  | some d =>
    obtain ⟨hyear, hiso⟩ := Date.ofIso?_eq_some_iff.1 hdate
    exact .date h hyear hiso
  | none =>
    refine .text h fun d hyear hiso => ?_
    rw [Date.ofIso?_eq_some_iff.2 ⟨hyear, hiso⟩] at hdate
    cases hdate

theorem Blank.Scan.standsFor {values : FormValues} {names : List String} {cs : List Char}
    {pieces : List (Text.Piece String)} (hnames : ∀ name ∈ names, name ∈ values.keys) (h : Scan names cs pieces) :
    List.Forall₂ (StandsFor values) pieces (pieces.map (fillPiece values)) := by
  induction h with
  | nil => exact .nil
  | blank hname hinner hlongest hrest ih =>
    obtain ⟨value, hvalue⟩ := Table.mem_keys_iff.1 (hnames _ hname)
    exact .cons (standsFor_fillPiece hvalue _) ih
  | plain hnone hcs ih => exact .cons (.plain _) ih

/-- The names decide into which pieces a text is scanned, and whatever values they have, the text is filled with what
stands for its pieces.  A search does the same with every pattern that its engine accepts. -/
theorem exists_scan_fill (names : List String) (body : String) :
    ∃ pieces, Blank.Scan names body.toList pieces ∧ (∀ others, Blank.Scan names body.toList others → others = pieces) ∧
      ∀ values : FormValues, (∀ key, key ∈ values.keys ↔ key ∈ names) →
        (∀ accepts : Text.Pattern → Bool, fillBySearch accepts body values =
          if accepts (Blank.namesPattern values.keys) then fill body values else body) ∧
          ∃ texts, List.Forall₂ (StandsFor values) pieces texts ∧ fill body values = String.ofList texts.flatten := by
  have hscan : Blank.Scan names body.toList (Text.cut (Blank.recogniser names) body.toList) := Blank.scan_iff.2 rfl
  refine ⟨_, hscan, fun others => Blank.scan_iff.1, fun values hkeys => ⟨?_, ?_⟩⟩
  · intro accepts
    exact fillBySearch_eq accepts body values
  refine ⟨_, hscan.standsFor fun name hname => (hkeys name).2 hname, ?_⟩
  have hcut := Blank.scan_iff.1 (hscan.congr fun name => (hkeys name).symm)
  rw [hcut, fill]
  rfl

end Formulary
