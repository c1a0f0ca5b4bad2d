import Formulary.Proofs.Form.Judgement
import Formulary.Proofs.Template.Form

/-!
# Where a template is filled

The form of a text comes from its placeholders, and the text is filled where it has blanks for the accepted values.
These are two ways to cut the text, and they agree on the placeholders of accepted values (`fill_accepted`).  They
differ in two respects.  A placeholder whose value is rejected is no blank: what stands in it is searched for blanks,
and a placeholder that starts inside and closes with it is filled.  And a blank may have an empty suffix, which a
placeholder may not.
-/

namespace Formulary

namespace Placeholder

/-- The placeholders with one of some names as tokens of a text. -/
def recogniserOf (names : List String) : Text.Recogniser Placeholder where
  read? cs := (read? cs).filter (fun m => decide (String.ofList m.1.name ∈ names))
  take h := take_read? (Option.filter_eq_some_iff.1 h).1

/-- The text that stands in place of a piece, where a placeholder without a value is copied in some way. -/
def substitute (values : FormValues) (copy : List Char → List Char) : Text.Piece Placeholder → List Char
  | .plain c => [c]
  | .token p chars =>
    match values.get? (String.ofList p.name) with
    | some value => (French.display value).toList
    | none => copy chars

/-- The text with the placeholders that have a value replaced, and all else as it is. -/
def substituteKnown (values : FormValues) (cs : List Char) : List Char :=
  (Text.cut (recogniserOf values.keys) cs).flatMap (substitute values id)

/-- The text, cut into its placeholders, with those that have a value replaced and the others copied in some way. -/
def substituteAll (values : FormValues) (copy : List Char → List Char) (body : String) : String :=
  String.ofList ((Text.cut recogniser body.toList).flatMap (substitute values copy))

/-- Outside the placeholders with some names, none of the names stands between braces with an empty suffix. -/
def NoEmptySuffix (names : List String) (cs : List Char) : Prop :=
  ∀ name ∈ names,
    ¬ (braced (name.toList ++ [':'])).map Text.Piece.plain <:+: Text.cut (recogniserOf names) cs

instance (names : List String) (cs : List Char) : Decidable (NoEmptySuffix names cs) :=
  inferInstanceAs (Decidable (∀ name ∈ names, ¬ _))

variable {names : List String} {values : FormValues} {p : Placeholder} {inner cs rest : List Char}

theorem recogniserOf_read?_eq_some_iff :
    (recogniserOf names).read? cs = some (p, rest) ↔
      String.ofList p.name ∈ names ∧ ∃ inner, Written p inner ∧ cs = braced inner ++ rest := by
  rw [recogniserOf, Option.filter_eq_some_iff, read?_eq_some_iff, decide_eq_true_iff, and_comm]

theorem recogniserOf_read?_eq_none_of_head (c : Char) (hc : c ≠ '{') (cs : List Char) :
    (recogniserOf names).read? (c :: cs) = none := by
  cases hread : (recogniserOf names).read? (c :: cs) with
  | none => rfl
  | some m =>
    obtain ⟨_, inner, _, he⟩ := recogniserOf_read?_eq_some_iff.1 hread
    exact absurd (List.cons.inj he).1 hc

@[simp] theorem substituteKnown_nil (values : FormValues) : substituteKnown values [] = [] := by
  rw [substituteKnown, Text.cut_nil, List.flatMap_nil]

theorem substituteKnown_of_read? {chars : List Char}
    (h : (recogniserOf values.keys).read? (chars ++ rest) = some (p, rest)) :
    substituteKnown values (chars ++ rest) =
      substitute values id (.token p chars) ++ substituteKnown values rest := by
  rw [substituteKnown, Text.cut_of_read? h, List.flatMap_cons]
  rfl

theorem substituteKnown_of_read?_eq_none {c : Char} (h : (recogniserOf values.keys).read? (c :: cs) = none) :
    substituteKnown values (c :: cs) = c :: substituteKnown values cs := by
  rw [substituteKnown, Text.cut_of_read?_eq_none h, List.flatMap_cons]
  rfl

/-! ### Rejected placeholders

No placeholder reaches over the closing braces of another one, so that the text after a placeholder that is no token is
cut as if it stood alone. -/

theorem cut_append_closing (names : List String) (hbrace : '}' ∉ cs) (rest : List Char) :
    Text.cut (recogniserOf names) (cs ++ '}' :: '}' :: rest) =
      Text.cut (recogniserOf names) (cs ++ ['}', '}']) ++ Text.cut (recogniserOf names) rest := by
  induction cs with
  | nil =>
    have hclosing (tail : List Char) : (recogniserOf names).read? ('}' :: tail) = none :=
      recogniserOf_read?_eq_none_of_head '}' (by decide) tail
    simp only [List.nil_append, Text.cut_of_read?_eq_none (hclosing _), Text.cut_nil, List.cons_append]
  | cons c cs ih =>
    -- A placeholder that starts here closes with the braces, whatever follows them.
    have hread (tail : List Char) (p : Placeholder) (rest : List Char)
        (h : (recogniserOf names).read? (c :: cs ++ '}' :: '}' :: tail) = some (p, rest)) :
        rest = tail ∧ ∀ tail', (recogniserOf names).read? (c :: cs ++ ['}', '}'] ++ tail') = some (p, tail') := by
      obtain ⟨hname, inner, hinner, he⟩ := recogniserOf_read?_eq_some_iff.1 h
      have hopen : '}' ∉ '{' :: '{' :: inner := by simp [hinner.not_mem]
      have he' : '{' :: '{' :: inner ++ '}' :: '}' :: rest = c :: cs ++ '}' :: '}' :: tail := by
        rw [he, braced_append]
        rfl
      obtain ⟨hcs, hrest⟩ := append_closing_inj hopen hbrace he'
      refine ⟨(List.cons.inj hrest).2, fun tail' => recogniserOf_read?_eq_some_iff.2 ⟨hname, inner, hinner, ?_⟩⟩
      rw [← hcs]
      rfl
    cases h : (recogniserOf names).read? (c :: cs ++ '}' :: '}' :: rest) with
    | some m =>
      obtain ⟨p, rest'⟩ := m
      obtain ⟨rfl, hread'⟩ := hread rest p rest' h
      have hwhole := Text.cut_of_read? (hread' rest')
      have halone := Text.cut_of_read? (hread' [])
      rw [List.append_assoc] at hwhole
      rw [List.append_nil, Text.cut_nil] at halone
      rw [halone]
      exact hwhole
    | none =>
      have halone : (recogniserOf names).read? (c :: cs ++ ['}', '}']) = none := by
        by_contra hsome
        obtain ⟨⟨p, rest'⟩, hp⟩ := Option.ne_none_iff_exists'.1 hsome
        obtain ⟨_, hread'⟩ := hread [] p rest' hp
        have hrest := hread' rest
        rw [List.append_assoc] at hrest
        cases h.symm.trans hrest
      rw [List.cons_append] at h halone ⊢
      rw [Text.cut_of_read?_eq_none h, List.cons_append, Text.cut_of_read?_eq_none halone,
        ih fun hm => hbrace (List.mem_cons_of_mem _ hm)]
      rfl

theorem substituteKnown_braced_append (hinner : Written p inner) (rest : List Char) :
    substituteKnown values (braced inner ++ rest) =
      substituteKnown values (braced inner) ++ substituteKnown values rest := by
  have hopen : '}' ∉ '{' :: '{' :: inner := by simp [hinner.not_mem]
  have hcut := cut_append_closing values.keys hopen rest
  rw [substituteKnown, substituteKnown, substituteKnown, ← List.flatMap_append]
  exact congrArg _ (braced_append inner rest ▸ hcut)

/-- Cut into all its placeholders, a text is filled as it is cut into those with a value, if this is also how the
others are copied. -/
theorem flatMap_substitute_cut (values : FormValues) (cs : List Char) :
    (Text.cut recogniser cs).flatMap (substitute values (substituteKnown values)) = substituteKnown values cs := by
  induction cs using recogniser.induction with
  | nil => rw [Text.cut_nil, List.flatMap_nil, substituteKnown_nil]
  | token p chars rest hread ih =>
    obtain ⟨inner, hinner, he⟩ := read?_eq_some_iff.1 hread
    obtain rfl : chars = braced inner := List.append_cancel_right he
    rw [Text.cut_of_read? hread, List.flatMap_cons, ih]
    cases hget : values.get? (String.ofList p.name) with
    | some value =>
      have hmem : String.ofList p.name ∈ values.keys := Table.mem_keys_iff.2 ⟨value, hget⟩
      have hread' := recogniserOf_read?_eq_some_iff.2 ⟨hmem, inner, hinner, he⟩
      rw [substituteKnown_of_read? hread']
      simp only [substitute, hget]
    | none =>
      rw [substituteKnown_braced_append hinner]
      simp only [substitute, hget]
  | plain c cs hread ih =>
    have hread' : (recogniserOf values.keys).read? (c :: cs) = none := by
      show (recogniser.read? (c :: cs)).filter _ = none
      rw [hread, Option.filter_none]
    rw [Text.cut_of_read?_eq_none hread, List.flatMap_cons, ih, substituteKnown_of_read?_eq_none hread']
    rfl

/-! ### Blanks and placeholders -/

theorem NoEmptySuffix.of_cut_cons {cs' : List Char} {piece : Text.Piece Placeholder} (h : NoEmptySuffix names cs)
    (hcut : Text.cut (recogniserOf names) cs = piece :: Text.cut (recogniserOf names) cs') :
    NoEmptySuffix names cs' := by
  intro name hname hinfix
  apply h name hname
  rw [hcut]
  exact List.infix_cons hinfix

theorem not_written_empty_suffix {name : List Char} (hname : IsWord name) : ¬ Written p (name ++ [':']) := by
  generalize he : name ++ [':'] = inner
  intro h
  cases h with
  | bare hword =>
    have hcolon : ':' ∉ inner := hword.not_mem (by decide)
    exact hcolon (he ▸ List.mem_append_right name (List.mem_singleton.2 rfl))
  | @suffixed word suffix hword hsuffix hbrace =>
    have hsame : name = word := by
      rw [← hname.takeWhile_append (c := ':') (by decide) [], he, hword.takeWhile_append (by decide)]
    subst hsame
    exact hsuffix (List.cons.inj (List.append_cancel_left he)).2.symm

/-- A name between braces with an empty suffix is no placeholder, and none starts inside. -/
theorem cut_empty_suffix (names : List String) {name : List Char} (hname : IsWord name) (rest : List Char) :
    Text.cut (recogniserOf names) (braced (name ++ [':']) ++ rest) =
      (braced (name ++ [':'])).map .plain ++ Text.cut (recogniserOf names) rest := by
  have hopen : '{' ∉ name := hname.not_mem (by decide)
  have hclose : '}' ∉ name := hname.not_mem (by decide)
  apply Text.cut_append_of_read?_eq_none
  intro v hv hne
  by_contra hsome
  obtain ⟨⟨p, rest'⟩, hp⟩ := Option.ne_none_iff_exists'.1 hsome
  obtain ⟨_, inner, hinner, he⟩ := recogniserOf_read?_eq_some_iff.1 hp
  -- The two opening braces stand at the start and nowhere else.
  rcases List.suffix_cons_iff.1 hv with rfl | hv
  · obtain ⟨rfl, _⟩ := braced_append_inj (by simp [hclose]) hinner.not_mem he
    exact not_written_empty_suffix hname hinner
  rcases List.suffix_cons_iff.1 hv with rfl | hv
  · obtain ⟨c, name, rfl⟩ := List.exists_cons_of_ne_nil hname.ne_nil
    have hc : c = '{' := (List.cons.inj (List.cons.inj he).2).1
    exact hopen (hc ▸ List.mem_cons_self)
  · obtain ⟨c, v, rfl⟩ := List.exists_cons_of_ne_nil hne
    have hc : c = '{' := (List.cons.inj he).1
    have hmem : '{' ∈ name ++ [':'] ++ ['}', '}'] := hv.subset (hc ▸ List.mem_cons_self)
    simp [hopen] at hmem

/-- A text is filled at its placeholders with a value, if no blank in it has an empty suffix. -/
theorem fill_eq_substituteKnown (hwords : ∀ name ∈ values.keys, IsWord name.toList)
    (h : NoEmptySuffix values.keys cs) :
    (Text.cut (Blank.recogniser values.keys) cs).flatMap (fillPiece values) = substituteKnown values cs := by
  induction cs using (Blank.recogniser values.keys).induction with
  | nil => rw [Text.cut_nil, List.flatMap_nil, substituteKnown_nil]
  | token name chars rest hread ih =>
    obtain ⟨hmem, inner, hinner, he⟩ := (Blank.recogniser_read?_eq_some_iff hwords).1 hread
    obtain rfl : chars = braced inner := List.append_cancel_right he
    -- A blank is the placeholder with its name, or its suffix is empty and the text has it as plain characters.
    rcases hinner.placeholder (hwords name hmem) with ⟨p, hp, hname⟩ | rfl
    · obtain ⟨value, hget⟩ := Table.mem_keys_iff.1 hmem
      have hname' : String.ofList p.name = name := by rw [hname, String.ofList_toList]
      have hread' : (recogniserOf values.keys).read? (braced inner ++ rest) = some (p, rest) :=
        recogniserOf_read?_eq_some_iff.2 ⟨hname' ▸ hmem, inner, hp, rfl⟩
      rw [Text.cut_of_read? hread, List.flatMap_cons, ih (h.of_cut_cons (Text.cut_of_read? hread')),
        substituteKnown_of_read? hread']
      simp only [fillPiece, substitute, hname', hget]
    · have hcut := cut_empty_suffix values.keys (hwords name hmem) rest
      exact absurd ⟨[], _, hcut.symm⟩ (h name hmem)
  | plain c cs hread ih =>
    have hread' : (recogniserOf values.keys).read? (c :: cs) = none := by
      by_contra hsome
      obtain ⟨⟨p, rest⟩, hp⟩ := Option.ne_none_iff_exists'.1 hsome
      obtain ⟨hmem, inner, hinner, he⟩ := recogniserOf_read?_eq_some_iff.1 hp
      have hblank := Blank.written_of_placeholder hinner (String.toList_ofList).symm
      have hread' := (Blank.recogniser_read?_eq_some_iff hwords).2 ⟨hmem, inner, hblank, he⟩
      cases hread.symm.trans hread'
    rw [Text.cut_of_read?_eq_none hread, List.flatMap_cons, ih (h.of_cut_cons (Text.cut_of_read?_eq_none hread')),
      substituteKnown_of_read?_eq_none hread']
    rfl

/-- Where a placeholder without a value has none with a value inside, it is copied as it is. -/
theorem substituteAll_substituteKnown {body : String}
    (h : ∀ m ∈ all body, String.ofList m.1.name ∉ values.keys → Text.tokens (recogniserOf values.keys) m.2 = []) :
    substituteAll values (substituteKnown values) body = substituteAll values id body := by
  unfold substituteAll
  congr 1
  refine List.flatMap_congr fun piece hpiece => ?_
  cases piece with
  | plain c => rfl
  | token p chars =>
    cases hget : values.get? (String.ofList p.name) with
    | some value => simp only [substitute, hget]
    | none =>
      have hmem : (p, chars) ∈ all body := List.mem_filterMap.2 ⟨_, hpiece, rfl⟩
      have htokens := h (p, chars) hmem (Table.get?_eq_none_iff.1 hget)
      simp only [substitute, hget, id_eq]
      exact Text.flatMap_cut_eq_self htokens fun _ => rfl

end Placeholder

/-- The values that are accepted for the form of a text. -/
def Settings.accepted (s : Settings) (body : String) (values : FormValues) : FormValues :=
  (Report.ofValues s (formOf s.rules body) values).data

theorem Settings.isWord_of_mem_accepted {s : Settings} {body : String} {values : FormValues} :
    ∀ name ∈ (s.accepted body values).keys, IsWord name.toList := by
  intro name hname
  obtain ⟨v, hv, rfl⟩ := Report.exists_of_mem_keys_data hname
  exact isWord_of_mem_formOf hv

/-- The accepted values fill a text at its placeholders and nowhere else, whatever the settings and the values: each
placeholder of an accepted value is replaced, each rejected one is copied with the accepted ones that start inside
replaced, and everything else is copied as it is.  Empty suffixes are left out of account. -/
theorem fill_accepted (s : Settings) (body : String) (values : FormValues)
    (h : Placeholder.NoEmptySuffix (s.accepted body values).keys body.toList) :
    fill body (s.accepted body values) =
        Placeholder.substituteAll (s.accepted body values) (Placeholder.substituteKnown (s.accepted body values)) body ∧
      ((∀ m ∈ Placeholder.all body, String.ofList m.1.name ∉ (s.accepted body values).keys →
          Text.tokens (Placeholder.recogniserOf (s.accepted body values).keys) m.2 = []) →
        fill body (s.accepted body values) = Placeholder.substituteAll (s.accepted body values) id body) := by
  have hfill : fill body (s.accepted body values) = Placeholder.substituteAll (s.accepted body values)
      (Placeholder.substituteKnown (s.accepted body values)) body := by
    rw [fill, Placeholder.fill_eq_substituteKnown Settings.isWord_of_mem_accepted h, Placeholder.substituteAll,
      Placeholder.flatMap_substitute_cut]
  exact ⟨hfill, fun hnested => hfill.trans (Placeholder.substituteAll_substituteKnown hnested)⟩

/-- A lease with a date, and with a rejected placeholder that closes with the braces of an accepted one. -/
theorem fill_accepted_lease :
    let body := "Bail de {{preneur:text}}, \x7b\x7bobjet:{{preneur}}, le {{date_debut}}"
    let values := Table.ofList [("preneur", "SCI Horizon"), ("date_debut", "2025-01-15")]
    let data := Settings.standard.accepted body values
    Placeholder.NoEmptySuffix data.keys body.toList ∧
      fill body data = "Bail de SCI Horizon, \x7b\x7bobjet:SCI Horizon, le 15 janvier 2025" := by
  intro body values data
  have h : Placeholder.NoEmptySuffix data.keys body.toList := by decide +kernel
  exact ⟨h, (fill_accepted .standard body values h).1.trans (by decide +kernel)⟩

/-- A rejected placeholder is not always copied as it is. -/
theorem not_fill_accepted_verbatim :
    ¬ ∀ (s : Settings) (body : String) (values : FormValues),
      fill body (s.accepted body values) = Placeholder.substituteAll (s.accepted body values) id body := by
  intro h
  have heq := h .standard "{{a}}\x7b\x7bx:{{a}}" (Table.ofList [("a", "1")])
  exact absurd heq (by decide +kernel)

end Formulary
