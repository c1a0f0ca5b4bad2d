import Formulary.Proofs.Template.Form
import Formulary.Proofs.Text.Split
import Formulary.Text.Pieces

/-!
# First placeholders

The form of a template has one variable for each name among its placeholders, in the order in which the names come up, and
the first placeholder with a name alone decides on type and options (`formOf_eq_collect`).  So what a later placeholder
with the name says of type and options makes no difference: no placeholder reaches over the braces of another one, so that
the text around a placeholder is cut as before when its inside is changed (`Placeholder.cut_change`).
-/

namespace Formulary

/-! ### What a placeholder says of its variable -/

/-- The first rule whose keyword is a part of the name gives the type, and if there is none the type is text. -/
inductive TypedBy : List TypingRule → String → VariableType → Prop
  | first {before after : List TypingRule} {r : TypingRule} {name : String} (hr : r.keyword.toList <:+: name.toList)
      (hbefore : ∀ s ∈ before, ¬ s.keyword.toList <:+: name.toList) : TypedBy (before ++ r :: after) name r.kind
  | none {rules : List TypingRule} {name : String} (hnone : ∀ s ∈ rules, ¬ s.keyword.toList <:+: name.toList) :
      TypedBy rules name .text

/-- The options in a text: what stands between its commas, without white space at the ends. -/
def Lists (raw : List Char) (options : List String) : Prop :=
  ∃ parts : List (List Char), parts ≠ [] ∧ (∀ part ∈ parts, ',' ∉ part) ∧ [','].intercalate parts = raw ∧
    options = parts.map fun part => Text.trim (String.ofList part)

namespace Placeholder

/-- The name of a placeholder as a text. -/
def nameText (p : Placeholder) : String := String.ofList p.name

/-- What a placeholder says of a variable. -/
structure Describes (rules : List TypingRule) (p : Placeholder) (v : Variable) : Prop where
  name : v.name = p.nameText
  label : v.label = labelOf v.name
  required : v.required = true
  explicit : ∀ word, p.kind = some word → v.kind = VariableType.ofName (String.ofList word)
  inferred : p.kind = none → TypedBy rules v.name v.kind
  choice : ∀ raw, v.kind = .select → p.options = some raw → Lists raw v.options
  noOptions : v.kind ≠ .select ∨ p.options = none → v.options = []

end Placeholder

/-- The first placeholders with their names, among some placeholders, describe the variables of a form. -/
structure FirstsDescribe (rules : List TypingRule) (found : List Placeholder) (form : List Variable) : Prop where
  nodup : (form.map Variable.name).Nodup
  mem_names_iff : ∀ name, name ∈ form.map Variable.name ↔ name ∈ found.map Placeholder.nameText
  inOrder : (form.map Variable.name).Pairwise fun a b =>
    (found.map Placeholder.nameText).idxOf a < (found.map Placeholder.nameText).idxOf b
  described : ∀ v ∈ form, ∃ before p after, found = before ++ p :: after ∧
    (∀ q ∈ before, q.nameText ≠ p.nameText) ∧ p.Describes rules v

/-- A pass through some placeholders that leaves out those whose names it has seen. -/
def collect (rules : List TypingRule) : List String → List Placeholder → List Variable
  | _, [] => []
  | seen, p :: ps =>
    if p.nameText ∈ seen then collect rules seen ps
    else p.toVariable rules :: collect rules (p.nameText :: seen) ps

variable {rules : List TypingRule} {vs : List Variable} {v : Variable} {p : Placeholder} {found : List Placeholder}
  {seen : List String}

theorem typedBy_typeByRules (rules : List TypingRule) (name : String) : TypedBy rules name (typeByRules rules name) := by
  have hiff (r : TypingRule) : Text.contains name r.keyword = true ↔ r.keyword.toList <:+: name.toList :=
    Text.occursIn_iff
  unfold typeByRules
  split
  · rename_i r hr
    obtain ⟨hkeyword, before, after, rfl, hbefore⟩ := List.find?_eq_some_iff_append.1 hr
    refine .first ((hiff r).1 hkeyword) fun s hs hkeyword' => ?_
    have hnot := hbefore s hs
    rw [(hiff s).2 hkeyword'] at hnot
    cases hnot
  · rename_i hnone
    exact .none fun s hs hkeyword => List.find?_eq_none.1 hnone s hs ((hiff s).2 hkeyword)

theorem lists_splitOptions (raw : List Char) : Lists raw (Placeholder.splitOptions raw) := by
  refine ⟨Text.split ',' raw, Text.split_ne_nil ',' raw, fun part hpart => Text.not_mem_of_mem_split hpart,
    Text.join_split ',' raw, ?_⟩
  simp only [Placeholder.splitOptions, Text.trim, String.toList_ofList]

theorem Placeholder.describes_toVariable (rules : List TypingRule) (p : Placeholder) :
    p.Describes rules (p.toVariable rules) where
  name := rfl
  label := rfl
  required := rfl
  explicit word h := by simp only [toVariable, h]
  inferred h := by
    simp only [toVariable, h]
    exact typedBy_typeByRules rules _
  choice raw hkind hoptions := by
    have h : (p.toVariable rules).options = splitOptions raw := by
      simp only [toVariable] at hkind ⊢
      rw [hkind, hoptions]
    rw [h]
    exact lists_splitOptions raw
  noOptions h := by
    simp only [toVariable] at h ⊢
    split
    · rename_i hkind hoptions
      rcases h with h | h
      · exact absurd hkind h
      · rw [hoptions] at h
        cases h
    · rfl

/-! ### The first variables by name -/

theorem mem_firstByName_iff :
    v ∈ firstByName vs ↔ ∃ before after, vs = before ++ v :: after ∧ ∀ w ∈ before, w.name ≠ v.name := by
  induction vs with
  | nil => simp [firstByName]
  | cons w vs ih =>
    rw [firstByName, List.mem_cons, List.mem_filter, ih]
    constructor
    · rintro (rfl | ⟨⟨before, after, rfl, hbefore⟩, hne⟩)
      · exact ⟨[], vs, rfl, by simp⟩
      · exact ⟨w :: before, after, rfl, List.forall_mem_cons.2 ⟨Ne.symm (of_decide_eq_true hne), hbefore⟩⟩
    · rintro ⟨before, after, he, hbefore⟩
      cases before with
      | nil => exact .inl (List.cons.inj he).1.symm
      | cons u before =>
        obtain ⟨rfl, rfl⟩ := List.cons.inj he
        obtain ⟨hne, hbefore⟩ := List.forall_mem_cons.1 hbefore
        exact .inr ⟨⟨before, after, rfl, hbefore⟩, decide_eq_true hne.symm⟩

theorem mem_names_firstByName_iff {name : String} :
    name ∈ (firstByName vs).map Variable.name ↔ name ∈ vs.map Variable.name := by
  constructor
  · intro h
    obtain ⟨v, hv, rfl⟩ := List.mem_map.1 h
    exact List.mem_map_of_mem (mem_of_mem_firstByName hv)
  · intro h
    induction vs with
    | nil => cases h
    | cons w vs ih =>
      rw [firstByName, List.map_cons, List.mem_cons]
      by_cases hname : name = w.name
      · exact .inl hname
      · rw [List.map_cons, List.mem_cons] at h
        obtain ⟨v, hv, rfl⟩ := List.mem_map.1 (ih (h.resolve_left hname))
        exact .inr (List.mem_map_of_mem (List.mem_filter.2 ⟨hv, decide_eq_true hname⟩))

/-- The first variables by name stand in the order in which their names come up. -/
theorem pairwise_idxOf_firstByName (vs : List Variable) :
    (firstByName vs).Pairwise fun v w =>
      (vs.map Variable.name).idxOf v.name < (vs.map Variable.name).idxOf w.name := by
  induction vs with
  | nil => exact .nil
  | cons u vs ih =>
    have hne : ∀ w ∈ (firstByName vs).filter (fun w => w.name ≠ u.name), w.name ≠ u.name :=
      fun w hw => of_decide_eq_true (List.mem_filter.1 hw).2
    rw [firstByName, List.pairwise_cons]
    constructor
    · intro w hw
      rw [List.map_cons, List.idxOf_cons_self, List.idxOf_cons_ne _ (hne w hw).symm]
      exact Nat.succ_pos _
    · refine (ih.filter _).imp_of_mem fun {v w} hv hw hlt => ?_
      rw [List.map_cons, List.idxOf_cons_ne _ (hne v hv).symm, List.idxOf_cons_ne _ (hne w hw).symm]
      exact Nat.succ_lt_succ hlt

/-- The pass makes the first variables by name, without those whose names it has seen. -/
theorem collect_eq_filter (rules : List TypingRule) (seen : List String) (found : List Placeholder) :
    collect rules seen found = (firstByName (found.map (·.toVariable rules))).filter (fun v => v.name ∉ seen) := by
  induction found generalizing seen with
  | nil => rfl
  | cons p found ih =>
    have hname : (p.toVariable rules).name = p.nameText := rfl
    rw [collect, List.map_cons, firstByName]
    by_cases hseen : p.nameText ∈ seen
    · rw [if_pos hseen, ih, List.filter_cons_of_neg (by simp [hname, hseen]), List.filter_filter]
      refine List.filter_congr fun v _ => ?_
      by_cases hv : v.name = p.nameText
      · simp [hname, hv, hseen]
      · simp [hname, hv]
    · rw [if_neg hseen, ih, List.filter_cons_of_pos (by simp [hname, hseen]), List.filter_filter]
      refine congrArg _ (List.filter_congr fun v _ => ?_)
      simp [hname, and_comm]

theorem formOf_eq_collect (rules : List TypingRule) (body : String) :
    formOf rules body = collect rules [] ((Placeholder.all body).map Prod.fst) := by
  rw [collect_eq_filter, formOf, List.map_map, List.filter_eq_self.2 (by simp)]
  rfl

theorem firstsDescribe_formOf (rules : List TypingRule) (body : String) :
    FirstsDescribe rules ((Placeholder.all body).map Prod.fst) (formOf rules body) where
  nodup := nodup_formOf rules body
  mem_names_iff name := by
    rw [formOf, mem_names_firstByName_iff, List.map_map, List.map_map]
    rfl
  inOrder := by
    have h := pairwise_idxOf_firstByName ((Placeholder.all body).map fun p => p.1.toVariable rules)
    rw [List.map_map] at h
    rw [List.pairwise_map, List.map_map]
    exact h
  described v hv := by
    obtain ⟨before, after, hsplit, hbefore⟩ := mem_firstByName_iff.1 hv
    obtain ⟨ps, qs, hfound, rfl, hps⟩ := List.map_eq_append_iff.1 hsplit
    obtain ⟨m, rest, rfl, rfl, hrest⟩ := List.map_eq_cons_iff.1 hps
    refine ⟨ps.map Prod.fst, m.1, rest.map Prod.fst, by rw [hfound]; simp, ?_, m.1.describes_toVariable rules⟩
    intro q hq
    obtain ⟨n, hn, rfl⟩ := List.mem_map.1 hq
    exact hbefore _ (List.mem_map_of_mem hn)

/-! ### Changing a later placeholder -/

namespace Placeholder

open Text

variable {q : Placeholder} {inner inner' whole before cs rest tail tail' chars : List Char} {c : Char}

/-- A placeholder with a brace inside stays one when the text behind that brace is changed. -/
theorem Written.exists_of_brace (before : List Char) (h : Written p (before ++ '{' :: tail)) (htail : '}' ∉ tail') :
    ∃ q, Written q (before ++ '{' :: tail') := by
  generalize he : before ++ '{' :: tail = inner at h
  cases h with
  | bare hname =>
    have hmem : '{' ∈ inner := he ▸ List.mem_append_right before List.mem_cons_self
    exact absurd hmem (hname.not_mem (by decide))
  | @suffixed name suffix hname hsuffix hbrace =>
    have hopen : '{' ∉ name := hname.not_mem (by decide)
    -- the brace stands behind the colon: it is not in the name, and it is not the colon
    rcases List.append_eq_append_iff.1 he with ⟨back, hback, htail'⟩ | ⟨back, hback, hsuffix'⟩
    · cases back with
      | nil => exact absurd (List.cons.inj htail').1 (by decide)
      | cons d back =>
        obtain ⟨rfl, _⟩ := List.cons.inj htail'
        exact absurd (hback ▸ List.mem_append_right before List.mem_cons_self) hopen
    · cases back with
      | nil => exact absurd (List.cons.inj hsuffix').1 (by decide)
      | cons d back =>
        obtain ⟨rfl, rfl⟩ := List.cons.inj hsuffix'
        have hclose : '}' ∉ back := fun hmem => hbrace (List.mem_append_left _ hmem)
        have hwritten := Written.suffixed hname (List.append_ne_nil_of_right_ne_nil back (List.cons_ne_nil '{' tail'))
          (show '}' ∉ back ++ '{' :: tail' by simp [hclose, htail])
        rw [hback, List.append_assoc, List.cons_append]
        exact ⟨_, hwritten⟩

/-- What starts before a placeholder closes before it, or else with it. -/
theorem closes_before_or_with {rest' : List Char} (hwhole : '}' ∉ whole) (hinner : '}' ∉ inner)
    (h : before ++ (braced inner ++ rest) = braced whole ++ rest') :
    (∃ gap, before = braced whole ++ gap) ∨ '{' :: '{' :: whole = before ++ '{' :: '{' :: inner := by
  have hopen : '}' ∉ '{' :: '{' :: whole := by simp [hwhole]
  have hclosed : '{' :: '{' :: whole ++ '}' :: '}' :: rest' = before ++ (braced inner ++ rest) := by
    rw [h, braced_append]
    rfl
  by_cases hbefore : '}' ∈ before
  · obtain ⟨a, b, rfl, ha⟩ := List.eq_append_cons_of_mem hbefore
    rw [List.append_assoc, List.cons_append] at hclosed
    obtain ⟨rfl, hb⟩ := append_closing_inj hopen ha hclosed
    -- the second closing brace is not the first brace of what follows
    cases b with
    | nil => exact absurd (List.cons.inj hb).1 (by decide)
    | cons d gap =>
      obtain ⟨rfl, _⟩ := List.cons.inj hb
      exact .inl ⟨gap, by simp [braced]⟩
  · rw [braced_append, ← List.cons_append, ← List.cons_append, ← List.append_assoc] at hclosed
    have hbraces : '}' ∉ before ++ '{' :: '{' :: inner := by
      rw [List.mem_append, not_or]
      exact ⟨hbefore, by simp [hinner]⟩
    exact .inr (append_closing_inj hopen hbraces hclosed).1

/-- Before a placeholder none starts that did not start before its inside was changed. -/
theorem read?_eq_none_of_change (before rest : List Char) (hinner : '}' ∉ inner) (hinner' : '}' ∉ inner')
    (h : read? (c :: before ++ (braced inner ++ rest)) = none) :
    read? (c :: before ++ (braced inner' ++ rest)) = none := by
  by_contra hsome
  obtain ⟨⟨q, rest'⟩, hread⟩ := Option.ne_none_iff_exists'.1 hsome
  obtain ⟨whole, hwhole, he⟩ := read?_eq_some_iff.1 hread
  rcases closes_before_or_with hwhole.not_mem hinner' he with ⟨gap, hgap⟩ | hwith
  · rw [hgap, List.append_assoc, read?_braced hwhole] at h
    cases h
  · -- with the old inside it is another placeholder, which closes where the old one does
    obtain ⟨inner₀, hold, q, hq⟩ : ∃ inner₀, c :: before ++ (braced inner ++ rest) = braced inner₀ ++ rest ∧
        ∃ q, Written q inner₀ := by
      obtain ⟨rfl, htail⟩ := List.cons.inj hwith
      cases before with
      | nil =>
        obtain ⟨_, rfl⟩ := List.cons.inj htail
        exact ⟨_, by simp [braced], Written.exists_of_brace [] hwhole hinner⟩
      | cons d before =>
        obtain ⟨rfl, rfl⟩ := List.cons.inj htail
        have hopen : '}' ∉ '{' :: inner := by simp [hinner]
        exact ⟨_, by simp [braced], Written.exists_of_brace before hwhole hopen⟩
    rw [hold, read?_braced hq] at h
    cases h

/-- Where a placeholder is written it is cut off. -/
theorem cut_braced (hinner : Written p inner) (rest : List Char) :
    cut recogniser (braced inner ++ rest) = .token p (braced inner) :: cut recogniser rest := by
  have hread : recogniser.read? (braced inner ++ rest) = some (p, rest) := read?_braced hinner rest
  exact cut_of_read? hread

/-- When the inside of a placeholder is changed to that of another one, all other pieces of the text stay as they are. -/
theorem cut_change {pieces pieces' : List (Piece Placeholder)} (hinner' : Written q inner')
    (h : cut recogniser cs = pieces ++ .token p chars :: pieces') :
    cut recogniser (pieces.flatMap Piece.chars ++ (braced inner' ++ pieces'.flatMap Piece.chars)) =
      pieces ++ .token q (braced inner') :: pieces' := by
  induction pieces generalizing cs with
  | nil =>
    obtain ⟨rest, rfl, _, rfl⟩ := exists_of_cut_eq_token_cons h
    rw [flatMap_chars_cut]
    exact cut_braced hinner' rest
  | cons piece pieces ih =>
    rw [List.flatMap_cons, List.append_assoc]
    cases piece with
    | token a chars' =>
      obtain ⟨rest, rfl, hread, hcut⟩ := exists_of_cut_eq_token_cons h
      obtain ⟨inner, hinner, he⟩ := read?_eq_some_iff.1 hread
      obtain rfl := List.append_cancel_right he
      rw [Piece.chars, cut_braced hinner, ih hcut]
      rfl
    | plain c =>
      obtain ⟨rest, rfl, hread, hcut⟩ := exists_of_cut_eq_plain_cons h
      -- what stood behind this character was read off the pieces, and one of them is changed
      have hrest := flatMap_chars_cut recogniser rest
      rw [show cut recogniser rest = pieces ++ .token p chars :: pieces' from hcut, List.flatMap_append,
        List.flatMap_cons] at hrest
      have hmem : (p, chars) ∈ tokens recogniser rest := by simp [tokens, hcut, Piece.token?]
      obtain ⟨rest', hread'⟩ := exists_read?_of_mem_tokens hmem
      obtain ⟨inner, hinner, he⟩ := read?_eq_some_iff.1 hread'
      obtain rfl := List.append_cancel_right he
      rw [← hrest] at hread
      have hnone : recogniser.read? (c :: (pieces.flatMap Piece.chars ++ (braced inner' ++ pieces'.flatMap Piece.chars)))
          = none := read?_eq_none_of_change _ _ hinner.not_mem hinner'.not_mem hread
      rw [Piece.chars, List.singleton_append, cut_of_read?_eq_none hnone, ih hcut]
      rfl

end Placeholder

/-- Two templates that differ in the inside of one placeholder, which in both of them has a name that has come before. -/
inductive RepeatDiffers : String → String → Prop
  | intro {body body' : String} {before after : List (Text.Piece Placeholder)} {first p q : Placeholder}
      {firstChars chars inner : List Char}
      (hbody : Text.cut Placeholder.recogniser body.toList = before ++ .token p chars :: after)
      (hfirst : .token first firstChars ∈ before) (hrepeat : first.name = p.name) (hinner : q.Written inner)
      (hname : q.name = p.name)
      (hbody' : body'.toList = before.flatMap Text.Piece.chars ++ (braced inner ++ after.flatMap Text.Piece.chars)) :
      RepeatDiffers body body'

theorem collect_append_of_seen {before after : List Placeholder}
    (h : p.nameText ∈ seen ∨ p.nameText ∈ before.map Placeholder.nameText) :
    collect rules seen (before ++ p :: after) = collect rules seen (before ++ after) := by
  induction before generalizing seen with
  | nil =>
    rw [List.nil_append, collect, if_pos (by simpa using h), List.nil_append]
  | cons q before ih =>
    rw [List.cons_append, collect, List.cons_append, collect]
    by_cases hq : q.nameText ∈ seen
    · rw [if_pos hq, if_pos hq]
      refine ih ?_
      rcases h with h | h
      · exact .inl h
      · rcases List.mem_cons.1 h with he | h
        · exact .inl (he ▸ hq)
        · exact .inr h
    · rw [if_neg hq, if_neg hq]
      refine congrArg _ (ih ?_)
      rcases h with h | h
      · exact .inl (List.mem_cons_of_mem _ h)
      · rcases List.mem_cons.1 h with he | h
        · exact .inl (he ▸ List.mem_cons_self)
        · exact .inr h

theorem RepeatDiffers.formOf_eq {body body' : String} (h : RepeatDiffers body body') :
    formOf rules body' = formOf rules body := by
  cases h with
  | @intro before after first p q firstChars chars inner hbody hfirst hrepeat hinner hname hbody' =>
    have hall : Placeholder.all body =
        before.filterMap Text.Piece.token? ++ (p, chars) :: after.filterMap Text.Piece.token? := by
      simp [Placeholder.all, Text.tokens, hbody, Text.Piece.token?]
    have hall' : Placeholder.all body' =
        before.filterMap Text.Piece.token? ++ (q, braced inner) :: after.filterMap Text.Piece.token? := by
      simp [Placeholder.all, Text.tokens, hbody', Placeholder.cut_change hinner hbody, Text.Piece.token?]
    have hseen : p.nameText ∈ ((before.filterMap Text.Piece.token?).map Prod.fst).map Placeholder.nameText := by
      refine List.mem_map.2 ⟨first, List.mem_map.2 ⟨(first, firstChars), ?_, rfl⟩, congrArg String.ofList hrepeat⟩
      exact List.mem_filterMap.2 ⟨_, hfirst, rfl⟩
    have hseen' : q.nameText ∈ ((before.filterMap Text.Piece.token?).map Prod.fst).map Placeholder.nameText := by
      rwa [Placeholder.nameText, hname]
    rw [formOf_eq_collect, formOf_eq_collect, hall, hall', List.map_append, List.map_cons, List.map_append, List.map_cons,
      collect_append_of_seen (.inr hseen), collect_append_of_seen (.inr hseen')]

/-- The form of a template is what one pass through its placeholders collects: the first placeholders with their names
describe its variables, and the type and the options of a later placeholder with a name make no difference. -/
theorem formOf_by_firsts (rules : List TypingRule) (body : String) :
    FirstsDescribe rules ((Placeholder.all body).map Prod.fst) (formOf rules body) ∧
      formOf rules body = collect rules [] ((Placeholder.all body).map Prod.fst) ∧
      ∀ body', RepeatDiffers body body' → formOf rules body' = formOf rules body :=
  ⟨firstsDescribe_formOf rules body, formOf_eq_collect rules body, fun _ h => h.formOf_eq⟩

/-- A lease whose first day comes up twice, the second time as a date or as a choice. -/
theorem formOf_by_firsts_lease :
    let body := "\x7b\x7bdebut\x7d\x7d-\x7b\x7bfin\x7d\x7d, \x7b\x7bdebut:date\x7d\x7d"
    let body' := "\x7b\x7bdebut\x7d\x7d-\x7b\x7bfin\x7d\x7d, \x7b\x7bdebut:select:x\x7d\x7d"
    RepeatDiffers body body' ∧
      formOf [⟨"fin", .date⟩] body' = [⟨"debut", "Debut", .text, true, []⟩, ⟨"fin", "Fin", .date, true, []⟩] := by
  intro body body'
  let before : List (Text.Piece Placeholder) := [.token ⟨"debut".toList, none, none⟩ (braced "debut".toList), .plain '-',
    .token ⟨"fin".toList, none, none⟩ (braced "fin".toList), .plain ',', .plain ' ']
  have hcut : Text.cut Placeholder.recogniser body.toList =
      before ++ .token ⟨"debut".toList, some "date".toList, none⟩ (braced "debut:date".toList) :: [] := by
    decide +kernel
  have hword : IsWord "debut".toList := ⟨by decide, List.all_eq_true.1 (by decide)⟩
  have hinner : Placeholder.Written _ ("debut".toList ++ ':' :: "select:x".toList) :=
    .suffixed hword (by decide) (by decide)
  have hdiffers : RepeatDiffers body body' := .intro hcut List.mem_cons_self rfl hinner rfl (by decide +kernel)
  have hbody : formOf [⟨"fin", .date⟩] body = [⟨"debut", "Debut", .text, true, []⟩, ⟨"fin", "Fin", .date, true, []⟩] := by
    decide +kernel
  exact ⟨hdiffers, ((formOf_by_firsts _ body).2.2 body' hdiffers).trans hbody⟩

end Formulary
