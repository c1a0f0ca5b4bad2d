import Formulary.Proofs.Template.FirstPlaceholder
import Mathlib.Tactic.MkIffOfInductiveProp

/-!
# Writing a form into a template

A form can be written into a template: each variable as a placeholder with its type and, for a choice, its options with
any white space around them (`Variable.Spells`), and between the placeholders any text without opening braces
(`WrittenForm`).  The form of such a template is the one that was written, whatever the rules of typing
(`formOf_writtenForm`): every placeholder gives its variable back (`Variable.Spells.exists_toVariable`), and no other
placeholder starts in the text around them.
-/

namespace Formulary

instance (name : List Char) : Decidable (IsWord name) :=
  decidable_of_iff (name ≠ [] ∧ name.all isWordChar = true)
    ⟨fun h => ⟨h.1, List.all_eq_true.1 h.2⟩, fun h => ⟨h.ne_nil, List.all_eq_true.2 h.isWordChar⟩⟩

namespace Variable

/-- A variable that a placeholder can stand for, with its type: names and types are words, and the options can be told
apart when they are joined by commas. -/
@[mk_iff] structure Writable (v : Variable) : Prop where
  name : IsWord v.name.toList
  label : v.label = labelOf v.name
  required : v.required = true
  kind : IsWord v.kind.name.toList
  select : v.options ≠ [] → v.kind = .select
  trimmed : ∀ o ∈ v.options, Text.trim o = o
  separable : ∀ o ∈ v.options, ',' ∉ o.toList ∧ '}' ∉ o.toList
  joined : v.options ≠ [] → [','].intercalate (v.options.map String.toList) ≠ []

instance (v : Variable) : Decidable v.Writable := decidable_of_iff' _ (writable_iff v)

/-- What can be written for a variable between the braces of a placeholder. -/
inductive Spells (v : Variable) : List Char → Prop
  | plain (h : v.options = []) : Spells v (v.name.toList ++ ':' :: v.kind.name.toList)
  | choice {padded : List (List Char)} (h : v.options ≠ [])
      (hpadded : List.Forall₂ (fun o cs => Padded o.toList cs) v.options padded) :
      Spells v (v.name.toList ++ ':' :: (v.kind.name.toList ++ ':' :: [','].intercalate padded))

end Variable

/-- A text with the variables of a form written into it, in their order. -/
inductive WrittenForm : List Variable → List Char → Prop
  | nil {gap : List Char} (hgap : '{' ∉ gap) : WrittenForm [] gap
  | cons {v : Variable} {vs : List Variable} {gap inner rest : List Char} (hgap : '{' ∉ gap) (hv : v.Spells inner)
      (hrest : WrittenForm vs rest) : WrittenForm (v :: vs) (gap ++ (braced inner ++ rest))

variable {v : Variable} {form : List Variable} {rules : List TypingRule} {cs inner rest gap word options : List Char}
  {padded : List (List Char)}

theorem Padded.trim {o : String} (h : Padded o.toList cs) (ho : Text.trim o = o) :
    String.ofList (Text.trimChars cs) = o := by
  have hchars : Text.trimChars o.toList = o.toList := String.ofList_injective (ho.trans String.ofList_toList.symm)
  rw [h.trimChars_eq hchars, String.ofList_toList]

theorem Padded.not_mem {c : Char} (h : Padded options cs) (hc : Text.isBlank c = false) (hoptions : c ∉ options) :
    c ∉ cs := by
  cases h with
  | intro hbefore hafter =>
    simp only [List.mem_append, not_or]
    refine ⟨fun hmem => ?_, hoptions, fun hmem => ?_⟩
    · simp [hbefore c hmem] at hc
    · simp [hafter c hmem] at hc

section Options

variable {os : List String} (h : List.Forall₂ (fun o cs => Padded o.toList cs) os padded)

include h

theorem map_trim_padded (hos : ∀ o ∈ os, Text.trim o = o) :
    padded.map (fun cs => String.ofList (Text.trimChars cs)) = os := by
  induction h with
  | nil => rfl
  | cons ho hrest ih =>
    obtain ⟨htrim, hos⟩ := List.forall_mem_cons.1 hos
    rw [List.map_cons, ho.trim htrim, ih hos]

theorem not_mem_padded {c : Char} (hc : Text.isBlank c = false) (hos : ∀ o ∈ os, c ∉ o.toList) :
    ∀ cs ∈ padded, c ∉ cs := by
  induction h with
  | nil => simp
  | cons ho hrest ih =>
    obtain ⟨hfirst, hos⟩ := List.forall_mem_cons.1 hos
    exact List.forall_mem_cons.2 ⟨ho.not_mem hc hfirst, ih hos⟩

end Options

namespace Placeholder

theorem parts_word (hword : IsWord word) : parts word = (some word, none) := by
  have htake : word.takeWhile isWordChar = word := List.takeWhile_eq_self_iff.2 hword.isWordChar
  have hdrop : word.dropWhile isWordChar = [] := List.dropWhile_eq_nil_iff.2 hword.isWordChar
  obtain ⟨c, word, rfl⟩ := List.exists_cons_of_ne_nil hword.ne_nil
  simp only [parts, htake, hdrop]

theorem parts_word_append (hword : IsWord word) (hoptions : options ≠ []) :
    parts (word ++ ':' :: options) = (some word, some options) := by
  have htake := hword.takeWhile_append (c := ':') (by decide) options
  have hdrop := hword.dropWhile_append (c := ':') (by decide) options
  obtain ⟨c, word, rfl⟩ := List.exists_cons_of_ne_nil hword.ne_nil
  obtain ⟨d, options, rfl⟩ := List.exists_cons_of_ne_nil hoptions
  simp only [parts, htake, hdrop]

end Placeholder

namespace Variable

section Choice

variable (h : v.Writable) (hoptions : v.options ≠ [])
  (hpadded : List.Forall₂ (fun o cs => Padded o.toList cs) v.options padded)

include h hoptions hpadded

/-- Options are split again at the commas that join them, without the white space around them. -/
theorem Writable.splitOptions_intercalate : Placeholder.splitOptions ([','].intercalate padded) = v.options := by
  have hne : padded ≠ [] := by
    rintro rfl
    exact hoptions (List.forall₂_nil_right_iff.1 hpadded)
  have hcomma : ∀ cs ∈ padded, ',' ∉ cs := not_mem_padded hpadded (by decide) fun o ho => (h.separable o ho).1
  rw [Placeholder.splitOptions, Text.split_intercalate hne hcomma]
  exact map_trim_padded hpadded h.trimmed

theorem Writable.intercalate_ne_nil : [','].intercalate padded ≠ [] := by
  intro hempty
  -- a single empty option would be all that is read back
  have hsplit := h.splitOptions_intercalate hoptions hpadded
  rw [hempty] at hsplit
  exact h.joined hoptions (by rw [← hsplit]; decide)

omit hoptions in
theorem Writable.not_mem_intercalate : '}' ∉ [','].intercalate padded :=
  Text.not_mem_intercalate (by decide) (not_mem_padded hpadded (by decide) fun o ho => (h.separable o ho).2)

end Choice

/-- What is written for a variable gives it back. -/
theorem Spells.exists_toVariable (h : v.Spells inner) (hv : v.Writable) (rules : List TypingRule) :
    ∃ p, Placeholder.Written p inner ∧ p.toVariable rules = v := by
  have hclose : '}' ∉ v.kind.name.toList := hv.kind.not_mem (by decide)
  obtain ⟨name, label, kind, required, options⟩ := v
  obtain rfl : label = labelOf name := hv.label
  obtain rfl : required = true := hv.required
  cases h with
  | plain hoptions =>
    obtain rfl : options = [] := hoptions
    refine ⟨_, .suffixed hv.name hv.kind.ne_nil hclose, ?_⟩
    rw [Placeholder.parts_word hv.kind]
    simp only [Placeholder.toVariable, String.ofList_toList, VariableType.ofName_name]
  | @choice padded hoptions hpadded =>
    obtain rfl : kind = .select := hv.select hoptions
    have hraw := hv.intercalate_ne_nil hoptions hpadded
    have hclose' := hv.not_mem_intercalate hpadded
    refine ⟨_, .suffixed hv.name (by simp) (by simp [hclose, hclose']), ?_⟩
    rw [Placeholder.parts_word_append hv.kind hraw]
    simp only [Placeholder.toVariable, String.ofList_toList, VariableType.ofName_name,
      hv.splitOptions_intercalate hoptions hpadded]

end Variable

/-- A text without opening braces holds no placeholder. -/
theorem Placeholder.cut_gap (hgap : '{' ∉ gap) (rest : List Char) :
    Text.cut recogniser (gap ++ rest) = gap.map .plain ++ Text.cut recogniser rest := by
  refine Text.cut_append_of_read?_eq_none fun v hv hne => ?_
  obtain ⟨c, v, rfl⟩ := List.exists_cons_of_ne_nil hne
  have hc : c ≠ '{' := by
    rintro rfl
    exact hgap (hv.subset List.mem_cons_self)
  cases hread : recogniser.read? (c :: v ++ rest) with
  | none => rfl
  | some m =>
    obtain ⟨inner, _, he⟩ := read?_eq_some_iff.1 hread
    exact absurd (List.cons.inj he).1 hc

/-- The placeholders of a template into which a form is written give its variables. -/
theorem WrittenForm.map_tokens (h : WrittenForm form cs) (hform : ∀ v ∈ form, v.Writable) (rules : List TypingRule) :
    (Text.tokens Placeholder.recogniser cs).map (fun p => p.1.toVariable rules) = form := by
  have hplain (gap : List Char) : (gap.map (Text.Piece.plain (α := Placeholder))).filterMap Text.Piece.token? = [] := by
    simp [List.filterMap_map, Function.comp_def, Text.Piece.token?]
  induction h with
  | @nil gap hgap =>
    have hcut := Placeholder.cut_gap hgap []
    rw [List.append_nil, Text.cut_nil, List.append_nil] at hcut
    rw [Text.tokens, hcut, hplain, List.map_nil]
  | @cons v vs gap inner rest hgap hv hrest ih =>
    obtain ⟨hfirst, hvs⟩ := List.forall_mem_cons.1 hform
    obtain ⟨p, hp, rfl⟩ := hv.exists_toVariable hfirst rules
    rw [Text.tokens, Placeholder.cut_gap hgap, Placeholder.cut_braced hp, List.filterMap_append, hplain, List.nil_append,
      List.filterMap_cons, Text.Piece.token?, List.map_cons]
    exact congrArg _ (ih hvs)

theorem firstByName_of_nodup (h : (form.map Variable.name).Nodup) : firstByName form = form := by
  induction form with
  | nil => rfl
  | cons v form ih =>
    rw [List.map_cons, List.nodup_cons] at h
    rw [firstByName, ih h.2, List.filter_eq_self.2 fun w hw => ?_]
    exact decide_eq_true fun he => h.1 (he ▸ List.mem_map_of_mem hw)

theorem Variable.exists_spells (v : Variable) : ∃ inner, v.Spells inner := by
  by_cases hoptions : v.options = []
  · exact ⟨_, .plain hoptions⟩
  · have hself (o : String) : Padded o.toList o.toList := by
      have h := @Padded.intro o.toList [] [] (by simp) (by simp)
      rwa [List.append_nil, List.nil_append] at h
    have hpadded : List.Forall₂ (fun o cs => Padded o.toList cs) v.options (v.options.map String.toList) :=
      List.forall₂_map_right_iff.2 (List.forall₂_same.2 fun o _ => hself o)
    exact ⟨_, .choice hoptions hpadded⟩

theorem exists_writtenForm (form : List Variable) : ∃ cs, WrittenForm form cs := by
  induction form with
  | nil => exact ⟨[], .nil List.not_mem_nil⟩
  | cons v form ih =>
    obtain ⟨rest, hrest⟩ := ih
    obtain ⟨inner, hinner⟩ := v.exists_spells
    exact ⟨_, .cons List.not_mem_nil hinner hrest⟩

/-- Every form can be written into a template, and if its variables are writable and have distinct names, it is the form
of every template into which it is written. -/
theorem formOf_writtenForm (hnames : (form.map Variable.name).Nodup) (hform : ∀ v ∈ form, v.Writable) :
    (∃ body : String, WrittenForm form body.toList) ∧
      ∀ (rules : List TypingRule) (body : String), WrittenForm form body.toList → formOf rules body = form := by
  constructor
  · obtain ⟨cs, hcs⟩ := exists_writtenForm form
    exact ⟨String.ofList cs, by rwa [String.toList_ofList]⟩
  · intro rules body hbody
    have hvariables := hbody.map_tokens hform rules
    rw [formOf, Placeholder.all, hvariables, firstByName_of_nodup hnames]

/-- A lease whose town is chosen among options with a colon, with a brace and with white space around them. -/
theorem formOf_writtenForm_lease :
    let form : List Variable := [⟨"preneur", "Preneur", .text, true, []⟩,
      ⟨"date_ville", "Date ville", .select, true, ["Lyon: Sud", "\x7bParis"]⟩]
    let body := "Bail de {{preneur:text}}, \x7b\x7bdate_ville:select: Lyon: Sud ,\x7bParis\x7d\x7d."
    (form.map Variable.name).Nodup ∧ (∀ v ∈ form, v.Writable) ∧ WrittenForm form body.toList ∧
      formOf [⟨"date", .date⟩] body = form := by
  intro form body
  have hnames : (form.map Variable.name).Nodup := by decide
  have hform : ∀ v ∈ form, v.Writable := by decide +kernel
  have hchars : body.toList = "Bail de ".toList ++ (braced ("preneur".toList ++ ':' :: "text".toList) ++ (", ".toList ++
      (braced ("date_ville".toList ++ ':' :: ("select".toList ++ ':' ::
        [','].intercalate [" Lyon: Sud ".toList, "\x7bParis".toList])) ++ ".".toList))) := by
    decide +kernel
  have hspace : ∀ c ∈ [' '], Text.isBlank c = true := List.forall_mem_singleton.2 (by decide)
  have hnone : ∀ c ∈ [], Text.isBlank c = true := List.forall_mem_nil _
  have hpadded : List.Forall₂ (fun o cs => Padded o.toList cs) ["Lyon: Sud", "\x7bParis"]
      [" Lyon: Sud ".toList, "\x7bParis".toList] :=
    .cons (.intro hspace hspace) (.cons (.intro hnone hnone) .nil)
  have hbody : WrittenForm form body.toList := by
    rw [hchars]
    exact .cons (by decide) (.plain rfl) (.cons (by decide) (.choice (by decide) hpadded) (.nil (by decide)))
  exact ⟨hnames, hform, hbody, (formOf_writtenForm hnames hform).2 _ body hbody⟩

end Formulary
