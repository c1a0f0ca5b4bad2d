import Formulary.Proofs.Template.Grammar
import Formulary.Proofs.Text.Cut
import Formulary.Proofs.Text.Trim
import Mathlib.Data.List.Nodup

/-!
# The form of a template text

The form has one variable for each name among the placeholders of the text, made from the first placeholder with that
name.  So its names are distinct; each of its variables is required, and has options without white space at their ends.
-/

namespace Formulary

variable {vs : List Variable} {v : Variable}

theorem mem_of_mem_firstByName (h : v ∈ firstByName vs) : v ∈ vs := by
  induction vs with
  | nil => cases h
  | cons w vs ih =>
    rcases List.mem_cons.1 h with rfl | h
    · exact List.mem_cons_self
    · exact List.mem_cons_of_mem _ (ih (List.mem_filter.1 h).1)

/-- The first variables by name have distinct names. -/
theorem nodup_firstByName (vs : List Variable) : ((firstByName vs).map Variable.name).Nodup := by
  induction vs with
  | nil => exact List.nodup_nil
  | cons w vs ih =>
    rw [firstByName, List.map_cons, List.nodup_cons]
    constructor
    · intro hw
      obtain ⟨x, hx, hname⟩ := List.mem_map.1 hw
      exact of_decide_eq_true (List.mem_filter.1 hx).2 hname
    · exact ih.sublist (List.filter_sublist.map _)

/-- The options of a placeholder have no white space at their ends. -/
theorem Placeholder.trim_of_mem_splitOptions {options : List Char} {o : String} (h : o ∈ splitOptions options) :
    Text.trim o = o := by
  obtain ⟨part, _, rfl⟩ := List.mem_map.1 h
  simp only [Text.trim, String.toList_ofList, Text.trimChars_trimChars]

theorem Placeholder.trim_of_mem_options {rules : List TypingRule} {p : Placeholder} {o : String}
    (h : o ∈ (p.toVariable rules).options) : Text.trim o = o := by
  simp only [toVariable] at h
  split at h
  · exact trim_of_mem_splitOptions h
  · cases h

section Form

variable {rules : List TypingRule} {body : String}

/-- Every variable of a form comes from a placeholder of the text. -/
theorem exists_of_mem_formOf (h : v ∈ formOf rules body) :
    ∃ p ∈ Placeholder.all body, v = p.1.toVariable rules := by
  obtain ⟨p, hp, rfl⟩ := List.mem_map.1 (mem_of_mem_firstByName h)
  exact ⟨p, hp, rfl⟩

theorem nodup_formOf (rules : List TypingRule) (body : String) : ((formOf rules body).map Variable.name).Nodup :=
  nodup_firstByName _

/-- The names of a form are words. -/
theorem isWord_of_mem_formOf (h : v ∈ formOf rules body) : IsWord v.name.toList := by
  obtain ⟨⟨p, chars⟩, hp, rfl⟩ := exists_of_mem_formOf h
  obtain ⟨rest, hread⟩ := Text.exists_read?_of_mem_tokens hp
  obtain ⟨inner, hinner, _⟩ := Placeholder.read?_eq_some_iff.1 hread
  rw [Placeholder.toVariable, String.toList_ofList]
  exact hinner.isWord

theorem required_of_mem_formOf (h : v ∈ formOf rules body) : v.required = true := by
  obtain ⟨p, _, rfl⟩ := exists_of_mem_formOf h
  rfl

theorem trim_of_mem_options_formOf (h : v ∈ formOf rules body) {o : String} (ho : o ∈ v.options) :
    Text.trim o = o := by
  obtain ⟨p, _, rfl⟩ := exists_of_mem_formOf h
  exact Placeholder.trim_of_mem_options ho

end Form

end Formulary
