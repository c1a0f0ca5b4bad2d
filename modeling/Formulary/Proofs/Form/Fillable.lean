import Formulary.Proofs.Form.Judgement
import Formulary.Proofs.Template.Form

/-!
# Forms that can be filled

A form can be filled if there are values of which all are accepted.  As the names of its variables are distinct, there
are such values as soon as there is one for each variable (`exists_isValid`), and under the standard settings only a
choice may have none: its options may all be empty, and an empty value is never accepted (`standard_fillable_iff`).
-/

namespace Formulary

/-- A text would be accepted of the variable. -/
def Settings.CanAnswer (s : Settings) (v : Variable) : Prop := ∃ text value, s.judge v text = .ok value

/-- A variable that leaves something to choose: it is no choice, any value will do, or there is an option that is not
empty. -/
def Variable.HasChoice (v : Variable) : Prop := v.kind = .select → v.options = [] ∨ ∃ o ∈ v.options, o ≠ ""

instance (v : Variable) : Decidable v.HasChoice := inferInstanceAs (Decidable (_ → _))

variable {s : Settings} {v : Variable} {form : List Variable}

/-- A form with distinct names can be filled if each of its variables can. -/
theorem Report.exists_isValid (hform : (form.map Variable.name).Nodup) (h : ∀ v ∈ form, s.CanAnswer v) :
    ∃ values, (ofValues s form values).isValid = true := by
  simp only [isValid_iff]
  induction form with
  | nil => exact ⟨∅, by simp⟩
  | cons v form ih =>
    rw [List.map_cons, List.nodup_cons] at hform
    obtain ⟨values, hvalues⟩ := ih hform.2 fun w hw => h w (List.mem_cons_of_mem _ hw)
    obtain ⟨text, value, hv⟩ := h v List.mem_cons_self
    -- The value for the new name leaves those for the other names as they are.
    refine ⟨values.insert v.name text, fun w hw => ?_⟩
    rcases List.mem_cons.1 hw with rfl | hw
    · refine ⟨value, ?_⟩
      rw [judgement, Table.get?_insert, if_pos rfl]
      exact hv
    · have hne : w.name ≠ v.name := fun he => hform.1 (he ▸ List.mem_map_of_mem hw)
      have hget : (values.insert v.name text).get? w.name = values.get? w.name := by
        rw [Table.get?_insert, if_neg hne]
      rw [judgement_congr hget]
      exact hvalues w hw

theorem Report.canAnswer_of_isValid {values : FormValues} (h : (ofValues s form values).isValid = true)
    (hv : v ∈ form) : s.CanAnswer v := by
  obtain ⟨value, hvalue⟩ := isValid_iff.1 h v hv
  exact ⟨_, value, hvalue⟩

/-- A required variable is answered by a value without white space at its ends in which there is no fault. -/
theorem Settings.canAnswer_iff (hv : v.required = true) :
    s.CanAnswer v ↔ ∃ value, Text.trim value = value ∧ value ≠ "" ∧ s.valueFault? v value = none := by
  constructor
  · rintro ⟨text, value, h⟩
    obtain ⟨rfl, hrequired, hfault⟩ := judge_eq_ok_iff.1 h
    have hne : Text.trim text ≠ "" := fun he => by simp [hrequired he] at hv
    exact ⟨_, Text.trim_trim text, hne, hfault hne⟩
  · rintro ⟨value, htrim, hne, hfault⟩
    exact ⟨value, value, judge_eq_ok_iff.2 ⟨htrim.symm, fun he => absurd he hne, fun _ => hfault⟩⟩

/-- Under the standard settings every type but a choice has a value that is accepted. -/
theorem Settings.standard_canAnswer_of_ne_select (hv : v.required = true) (hk : v.kind ≠ .select) :
    standard.CanAnswer v := by
  rw [canAnswer_iff hv]
  unfold valueFault?
  cases hkind : v.kind with
  | date =>
    refine ⟨"2000-01-01", by decide +kernel, by decide, ?_⟩
    show standard.dateFault? "2000-01-01" = none
    decide +kernel
  | email => exact ⟨"a@b.fr", by decide +kernel, by decide, if_pos (by decide +kernel)⟩
  | number => exact ⟨"1", by decide +kernel, by decide, if_pos (by decide +kernel)⟩
  | select => exact absurd hkind hk
  | text => exact ⟨"x", by decide +kernel, by decide, rfl⟩
  | textarea => exact ⟨"x", by decide +kernel, by decide, rfl⟩
  | other name h => exact ⟨"x", by decide +kernel, by decide, rfl⟩

/-- A choice is answered by an option that is not empty, or by anything if it has no options. -/
theorem Settings.canAnswer_select_iff (hv : v.required = true) (hk : v.kind = .select)
    (htrim : ∀ o ∈ v.options, Text.trim o = o) :
    s.CanAnswer v ↔ v.options = [] ∨ ∃ o ∈ v.options, o ≠ "" := by
  have hfault (value : String) : s.valueFault? v value = none ↔ v.options = [] ∨ value ∈ v.options := by
    simp only [valueFault?, hk]
    split <;> simp_all
  simp only [canAnswer_iff hv, hfault]
  constructor
  · rintro ⟨value, _, hne, hnil | hmem⟩
    · exact .inl hnil
    · exact .inr ⟨value, hmem, hne⟩
  · rintro (hnil | ⟨o, hmem, hne⟩)
    · exact ⟨"x", by decide +kernel, by decide, .inl hnil⟩
    · exact ⟨o, htrim o hmem, hne, .inr hmem⟩

theorem standard_canAnswer_iff_of_mem_formOf {rules : List TypingRule} {body : String} (hv : v ∈ formOf rules body) :
    Settings.standard.CanAnswer v ↔ v.HasChoice := by
  have hrequired := required_of_mem_formOf hv
  by_cases hk : v.kind = .select
  · rw [Settings.canAnswer_select_iff hrequired hk fun _ ho => trim_of_mem_options_formOf hv ho]
    exact ⟨fun h _ => h, fun h => h hk⟩
  · exact ⟨fun _ h => absurd h hk, fun _ => Settings.standard_canAnswer_of_ne_select hrequired hk⟩

namespace Ruleset

/-- Under the standard settings the form of a text can be filled if and only if each of its variables leaves something
to choose. -/
theorem standard_fillable_iff (body : String) :
    (∃ values, (standard.report (standard.formOf body) values).isValid = true) ↔
      ∀ v ∈ standard.formOf body, v.HasChoice := by
  constructor
  · rintro ⟨values, h⟩ v hv
    exact (standard_canAnswer_iff_of_mem_formOf hv).1 (Report.canAnswer_of_isValid h hv)
  · intro h
    exact Report.exists_isValid (nodup_formOf _ _) fun v hv => (standard_canAnswer_iff_of_mem_formOf hv).2 (h v hv)

/-- No value is accepted of a choice between empty options. -/
theorem standard_not_fillable :
    ¬ ∃ values, (standard.report (standard.formOf "{{a:select:,}}") values).isValid = true := by
  rintro ⟨values, h⟩
  have hv : ⟨"a", "A", .select, true, ["", ""]⟩ ∈ standard.formOf "{{a:select:,}}" := by decide +kernel
  have hchoice := (standard_canAnswer_iff_of_mem_formOf hv).1 (Report.canAnswer_of_isValid h hv)
  exact absurd hchoice (by decide)

end Ruleset

end Formulary
