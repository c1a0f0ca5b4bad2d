import Formulary.Form.Report
import Formulary.Proofs.Table

/-!
# What a report accepts

A value is judged without the white space at its ends: an empty one is accepted of a variable that is not required, and
any other if there is no fault in it (`judge_eq_ok_iff`).  A report is valid if the value of each variable is accepted
(`isValid_iff`), and for a variable only the value under its name counts.
-/

namespace Formulary

variable {s : Settings} {v : Variable} {form : List Variable} {values values' : FormValues} {text value : String}

/-- What is accepted of a text is the text without the white space at its ends. -/
theorem Settings.judge_eq_ok_iff :
    s.judge v text = .ok value ↔
      value = Text.trim text ∧ (value = "" → v.required = false) ∧ (value ≠ "" → s.valueFault? v value = none) := by
  unfold Settings.judge
  by_cases he : Text.trim text = ""
  · rw [if_pos he]
    constructor
    · intro h
      cases hr : v.required with
      | true => simp [hr] at h
      | false =>
        have hv : value = "" := by simpa [hr, eq_comm] using h
        exact ⟨hv.trans he.symm, fun _ => rfl, fun hne => absurd hv hne⟩
    · rintro ⟨rfl, hrequired, _⟩
      simp [hrequired he, he]
  · rw [if_neg he]
    constructor
    · intro h
      cases hf : s.valueFault? v (Text.trim text) with
      | some fault => simp [hf] at h
      | none =>
        have hv : value = Text.trim text := by simpa [hf, eq_comm] using h
        rw [hv]
        exact ⟨rfl, fun h => absurd h he, fun _ => hf⟩
    · rintro ⟨rfl, _, hfault⟩
      simp [hfault he]

namespace Report

/-- A report is valid if the value of every variable is accepted. -/
theorem isValid_iff :
    (ofValues s form values).isValid = true ↔ ∀ v ∈ form, ∃ value, judgement s values v = .ok value := by
  have hrejected (v : Variable) : rejected? s values v = none ↔ ∃ value, judgement s values v = .ok value := by
    unfold rejected?
    cases judgement s values v <;> simp
  simp only [isValid, ofValues, List.isEmpty_iff, List.filterMap_eq_nil_iff, hrejected]

/-- For a variable only the value under its name counts. -/
theorem judgement_congr (h : values.get? v.name = values'.get? v.name) :
    judgement s values v = judgement s values' v := by
  unfold judgement
  rw [h]

theorem accepted?_eq_some_iff {name : String} :
    accepted? s values v = some (name, value) ↔ v.name = name ∧ judgement s values v = .ok value := by
  unfold accepted?
  cases judgement s values v <;> simp

/-- Every accepted value is the value of a variable of the form. -/
theorem exists_of_mem_keys_data {name : String} (h : name ∈ (ofValues s form values).data.keys) :
    ∃ v ∈ form, v.name = name := by
  obtain ⟨value, hget⟩ := Table.mem_keys_iff.1 h
  obtain ⟨v, hv, haccepted⟩ := List.mem_filterMap.1 (Table.mem_of_get?_ofList hget)
  exact ⟨v, hv, (accepted?_eq_some_iff.1 haccepted).1⟩

section Valid

variable (h : (ofValues s form values).isValid = true)

include h

/-- A valid report has a value for each variable of the form and for nothing else. -/
theorem mem_keys_data_iff {name : String} : name ∈ (ofValues s form values).data.keys ↔ ∃ v ∈ form, v.name = name := by
  refine ⟨exists_of_mem_keys_data, ?_⟩
  rintro ⟨v, hv, rfl⟩
  obtain ⟨value, hvalue⟩ := isValid_iff.1 h v hv
  exact Table.mem_keys_ofList_iff.2 ⟨value, List.mem_filterMap.2 ⟨v, hv, accepted?_eq_some_iff.2 ⟨rfl, hvalue⟩⟩⟩

/-- The value of a variable is the one given for its name without the white space at its ends, also where several
variables of the form have that name. -/
theorem get?_data (hv : v ∈ form) :
    (ofValues s form values).data.get? v.name = some (Text.trim ((values.get? v.name).getD "")) := by
  obtain ⟨value, hget⟩ := Table.mem_keys_iff.1 ((mem_keys_data_iff h).2 ⟨v, hv, rfl⟩)
  obtain ⟨w, _, hw⟩ := List.mem_filterMap.1 (Table.mem_of_get?_ofList hget)
  obtain ⟨hname, hjudged⟩ := accepted?_eq_some_iff.1 hw
  obtain ⟨rfl, _⟩ := Settings.judge_eq_ok_iff.1 hjudged
  rw [hget, hname]

theorem sound_of_mem (hv : v ∈ form) (hvalue : value = Text.trim ((values.get? v.name).getD "")) :
    (value ≠ "" ∧ s.valueFault? v value = none) ∨ (value = "" ∧ v.required = false) := by
  obtain ⟨_, hjudged⟩ := isValid_iff.1 h v hv
  obtain ⟨rfl, hrequired, hfault⟩ := Settings.judge_eq_ok_iff.1 hjudged
  by_cases he : value = ""
  · exact .inr ⟨he, hrequired (hvalue ▸ he)⟩
  · exact .inl ⟨he, hvalue ▸ hfault (hvalue ▸ he)⟩

end Valid

end Report

end Formulary
