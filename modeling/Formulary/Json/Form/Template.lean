import Formulary.Json.Form
import Formulary.Template.Settings

/-!
# JSON forms of variables and settings

A variable without options is written without that field.  Fields that a text of settings leaves out have their standard
values.
-/

namespace Formulary

open JsonForm

instance : JsonForm VariableType := ⟨fun t => .text t.name, fun v => v.text?.map VariableType.ofName⟩

instance : JsonForm Variable where
  write v := .fields [
    ("name", some (write v.name)),
    ("label", some (write v.label)),
    ("type", some (write v.kind)),
    ("required", some (write v.required)),
    ("options", if v.options = [] then none else some (write v.options))]
  read? v := do
    match ← v.fields? ["name", "label", "type", "required", "options"] with
    | [name, label, kind, required, options] =>
      return ⟨← required? name, ← required? label, ← required? kind, ← required? required,
        ← withDefault? [] options⟩
    | _ => none

instance : JsonForm TypingRule where
  write r := .fields [("keyword", some (write r.keyword)), ("type", some (write r.kind))]
  read? v := do
    match ← v.fields? ["keyword", "type"] with
    | [keyword, kind] => return ⟨← required? keyword, ← required? kind⟩
    | _ => none

instance : JsonForm Settings where
  write s := .fields [
    ("inference_rules", some (write s.rules)),
    ("min_year", some (write s.minYear)),
    ("max_year", some (write s.maxYear))]
  read? v := do
    match ← v.fields? ["inference_rules", "min_year", "max_year"] with
    | [rules, minYear, maxYear] =>
      return ⟨← withDefault? Settings.standard.rules rules, ← withDefault? Settings.standard.minYear minYear,
        ← withDefault? Settings.standard.maxYear maxYear⟩
    | _ => none

/-- The settings that a JSON text holds, if they are sound. -/
def Settings.ofText (s : String) : Except SettingsError Settings :=
  match (Json.ofText? s).bind read? with
  | none => .error .notJson
  | some settings =>
    match Settings.fault? settings with
    | some e => .error e
    | none => .ok settings

end Formulary
