import Formulary.Proofs.CommandLine.Rendering
import Formulary.Proofs.Form.Number
import Formulary.Proofs.Form.Outcome
import Formulary.Proofs.Template.Form

/-!
# Rendering from numbers

A file of values may give a number variable a number without quotes.  Whether the command accepts it is decided by its
order of magnitude (`Invocation.run_render_number`): the literals that are taken as texts with an exponent are rejected,
and the other ones are filled in.
-/

namespace Formulary

namespace CommandLine.Invocation

variable {rules : Ruleset} {s : Surroundings} {config : Option String} {template data body text : String}
  {values : FormValues} {v : Variable} {n : JsonNumber} {members : List (JsonString × Json)}

/-- What the command writes is decided by the report on the values, and the report rejects a number that is given to a
number variable just if the number is not plain: no integer of 64 bits, and its double is not zero and is less than
`10 ^ -5` or at least `10 ^ 16`. -/
theorem run_render_number (hrules : ruleset s config = .ok rules) (hbody : s.files template = .ok body.toByteArray)
    (htext : s.files data = .ok text.toByteArray) (hvalues : FormValues.ofText text = .ok values)
    (hv : v ∈ rules.formOf body) (hkind : v.kind = .number) (hobject : Json.IsText text (.object members))
    (hn : Json.Last members v.name (.number n)) :
    let report := rules.report (rules.formOf body) values
    run ⟨config, .render template data⟩ s =
        (if report.isValid then ⟨0, fill body report.data, ""⟩
          else ⟨1, "", String.join (report.messages.map (· ++ "\n"))⟩) ∧
      (report.rejectionOf? v.name = none ↔ n.IsPlain) ∧
      (n.IsPlain → ∃ t, FormValues.Spells (.number n) t ∧ report.data.get? v.name = some t) ∧
      (¬ n.IsPlain → report.rejectionOf? v.name = some ⟨v.name, v.label, .notANumber⟩) := by
  obtain ⟨t, hget, hspells⟩ := FormValues.exists_get?_of_last_number hvalues hobject hn
  obtain ⟨hplain, hnot⟩ := Settings.judge_number (s := rules.settings) hkind hspells
  have hjudgement : Report.judgement rules.settings values v = rules.settings.judge v t := by
    rw [Report.judgement, hget, Option.getD_some]
  intro report
  have haccepted (h : n.IsPlain) : report.outcome v.name = (some t, none) :=
    Report.outcome_of_ok (nodup_formOf _ _) hv (hjudgement.trans (hplain h))
  have hrejected (h : ¬ n.IsPlain) : report.outcome v.name = (none, some ⟨v.name, v.label, .notANumber⟩) :=
    Report.outcome_of_error (nodup_formOf _ _) hv (hjudgement.trans (hnot h))
  refine ⟨run_render hrules hbody htext hvalues, ⟨fun hnone => ?_, fun h => ?_⟩, fun h => ?_, fun h => ?_⟩
  · by_contra h
    cases hnone.symm.trans (congrArg Prod.snd (hrejected h))
  · exact congrArg Prod.snd (haccepted h)
  · exact ⟨t, hspells, congrArg Prod.fst (haccepted h)⟩
  · exact congrArg Prod.snd (hrejected h)

end CommandLine.Invocation

/-! ### An invoice

A body with an amount, and an integer for it that does not fit 64 bits. -/

namespace Invoice

open CommandLine

def rules : Ruleset := .standard

def body : String := "Montant : \x7b\x7bmontant\x7d\x7d"

/-- A hundred billion billions. -/
def amount : JsonNumber := ⟨false, 100000000000000000000, [], none⟩

def members : List (JsonString × Json) := [(some "montant", .number amount)]

def values : FormValues := Table.ofList [("montant", "1e+20")]

def surroundings : Surroundings where
  files path :=
    if path = "reglages.json" then .ok "\x7b\x7d".toByteArray
    else if path = "facture.txt" then .ok body.toByteArray
    else if path = "montant.json" then .ok (Json.object members).compact.toByteArray
    else .error .notFound
  environment _ := none

theorem not_isPlain_amount : ¬ amount.IsPlain := by
  have hint : amount.int? = some 100000000000000000000 := rfl
  have hmagnitude : amount.magnitude? =
      some ⟨6103515625000000, 14, by decide, by decide, .inl (by decide)⟩ := by decide +kernel
  rintro (⟨i, hi, hfits⟩ | ⟨x, hx, hplain⟩)
  · cases hint.symm.trans hi
    exact absurd hfits.2 (by decide)
  · cases hmagnitude.symm.trans hx
    norm_num [Binary64.value] at hplain

/-- The amount is rejected as no number, though the same digits in quotes would be accepted. -/
theorem run_render_invoice :
    Invocation.run ⟨some "reglages.json", .render "facture.txt" "montant.json"⟩ surroundings =
        ⟨1, "", "field montant (Montant) must be a number\n"⟩ ∧
      (rules.report (rules.formOf body) values).rejectionOf? "montant" = some ⟨"montant", "Montant", .notANumber⟩ ∧
      FormValue.isNumber "100000000000000000000".toList = true := by
  have hrules : ruleset surroundings (some "reglages.json") = .ok rules :=
    ruleset_eq_ok rfl (eq_ok_of_toOption (by decide +kernel))
  have hbody : surroundings.files "facture.txt" = .ok body.toByteArray := rfl
  have htext : surroundings.files "montant.json" = .ok (Json.object members).compact.toByteArray := rfl
  have hvalues : FormValues.ofText (Json.object members).compact = .ok values :=
    eq_ok_of_toOption (by decide +kernel)
  have hv : (⟨"montant", "Montant", .number, true, []⟩ : Variable) ∈ rules.formOf body := by decide +kernel
  obtain ⟨hrun, -, -, hrejected⟩ := Invocation.run_render_number hrules hbody htext hvalues hv rfl
    (Json.isText_compact _) ⟨[], [], rfl, nofun⟩
  exact ⟨hrun.trans (by decide +kernel), hrejected not_isPlain_amount, by decide⟩

end Invoice

end Formulary
