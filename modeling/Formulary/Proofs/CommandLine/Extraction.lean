import Formulary.Proofs.CommandLine.Rendering

/-!
# Extracting at the command line

What the command `extract` writes is JSON, and what it is read back as is the form of the body, whatever characters the
names of types and the options have (`Invocation.run_extract_reads_back`).
-/

namespace Formulary

namespace CommandLine.Invocation

variable {rules : Ruleset} {s : Surroundings} {config : Option String} {template body : String}

theorem run_extract (hrules : ruleset s config = .ok rules) (hbody : s.files template = .ok body.toByteArray) :
    run ⟨config, .extract template⟩ s = ⟨0, (JsonForm.write (rules.formOf body)).indented ++ "\n", ""⟩ := by
  have hperform : perform ⟨config, .extract template⟩ s = extract s.files rules template := by
    unfold perform
    rw [hrules]
    rfl
  unfold run
  rw [hperform]
  unfold extract
  rw [readText_eq_ok hbody]
  rfl

/-- The text that is written has one JSON value, and this value is read as the form of the body. -/
theorem run_extract_reads_back (hrules : ruleset s config = .ok rules)
    (hbody : s.files template = .ok body.toByteArray) :
    ∃ text v, run ⟨config, .extract template⟩ s = ⟨0, text, ""⟩ ∧ (∀ w, Json.IsText text w ↔ w = v) ∧
      JsonForm.read? v = some (rules.formOf body) := by
  have htext := Json.isText_indented_line (JsonForm.write (rules.formOf body))
  refine ⟨_, _, run_extract hrules hbody, fun w => ⟨fun hw => hw.unique htext, ?_⟩, LawfulJsonForm.read?_write _⟩
  rintro rfl
  exact htext

end CommandLine.Invocation

/-! ### A ledger

Settings with a type that no word names, and a body with options that have to be escaped. -/

namespace Ledger

open CommandLine

def oddType : VariableType := .other "a\"\\\x01\né" (by decide)

def rules : Ruleset := ⟨{ Settings.standard with rules := [⟨"objet", oddType⟩] }, by decide⟩

def settingsText : String :=
  "\x7b\"inference_rules\": [\x7b\"keyword\": \"objet\", \"type\": \"a\\\"\\\\\\u0001\\né\"\x7d]\x7d"

def body : String := "\x7b\x7bobjet\x7d\x7d à \x7b\x7bville:select:\"Lyon\",C:\\Nice,Évian\nles-Bains\x7d\x7d"

def surroundings : Surroundings where
  files path :=
    if path = "reglages.json" then .ok settingsText.toByteArray
    else if path = "registre.txt" then .ok body.toByteArray
    else .error .notFound
  environment _ := none

theorem run_extract_ledger :
    ruleset surroundings (some "reglages.json") = .ok rules ∧
      ∃ text v, Invocation.run ⟨some "reglages.json", .extract "registre.txt"⟩ surroundings = ⟨0, text, ""⟩ ∧
        (∀ w, Json.IsText text w ↔ w = v) ∧
        JsonForm.read? v = some [(⟨"objet", "Objet", oddType, true, []⟩ : Variable),
          ⟨"ville", "Ville", .select, true, ["\"Lyon\"", "C:\\Nice", "Évian\nles-Bains"]⟩] := by
  have hrules : ruleset surroundings (some "reglages.json") = .ok rules :=
    ruleset_eq_ok rfl (eq_ok_of_toOption (by decide +kernel))
  have hbody : surroundings.files "registre.txt" = .ok body.toByteArray := rfl
  obtain ⟨text, v, hrun, hunique, hread⟩ := Invocation.run_extract_reads_back hrules hbody
  exact ⟨hrules, text, v, hrun, hunique, hread.trans (congrArg some (by decide +kernel))⟩

end Ledger

end Formulary
