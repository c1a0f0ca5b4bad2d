import Formulary.CommandLine.Program
import Formulary.Proofs.Office.Operation
import Formulary.Proofs.Office.Run
import Formulary.Proofs.Template.Settings

/-!
# Rendering at the command line and drawing in the office

The command `render` and the office put a document together in two places.  The command asks for the form of a body and
judges the values by it at once; the office keeps the form with the template when the template is created, and judges
the values whenever a document is drawn.  Both come to the same (`Invocation.run_render_iff_draw`): what the command
writes is the content of the document that the office draws, or a line for each rejection of the office's refusal.
-/

namespace Formulary

section Agreement

variable {rules : Ruleset} {u : User} {t : Template} {values : FormValues}

/-- A user who may view a template is refused a document by the rejections of an invalid form alone. -/
theorem Document.draw_of_not_isValid {id : DocumentId} {now : Instant} (hview : u.may .view (.template t) = true)
    (hv : ¬ (rules.report t.form values).isValid = true) :
    draw rules u t id values now = .error (.invalidForm (rules.report t.form values).rejections values) := by
  have hright : u.ensureRight .view (.template t) = .ok () := User.ensureRight_eq_ok_iff.2 hview
  have hfill : t.fillIn rules values = .error (.invalidForm (rules.report t.form values).rejections values) :=
    if_neg hv
  unfold draw
  rw [hright, hfill]
  rfl

namespace CommandLine

variable {s : Surroundings} {config : Option String} {template data body text : String}

theorem readText_eq_ok {files : Files} {path : String} (h : files path = .ok text.toByteArray) :
    readText files path = .ok text := by
  have htext : String.fromUTF8? text.toByteArray = some text := dif_pos text.isValidUTF8
  unfold readText
  simp only [h, htext]

/-- A settings file that is accepted gives its settings to the ruleset. -/
theorem ruleset_eq_ok {path : String} (hfile : s.files path = .ok text.toByteArray)
    (hsettings : Settings.ofText text = .ok rules.settings) : ruleset s (some path) = .ok rules := by
  have hloaded : settings s (some path) = .ok rules.settings := by
    unfold settings
    simp only [readText_eq_ok hfile, bind, Except.bind, hsettings]
  unfold ruleset
  simp only [hloaded, bind, Except.bind, Settings.ofSettings_of_sound rules.sound]

namespace Invocation

/-- What is written for a body and for values that can be read is decided by the report on them alone. -/
theorem run_render (hrules : ruleset s config = .ok rules) (hbody : s.files template = .ok body.toByteArray)
    (htext : s.files data = .ok text.toByteArray) (hvalues : FormValues.ofText text = .ok values) :
    run ⟨config, .render template data⟩ s =
      if (rules.report (rules.formOf body) values).isValid then
        ⟨0, fill body (rules.report (rules.formOf body) values).data, ""⟩
      else
        ⟨1, "", String.join ((rules.report (rules.formOf body) values).messages.map (· ++ "\n"))⟩ := by
  have hperform : perform ⟨config, .render template data⟩ s = render s.files rules template data := by
    unfold perform
    rw [hrules]
    rfl
  unfold run
  rw [hperform]
  unfold render
  rw [readText_eq_ok hbody, readText_eq_ok htext]
  simp only [bind, Except.bind, hvalues]
  by_cases hv : (rules.report (rules.formOf body) values).isValid = true
  · simp only [hv, if_true]
    rfl
  · simp only [hv, Bool.false_eq_true, if_false]
    rfl

/-- The command and the office put the same document together.  Let a template be created from the body that the
command reads, by any author, and let a user who may view it draw a document from the values that the command reads.
The command exits with 0 and writes a text exactly if the user gets a document with that content.  Where the user gets
none, the refusal names the rejections of an invalid form, and the command exits with 1 and writes the messages of the
same rejections, a line for each, and nothing else. -/
theorem run_render_iff_draw {author : User} {request : TemplateRequest} {made : Instant} (id : DocumentId)
    (now : Instant)
    (hrules : ruleset s config = .ok rules) (hbody : s.files template = .ok request.body.toByteArray)
    (htext : s.files data = .ok text.toByteArray) (hvalues : FormValues.ofText text = .ok values)
    (hcreate : Template.create rules author request made = .ok t) (hview : u.may .view (.template t) = true) :
    (∀ content,
      (run ⟨config, .render template data⟩ s).code = 0 ∧ (run ⟨config, .render template data⟩ s).stdout = content ↔
        ∃ d, Document.draw rules u t id values now = .ok d ∧ d.content = content) ∧
    ((∀ d, Document.draw rules u t id values now ≠ .ok d) →
      ∃ rejections, Document.draw rules u t id values now = .error (.invalidForm rejections values) ∧
        run ⟨config, .render template data⟩ s =
          ⟨1, "", String.join (rejections.map fun r => r.message ++ "\n")⟩) := by
  -- the form kept with the template is the form that the command asks for
  obtain ⟨-, organization, -, rfl⟩ := Template.create_eq_ok_iff.1 hcreate
  rw [run_render hrules hbody htext hvalues]
  by_cases hv : (rules.report (rules.formOf request.body) values).isValid = true
  · rw [if_pos hv, Document.draw_eq_ok_iff.2 ⟨hview, hv, rfl⟩]
    refine ⟨fun content => ?_, fun hnone => absurd rfl (hnone _)⟩
    constructor
    · rintro ⟨_, hcontent⟩
      exact ⟨_, rfl, hcontent⟩
    · rintro ⟨d, hd, hcontent⟩
      cases hd
      exact ⟨rfl, hcontent⟩
  · rw [if_neg hv, Document.draw_of_not_isValid hview hv]
    refine ⟨fun content => ?_, fun _ => ⟨_, rfl, ?_⟩⟩
    · constructor
      · rintro ⟨hcode, _⟩
        exact absurd hcode (show (1 : UInt32) ≠ 0 by decide)
      · rintro ⟨d, hd, _⟩
        cases hd
    · rw [Report.messages, List.map_map]
      rfl

end Invocation

end CommandLine

end Agreement

/-! ### A desk

Settings that accept dates from the year 2000 on, the text of a deed, and two files of values for it. -/

namespace Desk

open CommandLine

def rules : Ruleset := ⟨{ Settings.standard with minYear := 2000 }, by decide⟩

def deedBody : String := "Fait le {{date_acte}}"

def valuesText (date : String) : String := "\x7b\"date_acte\": \"" ++ date ++ "\"\x7d"

def surroundings : Surroundings where
  files path :=
    if path = "reglages.json" then .ok "\x7b\"min_year\": 2000\x7d".toByteArray
    else if path = "acte.txt" then .ok deedBody.toByteArray
    else if path = "neuf.json" then .ok (valuesText "2025-01-15").toByteArray
    else if path = "ancien.json" then .ok (valuesText "1999-01-15").toByteArray
    else .error .notFound
  environment _ := none

def written (data : String) : Output := Invocation.run ⟨some "reglages.json", .render "acte.txt" data⟩ surroundings

def values (date : String) : FormValues := Table.ofList [("date_acte", date)]

def request : TemplateRequest := ⟨⟨2⟩, "Acte", none, deedBody, .organization⟩

def deed : Template :=
  ⟨request.id, request.name, request.description, deedBody, rules.formOf deedBody, .organization,
    some SmallOffice.acme, SmallOffice.editor.id, 1, SmallOffice.noon, none⟩

theorem ruleset_eq : ruleset surroundings (some "reglages.json") = .ok rules :=
  ruleset_eq_ok rfl (eq_ok_of_toOption (by decide +kernel))

/-- The deed of 2025 is drawn up as the office does it, and that of 1999 is refused with the message of the office. -/
theorem run_render_deed :
    ((written "neuf.json").code = 0 ∧ (written "neuf.json").stdout = "Fait le 15 janvier 2025") ∧
      written "ancien.json" = ⟨1, "", "field date_acte (Date acte) must have a year between 2000 and 2100\n"⟩ := by
  have hbody : surroundings.files "acte.txt" = .ok request.body.toByteArray := rfl
  have hcreate : Template.create rules SmallOffice.editor request SmallOffice.noon = .ok deed := rfl
  have hview : SmallOffice.editor.may .view (.template deed) = true := by decide
  constructor
  · have hvalues : FormValues.ofText (valuesText "2025-01-15") = .ok (values "2025-01-15") :=
      eq_ok_of_toOption (by decide +kernel)
    have htext : surroundings.files "neuf.json" = .ok (valuesText "2025-01-15").toByteArray := rfl
    have hagree := Invocation.run_render_iff_draw ⟨7⟩ SmallOffice.evening ruleset_eq hbody htext hvalues hcreate hview
    have hvalid : (rules.report deed.form (values "2025-01-15")).isValid = true := by decide +kernel
    exact (hagree.1 _).2 ⟨_, Document.draw_eq_ok_iff.2 ⟨hview, hvalid, rfl⟩, by decide +kernel⟩
  · have hvalues : FormValues.ofText (valuesText "1999-01-15") = .ok (values "1999-01-15") :=
      eq_ok_of_toOption (by decide +kernel)
    have htext : surroundings.files "ancien.json" = .ok (valuesText "1999-01-15").toByteArray := rfl
    have hagree := Invocation.run_render_iff_draw ⟨7⟩ SmallOffice.evening ruleset_eq hbody htext hvalues hcreate hview
    have hinvalid : ¬ (rules.report deed.form (values "1999-01-15")).isValid = true := by decide +kernel
    have hrefused : Document.draw rules SmallOffice.editor deed ⟨7⟩ (values "1999-01-15") SmallOffice.evening =
        .error (.invalidForm (rules.report deed.form (values "1999-01-15")).rejections (values "1999-01-15")) :=
      Document.draw_of_not_isValid hview hinvalid
    obtain ⟨rejections, hdraw, hrun⟩ := hagree.2 fun d hd => nomatch hrefused.symm.trans hd
    cases hrefused.symm.trans hdraw
    exact hrun.trans (by decide +kernel)

end Desk

end Formulary
