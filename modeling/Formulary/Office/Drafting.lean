import Formulary.Office.Refusal
import Formulary.Template.Filling

/-!
# Work on templates and documents

What a user does with one template or document: each operation checks all that it asks for and then gives the record as
it is afterwards, or a refusal.
-/

namespace Formulary

/-- The organization that a template gets: none if it is for everyone, else the one it has or else that of the user. -/
def Audience.owner (a : Audience) (actor : User) (current : Option OrganizationId) :
    Except Refusal (Option OrganizationId) :=
  match a with
  | .everyone => .ok none
  | .organization =>
    match current.or actor.organization with
    | some owner => .ok (some owner)
    | none => .error (.noOrganization actor.id)

namespace Template

/-- A template that a user writes. -/
def create (rules : Ruleset) (actor : User) (request : TemplateRequest) (now : Instant) :
    Except Refusal Template := do
  ensure actor.isAuthor (.noAuthor actor.id)
  let organization ← request.audience.owner actor none
  return {
    id := request.id
    name := request.name
    description := request.description
    body := request.body
    form := rules.formOf request.body
    audience := request.audience
    organization
    creator := actor.id
    version := 1
    createdAt := now
    updatedAt := none }

/-- A template with other contents. -/
def revise (rules : Ruleset) (actor : User) (t : Template) (revision : TemplateRevision) (now : Instant) :
    Except Refusal Template := do
  ensure actor.isAuthor (.noAuthor actor.id)
  actor.ensureRight .edit (.template t)
  let organization ← revision.audience.owner actor t.organization
  return { t with
    name := revision.name
    description := revision.description
    body := revision.body
    form := rules.formOf revision.body
    audience := revision.audience
    organization
    version := t.version + 1
    updatedAt := some now }

/-- The accepted values of a form and the body with its blanks filled by them. -/
def fillIn (rules : Ruleset) (t : Template) (values : FormValues) : Except Refusal (FormValues × String) :=
  let report := rules.report t.form values
  if report.isValid then .ok (report.data, fill t.body report.data)
  else .error (.invalidForm report.rejections values)

end Template

namespace Document

/-- Refuses to change a document that is not a draft. -/
def ensureDraft (d : Document) : Except Refusal Unit := ensure (d.status = .draft) (.noDraft d.id d.status)

/-- A draft from a template and the values of its form. -/
def draw (rules : Ruleset) (actor : User) (t : Template) (id : DocumentId) (values : FormValues) (now : Instant) :
    Except Refusal Document := do
  actor.ensureRight .view (.template t)
  let (data, content) ← t.fillIn rules values
  return {
    id
    template := t.id
    organization := actor.organization
    creator := actor.id
    status := .draft
    data
    content
    createdAt := now
    updatedAt := none }

/-- A draft filled in again with other values. -/
def refill (rules : Ruleset) (actor : User) (d : Document) (t : Template) (values : FormValues) (now : Instant) :
    Except Refusal Document := do
  actor.ensureRight .edit (.document d)
  d.ensureDraft
  ensure (d.template = t.id) (.otherTemplate d.id d.template t.id)
  let (data, content) ← t.fillIn rules values
  return { d with data, content, updatedAt := some now }

/-- A document with another status. -/
def move (lifecycle : Lifecycle) (actor : User) (d : Document) (status : Status) (now : Instant) :
    Except Refusal Document := do
  actor.ensureRight .edit (.document d)
  lifecycle.ensurePermitted d.status status
  return { d with status, updatedAt := some now }

/-- Refuses to remove a document that the user may not edit or that is not a draft. -/
def ensureRemovable (actor : User) (d : Document) : Except Refusal Unit := do
  actor.ensureRight .edit (.document d)
  d.ensureDraft

end Document

end Formulary
