import Formulary.Form.Report
import Formulary.Office.Rights

/-!
# Refusals

Why an office refuses what a user asks of it.  What is refused changes nothing.
-/

namespace Formulary

inductive Refusal where
  /-- Values of a form are rejected; the values as given are kept for another try. -/
  | invalidForm (rejections : List Rejection) (submitted : FormValues)
  /-- The lifecycle has no such change of status. -/
  | notPermitted (source target : Status)
  | denied (denial : Denial)
  /-- The user writes no templates. -/
  | noAuthor (actor : UserId)
  /-- A template for an organization needs one. -/
  | noOrganization (actor : UserId)
  /-- The document is past its draft. -/
  | noDraft (document : DocumentId) (status : Status)
  /-- The document was made from another template than the one given. -/
  | otherTemplate (document : DocumentId) (expected found : TemplateId)
  | roleBeyondRank (actor : UserId) (role : Role)
  /-- The account would come to belong to another organization. -/
  | foreignOrganization (user : UserId)
  | ownAccount (actor : UserId)
deriving DecidableEq

def Denial.message (d : Denial) : String :=
  "User " ++ d.actor.uuid.text ++ " may not " ++ d.right.name ++ " this " ++ d.kind.name

/-- What is told of a change of status that the lifecycle does not have. -/
def Status.notPermittedMessage (source target : Status) : String :=
  "Status transition not allowed: " ++ source.name ++ " -> " ++ target.name

def Refusal.message : Refusal → String
  | invalidForm rejections _ =>
    "Submission rejected: " ++ String.ofList (Numeral.ofNat rejections.length) ++ " invalid field(s)"
  | notPermitted source target => Status.notPermittedMessage source target
  | denied denial => denial.message
  | noAuthor actor => "User " ++ actor.uuid.text ++ " holds no template authoring role"
  | noOrganization actor => "Private templates need an organization; user " ++ actor.uuid.text ++ " has none"
  | noDraft document status =>
    "Only drafts can be modified (document " ++ document.uuid.text ++ " is " ++ status.name ++ ")"
  | otherTemplate document expected found =>
    "Document " ++ document.uuid.text ++ " was generated from template " ++ expected.uuid.text ++ ", not "
      ++ found.uuid.text
  | roleBeyondRank actor role => "User " ++ actor.uuid.text ++ " may not grant " ++ role.name
  | foreignOrganization user =>
    "Only a super admin may move user " ++ user.uuid.text ++ " to another organization"
  | ownAccount actor => "User " ++ actor.uuid.text ++ " may not delete their own account"

/-- Refuses with a given refusal if a condition does not hold. -/
def ensure (condition : Bool) (refusal : Refusal) : Except Refusal Unit :=
  if condition then .ok () else .error refusal

theorem ensure_eq_ok_iff {condition : Bool} {refusal : Refusal} :
    ensure condition refusal = .ok () ↔ condition = true := by
  cases condition <;> simp [ensure]

theorem ensure_eq_error_iff {condition : Bool} {refusal r : Refusal} :
    ensure condition refusal = .error r ↔ condition = false ∧ refusal = r := by
  cases condition <;> simp [ensure]

/-- Refuses if a user does not have a right on a record. -/
def User.ensureRight (u : User) (r : Right) (record : Record) : Except Refusal Unit :=
  ensure (u.may r record) (.denied ⟨u.id, r, record.kind⟩)

/-- Refuses a change of status that the lifecycle does not have. -/
def Lifecycle.ensurePermitted (l : Lifecycle) (source target : Status) : Except Refusal Unit :=
  ensure (l.permits source target) (.notPermitted source target)

end Formulary
