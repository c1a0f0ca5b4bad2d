import Formulary.Office.Record

/-!
# Rights

Which user may view or edit which record.  A super admin may do all.  Else a document or template is viewed within its
organization and edited by its creator or an admin of its organization, and accounts are administered by the admins of
their organization.  Besides, a document is viewed by its creator and, in review, edited by the validators of its
organization, and a template for everyone is viewed by everyone.
-/

namespace Formulary

/-- What a user wants to do with a record. -/
inductive Right where
  | view
  | edit
deriving DecidableEq

namespace Right

def all : List Right := [view, edit]

def name : Right → String
  | view => "view"
  | edit => "edit"

def ofName? (name : String) : Option Right := all.find? (fun r => r.name = name)

end Right

/-- The kinds of records on which rights are given. -/
inductive RecordKind where
  | document
  | template
  | user
deriving DecidableEq

namespace RecordKind

def all : List RecordKind := [document, template, user]

def name : RecordKind → String
  | document => "document"
  | template => "template"
  | user => "user"

def ofName? (name : String) : Option RecordKind := all.find? (fun k => k.name = name)

end RecordKind

/-- A record on which a right is asked for. -/
inductive Record where
  | document (d : Document)
  | template (t : Template)
  | user (u : User)

def Record.kind : Record → RecordKind
  | document _ => .document
  | template _ => .template
  | user _ => .user

/-- A right that a user does not have on some record. -/
structure Denial where
  actor : UserId
  right : Right
  kind : RecordKind
deriving DecidableEq

namespace User

def hasOnDocument (u : User) (d : Document) : Right → Bool
  | .view => u.holds .superAdmin || d.creator = u.id || u.belongsTo d.organization
  | .edit =>
    u.holds .superAdmin || d.creator = u.id
      || (u.belongsTo d.organization && (u.holds .adminOrg || (u.holds .validator && d.status = .review)))

def hasOnTemplate (u : User) (t : Template) : Right → Bool
  | .view => u.holds .superAdmin || t.audience = .everyone || u.belongsTo t.organization
  | .edit => u.holds .superAdmin || t.creator = u.id || (u.holds .adminOrg && u.belongsTo t.organization)

/-- Whether a user administers an account; viewing and editing are one right. -/
def administers (u target : User) : Bool :=
  u.holds .superAdmin || (u.holds .adminOrg && u.belongsTo target.organization)

/-- Whether a user has a right on a record. -/
def may (u : User) (r : Right) : Record → Bool
  | .document d => u.hasOnDocument d r
  | .template t => u.hasOnTemplate t r
  | .user target => u.administers target

/-- The denial of a right, unless the user has it. -/
def denial? (u : User) (r : Right) (record : Record) : Option Denial :=
  if u.may r record then none else some ⟨u.id, r, record.kind⟩

end User

end Formulary
