import Formulary.Calendar.Instant
import Formulary.Form.Submission
import Formulary.Office.Account
import Formulary.Office.Lifecycle
import Formulary.Template.Variable

/-!
# Templates and documents

The records that an office keeps besides its accounts, and what is asked for to make and to change records.
-/

namespace Formulary

/-- For whom a template is: for everyone, or for its organization. -/
inductive Audience where
  | everyone
  | organization
deriving DecidableEq

namespace Audience

def all : List Audience := [everyone, organization]

def name : Audience → String
  | everyone => "global"
  | organization => "private"

/-- The audience with a given name. -/
def ofName? (name : String) : Option Audience := all.find? (fun a => a.name = name)

theorem ofName?_name (a : Audience) : ofName? a.name = some a := by cases a <;> decide

end Audience

/-- A text with blanks from which documents are made. -/
structure Template where
  id : TemplateId
  name : String
  description : Option String
  body : String
  /-- The questions that the blanks of the body put. -/
  form : List Variable
  audience : Audience
  organization : Option OrganizationId
  creator : UserId
  /-- One at the creation, and one more with each revision. -/
  version : UInt32
  createdAt : Instant
  updatedAt : Option Instant
deriving DecidableEq

/-- A document made from a template. -/
structure Document where
  id : DocumentId
  template : TemplateId
  organization : Option OrganizationId
  creator : UserId
  status : Status
  /-- The values that fill the blanks. -/
  data : FormValues
  /-- The text of the template with its blanks filled. -/
  content : String
  createdAt : Instant
  updatedAt : Option Instant
deriving DecidableEq

/-- What a new template is to be. -/
structure TemplateRequest where
  id : TemplateId
  name : String
  description : Option String
  body : String
  audience : Audience
deriving DecidableEq

/-- What comes in place of the contents of a template. -/
structure TemplateRevision where
  name : String
  description : Option String
  body : String
  audience : Audience
deriving DecidableEq

/-- What a new account is to be. -/
structure AccountRequest where
  id : UserId
  name : String
  email : String
  role : Role
  organization : Option OrganizationId
deriving DecidableEq

/-- What comes in place of the contents of an account. -/
structure AccountRevision where
  name : String
  email : String
  role : Role
  organization : Option OrganizationId
deriving DecidableEq

end Formulary
