import Formulary.Office.Administration
import Formulary.Office.Drafting

/-!
# Offices

An office holds accounts, templates and documents, and performs the steps that its users ask for, one after the other.
The user who asks for a step is looked up in the office as it is before the step; of several records with one identifier
the first is meant.  A step that fails leaves the office as it is.
-/

namespace Formulary

/-- The records of an office and the rules by which it works. -/
structure Office where
  rules : Ruleset
  lifecycle : Lifecycle
  users : List User
  templates : List Template
  documents : List Document

/-- What a user asks of an office. -/
inductive Step where
  | addTemplate (actor : UserId) (request : TemplateRequest) (now : Instant)
  | reviseTemplate (actor : UserId) (template : TemplateId) (revision : TemplateRevision) (now : Instant)
  | drawDocument (actor : UserId) (template : TemplateId) (id : DocumentId) (values : FormValues) (now : Instant)
  | refillDocument (actor : UserId) (document : DocumentId) (template : TemplateId) (values : FormValues)
      (now : Instant)
  | moveDocument (actor : UserId) (document : DocumentId) (status : Status) (now : Instant)
  | removeDocument (actor : UserId) (document : DocumentId)
  | addUser (actor : UserId) (request : AccountRequest)
  | reviseUser (actor : UserId) (target : UserId) (revision : AccountRevision)
  | removeUser (actor : UserId) (target : UserId)

/-- Who asks for a step. -/
def Step.actor : Step → UserId
  | addTemplate actor .. | reviseTemplate actor .. | drawDocument actor .. | refillDocument actor ..
  | moveDocument actor .. | removeDocument actor .. | addUser actor .. | reviseUser actor .. | removeUser actor .. =>
    actor

/-- What a step gives: the record that it made or changed, or how many records are left. -/
inductive Answer where
  | template (t : Template)
  | document (d : Document)
  | user (u : User)
  | documentsLeft (count : Nat)
  | usersLeft (count : Nat)
deriving DecidableEq

/-- Why a step fails. -/
inductive StepError where
  /-- An identifier names no record of the office. -/
  | unknownRecord
  | refused (refusal : Refusal)
deriving DecidableEq

/-- The list with `a` in place of the first item that passes a test. -/
def replaceFirst {α : Type} (test : α → Bool) (a : α) : List α → List α
  | [] => []
  | x :: xs => if test x then a :: xs else x :: replaceFirst test a xs

namespace Office

def user? (o : Office) (id : UserId) : Option User := o.users.find? (fun u => u.id = id)

def template? (o : Office) (id : TemplateId) : Option Template := o.templates.find? (fun t => t.id = id)

def document? (o : Office) (id : DocumentId) : Option Document := o.documents.find? (fun d => d.id = id)

def putUser (o : Office) (id : UserId) (u : User) : Office :=
  { o with users := replaceFirst (fun v => v.id = id) u o.users }

def putTemplate (o : Office) (id : TemplateId) (t : Template) : Office :=
  { o with templates := replaceFirst (fun s => s.id = id) t o.templates }

def putDocument (o : Office) (id : DocumentId) (d : Document) : Office :=
  { o with documents := replaceFirst (fun e => e.id = id) d o.documents }

/-- A record that is looked up, or the failure of the step. -/
def found {α : Type} : Option α → Except StepError α
  | some a => .ok a
  | none => .error .unknownRecord

theorem found_eq_ok_iff {α : Type} {o : Option α} {a : α} : found o = .ok a ↔ o = some a := by
  cases o <;> simp [found]

/-- What an operation on a record gives, or its refusal as the failure of the step. -/
def allowed {α : Type} : Except Refusal α → Except StepError α
  | .ok a => .ok a
  | .error r => .error (.refused r)

theorem allowed_eq_ok_iff {α : Type} {e : Except Refusal α} {a : α} : allowed e = .ok a ↔ e = .ok a := by
  cases e <;> simp [allowed]

/-- The office after a step and what the step gives. -/
def perform (o : Office) (s : Step) : Except StepError (Office × Answer) := do
  let actor ← found (o.user? s.actor)
  match s with
  | .addTemplate _ request now =>
    let t ← allowed (Template.create o.rules actor request now)
    return ({ o with templates := o.templates ++ [t] }, .template t)
  | .reviseTemplate _ template revision now =>
    let t ← found (o.template? template)
    let t ← allowed (t.revise o.rules actor revision now)
    return (o.putTemplate template t, .template t)
  | .drawDocument _ template id values now =>
    let t ← found (o.template? template)
    let d ← allowed (Document.draw o.rules actor t id values now)
    return ({ o with documents := o.documents ++ [d] }, .document d)
  | .refillDocument _ document template values now =>
    let t ← found (o.template? template)
    let d ← found (o.document? document)
    let d ← allowed (d.refill o.rules actor t values now)
    return (o.putDocument document d, .document d)
  | .moveDocument _ document status now =>
    let d ← found (o.document? document)
    let d ← allowed (d.move o.lifecycle actor status now)
    return (o.putDocument document d, .document d)
  | .removeDocument _ document =>
    let d ← found (o.document? document)
    allowed (d.ensureRemovable actor)
    let left := o.documents.filter (fun e => e.id ≠ document)
    return ({ o with documents := left }, .documentsLeft left.length)
  | .addUser _ request =>
    let u ← allowed (actor.create request)
    return ({ o with users := o.users ++ [u] }, .user u)
  | .reviseUser _ target revision =>
    let u ← found (o.user? target)
    let u ← allowed (actor.revise u revision)
    return (o.putUser target u, .user u)
  | .removeUser _ target =>
    let u ← found (o.user? target)
    allowed (actor.ensureRemovable u)
    let left := o.users.filter (fun v => v.id ≠ target)
    return ({ o with users := left }, .usersLeft left.length)

/-- The office after a step, whether it succeeds or fails, and the outcome. -/
def step (o : Office) (s : Step) : Office × Except StepError Answer :=
  match o.perform s with
  | .ok (o', answer) => (o', .ok answer)
  | .error e => (o, .error e)

/-- The office after some steps. -/
def run (o : Office) (steps : List Step) : Office := steps.foldl (fun o s => (o.step s).1) o

end Office

end Formulary
