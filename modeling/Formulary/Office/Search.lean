import Formulary.Office.Listing

/-!
# Search

Records found by a part of their names, whatever the case of its letters: templates by name and description, documents
by the name of their template, and accounts by name and email address.  Only records that the user may view are found,
and accounts only by admins.
-/

namespace Formulary

/-- The records that a search finds. -/
structure SearchHits where
  documents : List Document
  templates : List Template
  users : List User
deriving DecidableEq

namespace SearchHits

def none : SearchHits := ⟨[], [], []⟩

def total (h : SearchHits) : Nat := h.documents.length + h.templates.length + h.users.length

end SearchHits

namespace Search

/-- The least length of a query. -/
def minLength : Nat := 2

/-- The greatest number of records of one kind that are given. -/
def maxHits : Nat := 10

/-- A query as it is searched for: without white space at its ends, in lower case. -/
def normalize (query : String) : String := Text.lower (Text.trim query)

/-- Whether a normalized query occurs in a text in lower case. -/
def matchesText (query text : String) : Bool := Text.contains (Text.lower text) query

def matchesTemplate (query : String) (t : Template) : Bool :=
  matchesText query t.name || t.description.any (matchesText query)

def matchesUser (query : String) (u : User) : Bool := matchesText query u.name || matchesText query u.email

/-- The name of a template by its identifier; of several templates with one identifier the last counts. -/
def nameOf? (templates : List Template) (id : TemplateId) : Option String :=
  (templates.reverse.find? (fun t => t.id = id)).map Template.name

def matchesDocument (query : String) (templates : List Template) (d : Document) : Bool :=
  (nameOf? templates d.template).any (matchesText query)

/-- The first matching templates, the newest first. -/
def templates (actor : User) (query : String) (templates : List Template) : List Template :=
  (((templates.filter (matchesTemplate query)).filter (fun t => actor.may .view (.template t))).mergeSort
    (fun a b => newerFirst a.createdAt b.createdAt)).take maxHits

/-- The first matching documents, the newest first. -/
def documents (actor : User) (query : String) (templates : List Template) (documents : List Document) :
    List Document :=
  ((Listing.documents actor documents none).filter (matchesDocument query templates)).take maxHits

/-- The first matching accounts, in the order in which they are given; none for a user who is no admin. -/
def users (actor : User) (query : String) (users : List User) : List User :=
  if actor.isAdministrator then
    ((users.filter (matchesUser query)).filter (fun u => actor.may .view (.user u))).take maxHits
  else []

end Search

/-- The records that match a query; a query that is too short matches none. -/
def search (actor : User) (documents : List Document) (templates : List Template) (users : List User)
    (query : String) : SearchHits :=
  let q := Search.normalize query
  if q.length < Search.minLength then SearchHits.none
  else ⟨Search.documents actor q templates documents, Search.templates actor q templates, Search.users actor q users⟩

end Formulary
