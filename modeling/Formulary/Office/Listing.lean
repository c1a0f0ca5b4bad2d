import Formulary.Calendar.French
import Formulary.Office.Rights

/-!
# Listings

What a user sees of the records of an office: lists of the records that the user may view, a summary of the documents,
and how many documents were made in each of the last months.  Sorting keeps the order of records that compare equal.
-/

namespace Formulary

/-- Whether `a` is not earlier than `b`. -/
def newerFirst (a b : Instant) : Bool := b.rank ≤ a.rank

/-- Whether `a` does not come after `b` in the order of code points. -/
def textLe (a b : String) : Bool := !decide (b < a)

namespace Listing

/-! ### Lists -/

/-- The documents that a user may view, of one status if one is given, the newest first. -/
def documents (actor : User) (documents : List Document) (status : Option Status) : List Document :=
  ((documents.filter (fun d => status.all (d.status = ·))).filter (fun d => actor.may .view (.document d))).mergeSort
    (fun a b => newerFirst a.createdAt b.createdAt)

/-- The templates that a user may view, by name. -/
def templates (actor : User) (templates : List Template) : List Template :=
  (templates.filter (fun t => actor.may .view (.template t))).mergeSort (fun a b => textLe a.name b.name)

/-- The accounts that a user administers, by name and then by email address. -/
def users (actor : User) (users : List User) : List User :=
  (users.filter (fun u => actor.may .view (.user u))).mergeSort
    (fun a b => if a.name = b.name then textLe a.email b.email else textLe a.name b.name)

end Listing

/-! ### Summary -/

/-- How many documents of each status there are, and short lists of them. -/
structure Dashboard where
  total : Nat
  byStatus : List (Status × Nat)
  templates : Nat
  recent : List DocumentId
  toReview : List DocumentId
  toSign : List DocumentId
deriving DecidableEq

namespace Dashboard

/-- How many documents are listed as recent. -/
def recentCount : Nat := 5

/-- The dashboard of a user. -/
def ofRecords (actor : User) (documents : List Document) (templates : List Template) : Dashboard :=
  let visible := Listing.documents actor documents none
  let withStatus (s : Status) := visible.filter (fun d => d.status = s)
  { total := visible.length
    byStatus := Status.all.map (fun s => (s, (withStatus s).length))
    templates := (Listing.templates actor templates).length
    recent := (visible.take recentCount).map Document.id
    toReview := (withStatus .review).map Document.id
    toSign := (withStatus .approved).map Document.id }

/-- How many documents have a status. -/
def count (b : Dashboard) (s : Status) : Nat := (b.byStatus.lookup s).getD 0

end Dashboard

/-! ### Activity -/

/-- How many documents were made in a month. -/
structure Tally where
  month : Month
  count : Nat
deriving DecidableEq

def Tally.label (t : Tally) : String := French.shortMonth t.month

namespace Activity

/-- The greatest number of months that are told, ten years. -/
def maxMonths : Nat := 120

/-- The given number of months up to one, the oldest first, as far as the calendar reaches back. -/
def monthsUpTo (last : Month) (count : Nat) : List Month :=
  (((List.range count).reverse).map (fun (back : Nat) => Month.ofIndex (last.index - back))).filter
    (fun m => firstYear ≤ m.year)

/-- How many of the documents that a user may view were made in each of the last months, the oldest first. -/
def tallies (actor : User) (documents : List Document) (today : Date) (months : Nat) : List Tally :=
  let visible := Listing.documents actor documents none
  (monthsUpTo today.inMonth (min months maxMonths)).map fun m =>
    ⟨m, (visible.filter (fun d => d.createdAt.date.inMonth = m)).length⟩

end Activity

end Formulary
