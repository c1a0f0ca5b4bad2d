import Formulary.Proofs.Counting
import Formulary.Proofs.Office.Listing

/-!
# The dashboard and the listings

The dashboard is drawn up from one listing of all documents, the listings of single statuses are drawn up each for
itself.  They agree, since a status leaves the same documents of a listing whether they are left out before or after the
sorting, also where documents have been made at one time.
-/

namespace Formulary

theorem Status.nodup_all : Status.all.Nodup := by decide

namespace Dashboard

/-- A dashboard that tells the same as the listings for a user. -/
structure Agrees (actor : User) (documents : List Document) (templates : List Template) (b : Dashboard) : Prop where
  total_eq : b.total = (Listing.documents actor documents none).length
  total_eq_sum : b.total = (b.byStatus.map Prod.snd).sum
  statuses_eq : b.byStatus.map Prod.fst = [.draft, .review, .approved, .signed, .archived]
  count_eq : ∀ s, b.count s = (Listing.documents actor documents (some s)).length
  toReview_eq : b.toReview = (Listing.documents actor documents (some .review)).map Document.id
  toSign_eq : b.toSign = (Listing.documents actor documents (some .approved)).map Document.id
  recent_eq : b.recent = ((Listing.documents actor documents none).take (min 5 b.total)).map Document.id
  templates_eq : b.templates = (Listing.templates actor templates).length

variable {actor : User} {documents : List Document} {templates : List Template}

theorem byStatus_eq :
    (ofRecords actor documents templates).byStatus =
      Status.all.map fun s => (s, (Listing.documents actor documents none).countP fun d => d.status = s) := by
  refine List.map_congr_left fun s _ => congrArg (Prod.mk s) ?_
  rw [List.countP_eq_length_filter]

theorem count_eq (s : Status) :
    (ofRecords actor documents templates).count s = (Listing.documents actor documents (some s)).length := by
  rw [Listing.documents_some, count]
  cases s <;> rfl

theorem total_eq_sum : (ofRecords actor documents templates).total =
    ((ofRecords actor documents templates).byStatus.map Prod.snd).sum := by
  have hall : ∀ d ∈ Listing.documents actor documents none, decide (d.status ∈ Status.all) = true :=
    fun d _ => decide_eq_true d.status.mem_all
  calc (ofRecords actor documents templates).total
      = (Listing.documents actor documents none).countP fun d => d.status ∈ Status.all :=
        (List.countP_eq_length.2 hall).symm
    _ = (Status.all.map fun s => (Listing.documents actor documents none).countP fun d => d.status = s).sum :=
        (Counting.sum_countP Status.nodup_all _).symm
    _ = ((ofRecords actor documents templates).byStatus.map Prod.snd).sum := by
        rw [byStatus_eq, List.map_map]
        rfl

theorem recent_eq : (ofRecords actor documents templates).recent =
    ((Listing.documents actor documents none).take (min 5 (ofRecords actor documents templates).total)).map
      Document.id :=
  congrArg (List.map Document.id) List.take_eq_take_min

/-- The counts of the statuses are those of one pass through the documents that starts with nothing under each status,
and the dashboard agrees with the listings. -/
theorem ofRecords_agrees (actor : User) (documents : List Document) (templates : List Template) :
    (Listing.documents actor documents none).foldl (fun counts d => Counting.add d.status counts)
        (Status.all.map fun s => (s, 0)) = (ofRecords actor documents templates).byStatus ∧
      Agrees actor documents templates (ofRecords actor documents templates) := by
  refine ⟨?_, rfl, total_eq_sum, rfl, count_eq, ?_, ?_, recent_eq, rfl⟩
  · rw [Counting.foldl_add Status.nodup_all, byStatus_eq]
    simp only [Nat.zero_add]
  · rw [Listing.documents_some]
    rfl
  · rw [Listing.documents_some]
    rfl

end Dashboard

end Formulary
