import Formulary.Office.Listing
import Formulary.Proofs.Calendar.Order
import Formulary.Proofs.Sorting
import Mathlib.Data.List.Basic
import Mathlib.Data.List.Sort
import Mathlib.Data.Prod.Lex
import Mathlib.Data.String.Basic

/-!
# The orders of the listings

The three listings sort by the time, the newest first, by the name, and by the name and then the email address.  Each of
these orders is that of a key (`newestFirst_iff`, `Listing.templateLe_iff`, `Listing.accountLe_iff`), so that what holds
of stable sorting holds of them: who may view more records is listed the same records in the same order, with others
between (`Listing.documents_sublist` and the like), and a listing of one status is left of the whole listing
(`Listing.documents_some`).

A listing loses no record that the user may view and shows no other one, and records that compare equal are listed in the
order in which they are given (`Listing.lists_viewable`).
-/

namespace Formulary

theorem newerFirst_iff {a b : Instant} : newerFirst a b = true ↔ b ≤ a := by
  rw [newerFirst, decide_eq_true_iff, Instant.rank_le_rank_iff]

/-- Records that are sorted by their time, the newest first, are sorted by a key. -/
theorem newestFirst_iff {α : Type} (createdAt : α → Instant) (a b : α) :
    newerFirst (createdAt a) (createdAt b) = true ↔ OrderDual.toDual (createdAt a) ≤ OrderDual.toDual (createdAt b) :=
  newerFirst_iff

/-- What is left of some records, the newest first, does not depend on when they are sorted. -/
theorem filter_newestFirst {α : Type} (createdAt : α → Instant) (p : α → Bool) (xs : List α) :
    (xs.mergeSort fun a b => newerFirst (createdAt a) (createdAt b)).filter p =
      (xs.filter p).mergeSort fun a b => newerFirst (createdAt a) (createdAt b) :=
  Sorting.filter_mergeSort (Sorting.trans_of_key (newestFirst_iff createdAt))
    (Sorting.total_of_key (newestFirst_iff createdAt)) p xs

theorem textLe_iff {a b : String} : textLe a b = true ↔ a ≤ b := by
  rw [textLe, Bool.not_eq_true', decide_eq_false_iff_not, String.not_lt]

namespace Listing

theorem templateLe_iff (t t' : Template) : textLe t.name t'.name = true ↔ t.name ≤ t'.name := textLe_iff

/-- The order of accounts by name and then by email address. -/
theorem accountLe_iff (u v : User) :
    (if u.name = v.name then textLe u.email v.email else textLe u.name v.name) = true ↔
      toLex (u.name, u.email) ≤ toLex (v.name, v.email) := by
  rw [Prod.Lex.toLex_le_toLex]
  by_cases h : u.name = v.name
  · simp [h, textLe_iff]
  · rw [if_neg h, textLe_iff, le_iff_lt_or_eq]
    simp [h]

theorem documents_none (u : User) (ds : List Document) :
    documents u ds none =
      (ds.filter fun d => u.may .view (.document d)).mergeSort fun a b => newerFirst a.createdAt b.createdAt := by
  have hall : ds.filter (fun d => (none : Option Status).all (d.status = ·)) = ds :=
    List.filter_eq_self.2 fun _ _ => rfl
  rw [documents, hall]

/-- The listing of one status is what it leaves of the whole listing, in the same order. -/
theorem documents_some (u : User) (ds : List Document) (s : Status) :
    documents u ds (some s) = (documents u ds none).filter fun d => d.status = s := by
  have hsome : ds.filter (fun d => (some s).all (d.status = ·)) = ds.filter fun d => d.status = s := rfl
  rw [documents_none, documents, hsome, List.filter_comm, filter_newestFirst]

/-- The listing has those of the documents that the user may view. -/
theorem countP_documents (u : User) (ds : List Document) (p : Document → Bool) :
    (documents u ds none).countP p = ds.countP fun d => u.may .view (.document d) && p d := by
  rw [documents_none, (List.mergeSort_perm _ _).countP_eq, List.countP_filter]
  exact List.countP_congr fun d _ => by rw [Bool.and_comm]

/-! ### Who may view more is listed more -/

section View

variable {u v : User} (h : ∀ record, u.may .view record = true → v.may .view record = true)

include h

theorem documents_sublist (ds : List Document) (status : Option Status) :
    (documents u ds status).Sublist (documents v ds status) := by
  unfold documents
  have hle := newestFirst_iff Document.createdAt
  refine Sorting.mergeSort_sublist_mergeSort (Sorting.trans_of_key hle) (Sorting.total_of_key hle) ?_
  exact List.monotone_filter_right _ fun d => h (.document d)

theorem templates_sublist (ts : List Template) : (templates u ts).Sublist (templates v ts) := by
  unfold templates
  refine Sorting.mergeSort_sublist_mergeSort (Sorting.trans_of_key templateLe_iff)
    (Sorting.total_of_key templateLe_iff) ?_
  exact List.monotone_filter_right _ fun t => h (.template t)

theorem users_sublist (us : List User) : (users u us).Sublist (users v us) := by
  unfold users
  refine Sorting.mergeSort_sublist_mergeSort (Sorting.trans_of_key accountLe_iff)
    (Sorting.total_of_key accountLe_iff) ?_
  exact List.monotone_filter_right _ fun w => h (.user w)

end View

end Listing

/-! ### What is listed -/

/-- A way to list records: all those that pass a test and no others, by a key, those with one key as they are given. -/
structure ListsBy {α κ : Type} [LinearOrder κ] (keep : α → Bool) (key : α → κ) (listing : List α → List α) : Prop where
  /-- Each record that passes is listed as often as it is given, and no other one is. -/
  perm (xs : List α) : (listing xs).Perm (xs.filter keep)
  sorted (xs : List α) : ((listing xs).map key).SortedLE
  /-- Those with one key are listed in the order in which they are given. -/
  stable (xs : List α) (k : κ) : (listing xs).filter (fun x => key x = k) = (xs.filter keep).filter (fun x => key x = k)
  /-- Records that do not pass make no difference. -/
  congr {xs ys : List α} (h : xs.filter keep = ys.filter keep) : listing xs = listing ys
  /-- The order in which the records are given makes a difference only among those with one key. -/
  permute {xs ys : List α} (h : xs.Perm ys) :
    (listing xs).Perm (listing ys) ∧ (listing xs).map key = (listing ys).map key

/-- Sorting what passes lists it by the key that the order compares. -/
theorem ListsBy.of_mergeSort {α κ : Type} [LinearOrder κ] {keep : α → Bool} {key : α → κ} {le : α → α → Bool}
    (hle : ∀ a b, le a b = true ↔ key a ≤ key b) : ListsBy keep key fun xs => (xs.filter keep).mergeSort le := by
  have perm (xs : List α) : ((xs.filter keep).mergeSort le).Perm (xs.filter keep) := List.mergeSort_perm _ _
  have sorted (xs : List α) : (((xs.filter keep).mergeSort le).map key).SortedLE := by
    rw [List.sortedLE_iff_pairwise, List.pairwise_map]
    exact Sorting.pairwise_key hle _
  refine ⟨perm, sorted, fun xs k => ?_, fun h => by rw [h], fun {xs ys} h => ?_⟩
  · refine Sorting.filter_mergeSort_of_tied (Sorting.trans_of_key hle) (Sorting.total_of_key hle) (fun a b ha hb => ?_) _
    rw [hle, of_decide_eq_true ha, of_decide_eq_true hb]
  · have hperm := ((perm xs).trans (h.filter keep)).trans (perm ys).symm
    exact ⟨hperm, (hperm.map key).eq_of_sortedLE (sorted xs) (sorted ys)⟩

/-- The documents are listed by their time, the newest first, the templates by their name, and the accounts by their
name and then by their email address. -/
theorem Listing.lists_viewable (u : User) :
    (∀ status : Option Status, ListsBy (fun d => u.may .view (.document d) && status.all (d.status = ·))
        (fun d => OrderDual.toDual d.createdAt) fun ds => documents u ds status) ∧
      ListsBy (fun t => u.may .view (.template t)) (fun t => t.name) (templates u) ∧
      ListsBy (fun v => u.may .view (.user v)) (fun v => toLex (v.name, v.email)) (users u) := by
  refine ⟨fun status => ?_, ListsBy.of_mergeSort templateLe_iff, ListsBy.of_mergeSort accountLe_iff⟩
  simp only [documents, List.filter_filter]
  exact ListsBy.of_mergeSort (newestFirst_iff Document.createdAt)

end Formulary
