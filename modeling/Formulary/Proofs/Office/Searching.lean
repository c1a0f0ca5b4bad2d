import Formulary.Office.Search
import Formulary.Proofs.Office.Run
import Mathlib.Data.List.Find
import Mathlib.Data.List.Nodup

/-!
# What a search tells of hidden records

Two collections of records look the same to a user who may view the same records of them.  A search gives the user the
same templates and the same accounts of both.  It does not ask for the right to view a template where it finds a
document by the name of its template, so that it tells two such collections apart exactly when a document that the user
may view has a hidden template, by whose name it is among the first hits in one of them and no hit in the other
(`search_of_same_view`).
-/

namespace Formulary

namespace Search

/-! ### The first records that pass a test -/

section First

variable {α : Type} {p q : α → Bool} {x : α} {n : Nat} {l : List α}

private theorem take_filter_cons_ne (hp : p x = true) (hq : q x = false) :
    ((x :: l).filter p).take (n + 1) ≠ ((x :: l).filter q).take (n + 1) := by
  intro he
  rw [List.filter_cons_of_pos hp, List.take_succ_cons] at he
  have hmem : x ∈ (x :: l).filter q := List.mem_of_mem_take (he ▸ List.mem_cons_self)
  rw [(List.mem_filter.1 hmem).2] at hq
  cases hq

private theorem exists_split_cons_iff {P : List α → α → Prop} :
    (∃ before a after, x :: l = before ++ a :: after ∧ P before a) ↔
      P [] x ∨ ∃ before a after, l = before ++ a :: after ∧ P (x :: before) a := by
  constructor
  · rintro ⟨before, a, after, hl, ha⟩
    cases before with
    | nil =>
      obtain ⟨rfl, _⟩ := List.cons.inj hl
      exact .inl ha
    | cons y before =>
      obtain ⟨rfl, htail⟩ := List.cons.inj hl
      exact .inr ⟨before, a, after, htail, ha⟩
  · rintro (hx | ⟨before, a, after, rfl, ha⟩)
    · exact ⟨[], x, l, rfl, hx⟩
    · exact ⟨x :: before, a, after, rfl, ha⟩

/-- Two tests pick different first records of a list if and only if they differ on a record before which fewer records
pass than are picked. -/
theorem take_filter_ne_iff (n : Nat) (l : List α) :
    (l.filter p).take n ≠ (l.filter q).take n ↔
      ∃ before a after, l = before ++ a :: after ∧ (before.filter p).length < n ∧ p a ≠ q a := by
  induction l generalizing n with
  | nil => simp
  | cons x l ih =>
    rw [exists_split_cons_iff]
    cases n with
    | zero => simp
    | succ n =>
      cases hp : p x <;> cases hq : q x
      · simp [hp, hq, ih (n + 1)]
      · have hne := take_filter_cons_ne (n := n) (l := l) hq hp
        exact iff_of_true hne.symm (.inl ⟨Nat.succ_pos n, by simp⟩)
      · have hne := take_filter_cons_ne (n := n) (l := l) hp hq
        exact iff_of_true hne (.inl ⟨Nat.succ_pos n, by simp⟩)
      · simp [hp, hq, ih n]

end First

/-! ### Names of templates -/

variable {u : User} {q : String} {ts ts' : List Template} {us us' : List User} {d : Document}

theorem nameOf?_filter {id : TemplateId} {p : Template → Bool} (h : ∀ t ∈ ts, t.id = id → p t = true) :
    nameOf? (ts.filter p) id = nameOf? ts id := by
  unfold nameOf?
  rw [← List.filter_reverse, List.find?_filter]
  congr 1
  refine List.find?_congr fun t ht => ?_
  by_cases hid : t.id = id
  · simp [hid, h t (List.mem_reverse.1 ht) hid]
  · simp [hid]

/-- Where the viewable templates are the same, only the name of a hidden template tells two collections apart. -/
theorem exists_hidden_of_matchesDocument_ne
    (templates : ts.filter (fun t => u.may .view (.template t)) = ts'.filter (fun t => u.may .view (.template t)))
    (hne : matchesDocument q ts d ≠ matchesDocument q ts' d) :
    ∃ t ∈ ts ++ ts', t.id = d.template ∧ u.may .view (.template t) = false := by
  by_contra hnone
  have hview : ∀ t ∈ ts ++ ts', t.id = d.template → u.may .view (.template t) = true := by
    intro t ht hid
    by_contra hview
    exact hnone ⟨t, ht, hid, Bool.eq_false_iff.2 hview⟩
  have hname : nameOf? ts d.template = nameOf? ts' d.template := by
    rw [← nameOf?_filter fun t ht => hview t (List.mem_append_left _ ht), templates,
      nameOf?_filter fun t ht => hview t (List.mem_append_right _ ht)]
  exact hne (by rw [matchesDocument, hname, matchesDocument])

/-! ### Collections that look the same -/

theorem templates_congr
    (h : ts.filter (fun t => u.may .view (.template t)) = ts'.filter (fun t => u.may .view (.template t))) :
    templates u q ts = templates u q ts' := by
  unfold templates
  rw [List.filter_comm, h, List.filter_comm]

theorem users_congr (h : us.filter (fun v => u.may .view (.user v)) = us'.filter (fun v => u.may .view (.user v))) :
    users u q us = users u q us' := by
  unfold users
  rw [List.filter_comm, h, List.filter_comm]

end Search

theorem Listing.documents_congr {u : User} {ds ds' : List Document}
    (h : ds.filter (fun d => u.may .view (.document d)) = ds'.filter (fun d => u.may .view (.document d)))
    (status : Option Status) : documents u ds status = documents u ds' status := by
  unfold documents
  rw [List.filter_comm, h, List.filter_comm]

/-- A document that the user may view is found among some templates and not among others, and it is not preceded by as
many hits as a search gives; its template is hidden from the user. -/
def Search.TellsApart (u : User) (query : String) (ds : List Document) (ts ts' : List Template) : Prop :=
  minLength ≤ (normalize query).length ∧
    ∃ newer d older, Listing.documents u ds none = newer ++ d :: older ∧
      (newer.filter (matchesDocument (normalize query) ts)).length < maxHits ∧
      matchesDocument (normalize query) ts d ≠ matchesDocument (normalize query) ts' d ∧
      ∃ t ∈ ts ++ ts', t.id = d.template ∧ u.may .view (.template t) = false

section SameView

variable {u : User} {ds ds' : List Document} {ts ts' : List Template} {us us' : List User}
  (documents : ds.filter (fun d => u.may .view (.document d)) = ds'.filter (fun d => u.may .view (.document d)))
  (templates : ts.filter (fun t => u.may .view (.template t)) = ts'.filter (fun t => u.may .view (.template t)))
  (users : us.filter (fun v => u.may .view (.user v)) = us'.filter (fun v => u.may .view (.user v)))

include documents templates

theorem Search.documents_ne_iff {q : String} :
    Search.documents u q ts ds ≠ Search.documents u q ts' ds' ↔
      ∃ newer d older, Listing.documents u ds none = newer ++ d :: older ∧
        (newer.filter (matchesDocument q ts)).length < maxHits ∧
        matchesDocument q ts d ≠ matchesDocument q ts' d ∧
        ∃ t ∈ ts ++ ts', t.id = d.template ∧ u.may .view (.template t) = false := by
  unfold Search.documents
  rw [← Listing.documents_congr documents none, take_filter_ne_iff]
  constructor
  · rintro ⟨newer, d, older, hl, hfew, hne⟩
    exact ⟨newer, d, older, hl, hfew, hne, exists_hidden_of_matchesDocument_ne templates hne⟩
  · rintro ⟨newer, d, older, hl, hfew, hne, _⟩
    exact ⟨newer, d, older, hl, hfew, hne⟩

include users

/-- Of two collections that look the same to a user a search gives the same templates and accounts, and it tells them
apart if and only if it finds a document by the name of a template that is hidden from the user. -/
theorem search_of_same_view (query : String) :
    (search u ds ts us query).templates = (search u ds' ts' us' query).templates ∧
      (search u ds ts us query).users = (search u ds' ts' us' query).users ∧
      (search u ds ts us query ≠ search u ds' ts' us' query ↔ Search.TellsApart u query ds ts ts') := by
  have htemplates := Search.templates_congr (q := Search.normalize query) templates
  have husers := Search.users_congr (q := Search.normalize query) users
  unfold search Search.TellsApart
  by_cases hshort : (Search.normalize query).length < Search.minLength
  · simp [hshort, Nat.not_le.2 hshort]
  · simp only [hshort, if_false, htemplates, husers, Nat.not_lt.1 hshort, true_and]
    rw [← Search.documents_ne_iff documents templates, Ne, SearchHits.mk.injEq]
    simp only [and_true, ne_eq]

end SameView

/-! The editor has a lease of a template that is for another organization by now, and finds it by the new name of the
template. -/

section Merger

open SmallOffice

def merger : Template :=
  { lease with name := "Projet de fusion", organization := owner.organization, creator := owner.id }

def drawnLease : Document :=
  ⟨⟨1⟩, lease.id, some acme, editor.id, .draft, tenant "SCI Horizon", "Bail de SCI Horizon", noon, none⟩

theorem merger_tells_apart :
    [drawnLease].filter (fun d => editor.may .view (.document d)) =
        [drawnLease].filter (fun d => editor.may .view (.document d)) ∧
      [merger].filter (fun t => editor.may .view (.template t)) =
        [].filter (fun t => editor.may .view (.template t)) ∧
      [editor].filter (fun v => editor.may .view (.user v)) = [editor].filter (fun v => editor.may .view (.user v)) ∧
      search editor [drawnLease] [merger] [editor] " FUSION" ≠ search editor [drawnLease] [] [editor] " FUSION" := by
  have hidden : [merger].filter (fun t => editor.may .view (.template t)) =
      [].filter (fun t => editor.may .view (.template t)) := by decide
  have htells : Search.TellsApart editor " FUSION" [drawnLease] [merger] [] :=
    ⟨by decide +kernel, [], drawnLease, [], by decide +kernel, by decide +kernel, by decide +kernel,
      merger, List.mem_cons_self, rfl, by decide⟩
  exact ⟨rfl, hidden, rfl, (search_of_same_view rfl hidden rfl " FUSION").2.2.2 htells⟩

end Merger

end Formulary
