import Formulary.Office.Search
import Formulary.Proofs.Office.Identifiers
import Formulary.Proofs.Office.Listing
import Formulary.Proofs.Office.Run
import Mathlib.Data.List.Perm.Subperm

/-!
# What a search finds

A record matches a query if the query is a part of one of its texts in lower case; for a document this is the name of
its template.  Of the records that match and that the user may view a search picks at most ten of each kind, and all of
them if there are fewer: the newest templates and documents, and the accounts that are given first
(`Search.search_finds`).  The three kinds are filtered, sorted and cut in different orders, which makes no difference,
since sorting goes together with leaving records out.
-/

namespace Formulary

/-! ### Picking some of the hits -/

/-- Of the hits at most `n` are picked, each one no more often than it is given, and all if fewer than `n` are. -/
structure Picks {α : Type} (n : Nat) (hits picked : List α) : Prop where
  length_le : picked.length ≤ n
  subperm : picked.Subperm hits
  perm_of_lt : picked.length < n → picked.Perm hits

/-- The newest of the hits are picked, and they come in the order of time. -/
structure PicksNewest {α : Type} (createdAt : α → Instant) (n : Nat) (hits picked : List α) : Prop
    extends Picks n hits picked where
  newestFirst : picked.Pairwise fun a b => createdAt b ≤ createdAt a
  /-- No hit that is left out is newer than one that is picked. -/
  omitted_le : ∃ omitted, (picked ++ omitted).Perm hits ∧ ∀ a ∈ picked, ∀ b ∈ omitted, createdAt b ≤ createdAt a

section Picks

variable {α : Type} {n : Nat} {hits picked sorted : List α} {a : α}

theorem Picks.of_take (h : sorted.Perm hits) : Picks n hits (sorted.take n) where
  length_le := List.length_take_le n sorted
  subperm := (List.take_sublist n sorted).subperm.trans h.subperm
  perm_of_lt hlt := by
    rw [List.length_take] at hlt
    rwa [List.take_of_length_le (by omega)]

theorem PicksNewest.of_mergeSort (createdAt : α → Instant) (n : Nat) (hits : List α) :
    PicksNewest createdAt n hits ((hits.mergeSort fun a b => newerFirst (createdAt a) (createdAt b)).take n) := by
  have hperm := List.mergeSort_perm hits fun a b => newerFirst (createdAt a) (createdAt b)
  have hsorted : (hits.mergeSort fun a b => newerFirst (createdAt a) (createdAt b)).Pairwise
      fun a b => createdAt b ≤ createdAt a := Sorting.pairwise_key (newestFirst_iff createdAt) hits
  rw [← List.take_append_drop n (hits.mergeSort _), List.pairwise_append] at hsorted
  refine ⟨.of_take hperm, hsorted.1, _, ?_, hsorted.2.2⟩
  rwa [List.take_append_drop]

/-- A hit is picked unless `n` others are. -/
theorem Picks.mem_or_full [DecidableEq α] (h : Picks n hits picked) (ha : a ∈ hits) :
    a ∈ picked ∨ picked.length = n ∧ picked.Subperm (hits.filter (· ≠ a)) := by
  by_cases hmem : a ∈ picked
  · exact .inl hmem
  · refine .inr ⟨?_, ?_⟩
    · by_contra hne
      have hlt := Nat.lt_of_le_of_ne h.length_le hne
      exact hmem ((h.perm_of_lt hlt).mem_iff.2 ha)
    · have hpicked : picked.filter (· ≠ a) = picked := by
        refine List.filter_eq_self.2 fun b hb => decide_eq_true ?_
        rintro rfl
        exact hmem hb
      exact hpicked ▸ h.subperm.filter _

end Picks

/-! ### Records that match -/

/-- Whether a query is a part of a text in lower case. -/
def Search.Matches (query text : String) : Prop := query.toList <:+: (Text.lower text).toList

def Template.Matches (query : String) (t : Template) : Prop :=
  Search.Matches query t.name ∨ ∃ text ∈ t.description, Search.Matches query text

def Document.Matches (query : String) (templates : List Template) (d : Document) : Prop :=
  ∃ t ∈ templates, t.id = d.template ∧ Search.Matches query t.name

def User.Matches (query : String) (u : User) : Prop := Search.Matches query u.name ∨ Search.Matches query u.email

instance (query text : String) : Decidable (Search.Matches query text) := inferInstanceAs (Decidable (_ <:+: _))

instance (query : String) (t : Template) : Decidable (t.Matches query) := inferInstanceAs (Decidable (_ ∨ _))

instance (query : String) (templates : List Template) (d : Document) : Decidable (d.Matches query templates) :=
  inferInstanceAs (Decidable (∃ t ∈ templates, _))

instance (query : String) (u : User) : Decidable (u.Matches query) := inferInstanceAs (Decidable (_ ∨ _))

namespace Search

variable {u : User} {q query : String} {ds : List Document} {ts : List Template} {us : List User}

theorem matchesText_iff {text : String} : matchesText q text = true ↔ Matches q text := Text.occursIn_iff

theorem matchesTemplate_iff {t : Template} : matchesTemplate q t = true ↔ t.Matches q := by
  rw [matchesTemplate, Bool.or_eq_true, matchesText_iff, Option.any_eq_true]
  simp only [matchesText_iff]
  rfl

theorem matchesUser_iff {v : User} : matchesUser q v = true ↔ v.Matches q := by
  rw [matchesUser, Bool.or_eq_true, matchesText_iff, matchesText_iff]
  rfl

theorem matchesDocument_iff_nameOf? {d : Document} :
    matchesDocument q ts d = true ↔ ∃ name ∈ nameOf? ts d.template, Matches q name := by
  rw [matchesDocument, Option.any_eq_true]
  simp only [matchesText_iff]
  rfl

/-- Where identifiers are distinct it does not matter that the last template with an identifier counts. -/
theorem nameOf?_eq_some_iff (hids : (ts.map Template.id).Nodup) {id : TemplateId} {name : String} :
    nameOf? ts id = some name ↔ ∃ t ∈ ts, t.id = id ∧ t.name = name := by
  have hreverse : (ts.reverse.map Template.id).Nodup := by
    rwa [List.map_reverse, List.nodup_reverse]
  rw [nameOf?, Option.map_eq_some_iff]
  refine exists_congr fun t => ?_
  rw [find?_key_eq_some_iff hreverse, List.mem_reverse, and_assoc]

theorem matchesDocument_iff (hids : (ts.map Template.id).Nodup) {d : Document} :
    matchesDocument q ts d = true ↔ d.Matches q ts := by
  rw [matchesDocument_iff_nameOf?]
  constructor
  · rintro ⟨name, hname, hmatch⟩
    obtain ⟨t, ht, hid, rfl⟩ := (nameOf?_eq_some_iff hids).1 hname
    exact ⟨t, ht, hid, hmatch⟩
  · rintro ⟨t, ht, hid, hmatch⟩
    exact ⟨t.name, (nameOf?_eq_some_iff hids).2 ⟨t, ht, hid, rfl⟩, hmatch⟩

/-! ### Hits -/

/-- The templates that a user may view and that match a query. -/
def templateHits (u : User) (q : String) (ts : List Template) : List Template :=
  ts.filter fun t => u.may .view (.template t) ∧ t.Matches q

def documentHits (u : User) (q : String) (ts : List Template) (ds : List Document) : List Document :=
  ds.filter fun d => u.may .view (.document d) ∧ d.Matches q ts

def userHits (u : User) (q : String) (us : List User) : List User :=
  us.filter fun v => u.may .view (.user v) ∧ v.Matches q

/-- Leaving out what does not match and leaving out what the user may not view leaves the hits. -/
private theorem filter_hits {α : Type} {view test : α → Bool} {Match : α → Prop} [DecidablePred Match]
    (h : ∀ a, test a = true ↔ Match a) (xs : List α) :
    (xs.filter test).filter view = xs.filter fun a => view a ∧ Match a := by
  rw [List.filter_filter]
  refine List.filter_congr fun a _ => ?_
  rw [Bool.eq_iff_iff, Bool.and_eq_true, decide_eq_true_iff, h]

theorem templates_eq : templates u q ts =
    ((templateHits u q ts).mergeSort fun a b => newerFirst a.createdAt b.createdAt).take maxHits := by
  rw [templates, filter_hits fun t => matchesTemplate_iff, templateHits]

theorem documents_eq (hids : (ts.map Template.id).Nodup) : documents u q ts ds =
    ((documentHits u q ts ds).mergeSort fun a b => newerFirst a.createdAt b.createdAt).take maxHits := by
  rw [documents, Listing.documents_none, filter_newestFirst, List.filter_comm,
    filter_hits fun d => matchesDocument_iff hids, documentHits]

/-- Only admins may view accounts. -/
theorem isAdministrator_of_view {v : User} (h : u.may .view (.user v) = true) : u.isAdministrator = true := by
  have hadministers : u.administers v = true := h
  rw [User.administers, Bool.or_eq_true, Bool.and_eq_true] at hadministers
  rw [User.isAdministrator, Bool.or_eq_true]
  exact hadministers.symm.imp_left And.left

theorem users_eq : users u q us = (userHits u q us).take maxHits := by
  rw [users, filter_hits fun v => matchesUser_iff, ← userHits]
  by_cases hadmin : u.isAdministrator = true
  · rw [if_pos hadmin]
  · have hnil : userHits u q us = [] := by
      refine List.filter_eq_nil_iff.2 fun v _ hhit => hadmin ?_
      exact isAdministrator_of_view (of_decide_eq_true hhit).1
    rw [if_neg hadmin, hnil, List.take_nil]

/-! ### Searching -/

theorem search_eq (hlong : 2 ≤ (normalize query).length) : search u ds ts us query =
    ⟨documents u (normalize query) ts ds, templates u (normalize query) ts, users u (normalize query) us⟩ := by
  have hnot : ¬ (normalize query).length < minLength := Nat.not_lt.2 hlong
  simp only [search, hnot, if_false]

theorem search_eq_none (hshort : ¬ 2 ≤ (normalize query).length) : search u ds ts us query = SearchHits.none := by
  have hlt : (normalize query).length < minLength := Nat.not_le.1 hshort
  simp only [search, hlt, if_true]

theorem templates_search (hlong : 2 ≤ (normalize query).length) :
    PicksNewest Template.createdAt 10 (templateHits u (normalize query) ts) (search u ds ts us query).templates := by
  rw [search_eq hlong, templates_eq]
  exact .of_mergeSort _ _ _

/-- What a search is to give of some records. -/
structure Finds (u : User) (q : String) (ds : List Document) (ts : List Template) (us : List User)
    (found : SearchHits) : Prop where
  templates : PicksNewest Template.createdAt 10 (templateHits u q ts) found.templates
  documents : PicksNewest Document.createdAt 10 (documentHits u q ts ds) found.documents
  users : Picks 10 (userHits u q us) found.users
  /-- The accounts come in the order in which they are given. -/
  users_eq : found.users = (userHits u q us).take 10

theorem search_finds (hids : (ts.map Template.id).Nodup) (hlong : 2 ≤ (normalize query).length) (u : User)
    (ds : List Document) (us : List User) : Finds u (normalize query) ds ts us (search u ds ts us query) := by
  refine ⟨templates_search hlong, ?_, ?_, ?_⟩
  · rw [search_eq hlong, documents_eq hids]
    exact .of_mergeSort _ _ _
  · rw [search_eq hlong, users_eq]
    exact .of_take (.refl _)
  · rw [search_eq hlong, users_eq]
    rfl

/-! Of twelve leases that match, a search gives ten, the one of the evening first. -/

section Leases

open SmallOffice

def leases : List Template :=
  (List.range 12).map fun n => { lease with id := ⟨n⟩, createdAt := if n = 11 then evening else noon }

theorem leases_search_finds :
    (leases.map Template.id).Nodup ∧ 2 ≤ (normalize " BAIL").length ∧
      Finds editor (normalize " BAIL") [] leases [admin] (search editor [] leases [admin] " BAIL") := by
  have hids : (leases.map Template.id).Nodup := by decide
  have hlong : 2 ≤ (normalize " BAIL").length := by decide +kernel
  exact ⟨hids, hlong, search_finds hids hlong editor [] [admin]⟩

example : (search editor [] leases [admin] " BAIL").templates.map Template.id =
    [11, 0, 1, 2, 3, 4, 5, 6, 7, 8].map TemplateId.mk := by cbv

end Leases

end Search

end Formulary
