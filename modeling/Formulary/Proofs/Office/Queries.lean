import Formulary.Proofs.Office.Hits
import Formulary.Proofs.Text.Lowering
import Formulary.Proofs.Text.Trim

/-!
# What queries find

A search compares query and name in lower case, each lowered on its own.  A query that is a part of the name of a
template therefore matches the template in all cases if and only if the query itself decides which of its Σs end a word
(`Search.offers_parts_iff`): whoever looks for `ΜΙΣ` does not find `ΜΙΣΘΩΣΗ`, as the Σ ends the query and does not end
the name.

The length of a query is taken after its white space is trimmed and its letters are lowered.  So of the queries that are
shorter than two characters without white space around them one can find something, which is `İ`, two characters in
lower case (`Search.search_of_short_ne_none_iff`).
-/

namespace Formulary.Search

variable {u : User} {q query : String} {ds : List Document} {ts : List Template} {us : List User} {t : Template}

/-! ### Parts of names -/

/-- Whether a search gives a template, or ten others that the user may view and that match as well. -/
def Offers (u : User) (ds : List Document) (ts : List Template) (us : List User) (query : String) (t : Template) : Prop :=
  t ∈ (search u ds ts us query).templates ∨
    (search u ds ts us query).templates.length = 10 ∧
      (search u ds ts us query).templates.Subperm ((templateHits u (normalize query) ts).filter (· ≠ t))

theorem offers_of_mem_templateHits (hlong : 2 ≤ (normalize query).length) (ht : t ∈ templateHits u (normalize query) ts) :
    Offers u ds ts us query t :=
  (templates_search hlong).mem_or_full ht

/-- Where a template is the only one, no other takes its place. -/
theorem matches_of_offers (hlong : 2 ≤ (normalize query).length) (h : Offers u ds [t] us query t) :
    t.Matches (normalize query) := by
  have hhits : ∀ t' ∈ templateHits u (normalize query) [t], t' = t ∧ t'.Matches (normalize query) := by
    intro t' ht'
    obtain ⟨hmem, hhit⟩ := List.mem_filter.1 ht'
    exact ⟨List.mem_singleton.1 hmem, (of_decide_eq_true hhit).2⟩
  rcases h with hmem | ⟨hten, hothers⟩
  · exact (hhits t ((templates_search hlong).subperm.subset hmem)).2
  · have hnil : (templateHits u (normalize query) [t]).filter (· ≠ t) = [] :=
      List.filter_eq_nil_iff.2 fun t' ht' => by simp [(hhits t' ht').1]
    have hle := hothers.length_le
    rw [hten, hnil, List.length_nil] at hle
    omega

/-- A query of two characters or more finds all names of which it is a part, if and only if it settles its Σs. -/
theorem offers_parts_iff (hstart : ∀ c ∈ q.toList.head?, Text.isBlank c = false)
    (hend : ∀ c ∈ q.toList.getLast?, Text.isBlank c = false) (hlong : 2 ≤ q.length) :
    (∀ (u : User) (ds : List Document) (ts : List Template) (us : List User), ∀ t ∈ ts,
        u.may .view (.template t) = true → q.toList <:+: t.name.toList → Offers u ds ts us q t) ↔
      Text.Settled q.toList := by
  have hnormal : normalize q = Text.lower q := by rw [normalize, Text.trim_eq_self hstart hend]
  have hlong' : 2 ≤ (normalize q).length := by
    rw [hnormal, Text.length_lower]
    omega
  have hmatches (text : String) :
      Matches (normalize q) text ↔ Text.lowerBetween [] q.toList [] <:+: Text.lowerBetween [] text.toList [] := by
    rw [Matches, hnormal, Text.toList_lower, Text.toList_lower]
  rw [Text.settled_iff]
  constructor
  · intro h whole hpart
    let t : Template := { SmallOffice.lease with name := String.ofList whole }
    have hoffers := h SmallOffice.editor [] [t] [] t List.mem_cons_self rfl (by rwa [String.toList_ofList])
    rcases matches_of_offers hlong' hoffers with hname | ⟨text, htext, _⟩
    · rwa [hmatches, String.toList_ofList] at hname
    · cases htext
  · intro h u ds ts us t ht hview hpart
    have hmatch : t.Matches (normalize q) := .inl ((hmatches t.name).2 (h _ hpart))
    exact offers_of_mem_templateHits hlong' (List.mem_filter.2 ⟨ht, decide_eq_true ⟨hview, hmatch⟩⟩)

theorem not_offers_parts_of_final_sigma :
    (∀ c ∈ "ΜΙΣ".toList.head?, Text.isBlank c = false) ∧ (∀ c ∈ "ΜΙΣ".toList.getLast?, Text.isBlank c = false) ∧
      2 ≤ "ΜΙΣ".length ∧
      ¬ ∀ (u : User) (ds : List Document) (ts : List Template) (us : List User), ∀ t ∈ ts,
        u.may .view (.template t) = true → "ΜΙΣ".toList <:+: t.name.toList → Offers u ds ts us "ΜΙΣ" t := by
  have htext : "ΜΙΣ".toList = ['Μ', 'Ι', 'Σ'] := by decide +kernel
  have hstart : ∀ c ∈ "ΜΙΣ".toList.head?, Text.isBlank c = false := by
    rw [htext]
    rintro c ⟨⟩
    rfl
  have hend : ∀ c ∈ "ΜΙΣ".toList.getLast?, Text.isBlank c = false := by
    rw [htext]
    rintro c ⟨⟩
    rfl
  have hlong : 2 ≤ "ΜΙΣ".length := by decide +kernel
  refine ⟨hstart, hend, hlong, fun h => ?_⟩
  have hsettled := (offers_parts_iff hstart hend hlong).1 h
  have hcased : Text.startsCased ['Ι', 'Μ'] = true := by decide +kernel
  exact hsettled ['Μ', 'Ι'] [] htext ⟨rfl, .inr ⟨hcased, rfl⟩⟩

/-! ### Short queries -/

theorem templates_ne_nil_iff :
    templates u q ts ≠ [] ↔ ∃ t ∈ ts, u.may .view (.template t) = true ∧ t.Matches q := by
  rw [templates_eq, Ne, List.take_eq_nil_iff, ← List.length_eq_zero_iff, List.length_mergeSort,
    List.length_eq_zero_iff, templateHits, List.filter_eq_nil_iff]
  simp [maxHits]

theorem documents_ne_nil_iff : documents u q ts ds ≠ [] ↔
    ∃ d ∈ ds, u.may .view (.document d) = true ∧ ∃ name ∈ nameOf? ts d.template, Matches q name := by
  rw [documents, Ne, List.take_eq_nil_iff, List.filter_eq_nil_iff, Listing.documents_none]
  simp only [List.mem_mergeSort, List.mem_filter, matchesDocument_iff_nameOf?]
  simp [maxHits]

theorem users_ne_nil_iff : users u q us ≠ [] ↔ ∃ v ∈ us, u.may .view (.user v) = true ∧ v.Matches q := by
  rw [users_eq, Ne, List.take_eq_nil_iff, userHits, List.filter_eq_nil_iff]
  simp [maxHits]

/-- A query that is too short without the white space around it finds something if and only if it is `İ` and a record
that the user may view matches the two characters that `İ` has in lower case. -/
theorem search_of_short_ne_none_iff (hshort : (Text.trim query).length < 2) (u : User) (ds : List Document)
    (ts : List Template) (us : List User) :
    search u ds ts us query ≠ SearchHits.none ↔
      Text.trim query = "İ" ∧
        ((∃ d ∈ ds, u.may .view (.document d) = true ∧ ∃ name ∈ nameOf? ts d.template, Matches "i\u0307" name) ∨
          (∃ t ∈ ts, u.may .view (.template t) = true ∧ t.Matches "i\u0307") ∨
          ∃ v ∈ us, u.may .view (.user v) = true ∧ v.Matches "i\u0307") := by
  have hlong : 2 ≤ (normalize query).length ↔ Text.trim query = "İ" := Text.two_le_length_lower_iff hshort
  by_cases hquery : Text.trim query = "İ"
  · have hnormal : normalize query = "i\u0307" := by rw [normalize, hquery, Text.lower_dottedCapital]
    rw [search_eq (hlong.2 hquery), hnormal, ← documents_ne_nil_iff, ← templates_ne_nil_iff, ← users_ne_nil_iff,
      SearchHits.none, Ne, SearchHits.mk.injEq, not_and_or, not_and_or]
    exact (and_iff_right hquery).symm
  · rw [search_eq_none (mt hlong.1 hquery)]
    exact iff_of_false (fun h => h rfl) fun h => hquery h.1

theorem search_dottedCapital_ne_none :
    (Text.trim " İ ").length < 2 ∧
      search SmallOffice.editor [] [{ SmallOffice.lease with name := "İstanbul" }] [] " İ " ≠ SearchHits.none := by
  have hshort : (Text.trim " İ ").length < 2 := by decide +kernel
  have hmatch : Matches "i\u0307" "İstanbul" := by decide +kernel
  refine ⟨hshort, (search_of_short_ne_none_iff hshort _ _ _ _).2 ⟨by decide +kernel, .inr (.inl ?_)⟩⟩
  exact ⟨_, List.mem_cons_self, rfl, .inl hmatch⟩

end Formulary.Search
