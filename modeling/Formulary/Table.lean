/-!
# Key-ordered tables

A table keeps at most one value for each text, its entries in the order of their keys.  Because the order is part of
the type, two tables with the same look-ups are the same table (`Table.ext_get?`), whatever the order in which they
were filled.
-/

namespace Formulary

/-- Entries in strictly ascending order of their keys, compared by code point. -/
structure Table (α : Type) where
  entries : List (String × α)
  ascending : entries.Pairwise (fun a b => a.1 < b.1)
deriving DecidableEq

namespace Table

variable {α β : Type}

/-- The list of entries with `value` at `key`, in place of what stood there. -/
def insertEntry (key : String) (value : α) : List (String × α) → List (String × α)
  | [] => [(key, value)]
  | (k, v) :: rest =>
    if key < k then (key, value) :: (k, v) :: rest
    else if key = k then (key, value) :: rest
    else (k, v) :: insertEntry key value rest

theorem mem_insertEntry {key : String} {value : α} {entries : List (String × α)} {e : String × α}
    (h : e ∈ insertEntry key value entries) : e = (key, value) ∨ e ∈ entries := by
  induction entries with
  | nil => simpa [insertEntry] using h
  | cons a rest ih =>
    unfold insertEntry at h
    split at h
    · simpa using h
    · split at h
      · simp only [List.mem_cons] at h ⊢
        exact h.imp_right Or.inr
      · simp only [List.mem_cons] at h ⊢
        rcases h with h | h
        · exact Or.inr (Or.inl h)
        · exact (ih h).imp_right Or.inr

private theorem lt_of_not_lt_of_ne {a b : String} (h : ¬ a < b) (hne : a ≠ b) : b < a := by
  rcases Std.lt_trichotomy a b with h' | h' | h'
  · exact absurd h' h
  · exact absurd h' hne
  · exact h'

theorem pairwise_insertEntry (key : String) (value : α) {entries : List (String × α)}
    (h : entries.Pairwise (fun a b => a.1 < b.1)) :
    (insertEntry key value entries).Pairwise (fun a b => a.1 < b.1) := by
  induction entries with
  | nil => simp [insertEntry]
  | cons a rest ih =>
    rw [List.pairwise_cons] at h
    unfold insertEntry
    split
    · rename_i hlt
      refine List.Pairwise.cons ?_ (List.Pairwise.cons h.1 h.2)
      intro e he
      rcases List.mem_cons.1 he with rfl | he
      · exact hlt
      · exact String.lt_trans hlt (h.1 e he)
    · split
      · rename_i heq
        exact List.Pairwise.cons (fun e he => heq ▸ h.1 e he) h.2
      · rename_i hlt hne
        refine List.Pairwise.cons ?_ (ih h.2)
        intro e he
        rcases mem_insertEntry he with rfl | he
        · exact lt_of_not_lt_of_ne hlt hne
        · exact h.1 e he

def empty : Table α := ⟨[], List.Pairwise.nil⟩

instance : EmptyCollection (Table α) := ⟨empty⟩

instance : Inhabited (Table α) := ⟨empty⟩

/-- The table with `value` at `key`, whatever stood there before. -/
def insert (t : Table α) (key : String) (value : α) : Table α :=
  ⟨insertEntry key value t.entries, pairwise_insertEntry key value t.ascending⟩

def get? (t : Table α) (key : String) : Option α :=
  t.entries.lookup key

def isEmpty (t : Table α) : Bool := t.entries.isEmpty

def keys (t : Table α) : List String := t.entries.map (·.1)

def size (t : Table α) : Nat := t.entries.length

/-- The table of a list of entries; of entries with one key the last counts. -/
def ofList (entries : List (String × α)) : Table α :=
  entries.foldl (fun t e => t.insert e.1 e.2) empty

private theorem lookup_cons_eq_ite (k : String) (e : String × α) (rest : List (String × α)) :
    (e :: rest).lookup k = if k = e.1 then some e.2 else rest.lookup k := by
  obtain ⟨key, value⟩ := e
  by_cases h : k = key
  · simp [h]
  · simp [List.lookup_cons, h, beq_false_of_ne h]

/-- A look-up after an insertion finds the new value at its key and the old ones elsewhere. -/
theorem get?_insert (t : Table α) (key : String) (value : α) (k : String) :
    (t.insert key value).get? k = if k = key then some value else t.get? k := by
  obtain ⟨entries, h⟩ := t
  simp only [insert, get?]
  clear h
  induction entries with
  | nil => simp [insertEntry, lookup_cons_eq_ite]
  | cons a rest ih => grind [insertEntry, lookup_cons_eq_ite]

private theorem lookup_eq_some_of_mem {entries : List (String × α)}
    (h : entries.Pairwise (fun a b => a.1 < b.1)) {e : String × α} (he : e ∈ entries) :
    entries.lookup e.1 = some e.2 := by
  induction entries with
  | nil => simp at he
  | cons a rest ih =>
    rw [List.pairwise_cons] at h
    rw [lookup_cons_eq_ite]
    rcases List.mem_cons.1 he with rfl | he
    · simp
    · have : e.1 ≠ a.1 := fun hh => String.lt_irrefl a.1 (hh ▸ h.1 e he)
      simp [this, ih h.2 he]

private theorem mem_of_lookup_eq_some {entries : List (String × α)} {k : String} {v : α}
    (h : entries.lookup k = some v) : (k, v) ∈ entries := by
  induction entries with
  | nil => simp at h
  | cons a rest ih =>
    rw [lookup_cons_eq_ite] at h
    by_cases hk : k = a.1
    · simp only [hk, if_true, Option.some.injEq] at h
      exact List.mem_cons.2 (Or.inl (Prod.ext hk h.symm))
    · rw [if_neg hk] at h
      exact List.mem_cons_of_mem _ (ih h)

theorem get?_eq_some_iff (t : Table α) (key : String) (value : α) :
    t.get? key = some value ↔ (key, value) ∈ t.entries :=
  ⟨mem_of_lookup_eq_some, fun h => lookup_eq_some_of_mem t.ascending h⟩

/-- A list in strictly ascending order is determined by its members. -/
private theorem ascending_ext {l m : List (String × α)} (hl : l.Pairwise (fun a b => a.1 < b.1))
    (hm : m.Pairwise (fun a b => a.1 < b.1)) (h : ∀ e, e ∈ l ↔ e ∈ m) : l = m := by
  induction l generalizing m with
  | nil =>
    cases m with
    | nil => rfl
    | cons b m => exact absurd ((h b).2 (by simp)) (by simp)
  | cons a l ih =>
    cases m with
    | nil => exact absurd ((h a).1 (by simp)) (by simp)
    | cons b m =>
      rw [List.pairwise_cons] at hl hm
      have hab : a = b := by
        rcases List.mem_cons.1 ((h a).1 (by simp)) with ha | ha
        · exact ha
        · rcases List.mem_cons.1 ((h b).2 (by simp)) with hb | hb
          · exact hb.symm
          · exact absurd (hl.1 b hb) (String.lt_asymm (hm.1 a ha))
      subst hab
      congr 1
      refine ih hl.2 hm.2 (fun e => ⟨fun he => ?_, fun he => ?_⟩)
      · rcases List.mem_cons.1 ((h e).1 (List.mem_cons_of_mem _ he)) with rfl | he'
        · exact absurd (hl.1 e he) (String.lt_irrefl _)
        · exact he'
      · rcases List.mem_cons.1 ((h e).2 (List.mem_cons_of_mem _ he)) with rfl | he'
        · exact absurd (hm.1 e he) (String.lt_irrefl _)
        · exact he'

/-- Tables with the same look-ups are equal. -/
theorem ext_get? {s t : Table α} (h : ∀ key, s.get? key = t.get? key) : s = t := by
  obtain ⟨l, hl⟩ := s
  obtain ⟨m, hm⟩ := t
  congr 1
  refine ascending_ext hl hm (fun e => ?_)
  have hs := get?_eq_some_iff ⟨l, hl⟩ e.1 e.2
  have ht := get?_eq_some_iff ⟨m, hm⟩ e.1 e.2
  rw [h e.1] at hs
  exact hs.symm.trans ht

end Table

end Formulary
