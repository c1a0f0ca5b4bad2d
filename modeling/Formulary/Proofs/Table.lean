import Formulary.Table
import Mathlib.Data.List.Nodup

/-!
# Keys of a table

A key of a table is a text at which there is a value, and a table that is made of a list of entries has nothing but
these entries.
-/

namespace Formulary.Table

variable {α : Type} {t : Table α} {key : String} {value : α} {entries : List (String × α)}

theorem mem_keys_iff : key ∈ t.keys ↔ ∃ value, t.get? key = some value := by
  simp only [keys, get?_eq_some_iff, List.mem_map, Prod.exists, exists_and_right, exists_eq_right]

theorem get?_eq_none_iff : t.get? key = none ↔ key ∉ t.keys := by
  rw [mem_keys_iff, ← Option.isSome_iff_exists, Option.not_isSome_iff_eq_none]

private theorem mem_of_get?_foldl_insert
    (h : (entries.foldl (fun t e => t.insert e.1 e.2) t).get? key = some value) :
    (key, value) ∈ entries ∨ t.get? key = some value := by
  induction entries generalizing t with
  | nil => exact .inr h
  | cons e entries ih =>
    rcases ih h with hmem | hget
    · exact .inl (List.mem_cons_of_mem _ hmem)
    · rw [get?_insert] at hget
      by_cases hk : key = e.1
      · rw [if_pos hk] at hget
        obtain rfl : e = (key, value) := Prod.ext hk.symm (Option.some.inj hget)
        exact .inl List.mem_cons_self
      · rw [if_neg hk] at hget
        exact .inr hget

/-- What is found in a table that is made of some entries is one of them. -/
theorem mem_of_get?_ofList (h : (ofList entries).get? key = some value) : (key, value) ∈ entries := by
  rcases mem_of_get?_foldl_insert h with hmem | hempty
  · exact hmem
  · cases hempty

private theorem exists_get?_foldl_insert (h : (∃ value, (key, value) ∈ entries) ∨ ∃ value, t.get? key = some value) :
    ∃ value, (entries.foldl (fun t e => t.insert e.1 e.2) t).get? key = some value := by
  induction entries generalizing t with
  | nil =>
    rcases h with ⟨_, hmem⟩ | hget
    · cases hmem
    · exact hget
  | cons e entries ih =>
    refine ih ?_
    -- a later entry may have the key too, so the value at the key is not known yet
    by_cases hk : key = e.1
    · exact .inr ⟨e.2, by rw [get?_insert, if_pos hk]⟩
    · rcases h with ⟨value, hmem⟩ | ⟨value, hget⟩
      · rcases List.mem_cons.1 hmem with rfl | hmem
        · exact absurd rfl hk
        · exact .inl ⟨value, hmem⟩
      · exact .inr ⟨value, by rw [get?_insert, if_neg hk, hget]⟩

theorem mem_keys_ofList_iff : key ∈ (ofList entries).keys ↔ ∃ value, (key, value) ∈ entries := by
  rw [mem_keys_iff]
  constructor
  · rintro ⟨value, h⟩
    exact ⟨value, mem_of_get?_ofList h⟩
  · intro h
    exact exists_get?_foldl_insert (.inl h)

theorem get?_ofList_of_mem (hkeys : (entries.map Prod.fst).Nodup) (h : (key, value) ∈ entries) :
    (ofList entries).get? key = some value := by
  obtain ⟨found, hfound⟩ := mem_keys_iff.1 (mem_keys_ofList_iff.2 ⟨value, h⟩)
  have he := List.inj_on_of_nodup_map hkeys (mem_of_get?_ofList hfound) h rfl
  rw [hfound, (Prod.mk.inj he).2]

theorem pairwise_keys (t : Table α) : t.keys.Pairwise (· < ·) := List.pairwise_map.2 t.ascending

theorem nodup_keys (t : Table α) : t.keys.Nodup := by
  refine t.pairwise_keys.imp fun {a b} hlt he => ?_
  rw [he] at hlt
  exact String.lt_irrefl _ hlt

/-- Another value for a key leaves the keys as they are. -/
theorem keys_insert_of_mem (h : key ∈ t.keys) : (t.insert key value).keys = t.keys := by
  have hmem (k : String) : k ∈ (t.insert key value).keys ↔ k ∈ t.keys := by
    rw [mem_keys_iff, get?_insert]
    by_cases hk : k = key
    · simp [hk, h]
    · rw [if_neg hk, mem_keys_iff]
  have hperm := (List.perm_ext_iff_of_nodup (nodup_keys _) (nodup_keys t)).2 hmem
  refine hperm.eq_of_pairwise (fun a b _ _ hab hba => ?_) (pairwise_keys _) (pairwise_keys t)
  exact absurd hab (String.lt_asymm hba)

theorem insert_insert (t : Table α) (key : String) (a b : α) : (t.insert key a).insert key b = t.insert key b := by
  refine ext_get? fun k => ?_
  rw [get?_insert, get?_insert, get?_insert]
  split <;> rfl

/-- The keys do not depend on the value that is inserted. -/
theorem keys_insert_eq (t : Table α) (key : String) (a b : α) : (t.insert key a).keys = (t.insert key b).keys := by
  have hkey : key ∈ (t.insert key b).keys := mem_keys_iff.2 ⟨b, by rw [get?_insert, if_pos rfl]⟩
  rw [← insert_insert t key b a, keys_insert_of_mem hkey]

/-- A table of entries with distinct keys has as many entries. -/
theorem size_ofList (hkeys : (entries.map Prod.fst).Nodup) : (ofList entries).size = entries.length := by
  have hperm : (ofList entries).keys.Perm (entries.map Prod.fst) := by
    rw [List.perm_ext_iff_of_nodup (nodup_keys _) hkeys]
    intro key
    rw [mem_keys_ofList_iff, List.mem_map]
    constructor
    · rintro ⟨value, hmem⟩
      exact ⟨(key, value), hmem, rfl⟩
    · rintro ⟨e, hmem, rfl⟩
      exact ⟨e.2, hmem⟩
  have hlength := hperm.length_eq
  rwa [keys, List.length_map, List.length_map] at hlength

/-- A table is made of its own entries. -/
theorem ofList_entries (t : Table α) : ofList t.entries = t := by
  refine ext_get? fun key => ?_
  cases hget : t.get? key with
  | none =>
    have hkey : key ∉ (ofList t.entries).keys := by
      rw [mem_keys_ofList_iff]
      rintro ⟨value, hmem⟩
      rw [(get?_eq_some_iff t key value).2 hmem] at hget
      cases hget
    exact get?_eq_none_iff.2 hkey
  | some value =>
    have hkey : key ∈ (ofList t.entries).keys := mem_keys_ofList_iff.2 ⟨value, (get?_eq_some_iff t key value).1 hget⟩
    obtain ⟨found, hfound⟩ := mem_keys_iff.1 hkey
    -- whichever entry is found, the table has no other at that key
    have hsame : t.get? key = some found := (get?_eq_some_iff t key found).2 (mem_of_get?_ofList hfound)
    rw [hfound, ← hsame, hget]

end Formulary.Table
