import Formulary.Office
import Mathlib.Data.List.Nodup

/-!
# Lists with distinct identifiers

The lists of an office are kept by identifier: a record is found, replaced and removed by it.  A replacement leaves the
identifiers as they are (`map_replaceFirst`), and where they are distinct it puts one record in place of one
(`mem_replaceFirst_iff`).  The records with a property are not touched where records without it are replaced or removed
(`filter_replaceFirst`, `filter_key_ne`).
-/

namespace Formulary

variable {α κ : Type} [DecidableEq κ] {key : α → κ} {l : List α} {a b c : α} {i : κ}

/-- Whatever is found by a key is in the list and has the key. -/
theorem mem_of_find?_key (h : l.find? (fun x => decide (key x = i)) = some a) : a ∈ l ∧ key a = i :=
  ⟨List.mem_of_find?_eq_some h, by simpa using List.find?_some h⟩

/-- Where the keys are distinct, the record with a key is the one that is found by it. -/
theorem find?_key_eq_some_iff (hl : (l.map key).Nodup) :
    l.find? (fun x => decide (key x = i)) = some a ↔ a ∈ l ∧ key a = i := by
  constructor
  · exact mem_of_find?_key
  · rintro ⟨ha, rfl⟩
    have hfound : (l.find? (fun x => decide (key x = key a))).isSome := List.find?_isSome.2 ⟨a, ha, by simp⟩
    obtain ⟨b, hb⟩ := Option.isSome_iff_exists.1 hfound
    obtain ⟨hbl, hkey⟩ := mem_of_find?_key hb
    rw [hb, List.inj_on_of_nodup_map hl hbl ha hkey]

/-- Keys stay distinct when a record with another key comes last. -/
theorem nodup_map_append_singleton {κ : Type} {key : α → κ} (hl : (l.map key).Nodup) (ha : ∀ b ∈ l, key b ≠ key a) :
    ((l ++ [a]).map key).Nodup := by
  have hfresh : key a ∉ l.map key := by
    rw [List.mem_map]
    rintro ⟨b, hb, h⟩
    exact ha b hb h
  rw [List.map_append]
  exact List.Nodup.append hl (List.nodup_singleton _) (by simpa using hfresh)

/-- A replacement by a record with the same key leaves the keys as they are. -/
theorem map_replaceFirst (ha : key a = i) (l : List α) :
    (replaceFirst (fun x => decide (key x = i)) a l).map key = l.map key := by
  induction l with
  | nil => rfl
  | cons x l ih =>
    unfold replaceFirst
    by_cases hx : key x = i
    · simp [hx, ha]
    · simp [hx, ih]

theorem nodup_map_replaceFirst (hl : (l.map key).Nodup) (ha : key a = i) :
    ((replaceFirst (fun x => decide (key x = i)) a l).map key).Nodup := by
  rw [map_replaceFirst ha]
  exact hl

/-- Where the keys are distinct, a replacement takes out the record with the key and nothing else. -/
theorem mem_replaceFirst_iff (hl : (l.map key).Nodup) (hb : b ∈ l) (hi : key b = i) :
    c ∈ replaceFirst (fun x => decide (key x = i)) a l ↔ c = a ∨ c ∈ l ∧ key c ≠ i := by
  induction l with
  | nil => cases hb
  | cons x l ih =>
    rw [List.map_cons, List.nodup_cons] at hl
    unfold replaceFirst
    by_cases hx : key x = i
    · have hne : ∀ y ∈ l, key y ≠ i := fun y hy h => hl.1 (hx ▸ h ▸ List.mem_map_of_mem hy)
      simp only [hx, decide_true, if_true, List.mem_cons]
      constructor
      · rintro (rfl | hc)
        · exact .inl rfl
        · exact .inr ⟨.inr hc, hne c hc⟩
      · rintro (rfl | ⟨rfl | hc, hk⟩)
        · exact .inl rfl
        · exact absurd hx hk
        · exact .inr hc
    · have hbl : b ∈ l := (List.mem_cons.1 hb).resolve_left fun h => hx (h ▸ hi)
      simp only [hx, decide_false, Bool.false_eq_true, if_false, List.mem_cons, ih hl.2 hbl]
      constructor
      · rintro (rfl | rfl | ⟨hc, hk⟩)
        · exact .inr ⟨.inl rfl, hx⟩
        · exact .inl rfl
        · exact .inr ⟨.inr hc, hk⟩
      · rintro (rfl | ⟨rfl | hc, hk⟩)
        · exact .inr (.inl rfl)
        · exact .inl rfl
        · exact .inr (.inr ⟨hc, hk⟩)

theorem mem_of_mem_replaceFirst {test : α → Bool} (h : c ∈ replaceFirst test a l) : c = a ∨ c ∈ l := by
  induction l with
  | nil => cases h
  | cons x l ih =>
    unfold replaceFirst at h
    by_cases hx : test x
    · rw [if_pos hx] at h
      rcases List.mem_cons.1 h with rfl | h
      · exact .inl rfl
      · exact .inr (List.mem_cons_of_mem x h)
    · rw [if_neg hx] at h
      rcases List.mem_cons.1 h with rfl | h
      · exact .inr List.mem_cons_self
      · exact (ih h).imp_right (List.mem_cons_of_mem x)

/-- After a replacement by a record with the same key that record is found by its key, if there was one before, and
nothing else changes. -/
theorem find?_replaceFirst (ha : key a = i) (l : List α) (j : κ) :
    (replaceFirst (fun x => decide (key x = i)) a l).find? (fun x => decide (key x = j)) =
      if j = i then (l.find? (fun x => decide (key x = i))).map (fun _ => a)
      else l.find? (fun x => decide (key x = j)) := by
  induction l with
  | nil => simp [replaceFirst]
  | cons x l ih =>
    unfold replaceFirst
    by_cases hx : key x = i
    · by_cases hj : j = i
      · simp [hx, hj, ha]
      · simp [hx, hj, ha, Ne.symm hj]
    · by_cases hxj : key x = j
      · have hj : j ≠ i := fun hj => hx (hxj.trans hj)
        simp [hxj, hj]
      · simp [hx, hxj, ih]

/-- A replacement acts at the place of the first record that passes the test. -/
theorem getElem?_replaceFirst (test : α → Bool) (a : α) (l : List α) (j : Nat) :
    (replaceFirst test a l)[j]? = if l.findIdx? test = some j then some a else l[j]? := by
  induction l generalizing j with
  | nil => simp [replaceFirst]
  | cons x l ih =>
    unfold replaceFirst
    by_cases hx : test x
    · cases j <;> simp [hx, List.findIdx?_cons]
    · cases j <;> simp [hx, List.findIdx?_cons, ih]

/-- A replacement leaves the records before and after the replaced one in their places. -/
theorem exists_split_replaceFirst {test : α → Bool} (h : l.find? test = some a) :
    ∃ before after, l = before ++ a :: after ∧ ∀ b, replaceFirst test b l = before ++ b :: after := by
  induction l with
  | nil => cases h
  | cons x l ih =>
    by_cases hx : test x
    · rw [List.find?_cons_of_pos hx] at h
      obtain rfl := Option.some.inj h
      exact ⟨[], l, rfl, fun b => if_pos hx⟩
    · rw [List.find?_cons_of_neg hx] at h
      obtain ⟨before, after, hl, hb⟩ := ih h
      exact ⟨x :: before, after, by rw [hl]; rfl, fun b => by rw [replaceFirst, if_neg hx, hb]; rfl⟩

theorem replaceFirst_self {test : α → Bool} (h : l.find? test = some a) : replaceFirst test a l = l := by
  obtain ⟨before, after, hl, hput⟩ := exists_split_replaceFirst h
  rw [hput, ← hl]

/-- Replacements by records with their keys can be made in either order, if the keys are different. -/
theorem replaceFirst_comm {j : κ} (ha : key a = i) (hb : key b = j) (hij : i ≠ j) (l : List α) :
    replaceFirst (fun x => decide (key x = j)) b (replaceFirst (fun x => decide (key x = i)) a l) =
      replaceFirst (fun x => decide (key x = i)) a (replaceFirst (fun x => decide (key x = j)) b l) := by
  induction l with
  | nil => rfl
  | cons x l ih =>
    by_cases hi : key x = i
    · simp [replaceFirst, hi, ha, hij]
    · by_cases hj : key x = j
      · simp [replaceFirst, hj, hb, hij.symm]
      · simp [replaceFirst, hi, hj, ih]

/-- Where the keys are distinct, a removal by key leaves the records before and after the removed one. -/
theorem exists_split_filter_key_ne (hl : (l.map key).Nodup) (h : l.find? (fun x => decide (key x = i)) = some a) :
    ∃ before after, l = before ++ a :: after ∧ l.filter (fun x => key x ≠ i) = before ++ after := by
  obtain ⟨before, after, rfl, _⟩ := exists_split_replaceFirst h
  obtain ⟨_, rfl⟩ := mem_of_find?_key h
  rw [List.map_append, List.map_cons, List.nodup_middle, List.nodup_cons, List.mem_append, not_or] at hl
  have hne (m : List α) (hm : key a ∉ m.map key) : m.filter (fun x => key x ≠ key a) = m := by
    refine List.filter_eq_self.2 fun x hx => decide_eq_true fun hk => hm ?_
    exact hk ▸ List.mem_map_of_mem hx
  refine ⟨before, after, rfl, ?_⟩
  rw [List.filter_append, List.filter_cons_of_neg (by simp), hne before hl.1.1, hne after hl.1.2]

/-! ### The record at a place -/

theorem eq_of_findIdx? {test : α → Bool} {j : Nat} (hfind : l.find? test = some a) (hj : l.findIdx? test = some j)
    (hb : l[j]? = some b) : a = b := by
  rw [List.find?_eq_bind_findIdx?_getElem?, hj, Option.bind_some, hb] at hfind
  exact (Option.some.inj hfind).symm

/-- Where some records are removed, the place of a record that stays is the number of those before it that stay. -/
theorem getElem?_filter_of_getElem? {p : α → Bool} {j : Nat} (hj : l[j]? = some a) (ha : p a = true) :
    (l.filter p)[((l.take j).filter p).length]? = some a := by
  obtain ⟨hlt, rfl⟩ := List.getElem?_eq_some_iff.1 hj
  have hsplit : l = l.take j ++ l[j] :: l.drop (j + 1) := by
    rw [← List.drop_eq_getElem_cons hlt, List.take_append_drop]
  have hfilter : l.filter p = (l.take j).filter p ++ l[j] :: (l.drop (j + 1)).filter p := by
    conv => lhs; rw [hsplit]
    rw [List.filter_append, List.filter_cons_of_pos ha]
  rw [hfilter, List.getElem?_append_right (Nat.le_refl _), Nat.sub_self, List.getElem?_cons_zero]

/-! ### The records with a property -/

variable {test p : α → Bool}

theorem filter_append_singleton (ha : p a = false) : (l ++ [a]).filter p = l.filter p := by
  simp [ha]

theorem filter_replaceFirst (hfind : l.find? test = some b) (hb : p b = false) (ha : p a = false) :
    (replaceFirst test a l).filter p = l.filter p := by
  induction l with
  | nil => rfl
  | cons x l ih =>
    unfold replaceFirst
    by_cases hx : test x
    · obtain rfl : x = b := by simpa [hx] using hfind
      simp [hx, ha, hb]
    · have hfind : l.find? test = some b := by simpa [hx] using hfind
      simp [hx, List.filter_cons, ih hfind]

/-- Where the keys are distinct, a removal by key takes out one record. -/
theorem filter_key_ne (hl : (l.map key).Nodup) (hb : b ∈ l) (hi : key b = i) (hp : p b = false) :
    (l.filter (fun x => key x ≠ i)).filter p = l.filter p := by
  rw [List.filter_filter]
  refine List.filter_congr fun x hx => ?_
  by_cases hk : key x = i
  · obtain rfl := List.inj_on_of_nodup_map hl hx hb (hk.trans hi.symm)
    simp [hp]
  · simp [hk]

end Formulary
