import Formulary.Proofs.Json.Form

/-!
# The fields of a record

The fields of a record are given by their names in an object, or by their places in an array (`Json.Gives`).  What a
record is read from is told field by field (`Json.IsRecord`): a field is given; or it may be missing, if there is a
default for it; or it may be missing or null, if it has no value.  In an object the order of the members does not matter
(`Json.IsRecord.perm`), nor do members with names that no field has (`Json.isRecord_append_iff`).
-/

namespace Formulary.Json

variable {v : Json} {members members' : List (JsonString × Json)} {names : List String} {name : String}
  {values : List (Option Json)}

/-- The values under a name, in their order. -/
def under (members : List (JsonString × Json)) (name : String) : List Json :=
  (members.filter fun m => m.1 = some name).map Prod.snd

/-- The value gives these values for the named fields of a record: an object of members with texts for names, none of
the fields twice, or an array of the first fields. -/
inductive Gives (names : List String) : Json → List (Option Json) → Prop
  | byName {members : List (JsonString × Json)} {values : List (Option Json)} : (∀ m ∈ members, m.1.isSome) →
      List.Forall₂ (fun name value => under members name = value.toList) names values →
      Gives names (.object members) values
  | byPosition {items : List Json} {missing : Nat} : items.length + missing = names.length →
      Gives names (.array items) (items.map some ++ List.replicate missing none)

theorem fields?_object_eq_some_iff (hnames : ∀ m ∈ members, m.1.isSome) :
    fields? names (.object members) = some values ↔
      List.Forall₂ (fun name value => under members name = value.toList) names values := by
  rw [fields?, if_pos (List.all_eq_true.2 hnames), mapM_eq_some_iff]
  refine Eq.to_iff (congrArg (List.Forall₂ · names values) ?_)
  funext name value
  unfold under
  generalize members.filter (fun m => m.1 = some name) = found
  rcases found with _ | ⟨m, _ | ⟨m', rest⟩⟩
  all_goals cases value <;> simp

theorem fields?_eq_some_iff : fields? names v = some values ↔ Gives names v values := by
  constructor
  · intro h
    match v with
    | .object members =>
      by_cases hnames : ∀ m ∈ members, m.1.isSome
      · exact .byName hnames ((fields?_object_eq_some_iff hnames).1 h)
      · rw [fields?, if_neg (mt List.all_eq_true.1 hnames)] at h
        cases h
    | .array items =>
      rw [fields?] at h
      split at h
      next hlength =>
        cases h
        exact .byPosition (by omega)
      next => cases h
  · intro h
    cases h with
    | byName hnames hvalues => exact (fields?_object_eq_some_iff hnames).2 hvalues
    | @byPosition items missing hlength =>
      obtain rfl : missing = names.length - items.length := by omega
      rw [fields?, if_pos (by omega)]

theorem Gives.length_eq (h : Gives names v values) : values.length = names.length := by
  cases h with
  | byName _ hvalues => exact hvalues.length_eq.symm
  | byPosition hlength => simpa using hlength

theorem under_append (members members' : List (JsonString × Json)) (name : String) :
    under (members ++ members') name = under members name ++ under members' name := by
  simp only [under, List.filter_append, List.map_append]

theorem mem_under : v ∈ under members name ↔ (some name, v) ∈ members := by
  simp [under]

theorem under_perm (name : String) (h : members.Perm members') : (under members name).Perm (under members' name) :=
  (h.filter _).map _

theorem under_sublist (h : members.Sublist members') : (under members name).Sublist (under members' name) :=
  (h.filter _).map _

theorem under_eq_nil (h : ∀ m ∈ members, m.1 ≠ some name) : under members name = [] := by
  rw [under, List.map_eq_nil_iff, List.filter_eq_nil_iff]
  intro m hm
  simpa using h m hm

theorem gives_object_iff : Gives names (.object members) values ↔
    (∀ m ∈ members, m.1.isSome) ∧ List.Forall₂ (fun name value => under members name = value.toList) names values := by
  constructor
  · intro h
    cases h with
    | byName hnames hvalues => exact ⟨hnames, hvalues⟩
  · intro h
    exact .byName h.1 h.2

/-- The order of the members does not matter. -/
theorem Gives.perm (h : Gives names (.object members) values) (hperm : members.Perm members') :
    Gives names (.object members') values := by
  obtain ⟨hnames, hvalues⟩ := gives_object_iff.1 h
  refine .byName (fun m hm => hnames m (hperm.mem_iff.2 hm)) (hvalues.imp fun name value h => ?_)
  have hunder := under_perm name hperm
  rw [h] at hunder
  cases value with
  | none => exact hunder.nil_eq.symm
  | some v => exact (List.singleton_perm.1 hunder).symm

/-- Members that no field has are read over. -/
theorem gives_append_iff {unknown : List (JsonString × Json)}
    (hunknown : ∀ m ∈ unknown, ∃ name, m.1 = some name ∧ name ∉ names) :
    Gives names (.object (members ++ unknown)) values ↔ Gives names (.object members) values := by
  have hunder : ∀ name ∈ names, under (members ++ unknown) name = under members name := by
    intro name hname
    have hnil : under unknown name = [] := by
      refine under_eq_nil fun m hm heq => ?_
      obtain ⟨other, hother, hnot⟩ := hunknown m hm
      obtain rfl : other = name := Option.some.inj (hother.symm.trans heq)
      exact hnot hname
    rw [under_append, hnil, List.append_nil]
  have hvalues : List.Forall₂ (fun name value => under (members ++ unknown) name = value.toList) names values ↔
      List.Forall₂ (fun name value => under members name = value.toList) names values := by
    rw [List.forall₂_iff_zip, List.forall₂_iff_zip]
    refine and_congr_right fun _ => ⟨fun h name value hmem => ?_, fun h name value hmem => ?_⟩
    · rw [← hunder name (List.of_mem_zip hmem).1]
      exact h hmem
    · rw [hunder name (List.of_mem_zip hmem).1]
      exact h hmem
  have hnames : ∀ m ∈ unknown, m.1.isSome := by
    intro m hm
    obtain ⟨name, hname, -⟩ := hunknown m hm
    rw [hname]
    rfl
  rw [gives_object_iff, gives_object_iff, hvalues, List.forall_mem_append, and_iff_left hnames]

/-! ### What a field has to be -/

section

variable {α : Type} (describes : Json → α → Prop)

/-- A value for one thing. -/
def IsGiven (value : Option Json) (a : α) : Prop := ∃ v, value = some v ∧ describes v a

/-- A value for one thing or its absence for the standard one. -/
def IsOrDefault (default : α) : Option Json → α → Prop
  | some v, a => describes v a
  | none, a => a = default

/-- A value for one thing, or its absence or null where there is none. -/
def IsOrNull : Option Json → Option α → Prop
  | value, none => value = none ∨ value = some .null
  | value, some a => ∃ v, value = some v ∧ v ≠ .null ∧ describes v a

end

/-- The value gives the fields of a record, and each of them is what it has to be. -/
def IsRecord (v : Json) (fs : List (String × (Option Json → Prop))) : Prop :=
  ∃ values, Gives (fs.map Prod.fst) v values ∧ List.Forall₂ (fun f value => f.2 value) fs values

variable {fs : List (String × (Option Json → Prop))}

theorem IsRecord.perm (h : (object members).IsRecord fs) (hperm : members.Perm members') :
    (object members').IsRecord fs := by
  obtain ⟨values, hgives, hvalues⟩ := h
  exact ⟨values, hgives.perm hperm, hvalues⟩

theorem isRecord_append_iff {unknown : List (JsonString × Json)}
    (hunknown : ∀ m ∈ unknown, ∃ name, m.1 = some name ∧ name ∉ fs.map Prod.fst) :
    (object (members ++ unknown)).IsRecord fs ↔ (object members).IsRecord fs := by
  simp only [IsRecord, gives_append_iff hunknown]

theorem bind_fields?_of_isRecord {α : Type} {k : List (Option Json) → Option α} {a : α} (h : v.IsRecord fs)
    (hk : ∀ values, List.Forall₂ (fun f value => f.2 value) fs values → k values = some a) :
    (fields? (fs.map Prod.fst) v).bind k = some a := by
  obtain ⟨values, hgives, hvalues⟩ := h
  rw [fields?_eq_some_iff.2 hgives, Option.bind_some, hk values hvalues]

/-- A record that is written field by field. -/
theorem isRecord_fields {written : List (String × Option Json)} (hnames : written.map (·.1) = fs.map Prod.fst)
    (hnodup : (fs.map Prod.fst).Nodup) (h : List.Forall₂ (fun f value => f.2 value) fs (written.map (·.2))) :
    (fields written).IsRecord fs :=
  ⟨_, fields?_eq_some_iff.1 (fields?_fields hnames hnodup), h⟩

end Formulary.Json
