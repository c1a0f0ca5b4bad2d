import Formulary.Proofs.Form.Judgement

/-!
# What becomes of each variable

A report is made in one pass through the form (`Report.foldl_add`).  If the names of the variables are distinct, each of
them comes to one of two ends: its value, without the white space around it, is among the accepted ones, or it has its
place among the rejections (`Report.outcome_of_mem`).  Which of the two depends on the variable, the value under its name
and the accepted years, and on nothing else of the form, the values and the settings.
-/

namespace Formulary

/-- What becomes of a variable depends on the accepted years and no other setting. -/
theorem Settings.judge_congr {s s' : Settings} (hmin : s'.minYear = s.minYear) (hmax : s'.maxYear = s.maxYear) :
    s'.judge = s.judge := by
  have hdate : s'.dateFault? = s.dateFault? := by
    funext value
    simp only [Settings.dateFault?, hmin, hmax]
  have hvalue : s'.valueFault? = s.valueFault? := by
    funext v value
    simp only [Settings.valueFault?, hdate]
  funext v text
  simp only [Settings.judge, hvalue]

namespace Report

/-- The report with what becomes of one more variable. -/
def add (s : Settings) (values : FormValues) (r : Report) (v : Variable) : Report :=
  match judgement s values v with
  | .ok value => { r with data := r.data.insert v.name value }
  | .error fault => { r with rejections := r.rejections ++ [⟨v.name, v.label, fault⟩] }

/-- What a report says of a name: the accepted value, and the first rejection. -/
def outcome (r : Report) (name : String) : Option String × Option Rejection := (r.data.get? name, r.rejectionOf? name)

/-- A report that puts each variable of a form either among the accepted ones or among the rejections. -/
structure Sorts (form : List Variable) (values : FormValues) (r : Report) : Prop where
  accepted_xor_rejected : ∀ v ∈ form, v.name ∈ r.data.keys ∧ (∀ e ∈ r.rejections, e.field ≠ v.name) ∨
    v.name ∉ r.data.keys ∧ ∃ e ∈ r.rejections, e.field = v.name
  size_add_length : r.data.size + r.rejections.length = form.length
  /-- The rejections are those of the variables without an accepted value, in the order of the form. -/
  rejections_eq : r.rejections.map (fun e => (e.field, e.label)) =
    (form.filter fun v => v.name ∉ r.data.keys).map fun v => (v.name, v.label)
  trimmed : ∀ name value, r.data.get? name = some value →
    (∃ v ∈ form, v.name = name) ∧ value = Text.trim ((values.get? name).getD "")
  isValid_iff : r.isValid = true ↔ ∀ v ∈ form, v.name ∈ r.data.keys

variable {s s' : Settings} {v : Variable} {form form' : List Variable} {values values' : FormValues} {value : String}
  {fault : Fault}

/-! ### One pass -/

/-- A pass through a form adds its accepted values to the data and its rejections to the rejections. -/
theorem foldl_add (r : Report) :
    form.foldl (add s values) r =
      ⟨(form.filterMap (accepted? s values)).foldl (fun t e => t.insert e.1 e.2) r.data,
        r.rejections ++ form.filterMap (rejected? s values)⟩ := by
  induction form generalizing r with
  | nil => rw [List.foldl_nil, List.filterMap_nil, List.filterMap_nil, List.foldl_nil, List.append_nil]
  | cons v form ih =>
    rw [List.foldl_cons, ih, List.filterMap_cons, List.filterMap_cons, add, accepted?, rejected?]
    cases judgement s values v with
    | ok value => rfl
    | error fault => simp

theorem foldl_add_empty (s : Settings) (form : List Variable) (values : FormValues) :
    form.foldl (add s values) ⟨∅, []⟩ = ofValues s form values := by
  rw [foldl_add, List.nil_append]
  rfl

/-! ### The outcome of a variable -/

theorem rejected?_eq_some_iff {e : Rejection} :
    rejected? s values v = some e ↔ ∃ fault, judgement s values v = .error fault ∧ e = ⟨v.name, v.label, fault⟩ := by
  unfold rejected?
  cases judgement s values v <;> simp [eq_comm]

theorem length_add_length (s : Settings) (form : List Variable) (values : FormValues) :
    (form.filterMap (accepted? s values)).length + (form.filterMap (rejected? s values)).length = form.length := by
  induction form with
  | nil => rfl
  | cons v form ih =>
    rw [List.filterMap_cons, List.filterMap_cons, accepted?, rejected?]
    cases judgement s values v <;> simp <;> omega

theorem accepted_names_sublist (s : Settings) (form : List Variable) (values : FormValues) :
    ((form.filterMap (accepted? s values)).map Prod.fst).Sublist (form.map Variable.name) := by
  induction form with
  | nil => exact .slnil
  | cons v form ih =>
    rw [List.filterMap_cons, accepted?]
    cases judgement s values v with
    | ok value => exact ih.cons_cons v.name
    | error fault => exact ih.cons v.name

theorem rejections_map (s : Settings) (form : List Variable) (values : FormValues) :
    (form.filterMap (rejected? s values)).map (fun e => (e.field, e.label)) =
      (form.filter fun v => (rejected? s values v).isSome).map fun v => (v.name, v.label) := by
  induction form with
  | nil => rfl
  | cons v form ih =>
    rw [List.filterMap_cons, List.filter_cons, rejected?]
    cases judgement s values v with
    | ok value => exact ih
    | error fault => exact congrArg _ ih

theorem mem_rejections (hv : v ∈ form) (h : judgement s values v = .error fault) :
    ⟨v.name, v.label, fault⟩ ∈ (ofValues s form values).rejections :=
  List.mem_filterMap.2 ⟨v, hv, rejected?_eq_some_iff.2 ⟨fault, h, rfl⟩⟩

section Distinct

variable (hform : (form.map Variable.name).Nodup)

include hform

theorem get?_data_of_ok (hv : v ∈ form) (h : judgement s values v = .ok value) :
    (ofValues s form values).data.get? v.name = some value := by
  have hkeys := hform.sublist (accepted_names_sublist s form values)
  exact Table.get?_ofList_of_mem hkeys (List.mem_filterMap.2 ⟨v, hv, accepted?_eq_some_iff.2 ⟨rfl, h⟩⟩)

theorem get?_data_of_error (hv : v ∈ form) (h : judgement s values v = .error fault) :
    (ofValues s form values).data.get? v.name = none := by
  rw [Table.get?_eq_none_iff]
  intro hmem
  obtain ⟨value, hmem⟩ := Table.mem_keys_ofList_iff.1 hmem
  obtain ⟨w, hw, haccepted⟩ := List.mem_filterMap.1 hmem
  obtain ⟨hname, hvalue⟩ := accepted?_eq_some_iff.1 haccepted
  obtain rfl := List.inj_on_of_nodup_map hform hw hv hname
  rw [h] at hvalue
  cases hvalue

theorem rejection_of_field_eq (hv : v ∈ form) {e : Rejection} (he : e ∈ (ofValues s form values).rejections)
    (hfield : e.field = v.name) : ∃ fault, judgement s values v = .error fault ∧ e = ⟨v.name, v.label, fault⟩ := by
  obtain ⟨w, hw, hrejected⟩ := List.mem_filterMap.1 he
  obtain ⟨fault, herror, rfl⟩ := rejected?_eq_some_iff.1 hrejected
  obtain rfl := List.inj_on_of_nodup_map hform hw hv hfield
  exact ⟨fault, herror, rfl⟩

theorem field_ne_of_ok (hv : v ∈ form) (h : judgement s values v = .ok value) {e : Rejection}
    (he : e ∈ (ofValues s form values).rejections) : e.field ≠ v.name := by
  intro hfield
  obtain ⟨fault, herror, _⟩ := rejection_of_field_eq hform hv he hfield
  rw [h] at herror
  cases herror

theorem outcome_of_ok (hv : v ∈ form) (h : judgement s values v = .ok value) :
    (ofValues s form values).outcome v.name = (some value, none) := by
  refine Prod.ext (get?_data_of_ok hform hv h) (List.find?_eq_none.2 fun e he => ?_)
  simpa using field_ne_of_ok hform hv h he

theorem outcome_of_error (hv : v ∈ form) (h : judgement s values v = .error fault) :
    (ofValues s form values).outcome v.name = (none, some ⟨v.name, v.label, fault⟩) := by
  refine Prod.ext (get?_data_of_error hform hv h) ?_
  have hfind : ((ofValues s form values).rejections.find? fun e => decide (e.field = v.name)).isSome :=
    List.find?_isSome.2 ⟨_, mem_rejections hv h, decide_eq_true rfl⟩
  obtain ⟨e, he⟩ := Option.isSome_iff_exists.1 hfind
  have hfield : e.field = v.name := by simpa using List.find?_some he
  obtain ⟨fault', herror, rfl⟩ := rejection_of_field_eq hform hv (List.mem_of_find?_eq_some he) hfield
  -- there is one judgement, so the rejection that is found is the one that was made
  obtain rfl := Except.error.inj (h.symm.trans herror)
  exact he

/-- The judgement of a variable decides on what the report says of its name. -/
theorem outcome_of_mem (hv : v ∈ form) :
    (ofValues s form values).outcome v.name =
      match judgement s values v with
      | .ok value => (some value, none)
      | .error fault => (none, some ⟨v.name, v.label, fault⟩) := by
  cases h : judgement s values v with
  | ok value => exact outcome_of_ok hform hv h
  | error fault => exact outcome_of_error hform hv h

theorem mem_keys_data_iff_of_mem (hv : v ∈ form) :
    v.name ∈ (ofValues s form values).data.keys ↔ ∃ value, judgement s values v = .ok value := by
  cases h : judgement s values v with
  | ok value => simp [Table.mem_keys_iff, get?_data_of_ok hform hv h]
  | error fault => simp [Table.mem_keys_iff, get?_data_of_error hform hv h]

theorem accepted_xor_rejected (hv : v ∈ form) :
    v.name ∈ (ofValues s form values).data.keys ∧ (∀ e ∈ (ofValues s form values).rejections, e.field ≠ v.name) ∨
      v.name ∉ (ofValues s form values).data.keys ∧ ∃ e ∈ (ofValues s form values).rejections, e.field = v.name := by
  rw [mem_keys_data_iff_of_mem hform hv]
  cases h : judgement s values v with
  | ok value =>
    exact .inl ⟨⟨value, rfl⟩, fun e he => field_ne_of_ok hform hv h he⟩
  | error fault =>
    refine .inr ⟨?_, _, mem_rejections hv h, rfl⟩
    rintro ⟨value, hok⟩
    cases hok

theorem size_data_add_length_rejections :
    (ofValues s form values).data.size + (ofValues s form values).rejections.length = form.length := by
  have hkeys := hform.sublist (accepted_names_sublist s form values)
  rw [← length_add_length s form values, ofValues, Table.size_ofList hkeys]

theorem rejections_map_eq :
    (ofValues s form values).rejections.map (fun e => (e.field, e.label)) =
      (form.filter fun v => v.name ∉ (ofValues s form values).data.keys).map fun v => (v.name, v.label) := by
  refine (rejections_map s form values).trans (congrArg _ (List.filter_congr fun v hv => ?_))
  rw [Bool.eq_iff_iff, decide_eq_true_iff, mem_keys_data_iff_of_mem hform hv, rejected?]
  cases judgement s values v <;> simp

theorem sorts : Sorts form values (ofValues s form values) where
  accepted_xor_rejected _ hv := accepted_xor_rejected hform hv
  size_add_length := size_data_add_length_rejections hform
  rejections_eq := rejections_map_eq hform
  trimmed name value hget := by
    obtain ⟨v, hv, haccepted⟩ := List.mem_filterMap.1 (Table.mem_of_get?_ofList hget)
    obtain ⟨rfl, hjudged⟩ := accepted?_eq_some_iff.1 haccepted
    exact ⟨⟨v, hv, rfl⟩, (Settings.judge_eq_ok_iff.1 hjudged).1⟩
  isValid_iff := by
    rw [isValid_iff]
    exact forall₂_congr fun v hv => (mem_keys_data_iff_of_mem hform hv).symm

theorem outcome_congr (hform' : (form'.map Variable.name).Nodup) (hmin : s'.minYear = s.minYear)
    (hmax : s'.maxYear = s.maxYear) (hv : v ∈ form) (hv' : v ∈ form')
    (hvalue : (values'.get? v.name).getD "" = (values.get? v.name).getD "") :
    (ofValues s' form' values').outcome v.name = (ofValues s form values).outcome v.name := by
  have hjudgement : judgement s' values' v = judgement s values v := by
    rw [judgement, judgement, Settings.judge_congr hmin hmax, hvalue]
  rw [outcome_of_mem hform' hv', outcome_of_mem hform hv, hjudgement]

end Distinct

/-- One pass through a form whose variables have distinct names sorts them.  What becomes of a variable is the same in
every such form that has it, if the value under its name and the accepted years are. -/
theorem sorts_ofValues (s : Settings) (form : List Variable) (values : FormValues)
    (hform : (form.map Variable.name).Nodup) :
    form.foldl (add s values) ⟨∅, []⟩ = ofValues s form values ∧
      Sorts form values (ofValues s form values) ∧
      ∀ (s' : Settings) (form' : List Variable) (values' : FormValues), (form'.map Variable.name).Nodup →
        s'.minYear = s.minYear → s'.maxYear = s.maxYear →
        ∀ v ∈ form, v ∈ form' → (values'.get? v.name).getD "" = (values.get? v.name).getD "" →
          (ofValues s' form' values').outcome v.name = (ofValues s form values).outcome v.name := by
  refine ⟨foldl_add_empty s form values, sorts hform, ?_⟩
  intro s' form' values' hform' hmin hmax v hv hv' hvalue
  exact outcome_congr hform hform' hmin hmax hv hv' hvalue

/-- A lease with a date, a town that is not offered and an empty note, and the same date in another form with a name
that nobody asks for. -/
theorem sorts_ofValues_lease :
    let date : Variable := ⟨"debut", "Debut", .date, true, []⟩
    let form := [date, ⟨"ville", "Ville", .select, true, ["Lyon"]⟩, ⟨"note", "Note", .text, false, []⟩]
    let values : FormValues := Table.ofList [("debut", " 2024-02-29 "), ("ville", "Nice")]
    let form' : List Variable := [⟨"ville", "Ville", .email, true, []⟩, date]
    let values' : FormValues := Table.ofList [("ville", ""), ("debut", " 2024-02-29 "), ("autre", "x")]
    let settings' := { Settings.standard with rules := [] }
    (form.map Variable.name).Nodup ∧ (form'.map Variable.name).Nodup ∧
      Sorts form values (ofValues .standard form values) ∧
      (ofValues .standard form values).data.entries = [("debut", "2024-02-29"), ("note", "")] ∧
      (ofValues .standard form values).rejections = [⟨"ville", "Ville", .notOffered ["Lyon"]⟩] ∧
      (ofValues settings' form' values').outcome "debut" = (ofValues .standard form values).outcome "debut" := by
  intro date form values form' values' settings'
  have hform : (form.map Variable.name).Nodup := by decide
  have hform' : (form'.map Variable.name).Nodup := by decide
  obtain ⟨-, hsorts, houtcome⟩ := sorts_ofValues .standard form values hform
  refine ⟨hform, hform', hsorts, by decide +kernel, by decide +kernel, ?_⟩
  exact houtcome settings' form' values' hform' rfl rfl date (by decide) (by decide) (by decide +kernel)

end Report

end Formulary
