import Formulary.Form.Submission
import Formulary.Proofs.Chain
import Formulary.Proofs.Json.Record
import Formulary.Proofs.Table
import Formulary.Proofs.Text.Bytes
import Mathlib.Data.List.Induction

/-!
# What is read as a submission

A submission is the text of a JSON object within the limits of the reader whose members are scalars.  A name may be
repeated; its last value is the one that counts, so that an array or an object under a name does no harm if a scalar
follows under the same name (`Json.Last`).  `FormValues.Reads` says for every text what it is read as, and
`FormValues.ofText_eq_iff_reads` that the reader does this.
-/

namespace Formulary

namespace Json

variable {members : List (JsonString × Json)} {name : String} {v w : Json}

/-- A value is a part of itself, and so are the parts of its items and of the values of its members. -/
inductive Part : Json → Json → Prop
  | self (v : Json) : Part v v
  | item {items : List Json} {v w : Json} : v ∈ items → Part w v → Part w (.array items)
  | member {members : List (JsonString × Json)} {m : JsonString × Json} {w : Json} : m ∈ members → Part w m.2 →
      Part w (.object members)

/-- The value is the last one with this name. -/
def Last (members : List (JsonString × Json)) (name : String) (v : Json) : Prop :=
  ∃ before after, members = before ++ (some name, v) :: after ∧ ∀ m ∈ after, m.1 ≠ some name

def IsScalar : Json → Prop
  | array _ => False
  | object _ => False
  | _ => True

def IsObject : Json → Prop
  | object _ => True
  | _ => False

theorem Last.mem (h : Last members name v) : (some name, v) ∈ members := by
  obtain ⟨before, after, rfl, _⟩ := h
  exact List.mem_append_right _ List.mem_cons_self

theorem last_append_singleton {m : JsonString × Json} :
    Last (members ++ [m]) name v ↔ m = (some name, v) ∨ m.1 ≠ some name ∧ Last members name v := by
  constructor
  · rintro ⟨before, after, heq, hafter⟩
    rcases List.eq_nil_or_concat after with rfl | ⟨after, m', rfl⟩
    · exact .inl (List.cons.inj (List.append_inj' heq rfl).2).1
    · rw [List.concat_eq_append, ← List.cons_append, ← List.append_assoc] at heq
      obtain ⟨rfl, hm⟩ := List.append_inj' heq rfl
      obtain rfl := (List.cons.inj hm).1
      refine .inr ⟨hafter m (by simp), before, after, rfl, fun m' hm' => hafter m' ?_⟩
      simp [hm']
  · rintro (rfl | ⟨hne, before, after, rfl, hafter⟩)
    · exact ⟨members, [], rfl, nofun⟩
    · refine ⟨before, after ++ [m], by simp, fun m' hm' => ?_⟩
      rcases List.mem_append.1 hm' with hm' | hm'
      · exact hafter m' hm'
      · rwa [List.mem_singleton.1 hm']

/-- Where no name is repeated, every member is the last of its name. -/
theorem last_iff_mem (h : (members.map Prod.fst).Nodup) : Last members name v ↔ (some name, v) ∈ members := by
  refine ⟨Last.mem, fun hmem => ?_⟩
  obtain ⟨before, after, rfl⟩ := List.append_of_mem hmem
  refine ⟨before, after, rfl, fun m hm heq => ?_⟩
  rw [List.map_append, List.map_cons, List.nodup_append] at h
  exact (List.nodup_cons.1 h.2.1).1 (List.mem_map.2 ⟨m, hm, heq⟩)

end Json

namespace FormValues

open Json (Last Part)

/-! ### What a text is read as -/

/-- Whether an integer fits 64 bits, with a sign or without. -/
def Fits64 (i : Int) : Prop := -9223372036854775808 ≤ i ∧ i ≤ 18446744073709551615

/-- The limits of the reader: the depth of nesting, strings and names that are texts, and numbers that are doubles if
they are no integers of 64 bits. -/
structure WithinLimits (v : Json) : Prop where
  depth_le : v.depth ≤ maxDepth
  string : ∀ s, Part (.string s) v → s.isSome
  name : ∀ members, Part (.object members) v → ∀ m ∈ members, m.1.isSome
  number : ∀ n, Part (.number n) v → (∃ i, n.int? = some i ∧ Fits64 i) ∨ n.magnitude?.isSome

/-- The text is JSON within the limits, and this is its value. -/
def Accepts (s : String) (v : Json) : Prop := Json.IsText s v ∧ WithinLimits v

/-- The text that a scalar is taken as. -/
inductive Spells : Json → String → Prop
  | null : Spells .null ""
  | yes : Spells (.bool true) "true"
  | no : Spells (.bool false) "false"
  | string (t : String) : Spells (.string (some t)) t
  | integer {n : JsonNumber} {i : Int} : n.int? = some i → Fits64 i → Spells (.number n) (toString i)
  | double {n : JsonNumber} {x : Binary64} : (∀ i, n.int? = some i → ¬ Fits64 i) → n.magnitude? = some x →
      Spells (.number n) (String.ofList ((if n.negative then ['-'] else []) ++ doubleChars x))

/-- What a text is read as: the submission of an object of scalars, of repeated names the last, or why it is none. -/
inductive Reads (s : String) : Except SubmissionError FormValues → Prop
  | ok {members : List (JsonString × Json)} {values : FormValues} : Accepts s (.object members) →
      (∀ name v, Last members name v → v.IsScalar) →
      (∀ name, name ∈ values.keys ↔ ∃ v, (some name, v) ∈ members) →
      (∀ name text, values.get? name = some text ↔ ∃ v, Last members name v ∧ Spells v text) → Reads s (.ok values)
  | notJson : (∀ v, ¬ Accepts s v) → Reads s (.error .notJson)
  | notObject {v : Json} : Accepts s v → ¬ v.IsObject → Reads s (.error .notObject)
  /-- Of the names whose values are no scalars the first is given, in the order of their bytes. -/
  | notScalar {members : List (JsonString × Json)} {name : String} {v : Json} : Accepts s (.object members) →
      Last members name v → ¬ v.IsScalar →
      (∀ other w, Last members other w → ¬ w.IsScalar → name = other ∨ Text.bytes name < Text.bytes other) →
      Reads s (.error (.notScalar name))

/-! ### Limits -/

variable {s text name : String} {v : Json} {members : List (JsonString × Json)} {values : FormValues}

theorem isInteger64_iff {i : Int} : isInteger64 i = true ↔ Fits64 i := by
  simp only [isInteger64, Fits64, Bool.and_eq_true, decide_eq_true_eq]

theorem numberText?_of_fits64 {n : JsonNumber} {i : Int} (hi : n.int? = some i) (hfits : Fits64 i) :
    numberText? n = some (toString i) := by
  unfold numberText?
  simp only [hi, if_pos (isInteger64_iff.2 hfits), Option.some.injEq]
  exact String.toList_inj.1 (by rw [String.toList_ofList, Numeral.toList_toString_int])

theorem numberText?_of_not_fits64 {n : JsonNumber} (h : ∀ i, n.int? = some i → ¬ Fits64 i) :
    numberText? n =
      n.magnitude?.map fun x => String.ofList ((if n.negative then ['-'] else []) ++ doubleChars x) := by
  unfold numberText?
  cases hi : n.int? with
  | none => rfl
  | some i => exact if_neg (mt isInteger64_iff.1 (h i hi))

theorem numberText?_eq_some_iff {n : JsonNumber} : numberText? n = some text ↔ Spells (.number n) text := by
  constructor
  · intro h
    by_cases hfits : ∃ i, n.int? = some i ∧ Fits64 i
    · obtain ⟨i, hi, hfits⟩ := hfits
      rw [numberText?_of_fits64 hi hfits] at h
      exact Option.some.inj h ▸ .integer hi hfits
    · have hnone (i : Int) (hi : n.int? = some i) : ¬ Fits64 i := fun hi64 => hfits ⟨i, hi, hi64⟩
      rw [numberText?_of_not_fits64 hnone] at h
      obtain ⟨x, hx, rfl⟩ := Option.map_eq_some_iff.1 h
      exact .double hnone hx
  · rintro (_ | _ | _ | _ | ⟨hi, hfits⟩ | ⟨hnone, hx⟩)
    · exact numberText?_of_fits64 hi hfits
    · rw [numberText?_of_not_fits64 hnone, hx, Option.map_some]

theorem exists_numberText?_iff {n : JsonNumber} :
    (numberText? n).isSome ↔ (∃ i, n.int? = some i ∧ Fits64 i) ∨ n.magnitude?.isSome := by
  rw [Option.isSome_iff_exists, Option.isSome_iff_exists]
  simp only [numberText?_eq_some_iff]
  constructor
  · rintro ⟨_, h⟩
    cases h with
    | integer hi hfits => exact .inl ⟨_, hi, hfits⟩
    | double _ hx => exact .inr ⟨_, hx⟩
  · intro h
    by_cases hfits : ∃ i, n.int? = some i ∧ Fits64 i
    · obtain ⟨i, hi, hfits⟩ := hfits
      exact ⟨_, .integer hi hfits⟩
    · obtain ⟨x, hx⟩ := h.resolve_left hfits
      exact ⟨_, .double (fun i hi h => hfits ⟨i, hi, h⟩) hx⟩

/-- What the reader asks of a part by itself. -/
def IsSoundPart : Json → Prop
  | .string s => s.isSome
  | .number n => (numberText? n).isSome
  | .object members => ∀ m ∈ members, m.1.isSome
  | _ => True

mutual

theorem isReadable_iff (v : Json) : isReadable v = true ↔ ∀ w, Part w v → IsSoundPart w := by
  match v with
  | .null | .bool _ | .string _ | .number _ =>
    refine ⟨fun h w hw => ?_, fun h => ?_⟩
    · cases hw
      first | exact h | trivial
    · first | exact h _ (.self _) | rfl
  | .array items =>
    rw [isReadable, areReadable_iff items]
    constructor
    · rintro h w (_ | ⟨hv, hw⟩)
      · trivial
      · exact h _ hv w hw
    · exact fun h v hv w hw => h w (.item hv hw)
  | .object members =>
    rw [isReadable, areReadableMembers_iff members]
    constructor
    · rintro h w (_ | _ | ⟨hm, hw⟩)
      · exact fun m hm => (h m hm).1
      · exact (h _ hm).2 w hw
    · exact fun h m hm => ⟨h _ (.self _) m hm, fun w hw => h w (.member hm hw)⟩

theorem areReadable_iff (vs : List Json) :
    areReadable vs = true ↔ ∀ v ∈ vs, ∀ w, Part w v → IsSoundPart w := by
  match vs with
  | [] => simp [areReadable]
  | v :: vs => rw [areReadable, Bool.and_eq_true, isReadable_iff v, areReadable_iff vs, List.forall_mem_cons]

theorem areReadableMembers_iff (ms : List (JsonString × Json)) :
    areReadableMembers ms = true ↔ ∀ m ∈ ms, m.1.isSome ∧ ∀ w, Part w m.2 → IsSoundPart w := by
  match ms with
  | [] => simp [areReadableMembers]
  | (name, v) :: ms =>
    rw [areReadableMembers, Bool.and_eq_true, Bool.and_eq_true, isReadable_iff v, areReadableMembers_iff ms,
      List.forall_mem_cons]

end

theorem withinLimits_iff : WithinLimits v ↔ v.depth ≤ maxDepth ∧ isReadable v = true := by
  rw [isReadable_iff]
  constructor
  · intro h
    refine ⟨h.depth_le, fun w hw => ?_⟩
    match w with
    | .string s => exact h.string s hw
    | .number n => exact exists_numberText?_iff.2 (h.number n hw)
    | .object members => exact h.name members hw
    | .null | .bool _ | .array _ => trivial
  · rintro ⟨hdepth, hparts⟩
    exact ⟨hdepth, fun s => hparts _, fun members => hparts _, fun n hn => exists_numberText?_iff.1 (hparts _ hn)⟩

/-! ### The members of an object -/

theorem scalarText?_eq_some_iff : scalarText? v = some text ↔ Spells v text := by
  match v with
  | .number n => exact numberText?_eq_some_iff
  | .array _ | .object _ => exact ⟨nofun, nofun⟩
  | .null =>
    refine ⟨fun h => Option.some.inj h ▸ .null, fun h => ?_⟩
    cases h
    rfl
  | .bool b =>
    constructor
    · intro h
      cases b with
      | true => exact Option.some.inj h ▸ .yes
      | false => exact Option.some.inj h ▸ .no
    · intro h
      cases h <;> rfl
  | .string s =>
    constructor
    · rintro rfl
      exact .string text
    · intro h
      cases h
      rfl

/-- A scalar within the limits has a text. -/
theorem exists_spells (h : isReadable v = true) (hv : v.IsScalar) : ∃ text, Spells v text := by
  simp only [← scalarText?_eq_some_iff, ← Option.isSome_iff_exists]
  match v with
  | .null | .bool _ => rfl
  | .string _ | .number _ => exact h

theorem scalarText?_eq_none_iff (h : isReadable v = true) : scalarText? v = none ↔ ¬ v.IsScalar := by
  refine ⟨fun hnone hv => ?_, fun hv => ?_⟩
  · obtain ⟨text, htext⟩ := exists_spells h hv
    rw [scalarText?_eq_some_iff.2 htext] at hnone
    cases hnone
  · match v with
    | .array _ | .object _ => rfl
    | .null | .bool _ | .number _ | .string _ => exact absurd trivial hv

theorem membersByName_append_singleton (m : JsonString × Json) :
    membersByName (members ++ [m]) =
      m.1.elim (membersByName members) fun n => (membersByName members).insert n m.2 := by
  unfold membersByName
  rw [List.filterMap_append, Table.ofList, List.foldl_append]
  obtain ⟨name, v⟩ := m
  cases name <;> rfl

theorem get?_membersByName : (membersByName members).get? name = some v ↔ Last members name v := by
  induction members using List.reverseRecOn with
  | nil => simp [membersByName, Table.ofList, Table.empty, Table.get?, Last]
  | append_singleton members m ih =>
    obtain ⟨n, w⟩ := m
    rw [Json.last_append_singleton, membersByName_append_singleton, ← ih]
    cases n with
    | none => simp
    | some n =>
      rw [Option.elim_some, Table.get?_insert]
      by_cases hn : name = n
      · simp [hn]
      · simp [hn, Ne.symm hn]

theorem mem_keys_membersByName : name ∈ (membersByName members).keys ↔ ∃ v, (some name, v) ∈ members := by
  rw [membersByName, Table.mem_keys_ofList_iff]
  simp

/-! ### What is read -/

/-- The text of a member, and the fault if it is no scalar. -/
def entry (m : String × Json) : Except SubmissionError (String × String) :=
  match scalarText? m.2 with
  | some t => .ok (m.1, t)
  | none => .error (.notScalar m.1)

theorem ofMembers_eq (members : List (JsonString × Json)) :
    ofMembers members = ((membersByName members).entries.mapM entry).map Table.ofList := rfl

theorem entry_eq_ok_iff {m : String × Json} {e : String × String} :
    entry m = .ok e ↔ m.1 = e.1 ∧ scalarText? m.2 = some e.2 := by
  unfold entry
  cases scalarText? m.2 <;> simp [Prod.ext_iff]

theorem entry_eq_error_iff {m : String × Json} {e : SubmissionError} :
    entry m = .error e ↔ e = .notScalar m.1 ∧ scalarText? m.2 = none := by
  unfold entry
  cases scalarText? m.2 <;> simp [eq_comm]

theorem mem_entries_iff : (name, v) ∈ (membersByName members).entries ↔ Last members name v := by
  rw [← get?_membersByName, Table.get?_eq_some_iff]

theorem Last.unique {w : Json} (hv : Last members name v) (hw : Last members name w) : v = w :=
  Option.some.inj ((get?_membersByName.2 hv).symm.trans (get?_membersByName.2 hw))

section Texts

variable {texts : List (String × String)} (htexts : (membersByName members).entries.mapM entry = .ok texts)

include htexts

theorem exists_mem_texts (hv : Last members name v) : ∃ text, (name, text) ∈ texts ∧ Spells v text := by
  have hmap := map_eq_of_mapM_eq_ok htexts
  obtain ⟨e, he, hentry⟩ := List.mem_map.1 (hmap ▸ List.mem_map_of_mem (mem_entries_iff.2 hv))
  obtain ⟨rfl, htext⟩ := entry_eq_ok_iff.1 hentry.symm
  exact ⟨e.2, he, scalarText?_eq_some_iff.1 htext⟩

theorem exists_last_of_mem_texts (h : (name, text) ∈ texts) : ∃ v, Last members name v ∧ Spells v text := by
  have hmap := map_eq_of_mapM_eq_ok htexts
  obtain ⟨m, hm, hentry⟩ := List.mem_map.1 (hmap ▸ List.mem_map_of_mem h)
  obtain ⟨rfl, htext⟩ := entry_eq_ok_iff.1 hentry
  exact ⟨m.2, mem_entries_iff.1 hm, scalarText?_eq_some_iff.1 htext⟩

theorem get?_texts : (Table.ofList texts).get? name = some text ↔ ∃ v, Last members name v ∧ Spells v text := by
  constructor
  · exact fun hget => exists_last_of_mem_texts htexts (Table.mem_of_get?_ofList hget)
  · rintro ⟨v, hv, htext⟩
    obtain ⟨text', hmem, -⟩ := exists_mem_texts htexts hv
    obtain ⟨text', hget⟩ := Table.mem_keys_iff.1 (Table.mem_keys_ofList_iff.2 ⟨text', hmem⟩)
    -- a name has one last value, and a value one text
    obtain ⟨w, hw, htext'⟩ := exists_last_of_mem_texts htexts (Table.mem_of_get?_ofList hget)
    obtain rfl := Last.unique hw hv
    have heq := (scalarText?_eq_some_iff.2 htext').symm.trans (scalarText?_eq_some_iff.2 htext)
    rw [hget, Option.some.inj heq]

end Texts

theorem last_of_ofMembers_eq_ok (h : ofMembers members = .ok values) :
    (∀ name v, Last members name v → ∃ text, Spells v text) ∧
      ∀ name text, values.get? name = some text ↔ ∃ v, Last members name v ∧ Spells v text := by
  rw [ofMembers_eq] at h
  cases htexts : (membersByName members).entries.mapM entry with
  | error e =>
    rw [htexts] at h
    cases h
  | ok texts =>
    rw [htexts] at h
    obtain rfl : Table.ofList texts = values := Except.ok.inj h
    exact ⟨fun name v hv => (exists_mem_texts htexts hv).imp fun _ => And.right, fun name text => get?_texts htexts⟩

theorem last_of_ofMembers_eq_error {e : SubmissionError} (h : ofMembers members = .error e) :
    ∃ name v, e = .notScalar name ∧ Last members name v ∧ scalarText? v = none ∧
      ∀ other w, Last members other w → scalarText? w = none → name = other ∨ name < other := by
  rw [ofMembers_eq] at h
  cases htexts : (membersByName members).entries.mapM entry with
  | ok texts =>
    rw [htexts] at h
    cases h
  | error e' =>
    rw [htexts] at h
    obtain rfl : e' = e := Except.error.inj h
    obtain ⟨before, m, after, heq, hbefore, hfault⟩ := exists_of_mapM_eq_error htexts
    obtain ⟨rfl, hnone⟩ := entry_eq_error_iff.1 hfault
    have hm : m ∈ (membersByName members).entries := heq ▸ List.mem_append_right _ List.mem_cons_self
    refine ⟨m.1, m.2, rfl, mem_entries_iff.1 hm, hnone, fun other w hw hwnone => ?_⟩
    have hordered := (membersByName members).ascending
    rw [heq, List.pairwise_append, List.pairwise_cons] at hordered
    have hmem := mem_entries_iff.2 hw
    rw [heq, List.mem_append, List.mem_cons] at hmem
    rcases hmem with hmem | hmem | hmem
    · obtain ⟨c, hc⟩ := hbefore _ hmem
      rw [entry_eq_error_iff.2 ⟨rfl, hwnone⟩] at hc
      cases hc
    · exact .inl (congrArg Prod.fst hmem).symm
    · exact .inr (hordered.2.1.1 _ hmem)

theorem ofText_of_object (h : Accepts s (.object members)) : ofText s = ofMembers members := by
  unfold ofText
  rw [Json.ofText?_eq_some_iff.2 h.1]
  exact if_pos (withinLimits_iff.1 h.2)

theorem ofText_of_not_object (h : Accepts s v) (hv : ¬ v.IsObject) : ofText s = .error .notObject := by
  unfold ofText
  rw [Json.ofText?_eq_some_iff.2 h.1]
  match v with
  | .object _ => exact absurd trivial hv
  | .null | .bool _ | .number _ | .string _ | .array _ => exact if_pos (withinLimits_iff.1 h.2)

theorem ofText_of_not_accepts (h : ∀ v, ¬ Accepts s v) : ofText s = .error .notJson := by
  unfold ofText
  split
  next => rfl
  next v hv => exact if_neg fun hlimits => h v ⟨Json.ofText?_eq_some_iff.1 hv, withinLimits_iff.2 hlimits⟩

theorem scalarText?_of_last (h : WithinLimits (.object members)) (hlast : Last members name v) :
    scalarText? v = none ↔ ¬ v.IsScalar := by
  have hparts := (isReadable_iff _).1 (withinLimits_iff.1 h).2
  exact scalarText?_eq_none_iff ((isReadable_iff v).2 fun w hw => hparts w (.member hlast.mem hw))

theorem mem_keys_of_ofMembers_eq_ok (hvalues : ofMembers members = .ok values) :
    name ∈ values.keys ↔ ∃ v, (some name, v) ∈ members := by
  obtain ⟨hscalar, hget⟩ := last_of_ofMembers_eq_ok hvalues
  rw [← mem_keys_membersByName, Table.mem_keys_iff, Table.mem_keys_iff]
  simp only [hget, get?_membersByName]
  constructor
  · rintro ⟨text, v, hv, -⟩
    exact ⟨v, hv⟩
  · rintro ⟨v, hv⟩
    obtain ⟨text, htext⟩ := hscalar name v hv
    exact ⟨text, v, hv, htext⟩

theorem reads_ofText (s : String) : Reads s (ofText s) := by
  by_cases h : ∃ v, Accepts s v
  · obtain ⟨v, hv⟩ := h
    by_cases hobject : v.IsObject
    · match v with
      | .object members =>
        rw [ofText_of_object hv]
        cases hmembers : ofMembers members with
        | ok values =>
          obtain ⟨hscalar, hget⟩ := last_of_ofMembers_eq_ok hmembers
          refine .ok hv (fun name v hlast => ?_) (fun name => mem_keys_of_ofMembers_eq_ok hmembers) hget
          by_contra hnot
          obtain ⟨text, htext⟩ := hscalar name v hlast
          rw [← scalarText?_eq_some_iff, (scalarText?_of_last hv.2 hlast).2 hnot] at htext
          cases htext
        | error e =>
          obtain ⟨name, v, rfl, hlast, hnone, hfirst⟩ := last_of_ofMembers_eq_error hmembers
          refine .notScalar hv hlast ((scalarText?_of_last hv.2 hlast).1 hnone) fun other w hw hnot => ?_
          rw [Text.bytes_lt_bytes_iff]
          exact hfirst other w hw ((scalarText?_of_last hv.2 hw).2 hnot)
    · rw [ofText_of_not_object hv hobject]
      exact .notObject hv hobject
  · rw [not_exists] at h
    rw [ofText_of_not_accepts h]
    exact .notJson h

theorem ofText_of_reads {outcome : Except SubmissionError FormValues} (h : Reads s outcome) : ofText s = outcome := by
  cases h with
  | notJson h => exact ofText_of_not_accepts h
  | notObject hv hobject => exact ofText_of_not_object hv hobject
  | @ok members values hv hscalar hkeys hget =>
    rw [ofText_of_object hv]
    cases hmembers : ofMembers members with
    | ok values' =>
      obtain ⟨-, hget'⟩ := last_of_ofMembers_eq_ok hmembers
      exact congrArg Except.ok (Table.ext_get? fun name => Option.ext fun text => by rw [hget', hget])
    | error e =>
      obtain ⟨name, v, rfl, hlast, hnone, -⟩ := last_of_ofMembers_eq_error hmembers
      exact absurd (hscalar name v hlast) ((scalarText?_of_last hv.2 hlast).1 hnone)
  | @notScalar members name v hv hlast hnot hfirst =>
    have hnone := (scalarText?_of_last hv.2 hlast).2 hnot
    rw [ofText_of_object hv]
    cases hmembers : ofMembers members with
    | ok values =>
      obtain ⟨hscalar, -⟩ := last_of_ofMembers_eq_ok hmembers
      obtain ⟨text, htext⟩ := hscalar name v hlast
      exact nomatch hnone.symm.trans (scalarText?_eq_some_iff.2 htext)
    | error e =>
      obtain ⟨name', v', rfl, hlast', hnone', hfirst'⟩ := last_of_ofMembers_eq_error hmembers
      -- each of the two names is not after the other
      rcases hfirst' name v hlast hnone with rfl | hlt
      · rfl
      · rcases hfirst name' v' hlast' ((scalarText?_of_last hv.2 hlast').1 hnone') with rfl | hgt
        · rfl
        · exact absurd hlt (String.lt_asymm (Text.bytes_lt_bytes_iff.1 hgt))

/-! ### Texts under their names -/

theorem withinLimits_texts (h : ∀ m ∈ members, ∃ name t, m = (some name, .text t)) :
    WithinLimits (.object members) := by
  have hmembers : Json.depthMembers members = 0 ∧ areReadableMembers members = true := by
    induction members with
    | nil => exact ⟨rfl, rfl⟩
    | cons m members ih =>
      obtain ⟨⟨name, t, rfl⟩, hrest⟩ := List.forall_mem_cons.1 h
      obtain ⟨hdepth, hreadable⟩ := ih hrest
      simp [Json.depthMembers, Json.depth, Json.text, areReadableMembers, isReadable, hdepth, hreadable]
  rw [withinLimits_iff, Json.depth, isReadable, hmembers.1]
  exact ⟨by decide, hmembers.2⟩

theorem ofText_of_perm (hmembers : members.Perm (values.entries.map fun e => (some e.1, .text e.2)))
    (hs : Json.IsText s (.object members)) : ofText s = .ok values := by
  have hmem {name : String} {v : Json} : (some name, v) ∈ members ↔ ∃ t, values.get? name = some t ∧ v = .text t := by
    rw [hmembers.mem_iff]
    simp only [List.mem_map, Prod.mk.injEq, Option.some.injEq, Table.get?_eq_some_iff]
    constructor
    · rintro ⟨e, he, rfl, rfl⟩
      exact ⟨e.2, he, rfl⟩
    · rintro ⟨t, ht, rfl⟩
      exact ⟨(name, t), ht, rfl, rfl⟩
  have hnodup : (members.map Prod.fst).Nodup := by
    have hkeys := (Table.nodup_keys values).map fun a b (h : some a = some b) => Option.some.inj h
    rw [Table.keys, List.map_map] at hkeys
    rwa [(hmembers.map Prod.fst).nodup_iff, List.map_map]
  have hlast {name : String} {v : Json} : Last members name v ↔ ∃ t, values.get? name = some t ∧ v = .text t :=
    (Json.last_iff_mem hnodup).trans hmem
  refine ofText_of_reads (.ok ⟨hs, withinLimits_texts ?_⟩ ?_ ?_ ?_)
  · intro m hm
    obtain ⟨e, _, rfl⟩ := List.mem_map.1 (hmembers.mem_iff.1 hm)
    exact ⟨e.1, e.2, rfl⟩
  · intro name v hv
    obtain ⟨t, _, rfl⟩ := hlast.1 hv
    trivial
  · intro name
    simp only [Table.mem_keys_iff, hmem]
    constructor
    · rintro ⟨t, ht⟩
      exact ⟨_, t, ht, rfl⟩
    · rintro ⟨_, t, ht, -⟩
      exact ⟨t, ht⟩
  · intro name text
    constructor
    · exact fun hget => ⟨.text text, hlast.2 ⟨text, hget, rfl⟩, .string text⟩
    · rintro ⟨v, hv, htext⟩
      obtain ⟨t, ht, rfl⟩ := hlast.1 hv
      cases htext
      exact ht

/-- A text is read as what it says: a submission, of repeated names the last value, or why it is none.  In particular
the text of texts under distinct names, in any order, is read as these. -/
theorem ofText_eq_iff_reads :
    (∀ s outcome, ofText s = outcome ↔ Reads s outcome) ∧
    (∀ (values : FormValues) (members : List (JsonString × Json)) (s : String),
      members.Perm (values.entries.map fun e => (some e.1, .text e.2)) → Json.IsText s (.object members) →
        ofText s = .ok values) ∧
    (∀ values : FormValues, ofText (JsonForm.toText values) = .ok values) ∧
    SubmissionError.notObject.message = "expected a JSON object" ∧
    ∀ name, (SubmissionError.notScalar name).message = "field " ++ name ++ " must be a scalar" := by
  refine ⟨fun s outcome => ⟨fun h => h ▸ reads_ofText s, ofText_of_reads⟩,
    fun values members s hmembers hs => ofText_of_perm hmembers hs, fun values => ?_, rfl, fun name => rfl⟩
  exact ofText_of_perm (.of_eq List.map_map) (Json.isText_compact _)

/-- A text after an array of the same name, minus zero, which is no integer, and null. -/
example : (ofText "\x7b\"ville\": [1], \"solde\": -0, \"ville\": \"Nice\", \"note\": null\x7d").toOption =
    some (Table.ofList [("note", ""), ("solde", "-0.0"), ("ville", "Nice")]) := by decide +kernel

end FormValues

end Formulary
