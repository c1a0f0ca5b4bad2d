import Formulary.Proofs.Json.Fields
import Formulary.Proofs.Json.Record

/-!
# What a record is read from

A record is described by many JSON values (`DescribedJsonForm.Describes`), and each of them is read as the record: an
identifier in any of its forms, an instant by what any clock shows, a role set by its roles in any order, a field with a
default by its absence, and one without a value by its absence or by null.  The members of an object may stand in any
order and among others (`Json.IsRecord.perm`, `Json.isRecord_append_iff`).  What is written for a record is one of these
values, and whatever describes the record is written as this one (`written_of_describes`).
-/

namespace Formulary

open JsonForm

/-- A form with the ways in which a value is described. -/
class DescribedJsonForm (α : Type) [JsonForm α] where
  /-- The JSON value is one of those that describe `a`. -/
  Describes : Json → α → Prop
  read?_of_describes : ∀ {v : Json} {a : α}, Describes v a → read? v = some a
  describes_write : ∀ a : α, Describes (write a) a

open LawfulJsonForm DescribedJsonForm

/-! ### Fields -/

section

variable {α : Type} [JsonForm α] [DescribedJsonForm α] {value : Option Json} {default a : α} {o : Option α}

theorem required?_of_isGiven (h : Json.IsGiven Describes value a) : required? value = some a := by
  obtain ⟨v, rfl, hv⟩ := h
  exact read?_of_describes hv

theorem withDefault?_of_isOrDefault (h : Json.IsOrDefault Describes default value a) :
    withDefault? default value = some a := by
  cases value with
  | none => exact congrArg some h.symm
  | some v => exact read?_of_describes h

theorem optional?_of_isOrNull (h : Json.IsOrNull Describes value o) : optional? value = some o := by
  cases o with
  | none =>
    rcases h with rfl | rfl
    · rfl
    · rfl
  | some a =>
    obtain ⟨v, rfl, hnull, hv⟩ := h
    rw [optional?.eq_3 _ hnull]
    show (read? v).map some = some (some a)
    rw [read?_of_describes hv, Option.map_some]

theorem isGiven_write (a : α) : Json.IsGiven Describes (some (write a)) a := ⟨write a, rfl, describes_write a⟩

theorem isOrDefault_write (default a : α) : Json.IsOrDefault Describes default (some (write a)) a := describes_write a

theorem isOrNull_map_write [LawfulJsonForm α] (o : Option α) : Json.IsOrNull Describes (o.map write) o := by
  cases o with
  | none => exact .inl rfl
  | some a => exact ⟨write a, rfl, write_ne_null a, describes_write a⟩

theorem isOrNull_orNull [LawfulJsonForm α] (o : Option α) : Json.IsOrNull Describes (some (orNull o)) o := by
  cases o with
  | none => exact .inr rfl
  | some a => exact ⟨write a, rfl, write_ne_null a, describes_write a⟩

end

/-! ### Values -/

instance : DescribedJsonForm String where
  Describes v s := v = .text s
  read?_of_describes h := h ▸ rfl
  describes_write _ := rfl

instance : DescribedJsonForm Bool where
  Describes v b := v = .bool b
  read?_of_describes h := h ▸ rfl
  describes_write _ := rfl

/-- An integer literal, without a fraction and without an exponent. -/
instance : DescribedJsonForm UInt32 where
  Describes v i := ∃ n, v = .number n ∧ n.int? = some (i.toNat : Int)
  read?_of_describes h := by
    obtain ⟨n, rfl, hn⟩ := h
    exact read?_unsigned hn
  describes_write _ := ⟨_, rfl, JsonNumber.int?_ofInt _⟩

instance {α : Type} [JsonForm α] [DescribedJsonForm α] : DescribedJsonForm (List α) where
  Describes v as := ∃ items, v = .array items ∧ List.Forall₂ Describes items as
  read?_of_describes h := by
    obtain ⟨items, rfl, hitems⟩ := h
    exact Json.mapM_eq_some_iff.2 (hitems.imp fun _ _ => read?_of_describes)
  describes_write as :=
    ⟨as.map write, rfl, List.forall₂_map_left_iff.2 (List.forall₂_same.2 fun a _ => describes_write a)⟩

/-- The entries of a table stand in any order, and of those with one name the last one counts. -/
instance {α : Type} [JsonForm α] [DescribedJsonForm α] : DescribedJsonForm (Table α) where
  Describes v t := ∃ members entries, v = .object members ∧
    List.Forall₂ (fun m e => m.1 = some e.1 ∧ Describes m.2 e.2) members entries ∧ Table.ofList entries = t
  read?_of_describes h := by
    obtain ⟨members, entries, rfl, h, rfl⟩ := h
    have hentries : members.mapM (fun m => do return (← m.1, ← read? m.2)) = some entries := by
      refine Json.mapM_eq_some_iff.2 (h.imp fun m e h => ?_)
      simp [h.1, read?_of_describes h.2]
    exact Option.bind_eq_some_iff.2 ⟨entries, hentries, rfl⟩
  describes_write t := by
    refine ⟨t.entries.map fun e => (some e.1, write e.2), t.entries, ?_, ?_, t.ofList_entries⟩
    · simp [write, Json.record]
    · exact List.forall₂_map_left_iff.2 (List.forall₂_same.2 fun e _ => ⟨rfl, describes_write e.2⟩)

/-- Any form of the identifier, with letters of either case. -/
instance : DescribedJsonForm Uuid where
  Describes v id := ∃ s, v = .text s ∧ id.Form s.toList
  read?_of_describes h := by
    obtain ⟨s, rfl, hs⟩ := h
    exact Uuid.ofText?_of_form hs
  describes_write id := ⟨id.text, rfl, id.form_text⟩

instance : DescribedJsonForm OrganizationId where
  Describes v id := Describes v id.uuid
  read?_of_describes h := congrArg (Option.map OrganizationId.mk) (read?_of_describes h)
  describes_write id := describes_write id.uuid

instance : DescribedJsonForm UserId where
  Describes v id := Describes v id.uuid
  read?_of_describes h := congrArg (Option.map UserId.mk) (read?_of_describes h)
  describes_write id := describes_write id.uuid

instance : DescribedJsonForm TemplateId where
  Describes v id := Describes v id.uuid
  read?_of_describes h := congrArg (Option.map TemplateId.mk) (read?_of_describes h)
  describes_write id := describes_write id.uuid

instance : DescribedJsonForm DocumentId where
  Describes v id := Describes v id.uuid
  read?_of_describes h := congrArg (Option.map DocumentId.mk) (read?_of_describes h)
  describes_write id := describes_write id.uuid

/-- Any timestamp of the instant, in any zone and with any number of digits for its fraction. -/
instance : DescribedJsonForm Instant where
  Describes v t := ∃ s, v = .text s ∧ t.Stamp s.toList
  read?_of_describes h := by
    obtain ⟨s, rfl, hs⟩ := h
    exact Instant.ofTimestamp?_of_stamp hs
  describes_write t := ⟨t.timestamp, rfl, t.stamp_timestamp⟩

/-- The name of the type, be it one of the known ones or not. -/
instance : DescribedJsonForm VariableType where
  Describes v t := v = .text t.name
  read?_of_describes h := h ▸ read?_write _
  describes_write _ := rfl

/-- A plain case of an enumeration: its name, or an object with a member of that name. -/
def Json.IsCase (v : Json) (name : String) : Prop := v = .text name ∨ v = .object [(some name, .null)]

theorem Json.IsCase.bind_caseName? {α : Type} {v : Json} {name : String} (h : v.IsCase name) (f : String → Option α) :
    v.caseName?.bind f = f name := by
  rcases h with rfl | rfl
  · rfl
  · rfl

instance : DescribedJsonForm Status where
  Describes v s := v.IsCase s.name
  read?_of_describes h := (h.bind_caseName? Status.ofName?).trans (Status.ofName?_name _)
  describes_write _ := .inl rfl

instance : DescribedJsonForm Audience where
  Describes v a := v.IsCase a.name
  read?_of_describes h := (h.bind_caseName? Audience.ofName?).trans (Audience.ofName?_name _)
  describes_write _ := .inl rfl

instance : DescribedJsonForm Role where
  Describes v r := v.IsCase r.name
  read?_of_describes h := (h.bind_caseName? Role.ofName?).trans (Role.ofName?_name _)
  describes_write _ := .inl rfl

/-- A list with the roles of the set, in any order and maybe more than once. -/
instance : DescribedJsonForm RoleSet where
  Describes v s := ∃ roles : List Role, Describes v roles ∧ ∀ r, s.has r = true ↔ r ∈ roles
  read?_of_describes h := by
    obtain ⟨roles, hv, hroles⟩ := h
    show (read? _).map RoleSet.ofList = some _
    rw [read?_of_describes hv, Option.map_some, RoleSet.ofList_eq_iff.2 hroles]
  describes_write s := ⟨s.toList, describes_write s.toList, RoleSet.ofList_eq_iff.1 s.ofList_toList⟩

/-! ### Records -/

open Json (IsGiven IsOrDefault IsOrNull)

instance : DescribedJsonForm User where
  Describes v u := v.IsRecord [
    ("id", (IsGiven Describes · u.id)),
    ("name", (IsOrDefault Describes "" · u.name)),
    ("email", (IsOrDefault Describes "" · u.email)),
    ("roles", (IsOrDefault Describes RoleSet.empty · u.roles)),
    ("organization", (IsOrNull Describes · u.organization))]
  read?_of_describes h := by
    refine Json.bind_fields?_of_isRecord h fun values hvalues => ?_
    match values, hvalues with
    | [_, _, _, _, _], .cons hid (.cons hname (.cons hemail (.cons hroles (.cons horganization .nil)))) =>
      simp [required?_of_isGiven hid, withDefault?_of_isOrDefault hname, withDefault?_of_isOrDefault hemail,
        withDefault?_of_isOrDefault hroles, optional?_of_isOrNull horganization]
  describes_write u := by
    refine Json.isRecord_fields rfl (by simp) ?_
    simp [isGiven_write, isOrDefault_write, isOrNull_map_write]

instance : DescribedJsonForm Variable where
  Describes v x := v.IsRecord [
    ("name", (IsGiven Describes · x.name)),
    ("label", (IsGiven Describes · x.label)),
    ("type", (IsGiven Describes · x.kind)),
    ("required", (IsGiven Describes · x.required)),
    ("options", (IsOrDefault Describes [] · x.options))]
  read?_of_describes h := by
    refine Json.bind_fields?_of_isRecord h fun values hvalues => ?_
    match values, hvalues with
    | [_, _, _, _, _], .cons hname (.cons hlabel (.cons hkind (.cons hrequired (.cons hoptions .nil)))) =>
      simp [required?_of_isGiven hname, required?_of_isGiven hlabel, required?_of_isGiven hkind,
        required?_of_isGiven hrequired, withDefault?_of_isOrDefault hoptions]
  describes_write x := by
    have hoptions : IsOrDefault Describes [] (if x.options = [] then none else some (write x.options)) x.options := by
      by_cases h : x.options = []
      · rw [if_pos h]
        exact h
      · rw [if_neg h]
        exact isOrDefault_write [] x.options
    refine Json.isRecord_fields rfl (by simp) ?_
    simp [isGiven_write, hoptions]

instance : DescribedJsonForm Template where
  Describes v t := v.IsRecord [
    ("id", (IsGiven Describes · t.id)),
    ("name", (IsGiven Describes · t.name)),
    ("description", (IsOrNull Describes · t.description)),
    ("body", (IsGiven Describes · t.body)),
    ("variables", (IsOrDefault Describes [] · t.form)),
    ("visibility", (IsOrDefault Describes .organization · t.audience)),
    ("organization", (IsOrNull Describes · t.organization)),
    ("creator", (IsGiven Describes · t.creator)),
    ("version", (IsGiven Describes · t.version)),
    ("created_at", (IsGiven Describes · t.createdAt)),
    ("updated_at", (IsOrNull Describes · t.updatedAt))]
  read?_of_describes h := by
    refine Json.bind_fields?_of_isRecord h fun values hvalues => ?_
    match values, hvalues with
    | [_, _, _, _, _, _, _, _, _, _, _],
        .cons hid (.cons hname (.cons hdescription (.cons hbody (.cons hform (.cons haudience (.cons horganization
        (.cons hcreator (.cons hversion (.cons hcreatedAt (.cons hupdatedAt .nil)))))))))) =>
      simp [required?_of_isGiven hid, required?_of_isGiven hname, optional?_of_isOrNull hdescription,
        required?_of_isGiven hbody, withDefault?_of_isOrDefault hform, withDefault?_of_isOrDefault haudience,
        optional?_of_isOrNull horganization, required?_of_isGiven hcreator, required?_of_isGiven hversion,
        required?_of_isGiven hcreatedAt, optional?_of_isOrNull hupdatedAt]
  describes_write t := by
    refine Json.isRecord_fields rfl (by simp) ?_
    simp [isGiven_write, isOrDefault_write, isOrNull_map_write]

instance : DescribedJsonForm Document where
  Describes v d := v.IsRecord [
    ("id", (IsGiven Describes · d.id)),
    ("template", (IsGiven Describes · d.template)),
    ("organization", (IsOrNull Describes · d.organization)),
    ("creator", (IsGiven Describes · d.creator)),
    ("status", (IsOrDefault Describes .draft · d.status)),
    ("data", (IsOrDefault Describes Table.empty · d.data)),
    ("generated_content", (IsGiven Describes · d.content)),
    ("created_at", (IsGiven Describes · d.createdAt)),
    ("updated_at", (IsOrNull Describes · d.updatedAt))]
  read?_of_describes h := by
    refine Json.bind_fields?_of_isRecord h fun values hvalues => ?_
    match values, hvalues with
    | [_, _, _, _, _, _, _, _, _],
        .cons hid (.cons htemplate (.cons horganization (.cons hcreator (.cons hstatus (.cons hdata (.cons hcontent
        (.cons hcreatedAt (.cons hupdatedAt .nil)))))))) =>
      simp [required?_of_isGiven hid, required?_of_isGiven htemplate, optional?_of_isOrNull horganization,
        required?_of_isGiven hcreator, withDefault?_of_isOrDefault hstatus, withDefault?_of_isOrDefault hdata,
        required?_of_isGiven hcontent, required?_of_isGiven hcreatedAt, optional?_of_isOrNull hupdatedAt]
  describes_write d := by
    refine Json.isRecord_fields rfl (by simp) ?_
    simp [isGiven_write, isOrDefault_write, isOrNull_map_write]

instance : DescribedJsonForm TemplateRequest where
  Describes v n := v.IsRecord [
    ("id", (IsGiven Describes · n.id)),
    ("name", (IsGiven Describes · n.name)),
    ("description", (IsOrNull Describes · n.description)),
    ("body", (IsGiven Describes · n.body)),
    ("visibility", (IsOrDefault Describes .organization · n.audience))]
  read?_of_describes h := by
    refine Json.bind_fields?_of_isRecord h fun values hvalues => ?_
    match values, hvalues with
    | [_, _, _, _, _], .cons hid (.cons hname (.cons hdescription (.cons hbody (.cons haudience .nil)))) =>
      simp [required?_of_isGiven hid, required?_of_isGiven hname, optional?_of_isOrNull hdescription,
        required?_of_isGiven hbody, withDefault?_of_isOrDefault haudience]
  describes_write n := by
    refine Json.isRecord_fields rfl (by simp) ?_
    simp [isGiven_write, isOrDefault_write, isOrNull_orNull]

instance : DescribedJsonForm TemplateRevision where
  Describes v e := v.IsRecord [
    ("name", (IsGiven Describes · e.name)),
    ("description", (IsOrNull Describes · e.description)),
    ("body", (IsGiven Describes · e.body)),
    ("visibility", (IsOrDefault Describes .organization · e.audience))]
  read?_of_describes h := by
    refine Json.bind_fields?_of_isRecord h fun values hvalues => ?_
    match values, hvalues with
    | [_, _, _, _], .cons hname (.cons hdescription (.cons hbody (.cons haudience .nil))) =>
      simp [required?_of_isGiven hname, optional?_of_isOrNull hdescription, required?_of_isGiven hbody,
        withDefault?_of_isOrDefault haudience]
  describes_write e := by
    refine Json.isRecord_fields rfl (by simp) ?_
    simp [isGiven_write, isOrDefault_write, isOrNull_orNull]

instance : DescribedJsonForm AccountRequest where
  Describes v n := v.IsRecord [
    ("id", (IsGiven Describes · n.id)),
    ("name", (IsGiven Describes · n.name)),
    ("email", (IsGiven Describes · n.email)),
    ("role", (IsGiven Describes · n.role)),
    ("organization", (IsOrNull Describes · n.organization))]
  read?_of_describes h := by
    refine Json.bind_fields?_of_isRecord h fun values hvalues => ?_
    match values, hvalues with
    | [_, _, _, _, _], .cons hid (.cons hname (.cons hemail (.cons hrole (.cons horganization .nil)))) =>
      simp [required?_of_isGiven hid, required?_of_isGiven hname, required?_of_isGiven hemail,
        required?_of_isGiven hrole, optional?_of_isOrNull horganization]
  describes_write n := by
    refine Json.isRecord_fields rfl (by simp) ?_
    simp [isGiven_write, isOrNull_orNull]

instance : DescribedJsonForm AccountRevision where
  Describes v e := v.IsRecord [
    ("name", (IsGiven Describes · e.name)),
    ("email", (IsGiven Describes · e.email)),
    ("role", (IsGiven Describes · e.role)),
    ("organization", (IsOrNull Describes · e.organization))]
  read?_of_describes h := by
    refine Json.bind_fields?_of_isRecord h fun values hvalues => ?_
    match values, hvalues with
    | [_, _, _, _], .cons hname (.cons hemail (.cons hrole (.cons horganization .nil))) =>
      simp [required?_of_isGiven hname, required?_of_isGiven hemail, required?_of_isGiven hrole,
        optional?_of_isOrNull horganization]
  describes_write e := by
    refine Json.isRecord_fields rfl (by simp) ?_
    simp [isGiven_write, isOrNull_orNull]

/-! ### Reading what is described -/

section

variable {α : Type} [JsonForm α] [DescribedJsonForm α] {a : α} {v : Json} {s : String}

theorem ofText?_of_describes (hs : Json.IsText s v) (h : Describes v a) : ofText? s = some a := by
  rw [ofText?, Json.ofText?_eq_some_iff.2 hs, Option.bind_some, read?_of_describes h]

/-- Whatever describes a record is written as the record is, both as a value and as a text. -/
theorem written_of_describes (hs : Json.IsText s v) (h : Describes v a) :
    (read? v : Option α).map write = some (write a) ∧ (ofText? s : Option α).map toText = some (toText a) := by
  rw [read?_of_describes h, ofText?_of_describes hs h]
  exact ⟨rfl, rfl⟩

end

example :
    (read? (.object [(some "roles", .array [.text "ROLE_EDITOR", .text "ROLE_USER", .text "ROLE_EDITOR"]),
      (some "organization", .null), (some "note", .text ""),
      (some "id", .text "6F9619FF8B86D011B42D00C04FC964FF")]) : Option User)
    = read? (.object [(some "id", .text "6f9619ff-8b86-d011-b42d-00c04fc964ff"),
      (some "roles", .array [.text "ROLE_USER", .text "ROLE_EDITOR"])]) := by
  decide

end Formulary
