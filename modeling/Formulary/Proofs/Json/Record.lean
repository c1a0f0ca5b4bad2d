import Formulary.Json.Form.Office
import Formulary.Proofs.Json.Form
import Formulary.Proofs.Json.Layout

/-!
# Canonical forms of records

What is written for a record is read as this record, as a JSON value and as a JSON text.  A record can be given in many
ways: identifiers in several forms, instants on any clock, roles in any order, fields that are left out or null or that
no record has.  It is written in one: two inputs are written alike just if they are read as the same record
(`records_canonical`).
-/

namespace Formulary

open JsonForm LawfulJsonForm

/-! ### Names -/

instance : LawfulJsonForm VariableType :=
  ⟨fun t => congrArg some (VariableType.ofName_name t), fun t => Json.text_ne_null t.name⟩

instance : LawfulJsonForm Status := ⟨Status.ofName?_name, fun s => Json.text_ne_null s.name⟩

instance : LawfulJsonForm Audience := ⟨Audience.ofName?_name, fun a => Json.text_ne_null a.name⟩

instance : LawfulJsonForm Role := ⟨Role.ofName?_name, fun r => Json.text_ne_null r.name⟩

instance : LawfulJsonForm RoleSet where
  read?_write s := by
    have hroles : read? (write s) = (read? (write s.toList)).map RoleSet.ofList := rfl
    rw [hroles, read?_write, Option.map_some, RoleSet.ofList_toList]
  write_ne_null s := write_ne_null s.toList

/-! ### Records

In each record the written members have the names of the fields, these are distinct, and what is written for a field is
read as its value. -/

instance : LawfulJsonForm User where
  read?_write u := by
    refine (Json.bind_fields?_fields ?_ ?_).trans ?_ <;> simp
  write_ne_null _ := Json.fields_ne_null _

instance : LawfulJsonForm Variable where
  read?_write v := by
    refine (Json.bind_fields?_fields ?_ ?_).trans ?_ <;> simp
  write_ne_null _ := Json.fields_ne_null _

instance : LawfulJsonForm TypingRule where
  read?_write r := by
    refine (Json.bind_fields?_fields ?_ ?_).trans ?_ <;> simp
  write_ne_null _ := Json.fields_ne_null _

instance : LawfulJsonForm Template where
  read?_write t := by
    refine (Json.bind_fields?_fields ?_ ?_).trans ?_ <;> simp
  write_ne_null _ := Json.fields_ne_null _

instance : LawfulJsonForm Document where
  read?_write d := by
    refine (Json.bind_fields?_fields ?_ ?_).trans ?_ <;> simp
  write_ne_null _ := Json.fields_ne_null _

instance : LawfulJsonForm TemplateRequest where
  read?_write n := by
    refine (Json.bind_fields?_fields ?_ ?_).trans ?_ <;> simp
  write_ne_null _ := Json.fields_ne_null _

instance : LawfulJsonForm TemplateRevision where
  read?_write e := by
    refine (Json.bind_fields?_fields ?_ ?_).trans ?_ <;> simp
  write_ne_null _ := Json.fields_ne_null _

instance : LawfulJsonForm AccountRequest where
  read?_write n := by
    refine (Json.bind_fields?_fields ?_ ?_).trans ?_ <;> simp
  write_ne_null _ := Json.fields_ne_null _

instance : LawfulJsonForm AccountRevision where
  read?_write e := by
    refine (Json.bind_fields?_fields ?_ ?_).trans ?_ <;> simp
  write_ne_null _ := Json.fields_ne_null _

/-! ### Canonical forms -/

namespace JsonForm

/-- The compact JSON text of a value. -/
def toText {α : Type} [JsonForm α] (a : α) : String := (write a).compact

/-- The value that a JSON text is read as. -/
def ofText? {α : Type} [JsonForm α] (s : String) : Option α := (Json.ofText? s).bind read?

end JsonForm

/-- A form in which everything is read as it was written, so that different values are never written alike. -/
structure CanonicalJsonForm (α : Type) [JsonForm α] : Prop where
  read?_write : ∀ a : α, read? (write a) = some a
  written_alike_iff : ∀ v w : Json,
    (read? v : Option α).map write = (read? w : Option α).map write ↔ (read? v : Option α) = read? w
  ofText?_toText : ∀ a : α, ofText? (toText a) = some a
  texts_alike_iff : ∀ s t : String,
    (ofText? s : Option α).map toText = (ofText? t : Option α).map toText ↔ (ofText? s : Option α) = ofText? t

section

variable {α : Type} [JsonForm α] [LawfulJsonForm α]

theorem ofText?_toText (a : α) : ofText? (toText a) = some a := by
  rw [ofText?, toText, Json.ofText?_compact, Option.bind_some, read?_write]

theorem write_injective : Function.Injective (write : α → Json) := fun a b h =>
  Option.some.inj (by rw [← read?_write a, h, read?_write])

theorem toText_injective : Function.Injective (toText : α → String) := fun a b h =>
  Option.some.inj (by rw [← ofText?_toText a, h, ofText?_toText])

theorem canonical_of_lawful (α : Type) [JsonForm α] [LawfulJsonForm α] : CanonicalJsonForm α where
  read?_write := read?_write
  written_alike_iff _ _ := (Option.map_injective write_injective).eq_iff
  ofText?_toText := ofText?_toText
  texts_alike_iff _ _ := (Option.map_injective toText_injective).eq_iff

end

/-- The records of an office and the requests for them have canonical forms. -/
theorem records_canonical :
    CanonicalJsonForm User ∧ CanonicalJsonForm Template ∧ CanonicalJsonForm Document ∧ CanonicalJsonForm Variable
      ∧ CanonicalJsonForm TemplateRequest ∧ CanonicalJsonForm TemplateRevision
      ∧ CanonicalJsonForm AccountRequest ∧ CanonicalJsonForm AccountRevision :=
  ⟨canonical_of_lawful _, canonical_of_lawful _, canonical_of_lawful _, canonical_of_lawful _, canonical_of_lawful _,
    canonical_of_lawful _, canonical_of_lawful _, canonical_of_lawful _⟩

end Formulary
