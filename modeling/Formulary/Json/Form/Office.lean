import Formulary.Json.Form.Template
import Formulary.Office.Rights

/-!
# JSON forms of the records of an office

In a record that the office keeps, fields without a value are left out; in a request they are written as null.
-/

namespace Formulary

open JsonForm

instance : JsonForm Status := ⟨fun s => .text s.name, fun v => v.caseName?.bind Status.ofName?⟩

instance : JsonForm Audience := ⟨fun a => .text a.name, fun v => v.caseName?.bind Audience.ofName?⟩

instance : JsonForm Role := ⟨fun r => .text r.name, fun v => v.caseName?.bind Role.ofName?⟩

instance : JsonForm Right := ⟨fun c => .text c.name, fun v => v.caseName?.bind Right.ofName?⟩

instance : JsonForm RecordKind := ⟨fun k => .text k.name, fun v => v.caseName?.bind RecordKind.ofName?⟩

/-- A row is a pair of a status and the list of those that can follow it. -/
instance : JsonForm Lifecycle where
  write t := .array (t.rows.map (fun r => .array [write r.1, write r.2]))
  read? v := do
    let rows ← (← v.items?).mapM fun row => do
      match row with
      | .array [source, successors] => return (← read? source, ← read? successors)
      | _ => none
    return ⟨rows⟩

instance : JsonForm RoleSet where
  write s := write s.toList
  read? v := (read? v).map RoleSet.ofList

instance : JsonForm User where
  write u := .fields [
    ("id", some (write u.id)),
    ("name", some (write u.name)),
    ("email", some (write u.email)),
    ("roles", some (write u.roles)),
    ("organization", u.organization.map write)]
  read? v := do
    match ← v.fields? ["id", "name", "email", "roles", "organization"] with
    | [id, name, email, roles, organization] =>
      return ⟨← required? id, ← withDefault? "" name, ← withDefault? "" email, ← withDefault? RoleSet.empty roles,
        ← optional? organization⟩
    | _ => none

instance : JsonForm Template where
  write t := .fields [
    ("id", some (write t.id)),
    ("name", some (write t.name)),
    ("description", t.description.map write),
    ("body", some (write t.body)),
    ("variables", some (write t.form)),
    ("visibility", some (write t.audience)),
    ("organization", t.organization.map write),
    ("creator", some (write t.creator)),
    ("version", some (write t.version)),
    ("created_at", some (write t.createdAt)),
    ("updated_at", t.updatedAt.map write)]
  read? v := do
    match ← v.fields? ["id", "name", "description", "body", "variables", "visibility", "organization", "creator",
        "version", "created_at", "updated_at"] with
    | [id, name, description, body, form, audience, organization, creator, version, createdAt, updatedAt] =>
      return ⟨← required? id, ← required? name, ← optional? description, ← required? body,
        ← withDefault? [] form, ← withDefault? .organization audience, ← optional? organization,
        ← required? creator, ← required? version, ← required? createdAt, ← optional? updatedAt⟩
    | _ => none

instance : JsonForm Document where
  write d := .fields [
    ("id", some (write d.id)),
    ("template", some (write d.template)),
    ("organization", d.organization.map write),
    ("creator", some (write d.creator)),
    ("status", some (write d.status)),
    ("data", some (write d.data)),
    ("generated_content", some (write d.content)),
    ("created_at", some (write d.createdAt)),
    ("updated_at", d.updatedAt.map write)]
  read? v := do
    match ← v.fields? ["id", "template", "organization", "creator", "status", "data", "generated_content",
        "created_at", "updated_at"] with
    | [id, template, organization, creator, status, data, content, createdAt, updatedAt] =>
      return ⟨← required? id, ← required? template, ← optional? organization, ← required? creator,
        ← withDefault? .draft status, ← withDefault? Table.empty data, ← required? content, ← required? createdAt,
        ← optional? updatedAt⟩
    | _ => none

instance : JsonForm TemplateRequest where
  write n := .fields [
    ("id", some (write n.id)),
    ("name", some (write n.name)),
    ("description", some (orNull n.description)),
    ("body", some (write n.body)),
    ("visibility", some (write n.audience))]
  read? v := do
    match ← v.fields? ["id", "name", "description", "body", "visibility"] with
    | [id, name, description, body, audience] =>
      return ⟨← required? id, ← required? name, ← optional? description, ← required? body,
        ← withDefault? .organization audience⟩
    | _ => none

instance : JsonForm TemplateRevision where
  write e := .fields [
    ("name", some (write e.name)),
    ("description", some (orNull e.description)),
    ("body", some (write e.body)),
    ("visibility", some (write e.audience))]
  read? v := do
    match ← v.fields? ["name", "description", "body", "visibility"] with
    | [name, description, body, audience] =>
      return ⟨← required? name, ← optional? description, ← required? body, ← withDefault? .organization audience⟩
    | _ => none

instance : JsonForm AccountRequest where
  write n := .fields [
    ("id", some (write n.id)),
    ("name", some (write n.name)),
    ("email", some (write n.email)),
    ("role", some (write n.role)),
    ("organization", some (orNull n.organization))]
  read? v := do
    match ← v.fields? ["id", "name", "email", "role", "organization"] with
    | [id, name, email, role, organization] =>
      return ⟨← required? id, ← required? name, ← required? email, ← required? role, ← optional? organization⟩
    | _ => none

instance : JsonForm AccountRevision where
  write e := .fields [
    ("name", some (write e.name)),
    ("email", some (write e.email)),
    ("role", some (write e.role)),
    ("organization", some (orNull e.organization))]
  read? v := do
    match ← v.fields? ["name", "email", "role", "organization"] with
    | [name, email, role, organization] =>
      return ⟨← required? name, ← required? email, ← required? role, ← optional? organization⟩
    | _ => none

end Formulary
