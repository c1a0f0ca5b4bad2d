import Formulary.Calendar.Instant
import Formulary.Identifier
import Formulary.Json.Value
import Formulary.Table

/-!
# JSON forms

A type with a JSON form has one way in which its values are written and possibly more ways in which they are read.  A
record is written as an object; it is read from an object by the names of its fields, other members being ignored, or
from an array by their order.
-/

namespace Formulary

/-- A type whose values are written as JSON and read from it. -/
class JsonForm (α : Type) where
  write : α → Json
  read? : Json → Option α

namespace Json

def text? : Json → Option String
  | .string s => s
  | _ => none

def int? : Json → Option Int
  | .number n => n.int?
  | _ => none

/-- The integer of a value, if it lies between two bounds. -/
def intBetween? (low high : Int) (v : Json) : Option Int := do
  let i ← v.int?
  if low ≤ i ∧ i ≤ high then some i else none

def items? : Json → Option (List Json)
  | .array items => some items
  | _ => none

/-- The name of a plain case of an enumeration: a string, or an object whose only member has that name and is null. -/
def caseName? : Json → Option String
  | .string s => s
  | .object [(name, .null)] => name
  | _ => none

/-- The values given for the fields of a record, by name or by position.  There are none if a name has no text, if a
field is named twice or if there are more items than fields. -/
def fields? (names : List String) : Json → Option (List (Option Json))
  | .object members =>
    if members.all (fun m => m.1.isSome) then
      names.mapM fun name =>
        match members.filter (fun m => m.1 = some name) with
        | [] => some none
        | [(_, v)] => some (some v)
        | _ => none
    else none
  | .array items =>
    if items.length ≤ names.length then
      some (items.map some ++ List.replicate (names.length - items.length) none)
    else none
  | _ => none

/-- A record without the fields that have no value. -/
def fields (members : List (String × Option Json)) : Json :=
  record (members.filterMap (fun m => m.2.map (m.1, ·)))

end Json

namespace JsonForm

variable {α : Type} [JsonForm α]

/-- A field that must be given. -/
def required? : Option Json → Option α
  | some v => read? v
  | none => none

/-- A field with a value in place of a missing one. -/
def withDefault? (default : α) : Option Json → Option α
  | some v => read? v
  | none => some default

/-- A field that may be missing or null. -/
def optional? : Option Json → Option (Option α)
  | none => some none
  | some .null => some none
  | some v => (read? v).map some

/-- A value or null. -/
def orNull (a : Option α) : Json := a.elim .null write

instance : JsonForm String := ⟨.text, Json.text?⟩

instance : JsonForm Bool where
  write := .bool
  read?
    | .bool b => some b
    | _ => none

instance : JsonForm UInt32 where
  write n := .int n.toNat
  read? v := (v.intBetween? 0 4294967295).map (fun i => UInt32.ofNat i.toNat)

instance : JsonForm Int32 where
  write i := .int i.toInt
  read? v := (v.intBetween? (-2147483648) 2147483647).map Int32.ofInt

instance : JsonForm (List α) where
  write as := .array (as.map write)
  read? v := do (← v.items?).mapM read?

/-- A table is an object with its entries as members. -/
instance : JsonForm (Table α) where
  write t := .record (t.entries.map (fun e => (e.1, write e.2)))
  read?
    | .object members => do
      let entries ← members.mapM (fun m => do return (← m.1, ← read? m.2))
      return Table.ofList entries
    | _ => none

instance : JsonForm Uuid := ⟨fun id => .text id.text, fun v => v.text?.bind Uuid.ofText?⟩

instance : JsonForm OrganizationId := ⟨fun id => write id.uuid, fun v => (read? v).map .mk⟩

instance : JsonForm UserId := ⟨fun id => write id.uuid, fun v => (read? v).map .mk⟩

instance : JsonForm TemplateId := ⟨fun id => write id.uuid, fun v => (read? v).map .mk⟩

instance : JsonForm DocumentId := ⟨fun id => write id.uuid, fun v => (read? v).map .mk⟩

instance : JsonForm Instant := ⟨fun t => .text t.timestamp, fun v => v.text?.bind Instant.ofTimestamp?⟩

end JsonForm

end Formulary
