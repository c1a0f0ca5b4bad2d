import Formulary.Json.Form
import Formulary.Proofs.Calendar.Instant
import Formulary.Proofs.Identifier
import Formulary.Proofs.Table
import Mathlib.Data.List.Forall2

/-!
# Lawful JSON forms

The JSON form of a type is lawful if what is written for a value is read as this value and is never null, so that a
field with a value can be told from one without.  The forms of texts, numbers, identifiers and instants are lawful, and
those of lists and tables are if the form of their members is.  The fields of a record are found again by their names
(`Json.fields?_fields`).
-/

namespace Formulary

/-- A form in which values are read as they are written, and none of them is written as null. -/
class LawfulJsonForm (α : Type) [JsonForm α] : Prop where
  read?_write : ∀ a : α, JsonForm.read? (JsonForm.write a) = some a
  write_ne_null : ∀ a : α, JsonForm.write a ≠ .null

namespace Json

variable {α β γ : Type} {f : α → β} {g : β → Option γ} {h : α → γ} {as : List α}

theorem text_ne_null (s : String) : text s ≠ null := nofun

theorem mapM_eq_some_iff {bs : List β} {as : List α} {f : α → Option β} :
    as.mapM f = some bs ↔ List.Forall₂ (fun a b => f a = some b) as bs := by
  induction as generalizing bs with
  | nil => cases bs <;> simp
  | cons a as ih =>
    rw [List.mapM_cons]
    cases ha : f a with
    | none => cases bs <;> simp [ha]
    | some b => cases bs <;> simp [ha, Option.bind_eq_some_iff, ih, and_comm]

theorem mapM_map_eq_some (hread : ∀ a ∈ as, g (f a) = some (h a)) : (as.map f).mapM g = some (as.map h) := by
  rw [mapM_eq_some_iff, List.forall₂_map_left_iff, List.forall₂_map_right_iff, List.forall₂_same]
  exact hread

variable {members : List (String × Option Json)} {m : String × Option Json}

theorem fields_ne_null (members : List (String × Option Json)) : fields members ≠ null := nofun

theorem name_of_mem_fields {e : String × Json} (h : e ∈ members.filterMap fun m => m.2.map (m.1, ·)) :
    e.1 ∈ members.map (·.1) := by
  obtain ⟨m, hm, h⟩ := List.mem_filterMap.1 h
  obtain ⟨v, -, rfl⟩ := Option.map_eq_some_iff.1 h
  exact List.mem_map.2 ⟨m, hm, rfl⟩

/-- Under the name of a field a record has its value and nothing else. -/
theorem filter_fields (h : (members.map (·.1)).Nodup) (hm : m ∈ members) :
    (members.filterMap fun m => m.2.map (m.1, ·)).filter (fun e => e.1 = m.1) = (m.2.map (m.1, ·)).toList := by
  have hother {members : List (String × Option Json)} {name : String} (h : name ∉ members.map (·.1)) :
      (members.filterMap fun m => m.2.map (m.1, ·)).filter (fun e => e.1 = name) = [] := by
    refine List.filter_eq_nil_iff.2 fun e he => ?_
    have hne : e.1 ≠ name := fun heq => h (heq ▸ name_of_mem_fields he)
    simpa using hne
  induction members with
  | nil => cases hm
  | cons a members ih =>
    obtain ⟨ha, h⟩ := List.nodup_cons.1 h
    rcases List.mem_cons.1 hm with rfl | hm
    · have hrest := hother ha
      cases hvalue : m.2 with
      | none => simpa [hvalue] using hrest
      | some v => simpa [hvalue] using hrest
    · have hne : a.1 ≠ m.1 := fun heq => ha (List.mem_map.2 ⟨m, hm, heq.symm⟩)
      cases hvalue : a.2 with
      | none => simpa [hvalue] using ih h hm
      | some v => simpa [hvalue, hne] using ih h hm

/-- The fields of a record are found by their names. -/
theorem fields?_fields {names : List String} (hnames : members.map (·.1) = names) (h : names.Nodup) :
    fields? names (fields members) = some (members.map (·.2)) := by
  subst hnames
  have hnamed (entries : List (String × Json)) :
      (entries.map fun m => (some m.1, m.2)).all (fun m => m.1.isSome) = true := by simp
  rw [fields, record, fields?, if_pos (hnamed _)]
  refine mapM_map_eq_some fun m hm => ?_
  simp only [List.filter_map, Function.comp_def, Option.some.injEq, filter_fields h hm]
  cases m.2 <;> rfl

/-- A reader of records is given the fields that were written. -/
theorem bind_fields?_fields {names : List String} {k : List (Option Json) → Option α}
    (hnames : members.map (·.1) = names) (h : names.Nodup) :
    (fields? names (fields members)).bind k = k (members.map (·.2)) := by
  rw [fields?_fields hnames h, Option.bind_some]

end Json

namespace JsonForm

variable {α : Type} [JsonForm α] [LawfulJsonForm α]

open LawfulJsonForm

@[simp] theorem required?_write (a : α) : required? (some (write a)) = some a := read?_write a

@[simp] theorem withDefault?_write (default a : α) : withDefault? default (some (write a)) = some a := read?_write a

@[simp] theorem optional?_map_write (a : Option α) : optional? (a.map write) = some a := by
  cases a with
  | none => rfl
  | some a =>
    have hread : (read? (write a)).map some = some (some a) := by rw [read?_write, Option.map_some]
    rw [Option.map_some, optional?.eq_3 _ (write_ne_null a), hread]

@[simp] theorem optional?_orNull (a : Option α) : optional? (some (orNull a)) = some a := by
  cases a with
  | none => rfl
  | some a => exact optional?_map_write (some a)

/-! ### Lawful forms -/

instance : LawfulJsonForm String := ⟨fun _ => rfl, nofun⟩

instance : LawfulJsonForm Bool := ⟨fun _ => rfl, nofun⟩

theorem read?_unsigned {n : JsonNumber} {i : UInt32} (h : n.int? = some (i.toNat : Int)) :
    (read? (.number n) : Option UInt32) = some i := by
  have hbounds : (0 : Int) ≤ i.toNat ∧ (i.toNat : Int) ≤ 4294967295 := by have := i.toNat_lt; omega
  have hint : Json.intBetween? 0 4294967295 (.number n) = some (i.toNat : Int) := by
    simp [Json.intBetween?, Json.int?, h, hbounds]
  simp [read?, hint]

theorem read?_signed {n : JsonNumber} {i : Int32} (h : n.int? = some i.toInt) :
    (read? (.number n) : Option Int32) = some i := by
  have hbounds : (-2147483648 : Int) ≤ i.toInt ∧ i.toInt ≤ 2147483647 := by
    have := i.le_toInt
    have := i.toInt_lt
    omega
  have hint : Json.intBetween? (-2147483648) 2147483647 (.number n) = some i.toInt := by
    simp [Json.intBetween?, Json.int?, h, hbounds]
  simp only [read?, hint, Option.map_some, Int32.ofInt_toInt]

instance : LawfulJsonForm UInt32 := ⟨fun _ => read?_unsigned (JsonNumber.int?_ofInt _), nofun⟩

instance : LawfulJsonForm Int32 := ⟨fun _ => read?_signed (JsonNumber.int?_ofInt _), nofun⟩

instance : LawfulJsonForm (List α) where
  read?_write as := by
    have hitems := Json.mapM_map_eq_some (h := id) fun (a : α) (_ : a ∈ as) => read?_write a
    simpa [read?, write, Json.items?] using hitems
  write_ne_null := nofun

/-- A list that is left out where it is empty is read back if the empty one is its default. -/
@[simp] theorem withDefault?_of_list (as : List α) :
    withDefault? [] (if as = [] then none else some (write as)) = some as := by
  by_cases h : as = []
  · rw [if_pos h, h]
    rfl
  · rw [if_neg h, withDefault?_write]

instance : LawfulJsonForm (Table α) where
  read?_write t := by
    have hentries := Json.mapM_map_eq_some (f := fun e : String × α => (some e.1, write e.2))
      (g := fun m => do return (← m.1, ← read? m.2)) (h := id) fun e (_ : e ∈ t.entries) => by simp [read?_write]
    simp only [read?, write, Json.record, List.map_map, Function.comp_def, hentries]
    simp [Table.ofList_entries]
  write_ne_null := nofun

instance : LawfulJsonForm Uuid where
  read?_write id := by simp only [read?, write, Json.text, Json.text?, Option.bind_some, Uuid.ofText?_text]
  write_ne_null id := Json.text_ne_null id.text

instance : LawfulJsonForm OrganizationId :=
  ⟨fun id => congrArg (Option.map OrganizationId.mk) (read?_write id.uuid), fun id => write_ne_null id.uuid⟩

instance : LawfulJsonForm UserId :=
  ⟨fun id => congrArg (Option.map UserId.mk) (read?_write id.uuid), fun id => write_ne_null id.uuid⟩

instance : LawfulJsonForm TemplateId :=
  ⟨fun id => congrArg (Option.map TemplateId.mk) (read?_write id.uuid), fun id => write_ne_null id.uuid⟩

instance : LawfulJsonForm DocumentId :=
  ⟨fun id => congrArg (Option.map DocumentId.mk) (read?_write id.uuid), fun id => write_ne_null id.uuid⟩

instance : LawfulJsonForm Instant where
  read?_write t := by simp only [read?, write, Json.text, Json.text?, Option.bind_some, Instant.ofTimestamp?_timestamp]
  write_ne_null t := Json.text_ne_null t.timestamp

end JsonForm

end Formulary
