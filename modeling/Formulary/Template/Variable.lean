import Formulary.Text.Case
import Formulary.Text.Pieces

/-!
# Variables

What a form asks for: each blank of a template stands for a variable with a type, a label and, for a choice, the
options.  A type that is not one of the standard ones is kept by its name.
-/

namespace Formulary

/-- The names of the types with rules of their own. -/
def standardTypes : List String := ["text", "textarea", "date", "email", "number", "select"]

/-- The kind of input that a variable takes; values of another type than the standard ones are taken like text. -/
inductive VariableType where
  | text
  | textarea
  | date
  | email
  | number
  | select
  | other (name : String) (isOther : name ∉ standardTypes)
deriving DecidableEq

namespace VariableType

def name : VariableType → String
  | text => "text"
  | textarea => "textarea"
  | date => "date"
  | email => "email"
  | number => "number"
  | select => "select"
  | other name _ => name

/-- The type with a given name. -/
def ofName (name : String) : VariableType :=
  if h : name ∈ standardTypes then
    if name = "textarea" then textarea
    else if name = "date" then date
    else if name = "email" then email
    else if name = "number" then number
    else if name = "select" then select
    else text
  else other name h

theorem ofName_name (t : VariableType) : ofName t.name = t := by
  cases t with
  | other name h => simp [ofName, VariableType.name, h]
  | _ => rfl

theorem name_ofName (name : String) : (ofName name).name = name := by
  unfold ofName
  split
  · rename_i h
    simp only [standardTypes, List.mem_cons, List.not_mem_nil, or_false] at h
    rcases h with rfl | rfl | rfl | rfl | rfl | rfl <;> rfl
  · rfl

end VariableType

/-- One question of a form. -/
structure Variable where
  name : String
  label : String
  kind : VariableType
  required : Bool
  /-- The values to choose from; without options any value will do. -/
  options : List String
deriving DecidableEq

/-- A rule that gives a type to the names in which its keyword occurs. -/
structure TypingRule where
  keyword : String
  kind : VariableType
deriving DecidableEq

/-- The type by the first rule whose keyword occurs in the name, or text. -/
def typeByRules (rules : List TypingRule) (name : String) : VariableType :=
  match rules.find? (fun r => Text.contains name r.keyword) with
  | some r => r.kind
  | none => .text

/-- The label of a name: with spaces for underscores, and its first character in upper case. -/
def labelOf (name : String) : String :=
  match name.toList.map (fun c => if c = '_' then ' ' else c) with
  | [] => ""
  | c :: cs => String.ofList (Text.upperOf c ++ cs)

end Formulary
