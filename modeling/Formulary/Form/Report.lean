import Formulary.Form.Submission
import Formulary.Form.Value
import Formulary.Template.Settings

/-!
# Reports

What comes of the values given for a form: the values that are accepted, without white space at their ends, and a
rejection for each variable whose value is not.  Each variable is judged by itself.
-/

namespace Formulary

/-- Why a value is rejected. -/
inductive Fault where
  | missing
  | notADate
  | noSuchDay
  | yearOutside (min max : Int32)
  | notAnEmail
  | notANumber
  | notOffered (options : List String)
deriving DecidableEq

/-- A variable whose value is rejected, and why. -/
structure Rejection where
  field : String
  label : String
  fault : Fault
deriving DecidableEq

def Fault.message : Fault → String
  | missing => "is required"
  | notADate => "must be a date in YYYY-MM-DD format"
  | noSuchDay => "is not a valid calendar date"
  | yearOutside min max =>
    "must have a year between " ++ String.ofList (Numeral.ofInt min.toInt) ++ " and "
      ++ String.ofList (Numeral.ofInt max.toInt)
  | notAnEmail => "must be a valid email address"
  | notANumber => "must be a number"
  | notOffered options => "must be one of: " ++ ", ".intercalate options

def Rejection.message (r : Rejection) : String :=
  "field " ++ r.field ++ " (" ++ r.label ++ ") " ++ r.fault.message

namespace Settings

/-- What is wrong with a value as a date, if anything. -/
def dateFault? (s : Settings) (value : String) : Option Fault :=
  match Date.isoDigits? value.toList with
  | none => some .notADate
  | some _ =>
    match Date.ofIso? value with
    | none => some .noSuchDay
    | some d =>
      if s.minYear.toInt ≤ d.year ∧ d.year ≤ s.maxYear.toInt then none
      else some (.yearOutside s.minYear s.maxYear)

/-- What is wrong with a value that is not empty, if anything. -/
def valueFault? (s : Settings) (v : Variable) (value : String) : Option Fault :=
  match v.kind with
  | .date => s.dateFault? value
  | .email => if FormValue.isEmail value.toList then none else some .notAnEmail
  | .number => if FormValue.isNumber value.toList then none else some .notANumber
  | .select => if v.options = [] ∨ value ∈ v.options then none else some (.notOffered v.options)
  | _ => none

/-- The value that is kept of a text given for a variable, or what is wrong with it. -/
def judge (s : Settings) (v : Variable) (text : String) : Except Fault String :=
  let value := Text.trim text
  if value = "" then
    if v.required then .error .missing else .ok ""
  else
    match s.valueFault? v value with
    | some fault => .error fault
    | none => .ok value

end Settings

/-- The accepted values and, in the order of the form, the rejections. -/
structure Report where
  data : FormValues
  rejections : List Rejection
deriving DecidableEq

namespace Report

/-- The judgement of a variable by the values given for a form; a missing value counts as empty. -/
def judgement (s : Settings) (values : FormValues) (v : Variable) : Except Fault String :=
  s.judge v ((values.get? v.name).getD "")

/-- The value of a variable that is accepted, by its name. -/
def accepted? (s : Settings) (values : FormValues) (v : Variable) : Option (String × String) :=
  match judgement s values v with
  | .ok value => some (v.name, value)
  | .error _ => none

/-- The rejection of a variable that is not accepted. -/
def rejected? (s : Settings) (values : FormValues) (v : Variable) : Option Rejection :=
  match judgement s values v with
  | .ok _ => none
  | .error fault => some ⟨v.name, v.label, fault⟩

/-- The report on the values given for a form. -/
def ofValues (s : Settings) (form : List Variable) (values : FormValues) : Report where
  data := Table.ofList (form.filterMap (accepted? s values))
  rejections := form.filterMap (rejected? s values)

def isValid (r : Report) : Bool := r.rejections.isEmpty

def messages (r : Report) : List String := r.rejections.map Rejection.message

/-- The first rejection of a field. -/
def rejectionOf? (r : Report) (field : String) : Option Rejection := r.rejections.find? (fun e => e.field = field)

end Report

/-- The report on the values given for a form. -/
def Ruleset.report (rules : Ruleset) (form : List Variable) (values : FormValues) : Report :=
  Report.ofValues rules.settings form values

end Formulary
