import Formulary.Decimal.Approximation
import Formulary.Decimal.Shortest
import Formulary.Json.Reader
import Formulary.Table

/-!
# Submissions

The values of a form, one text for each field, and how they are read from a JSON object whose members are scalars.
-/

namespace Formulary

/-- Texts by the names of the fields that they are for. -/
abbrev FormValues := Table String

/-- Why a text is no submission. -/
inductive SubmissionError where
  | notJson
  | notObject
  | notScalar (field : String)
deriving DecidableEq

namespace SubmissionError

def message : SubmissionError → String
  | notJson => Json.faultText
  | notObject => "expected a JSON object"
  | notScalar field => "field " ++ field ++ " must be a scalar"

end SubmissionError

namespace FormValues

/-- The greatest depth of nesting that is read. -/
def maxDepth : Nat := 127

/-- The powers of ten of the first digit at which a double is written in plain decimals. -/
def isPlainPower (leading : Int) : Bool := -5 ≤ leading && leading ≤ 15

/-- The text of a double that is not negative. -/
def doubleChars (x : Binary64) : List Char :=
  let d := x.shortest
  if isPlainPower d.leading then d.plain else d.scientific

/-- Whether an integer fits 64 bits, with or without a sign. -/
def isInteger64 (i : Int) : Bool := -9223372036854775808 ≤ i && i ≤ 18446744073709551615

/-- The text of a number: an integer of 64 bits, with or without sign, in decimal, and any other as a double. -/
def numberText? (n : JsonNumber) : Option String :=
  let double := n.magnitude?.map fun x => String.ofList ((if n.negative then ['-'] else []) ++ doubleChars x)
  match n.int? with
  | some i => if isInteger64 i then some (String.ofList (Numeral.ofInt i)) else double
  | none => double

mutual

/-- Whether every string of a value has a text and every number is within the range of doubles. -/
def isReadable : Json → Bool
  | .string s => s.isSome
  | .number n => (numberText? n).isSome
  | .array items => areReadable items
  | .object members => areReadableMembers members
  | _ => true

def areReadable : List Json → Bool
  | [] => true
  | v :: vs => isReadable v && areReadable vs

def areReadableMembers : List (JsonString × Json) → Bool
  | [] => true
  | (name, v) :: ms => name.isSome && isReadable v && areReadableMembers ms

end

/-- The text of a scalar; null is an empty field. -/
def scalarText? : Json → Option String
  | .null => some ""
  | .bool b => some (if b then "true" else "false")
  | .number n => numberText? n
  | .string s => s
  | _ => none

/-- The members of an object by name; of repeated names the last counts. -/
def membersByName (members : List (JsonString × Json)) : Table Json :=
  Table.ofList (members.filterMap (fun m => m.1.map (·, m.2)))

/-- The submission in an object; it fails at the first name, in order, whose value is no scalar. -/
def ofMembers (members : List (JsonString × Json)) : Except SubmissionError FormValues := do
  let texts ← (membersByName members).entries.mapM fun (name, v) =>
    match scalarText? v with
    | some t => .ok (name, t)
    | none => .error (.notScalar name)
  return Table.ofList texts

/-- The submission that a text holds. -/
def ofText (s : String) : Except SubmissionError FormValues :=
  match Json.ofText? s with
  | none => .error .notJson
  | some v =>
    if v.depth ≤ maxDepth ∧ isReadable v then
      match v with
      | .object members => ofMembers members
      | _ => .error .notObject
    else .error .notJson

end FormValues

end Formulary
