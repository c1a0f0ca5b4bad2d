/-!
# JSON values

The tree that a JSON text describes.  It keeps what the text says and a reader may care about: the order of the members
of an object and their repetitions, and each number as it is written.  A string literal in which an escape names half
of a surrogate pair alone has no text, and the tree says so.
-/

namespace Formulary

/-- A number literal. -/
structure JsonNumber where
  negative : Bool
  whole : Nat
  /-- The digits after the point; none if there is no point. -/
  fraction : List (Fin 10)
  /-- The power of ten, if one is written. -/
  exponent : Option Int
deriving DecidableEq

/-- The text of a string literal, if it has one. -/
abbrev JsonString := Option String

inductive Json where
  | null
  | bool (b : Bool)
  | number (n : JsonNumber)
  | string (s : JsonString)
  | array (items : List Json)
  | object (members : List (JsonString × Json))

namespace JsonNumber

def ofInt (i : Int) : JsonNumber := ⟨decide (i < 0), i.natAbs, [], none⟩

/-- The integer that a literal without fraction and exponent stands for; minus zero is none. -/
def int? (n : JsonNumber) : Option Int :=
  if n.fraction = [] ∧ n.exponent = none ∧ ¬ (n.negative = true ∧ n.whole = 0) then
    some (if n.negative then -(n.whole : Int) else n.whole)
  else none

theorem int?_ofInt (i : Int) : (ofInt i).int? = some i := by
  by_cases h : i < 0
  · have hz : i.natAbs ≠ 0 := by omega
    have hi : -(i.natAbs : Int) = i := by omega
    simp only [ofInt, int?, h, decide_true, hz, and_false, not_false_eq_true, and_self, if_true, hi]
  · have hi : (i.natAbs : Int) = i := by omega
    simp only [ofInt, int?, h, decide_false, Bool.false_eq_true, false_and, not_false_eq_true, and_self, if_true,
      if_false, hi]

end JsonNumber

namespace Json

def text (s : String) : Json := .string (some s)

def int (i : Int) : Json := .number (.ofInt i)

/-- An object of named members. -/
def record (members : List (String × Json)) : Json := .object (members.map (fun m => (some m.1, m.2)))

mutual

/-- How deep arrays and objects are nested. -/
def depth : Json → Nat
  | array items => depthItems items + 1
  | object members => depthMembers members + 1
  | _ => 0

/-- The greatest depth of some values. -/
def depthItems : List Json → Nat
  | [] => 0
  | v :: vs => max (depth v) (depthItems vs)

/-- The greatest depth of the values of some members. -/
def depthMembers : List (JsonString × Json) → Nat
  | [] => 0
  | (_, v) :: ms => max (depth v) (depthMembers ms)

end

end Json

end Formulary
