import Formulary.Json.Value
import Formulary.Text.Numeral

/-!
# Writing JSON

Two layouts of one tree: compact, without any white space, and indented by two spaces a level.  Both write the same
literals: in a string only quotes, backslashes and control characters are escaped.
-/

namespace Formulary.Json

/-- The form of one character inside a string literal. -/
def escape (c : Char) : List Char :=
  if c = '"' then ['\\', '"']
  else if c = '\\' then ['\\', '\\']
  else if c = '\n' then ['\\', 'n']
  else if c = '\r' then ['\\', 'r']
  else if c = '\t' then ['\\', 't']
  else if c = '\x08' then ['\\', 'b']
  else if c = '\x0c' then ['\\', 'f']
  else if c < ' ' then '\\' :: 'u' :: Hex.padded 4 c.toNat
  else [c]

/-- A string literal; one without a text is written as half of a surrogate pair. -/
def stringChars : JsonString → List Char
  | some s => '"' :: s.toList.flatMap escape ++ ['"']
  | none => "\"\\ud800\"".toList

/-- A number literal. -/
def numberChars (n : JsonNumber) : List Char :=
  let sign := if n.negative then ['-'] else []
  let fraction := if n.fraction = [] then [] else '.' :: n.fraction.flatMap (fun d => Numeral.ofNat d.val)
  let exponent := match n.exponent with
    | some e => 'e' :: Numeral.ofInt e
    | none => []
  sign ++ Numeral.ofNat n.whole ++ fraction ++ exponent

mutual

/-- The compact form of a value. -/
def compactChars : Json → List Char
  | null => "null".toList
  | bool true => "true".toList
  | bool false => "false".toList
  | number n => numberChars n
  | string s => stringChars s
  | array items => '[' :: compactItems items ++ [']']
  | object members => '{' :: compactMembers members ++ ['}']

/-- The compact forms of some items with commas between. -/
def compactItems : List Json → List Char
  | [] => []
  | [v] => compactChars v
  | v :: vs => compactChars v ++ ',' :: compactItems vs

/-- The compact forms of some members with commas between. -/
def compactMembers : List (JsonString × Json) → List Char
  | [] => []
  | [(k, v)] => stringChars k ++ ':' :: compactChars v
  | (k, v) :: ms => stringChars k ++ ':' :: compactChars v ++ ',' :: compactMembers ms

end

/-- The start of a new line at a level of indentation. -/
def newLine (level : Nat) : List Char := '\n' :: List.replicate (2 * level) ' '

mutual

/-- The indented form of a value that stands at a level. -/
def indentedChars (level : Nat) : Json → List Char
  | array [] => ['[', ']']
  | array (v :: vs) =>
    '[' :: newLine (level + 1) ++ indentedChars (level + 1) v ++ indentedItems (level + 1) vs
      ++ newLine level ++ [']']
  | object [] => ['{', '}']
  | object ((k, v) :: ms) =>
    '{' :: newLine (level + 1) ++ stringChars k ++ ':' :: ' ' :: indentedChars (level + 1) v
      ++ indentedMembers (level + 1) ms ++ newLine level ++ ['}']
  | null => "null".toList
  | bool true => "true".toList
  | bool false => "false".toList
  | number n => numberChars n
  | string s => stringChars s

/-- The indented forms of the items after the first, each on its own line. -/
def indentedItems (level : Nat) : List Json → List Char
  | [] => []
  | v :: vs => ',' :: newLine level ++ indentedChars level v ++ indentedItems level vs

/-- The indented forms of the members after the first, each on its own line. -/
def indentedMembers (level : Nat) : List (JsonString × Json) → List Char
  | [] => []
  | (k, v) :: ms =>
    ',' :: newLine level ++ stringChars k ++ ':' :: ' ' :: indentedChars level v ++ indentedMembers level ms

end

/-- The compact form of a value. -/
def compact (v : Json) : String := String.ofList v.compactChars

/-- The form of a value indented by two spaces a level. -/
def indented (v : Json) : String := String.ofList (v.indentedChars 0)

end Formulary.Json
