import Formulary.Json.Value
import Formulary.Text.Numeral

/-!
# Reading JSON

A strict reader: one value, white space of the four kinds that JSON knows around each token, and nothing else.  Each
function reads one construct at the start of a text and returns it with what follows.
-/

namespace Formulary.Json

namespace Reader

/-- The white space that JSON allows between tokens. -/
def isSpace (c : Char) : Bool := c = ' ' ∨ c = '\t' ∨ c = '\n' ∨ c = '\r'

def skipSpace (cs : List Char) : List Char := cs.dropWhile isSpace

/-! ### Strings -/

/-- The character that a one-letter escape names. -/
def escaped? : Char → Option Char
  | '"' => some '"'
  | '\\' => some '\\'
  | '/' => some '/'
  | 'b' => some '\x08'
  | 'f' => some '\x0c'
  | 'n' => some '\n'
  | 'r' => some '\r'
  | 't' => some '\t'
  | _ => none

/-- The code points that a literal names after its opening quote, surrogates included. -/
def codePoints? : List Char → Option (List Nat × List Char)
  | [] => none
  | '"' :: rest => some ([], rest)
  | '\\' :: 'u' :: a :: b :: c :: d :: rest => do
    let n ← Hex.value? [a, b, c, d]
    let (ns, rest) ← codePoints? rest
    return (n :: ns, rest)
  | '\\' :: e :: rest => do
    let c ← escaped? e
    let (ns, rest) ← codePoints? rest
    return (c.toNat :: ns, rest)
  | c :: rest =>
    if c < ' ' ∨ c = '\\' then none
    else do
      let (ns, rest) ← codePoints? rest
      return (c.toNat :: ns, rest)

def isHighSurrogate (n : Nat) : Bool := 0xD800 ≤ n && n ≤ 0xDBFF

def isLowSurrogate (n : Nat) : Bool := 0xDC00 ≤ n && n ≤ 0xDFFF

/-- The characters of a sequence of code points in which each surrogate is part of a pair. -/
def joinPairs? : List Nat → Option (List Char)
  | [] => some []
  | high :: low :: rest =>
    if isHighSurrogate high then
      if isLowSurrogate low then
        (joinPairs? rest).map (Char.ofNat (0x10000 + (high - 0xD800) * 0x400 + (low - 0xDC00)) :: ·)
      else none
    else if isLowSurrogate high then none
    else (joinPairs? (low :: rest)).map (Char.ofNat high :: ·)
  | [n] => if isHighSurrogate n || isLowSurrogate n then none else some [Char.ofNat n]

/-- A string literal after its opening quote. -/
def string? (cs : List Char) : Option (JsonString × List Char) := do
  let (ns, rest) ← codePoints? cs
  return ((joinPairs? ns).map String.ofList, rest)

/-! ### Numbers -/

/-- The value of a digit; of any other character some number below ten. -/
def digitValue (c : Char) : Fin 10 := Fin.ofNat 10 (c.toNat - '0'.toNat)

/-- The whole part of a number: zero, or digits that do not start with zero. -/
def whole? : List Char → Option (Nat × List Char)
  | '0' :: rest => some (0, rest)
  | cs =>
    match cs.takeWhile Char.isDigit with
    | [] => none
    | digits => some (Numeral.value digits, cs.dropWhile Char.isDigit)

/-- The digits after a point, if there is a point. -/
def fraction? : List Char → Option (List (Fin 10) × List Char)
  | '.' :: cs =>
    match cs.takeWhile Char.isDigit with
    | [] => none
    | digits => some (digits.map digitValue, cs.dropWhile Char.isDigit)
  | cs => some ([], cs)

/-- The digits of an exponent after its mark and sign. -/
def exponentDigits? (cs : List Char) : Option (Nat × List Char) :=
  match cs.takeWhile Char.isDigit with
  | [] => none
  | digits => some (Numeral.value digits, cs.dropWhile Char.isDigit)

/-- The exponent, if there is one. -/
def exponent? : List Char → Option (Option Int × List Char)
  | c :: cs =>
    if c = 'e' ∨ c = 'E' then
      match cs with
      | '+' :: rest => (exponentDigits? rest).map (fun (n, rest) => (some (n : Int), rest))
      | '-' :: rest => (exponentDigits? rest).map (fun (n, rest) => (some (-(n : Int)), rest))
      | rest => (exponentDigits? rest).map (fun (n, rest) => (some (n : Int), rest))
    else some (none, c :: cs)
  | [] => some (none, [])

/-- A number after its sign. -/
def unsigned? (negative : Bool) (cs : List Char) : Option (JsonNumber × List Char) := do
  let (whole, cs) ← whole? cs
  let (fraction, cs) ← fraction? cs
  let (exponent, cs) ← exponent? cs
  return (⟨negative, whole, fraction, exponent⟩, cs)

def number? : List Char → Option (JsonNumber × List Char)
  | '-' :: cs => unsigned? true cs
  | cs => unsigned? false cs

/-! ### Values -/

mutual

/-- A value; `fuel` bounds the calls that may be open at once, which twice the length of the text allows. -/
def value? : Nat → List Char → Option (Json × List Char)
  | 0, _ => none
  | fuel + 1, cs =>
    match skipSpace cs with
    | 'n' :: 'u' :: 'l' :: 'l' :: rest => some (.null, rest)
    | 't' :: 'r' :: 'u' :: 'e' :: rest => some (.bool true, rest)
    | 'f' :: 'a' :: 'l' :: 's' :: 'e' :: rest => some (.bool false, rest)
    | '"' :: rest => (string? rest).map (fun (s, rest) => (.string s, rest))
    | '[' :: rest =>
      match skipSpace rest with
      | ']' :: rest => some (.array [], rest)
      | rest => (items? fuel rest).map (fun (vs, rest) => (.array vs, rest))
    | '{' :: rest =>
      match skipSpace rest with
      | '}' :: rest => some (.object [], rest)
      | rest => (members? fuel rest).map (fun (ms, rest) => (.object ms, rest))
    | cs => (number? cs).map (fun (n, rest) => (.number n, rest))

/-- One or more items and the bracket that closes them. -/
def items? : Nat → List Char → Option (List Json × List Char)
  | 0, _ => none
  | fuel + 1, cs => do
    let (v, cs) ← value? fuel cs
    match skipSpace cs with
    | ',' :: rest => do
      let (vs, rest) ← items? fuel rest
      return (v :: vs, rest)
    | ']' :: rest => return ([v], rest)
    | _ => none

/-- One or more members and the brace that closes them. -/
def members? : Nat → List Char → Option (List (JsonString × Json) × List Char)
  | 0, _ => none
  | fuel + 1, cs =>
    match skipSpace cs with
    | '"' :: cs => do
      let (name, cs) ← string? cs
      match skipSpace cs with
      | ':' :: cs => do
        let (v, cs) ← value? fuel cs
        match skipSpace cs with
        | ',' :: rest => do
          let (ms, rest) ← members? fuel rest
          return ((name, v) :: ms, rest)
        | '}' :: rest => return ([(name, v)], rest)
        | _ => none
      | _ => none
    | _ => none

end

end Reader

/-- The value of a text that holds one value and nothing else. -/
def ofChars? (cs : List Char) : Option Json :=
  match Reader.value? (2 * cs.length + 1) cs with
  | some (v, rest) => if Reader.skipSpace rest = [] then some v else none
  | none => none

/-- The value of a text that holds one value and nothing else. -/
def ofText? (s : String) : Option Json := ofChars? s.toList

/-- What is told of a text that is not the JSON asked for; where it fails is not told. -/
def faultText : String := "<json>"

end Formulary.Json
