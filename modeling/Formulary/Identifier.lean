import Formulary.Text.Numeral

/-!
# Identifiers

Identifiers of 128 bits, one type for each kind of record.  They are written as 32 hexadecimal digits in five groups
with hyphens between; the groups are also read in braces or after `urn:uuid:`, and the digits also without hyphens.
Letters are read in either case.
-/

namespace Formulary

/-- An identifier of 128 bits. -/
abbrev Uuid := BitVec 128

namespace Uuid

/-- The numbers of digits in the groups of an identifier. -/
def groups : List Nat := [8, 4, 4, 4, 12]

/-- The digits cut into groups of the given sizes, with hyphens between. -/
def hyphenate : List Nat → List Char → List Char
  | [], _ => []
  | [_], cs => cs
  | n :: m :: sizes, cs => cs.take n ++ '-' :: hyphenate (m :: sizes) (cs.drop n)

/-- The digits of groups of the given sizes with hyphens between. -/
def unhyphenate? : List Nat → List Char → Option (List Char)
  | [], cs => if cs = [] then some [] else none
  | [n], cs => if cs.length = n then some cs else none
  | n :: m :: sizes, cs =>
    match cs.drop n with
    | '-' :: rest => (unhyphenate? (m :: sizes) rest).map (cs.take n ++ ·)
    | _ => none

/-- What may stand before the groups, in letters of either case. -/
def scheme : List Char := "urn:uuid:".toList

/-- The hyphenated groups of a text that has them bare, in braces or after the scheme. -/
def unwrap (cs : List Char) : List Char :=
  if (cs.take scheme.length).map Char.toLower = scheme then cs.drop scheme.length
  else if cs.head? = some '{' ∧ cs.getLast? = some '}' then (cs.drop 1).dropLast
  else cs

/-- The digits of an identifier in any of its forms. -/
def digits? (cs : List Char) : Option (List Char) :=
  if cs.length = 32 then some cs else unhyphenate? groups (unwrap cs)

/-- The identifier that a text names. -/
def ofText? (s : String) : Option Uuid := do
  let n ← Hex.value? (← digits? s.toList)
  return BitVec.ofNat 128 n

/-- The hyphenated form of an identifier. -/
def text (id : Uuid) : String := String.ofList (hyphenate groups (Hex.padded 32 id.toNat))

end Uuid

/-- Names an organization. -/
structure OrganizationId where
  uuid : Uuid
deriving DecidableEq

/-- Names a user account. -/
structure UserId where
  uuid : Uuid
deriving DecidableEq

/-- Names a template. -/
structure TemplateId where
  uuid : Uuid
deriving DecidableEq

/-- Names a document. -/
structure DocumentId where
  uuid : Uuid
deriving DecidableEq

end Formulary
