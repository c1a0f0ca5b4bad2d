import Formulary.Text.Case.Table

/-!
# Letter case of a text

Upper and lower case by the mappings of the standard, several characters for one where the standard says so.  The
lower case of `Σ` depends on its place: it is `ς` at the end of a word and `σ` elsewhere, where a word ends after a
cased character that no cased character follows, characters such as apostrophes being passed over on both sides.
-/

namespace Formulary.Text

/-- The code point that the first fitting range maps `n` to, or `n` itself; the ranges ascend. -/
def shifted (n : Nat) : List CaseRange → Nat
  | [] => n
  | r :: rest =>
    if n < r.first then n
    else if n ≤ r.last ∧ (n - r.first) % r.step = 0 then (n + r.shift).toNat
    else shifted n rest

/-- Whether `n` lies in one of the ranges. -/
def inRanges (n : Nat) (ranges : List (Nat × Nat)) : Bool :=
  ranges.any (fun r => r.1 ≤ n && n ≤ r.2)

/-- The upper case of one character. -/
def upperOf (c : Char) : List Char :=
  match upperExpansions.lookup c.toNat with
  | some ns => ns.map Char.ofNat
  | none => [Char.ofNat (shifted c.toNat upperRanges)]

/-- The lower case of one character wherever it stands. -/
def lowerOf (c : Char) : List Char :=
  match lowerExpansions.lookup c.toNat with
  | some ns => ns.map Char.ofNat
  | none => [Char.ofNat (shifted c.toNat lowerRanges)]

def isCased (c : Char) : Bool := inRanges c.toNat casedRanges

def isCaseIgnorable (c : Char) : Bool := inRanges c.toNat caseIgnorableRanges

/-- Whether the first character that is not passed over is cased. -/
def startsCased (cs : List Char) : Bool :=
  match cs.dropWhile isCaseIgnorable with
  | [] => false
  | c :: _ => isCased c

/-- The lower case of a text that follows `before`, which is given from its last character to its first. -/
def lowerAfter (before : List Char) : List Char → List Char
  | [] => []
  | c :: cs =>
    (if c = 'Σ' then [if startsCased before && !startsCased cs then 'ς' else 'σ'] else lowerOf c)
      ++ lowerAfter (c :: before) cs

/-- The lower case of a text. -/
def lower (s : String) : String := String.ofList (lowerAfter [] s.toList)

end Formulary.Text
