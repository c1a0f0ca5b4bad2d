import Formulary.Json.Value
import Formulary.Text.Numeral

/-!
# The grammar of JSON

Which texts are JSON, and for which value.  Each production is a relation between a text, what the start of it stands for
and the text that is left after it; a production can end in more than one place, and what follows decides which of
them is meant.  A JSON text is an element of which nothing is left (`IsText`).
-/

namespace Formulary.Json

namespace Grammar

/-- White space, or none at all. -/
def Space (cs rest : List Char) : Prop := ∃ gap, (∀ c ∈ gap, c ∈ [' ', '\t', '\n', '\r']) ∧ cs = gap ++ rest

/-! ### Strings -/

/-- The letters of the short escapes, and the characters that they stand for. -/
def escapes : List (Char × Char) :=
  [('"', '"'), ('\\', '\\'), ('/', '/'), ('b', '\x08'), ('f', '\x0c'), ('n', '\n'), ('r', '\r'), ('t', '\t')]

/-- The code points between the quotes of a string literal, after the first quote. -/
inductive Points : List Char → List Nat → List Char → Prop
  | quote (rest : List Char) : Points ('"' :: rest) [] rest
  | plain {c : Char} {cs rest : List Char} {ns : List Nat} : c ≠ '"' → c ≠ '\\' → ¬ c < ' ' → Points cs ns rest →
      Points (c :: cs) (c.toNat :: ns) rest
  | escaped {e c : Char} {cs rest : List Char} {ns : List Nat} : (e, c) ∈ escapes → Points cs ns rest →
      Points ('\\' :: e :: cs) (c.toNat :: ns) rest
  | numbered {a b c d : Char} {n : Nat} {cs rest : List Char} {ns : List Nat} : Hex.value? [a, b, c, d] = some n →
      Points cs ns rest → Points ('\\' :: 'u' :: a :: b :: c :: d :: cs) (n :: ns) rest

/-- Code points that are those of a text, where a character beyond the first plane may be given as a pair of
surrogates. -/
inductive Encodes : List Nat → List Char → Prop
  | nil : Encodes [] []
  | single (c : Char) {ns : List Nat} {cs : List Char} : Encodes ns cs → Encodes (c.toNat :: ns) (c :: cs)
  | pair {c : Char} {ns : List Nat} {cs : List Char} : 0x10000 ≤ c.toNat → Encodes ns cs →
      Encodes ((0xD800 + (c.toNat - 0x10000) / 0x400) :: (0xDC00 + (c.toNat - 0x10000) % 0x400) :: ns) (c :: cs)

/-- A string literal after its opening quote, and its text if it has one. -/
def Unquoted (cs : List Char) (s : JsonString) (rest : List Char) : Prop :=
  ∃ ns, Points cs ns rest ∧ ∀ t : String, s = some t ↔ Encodes ns t.toList

/-! ### Numbers -/

/-- The whole part of a number has no leading zeros. -/
inductive Whole : List Char → Nat → List Char → Prop
  | zero (rest : List Char) : Whole ('0' :: rest) 0 rest
  | digits {ds : List Char} (rest : List Char) : Numeral.isNumeral ds = true → ds.head? ≠ some '0' →
      Whole (ds ++ rest) (Numeral.value ds) rest

inductive Fraction : List Char → List (Fin 10) → List Char → Prop
  | absent (rest : List Char) : Fraction rest [] rest
  | digits {ds : List (Fin 10)} (rest : List Char) : ds ≠ [] →
      Fraction ('.' :: ds.map (fun d => Nat.digitChar d.val) ++ rest) ds rest

inductive Exponent : List Char → Option Int → List Char → Prop
  | absent (rest : List Char) : Exponent rest none rest
  | digits {mark : Char} {sign ds : List Char} {factor : Int} (rest : List Char) : mark ∈ ['e', 'E'] →
      (sign, factor) ∈ [([], 1), (['+'], 1), (['-'], -1)] → Numeral.isNumeral ds = true →
      Exponent (mark :: sign ++ ds ++ rest) (some (factor * Numeral.value ds)) rest

/-- A number after its sign. -/
def Unsigned (cs : List Char) (n : JsonNumber) (rest : List Char) : Prop :=
  ∃ cs₁ cs₂, Whole cs n.whole cs₁ ∧ Fraction cs₁ n.fraction cs₂ ∧ Exponent cs₂ n.exponent rest

inductive Number : List Char → JsonNumber → List Char → Prop
  | plain {cs rest : List Char} {n : JsonNumber} : n.negative = false → Unsigned cs n rest → Number cs n rest
  | minus {cs rest : List Char} {n : JsonNumber} : n.negative = true → Unsigned cs n rest → Number ('-' :: cs) n rest

/-! ### Values -/

mutual

inductive Value : List Char → Json → List Char → Prop
  | null (rest : List Char) : Value ('n' :: 'u' :: 'l' :: 'l' :: rest) .null rest
  | yes (rest : List Char) : Value ('t' :: 'r' :: 'u' :: 'e' :: rest) (.bool true) rest
  | no (rest : List Char) : Value ('f' :: 'a' :: 'l' :: 's' :: 'e' :: rest) (.bool false) rest
  | number {cs rest : List Char} {n : JsonNumber} : Number cs n rest → Value cs (.number n) rest
  | string {cs rest : List Char} {s : JsonString} : Unquoted cs s rest → Value ('"' :: cs) (.string s) rest
  | emptyArray {cs rest : List Char} : Space cs (']' :: rest) → Value ('[' :: cs) (.array []) rest
  | array {cs rest : List Char} {vs : List Json} : Elements cs vs (']' :: rest) → Value ('[' :: cs) (.array vs) rest
  | emptyObject {cs rest : List Char} : Space cs ('}' :: rest) → Value ('{' :: cs) (.object []) rest
  | object {cs rest : List Char} {ms : List (JsonString × Json)} : Members cs ms ('}' :: rest) →
      Value ('{' :: cs) (.object ms) rest

/-- A value with white space around it. -/
inductive Element : List Char → Json → List Char → Prop
  | mk {cs cs₁ cs₂ rest : List Char} {v : Json} : Space cs cs₁ → Value cs₁ v cs₂ → Space cs₂ rest → Element cs v rest

/-- One or more elements with commas between. -/
inductive Elements : List Char → List Json → List Char → Prop
  | one {cs rest : List Char} {v : Json} : Element cs v rest → Elements cs [v] rest
  | cons {cs cs₁ rest : List Char} {v : Json} {vs : List Json} : Element cs v (',' :: cs₁) → Elements cs₁ vs rest →
      Elements cs (v :: vs) rest

/-- A name and an element, with a colon between. -/
inductive Member : List Char → JsonString × Json → List Char → Prop
  | mk {cs cs₁ cs₂ cs₃ rest : List Char} {name : JsonString} {v : Json} : Space cs ('"' :: cs₁) →
      Unquoted cs₁ name cs₂ → Space cs₂ (':' :: cs₃) → Element cs₃ v rest → Member cs (name, v) rest

/-- One or more members with commas between. -/
inductive Members : List Char → List (JsonString × Json) → List Char → Prop
  | one {cs rest : List Char} {m : JsonString × Json} : Member cs m rest → Members cs [m] rest
  | cons {cs cs₁ rest : List Char} {m : JsonString × Json} {ms : List (JsonString × Json)} : Member cs m (',' :: cs₁) →
      Members cs₁ ms rest → Members cs (m :: ms) rest

end

end Grammar

/-- The text is JSON, and this is its value. -/
def IsText (s : String) (v : Json) : Prop := Grammar.Element s.toList v []

end Formulary.Json
