/-!
# Parts of a text

The white space at the ends of a text, the occurrences of a text in another, and two ways to cut a text: at a separator,
and into tokens and the characters between them.  Neither cut loses a character (`join_split`, `flatMap_chars_cut`).
-/

namespace Formulary.Text

/-! ### White space -/

/-- The characters with the property White_Space. -/
def isBlank (c : Char) : Bool :=
  let n := c.toNat
  (9 ≤ n && n ≤ 13) || n == 0x20 || n == 0x85 || n == 0xA0 || n == 0x1680 || (0x2000 ≤ n && n ≤ 0x200A)
    || n == 0x2028 || n == 0x2029 || n == 0x202F || n == 0x205F || n == 0x3000

def dropBlanks (cs : List Char) : List Char := cs.dropWhile isBlank

/-- The characters from the first to the last that is not white space. -/
def trimChars (cs : List Char) : List Char := (dropBlanks (dropBlanks cs).reverse).reverse

/-- The text without the white space at its ends. -/
def trim (s : String) : String := String.ofList (trimChars s.toList)

/-! ### Occurrences -/

/-- Whether `part` stands somewhere in a text. -/
def occursIn (part : List Char) : List Char → Bool
  | [] => part.isEmpty
  | c :: cs => part.isPrefixOf (c :: cs) || occursIn part cs

theorem occursIn_iff {part whole : List Char} : occursIn part whole = true ↔ part <:+: whole := by
  induction whole with
  | nil => simp [occursIn]
  | cons c cs ih => simp [occursIn, ih, List.infix_cons_iff]

/-- Whether `part` is a contiguous part of `whole`; the empty text is a part of every text. -/
def contains (whole part : String) : Bool := occursIn part.toList whole.toList

/-! ### Cutting at a separator -/

/-- The parts of a text between the occurrences of a separator; there is always at least one. -/
def split (separator : Char) : List Char → List (List Char)
  | [] => [[]]
  | c :: cs =>
    if c = separator then [] :: split separator cs
    else
      match split separator cs with
      | [] => [[c]]
      | part :: parts => (c :: part) :: parts

theorem split_ne_nil (separator : Char) (cs : List Char) : split separator cs ≠ [] := by
  cases cs with
  | nil => simp [split]
  | cons c cs =>
    unfold split
    split
    · simp
    · split <;> simp

/-- The parts, joined by the separator, are the text. -/
theorem join_split (separator : Char) (cs : List Char) : [separator].intercalate (split separator cs) = cs := by
  induction cs with
  | nil => rfl
  | cons c cs ih =>
    cases h : split separator cs with
    | nil => exact absurd h (split_ne_nil separator cs)
    | cons part parts =>
      rw [h] at ih
      by_cases hc : c = separator
      · subst hc
        simpa [split, h, List.intercalate, List.intersperse_cons_cons] using ih
      · cases parts with
        | nil => simpa [split, h, hc, List.intercalate] using ih
        | cons second parts => simpa [split, h, hc, List.intercalate, List.intersperse_cons_cons] using ih

/-! ### Cutting into tokens -/

/-- A way to recognise a token at the start of a text. -/
structure Recogniser (α : Type) where
  /-- The token at the start of a text, and what follows it. -/
  read? : List Char → Option (α × List Char)
  /-- A token takes at least one character. -/
  take : ∀ {cs : List Char} {token : α} {rest : List Char}, read? cs = some (token, rest) →
    ∃ chars, chars ≠ [] ∧ cs = chars ++ rest

/-- A piece of a text: a character outside every token, or a token with the characters that it takes. -/
inductive Piece (α : Type) where
  | plain (c : Char)
  | token (a : α) (chars : List Char)

namespace Piece

variable {α : Type}

/-- The characters of a piece. -/
def chars : Piece α → List Char
  | plain c => [c]
  | token _ cs => cs

/-- The token of a piece that is one, with its characters. -/
def token? : Piece α → Option (α × List Char)
  | plain _ => none
  | token a cs => some (a, cs)

end Piece

variable {α : Type}

theorem Recogniser.length_lt (r : Recogniser α) {cs rest : List Char} {token : α}
    (h : r.read? cs = some (token, rest)) : rest.length < cs.length := by
  obtain ⟨chars, hne, rfl⟩ := r.take h
  have := List.length_pos_iff.2 hne
  simp
  omega

/-- The pieces of a text, cut from left to right: where a token starts it is taken, and the next piece follows it. -/
def cut (r : Recogniser α) : List Char → List (Piece α)
  | [] => []
  | c :: cs =>
    match _h : r.read? (c :: cs) with
    | some (token, rest) => .token token ((c :: cs).take ((c :: cs).length - rest.length)) :: cut r rest
    | none => .plain c :: cut r cs
termination_by cs => cs.length
decreasing_by
  · exact r.length_lt _h
  · simp

/-- The pieces hold the characters of the text, in order. -/
theorem flatMap_chars_cut (r : Recogniser α) (cs : List Char) : (cut r cs).flatMap Piece.chars = cs := by
  fun_induction cut r cs with
  | case1 => rfl
  | case2 c cs token rest h ih =>
    obtain ⟨chars, _, he⟩ := r.take h
    rw [List.flatMap_cons, ih, he]
    simp [Piece.chars]
  | case3 c cs h ih => simp [Piece.chars, ih]

/-- The tokens of a text with their characters, from left to right. -/
def tokens (r : Recogniser α) (cs : List Char) : List (α × List Char) := (cut r cs).filterMap Piece.token?

end Formulary.Text
