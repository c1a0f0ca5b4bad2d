import Formulary.Template.Variable
import Formulary.Text.Pieces

/-!
# Placeholders

A blank of a template is written `{{name}}`, with a type `{{name:type}}`, or with options
`{{name:type:first,second}}`.  Names and types are words of ASCII letters, digits and underscores.  What
stands after the first colon may be anything without a closing brace: if it does not start with a type, the placeholder
has no type and all of it counts as options.
-/

namespace Formulary

/-- The characters of names and types. -/
def isWordChar (c : Char) : Bool := c.isAlphanum || c = '_'

/-- The parts of a placeholder, as they are written. -/
structure Placeholder where
  name : List Char
  kind : Option (List Char)
  options : Option (List Char)
deriving DecidableEq

namespace Placeholder

/-- The text after two closing braces. -/
def afterClosing? : List Char → Option (List Char)
  | '}' :: '}' :: rest => some rest
  | _ => none

/-- The type and the options in the text after the first colon. -/
def parts (suffix : List Char) : Option (List Char) × Option (List Char) :=
  match suffix.takeWhile isWordChar, suffix.dropWhile isWordChar with
  | [], _ => (none, some suffix)
  | word, [] => (some word, none)
  | word, ':' :: c :: cs => (some word, some (c :: cs))
  | _, _ => (none, some suffix)

/-- The placeholder at the start of a text, and what follows it. -/
def read? : List Char → Option (Placeholder × List Char)
  | '{' :: '{' :: cs =>
    match cs.takeWhile isWordChar with
    | [] => none
    | name =>
      match cs.dropWhile isWordChar with
      | ':' :: cs =>
        match cs.takeWhile (· ≠ '}') with
        | [] => none
        | suffix =>
          (afterClosing? (cs.dropWhile (· ≠ '}'))).map fun rest =>
            (⟨name, (parts suffix).1, (parts suffix).2⟩, rest)
      | cs => (afterClosing? cs).map fun rest => (⟨name, none, none⟩, rest)
  | _ => none

theorem eq_of_afterClosing? {cs rest : List Char} (h : afterClosing? cs = some rest) :
    cs = '}' :: '}' :: rest := by
  unfold afterClosing? at h
  split at h
  · simpa using h
  · simp at h

/-- A placeholder takes the characters before the rest. -/
theorem take_read? {cs : List Char} {p : Placeholder} {rest : List Char} (h : read? cs = some (p, rest)) :
    ∃ chars, chars ≠ [] ∧ cs = chars ++ rest := by
  unfold read? at h
  split at h
  · rename_i cs
    split at h
    · simp at h
    · have hcs := List.takeWhile_append_dropWhile (p := isWordChar) (l := cs)
      split at h
      · rename_i cs' hd
        split at h
        · simp at h
        · simp only [Option.map_eq_some_iff, Prod.mk.injEq] at h
          obtain ⟨r, hr, _, rfl⟩ := h
          have hr := eq_of_afterClosing? hr
          have hcs' := List.takeWhile_append_dropWhile (p := (· ≠ '}')) (l := cs')
          rw [hr] at hcs'
          rw [hd, ← hcs'] at hcs
          exact ⟨'{' :: '{' :: (cs.takeWhile isWordChar ++ ':' :: cs'.takeWhile (· ≠ '}') ++ ['}', '}']), by simp,
            (congrArg (fun l => '{' :: '{' :: l) hcs).symm.trans (by simp)⟩
      · simp only [Option.map_eq_some_iff, Prod.mk.injEq] at h
        obtain ⟨r, hr, _, rfl⟩ := h
        rw [eq_of_afterClosing? hr] at hcs
        exact ⟨'{' :: '{' :: (cs.takeWhile isWordChar ++ ['}', '}']), by simp,
          (congrArg (fun l => '{' :: '{' :: l) hcs).symm.trans (by simp)⟩
  · simp at h

/-- Placeholders as tokens of a text. -/
def recogniser : Text.Recogniser Placeholder := ⟨read?, take_read?⟩

/-- The placeholders of a text from left to right, each with its characters. -/
def all (body : String) : List (Placeholder × List Char) := Text.tokens recogniser body.toList

/-- The options that are written with commas between. -/
def splitOptions (options : List Char) : List String :=
  (Text.split ',' options).map (fun o => String.ofList (Text.trimChars o))

/-- The variable that a placeholder stands for. -/
def toVariable (rules : List TypingRule) (p : Placeholder) : Variable :=
  let name := String.ofList p.name
  let kind := match p.kind with
    | some k => VariableType.ofName (String.ofList k)
    | none => typeByRules rules name
  let options := match kind, p.options with
    | .select, some options => splitOptions options
    | _, _ => []
  ⟨name, labelOf name, kind, true, options⟩

end Placeholder

/-- The variables without those whose name has come before. -/
def firstByName : List Variable → List Variable
  | [] => []
  | v :: vs => v :: (firstByName vs).filter (fun w => w.name ≠ v.name)

/-- The form of a template text: its variables in the order of their first placeholders, which decide on type and
options. -/
def formOf (rules : List TypingRule) (body : String) : List Variable :=
  firstByName ((Placeholder.all body).map (fun p => p.1.toVariable rules))

end Formulary
