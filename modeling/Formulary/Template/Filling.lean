import Formulary.Calendar.French
import Formulary.Form.Submission
import Formulary.Template.Placeholder

/-!
# Filling a template

The blanks of a text that some values fill: `{{name}}` for each name with a value, whatever its characters, also with a
colon and any text without a closing brace after the name.  Where several names fit, the longest in UTF-8 bytes does.
Where the blanks are depends on the names alone, and a value that looks like a blank is not filled in turn.  A search for
all names at once may refuse their pattern for its size and leave the text as it is; here the names have no such limit.
-/

namespace Formulary

namespace Blank

/-- What follows a blank for `name`, in a text that starts after the two opening braces. -/
def after? (name : String) (cs : List Char) : Option (List Char) :=
  if name.toList.isPrefixOf cs then
    match cs.drop name.toList.length with
    | ':' :: rest => Placeholder.afterClosing? (rest.dropWhile (· ≠ '}'))
    | rest => Placeholder.afterClosing? rest
  else none

/-- Longer names come first, in UTF-8 bytes; names of one length in their order. -/
def precedes (a b : String) : Bool :=
  b.utf8ByteSize < a.utf8ByteSize || (a.utf8ByteSize = b.utf8ByteSize && !decide (b < a))

/-- The blank at the start of a text for the first of some names that has one there, and what follows it. -/
def read? (names : List String) : List Char → Option (String × List Char)
  | '{' :: '{' :: cs => names.findSome? (fun name => (after? name cs).map (name, ·))
  | _ => none

theorem take_after? {name : String} {cs rest : List Char} (h : after? name cs = some rest) :
    ∃ chars, cs = chars ++ rest := by
  unfold after? at h
  split at h
  · have hcs := List.take_append_drop name.toList.length cs
    split at h
    · rename_i rest' hd
      have hr := List.takeWhile_append_dropWhile (p := (· ≠ '}')) (l := rest')
      rw [Placeholder.eq_of_afterClosing? h] at hr
      rw [hd, ← hr] at hcs
      exact ⟨cs.take name.toList.length ++ ':' :: rest'.takeWhile (· ≠ '}') ++ ['}', '}'], by
        simpa using hcs.symm⟩
    · rw [Placeholder.eq_of_afterClosing? h] at hcs
      exact ⟨cs.take name.toList.length ++ ['}', '}'], by simpa using hcs.symm⟩
  · simp at h

theorem take_read? {names : List String} {cs rest : List Char} {name : String}
    (h : read? names cs = some (name, rest)) : ∃ chars, chars ≠ [] ∧ cs = chars ++ rest := by
  unfold read? at h
  split at h
  · obtain ⟨n, _, hn⟩ := List.exists_of_findSome?_eq_some h
    obtain ⟨r, hr, he⟩ := Option.map_eq_some_iff.1 hn
    simp only [Prod.mk.injEq] at he
    obtain ⟨chars, hc⟩ := take_after? hr
    exact ⟨'{' :: '{' :: chars, by simp, by simp [hc, he.2]⟩
  · simp at h

/-- Blanks for some names as tokens of a text. -/
def recogniser (names : List String) : Text.Recogniser String :=
  ⟨read? (names.mergeSort precedes), take_read?⟩

end Blank

/-- The text that stands in place of a piece of a template. -/
def fillPiece (values : FormValues) : Text.Piece String → List Char
  | .plain c => [c]
  | .token name chars =>
    match values.get? name with
    | some value => (French.display value).toList
    | none => chars

/-- The text with the blanks filled by some values. -/
def fill (body : String) (values : FormValues) : String :=
  String.ofList ((Text.cut (Blank.recogniser values.keys) body.toList).flatMap (fillPiece values))

end Formulary
