import Formulary.Proofs.Json.Parsing

/-!
# Reading JSON texts back

A layout says which white space stands between the tokens of a text.  In every layout the text of a value is a JSON text
with this value, down to the way in which its numbers are written (`value_chars`).  The compact and the indented form
are two layouts (`compactChars_eq`, `indentedChars_eq`), so that both are read back.
-/

namespace Formulary.Json

open Grammar

/-- The white space between tokens: before the items at each level and the bracket that closes them, and after a
colon. -/
structure Layout where
  newLine : Nat → List Char
  afterColon : List Char
  space_newLine : ∀ level rest, Space (newLine level ++ rest) rest
  space_afterColon : ∀ rest, Space (afterColon ++ rest) rest

namespace Layout

/-- No white space at all. -/
def compact : Layout := ⟨fun _ => [], [], fun _ => Reader.space_refl, Reader.space_refl⟩

/-- Each item on a line of its own, indented by its level. -/
def indented : Layout where
  newLine := Json.newLine
  afterColon := [' ']
  space_newLine level rest := by
    refine ⟨Json.newLine level, fun c hc => ?_, rfl⟩
    rcases List.mem_cons.1 hc with rfl | hc
    · decide
    · rw [(List.mem_replicate.1 hc).2]
      decide
  space_afterColon rest := ⟨[' '], fun _ hc => List.mem_singleton.1 hc ▸ List.mem_cons_self, rfl⟩

variable (l : Layout)

mutual

/-- The text of a value that stands at a level. -/
def chars (level : Nat) : Json → List Char
  | null => "null".toList
  | bool true => "true".toList
  | bool false => "false".toList
  | number n => numberChars n
  | string s => stringChars s
  | array [] => ['[', ']']
  | array (v :: vs) =>
    '[' :: l.newLine (level + 1) ++ chars (level + 1) v ++ itemsChars (level + 1) vs ++ l.newLine level ++ [']']
  | object [] => ['{', '}']
  | object ((k, v) :: ms) =>
    '{' :: l.newLine (level + 1) ++ stringChars k ++ ':' :: l.afterColon ++ chars (level + 1) v
      ++ membersChars (level + 1) ms ++ l.newLine level ++ ['}']

/-- The text of the items after the first. -/
def itemsChars (level : Nat) : List Json → List Char
  | [] => []
  | v :: vs => ',' :: l.newLine level ++ chars level v ++ itemsChars level vs

/-- The text of the members after the first. -/
def membersChars (level : Nat) : List (JsonString × Json) → List Char
  | [] => []
  | (k, v) :: ms =>
    ',' :: l.newLine level ++ stringChars k ++ ':' :: l.afterColon ++ chars level v ++ membersChars level ms

end

end Layout

/-! ### The two layouts -/

mutual

theorem compactChars_eq (level : Nat) : ∀ v : Json, compactChars v = Layout.compact.chars level v
  | null => rfl
  | bool true => rfl
  | bool false => rfl
  | number _ => rfl
  | string _ => rfl
  | array [] => rfl
  | array (v :: vs) => by
    simp [compactChars, Layout.chars, Layout.compact, compactItems_cons (level + 1) v vs, compactChars_eq (level + 1) v]
  | object [] => rfl
  | object ((k, v) :: ms) => by
    simp [compactChars, Layout.chars, Layout.compact, compactMembers_cons (level + 1) k v ms,
      compactChars_eq (level + 1) v]

theorem compactItems_cons (level : Nat) (v : Json) :
    ∀ vs : List Json, compactItems (v :: vs) = compactChars v ++ Layout.compact.itemsChars level vs
  | [] => by simp [compactItems, Layout.itemsChars]
  | w :: vs => by
    simp [compactItems, Layout.itemsChars, Layout.compact, compactItems_cons level w vs, compactChars_eq level w]

theorem compactMembers_cons (level : Nat) (k : JsonString) (v : Json) :
    ∀ ms : List (JsonString × Json),
      compactMembers ((k, v) :: ms) = stringChars k ++ ':' :: compactChars v ++ Layout.compact.membersChars level ms
  | [] => by simp [compactMembers, Layout.membersChars]
  | (j, w) :: ms => by
    simp [compactMembers, Layout.membersChars, Layout.compact, compactMembers_cons level j w ms,
      compactChars_eq level w]

end

mutual

theorem indentedChars_eq (level : Nat) : ∀ v : Json, indentedChars level v = Layout.indented.chars level v
  | null => rfl
  | bool true => rfl
  | bool false => rfl
  | number _ => rfl
  | string _ => rfl
  | array [] => rfl
  | array (v :: vs) => by
    simp [indentedChars, Layout.chars, Layout.indented, indentedChars_eq (level + 1) v,
      indentedItems_eq (level + 1) vs]
  | object [] => rfl
  | object ((k, v) :: ms) => by
    simp [indentedChars, Layout.chars, Layout.indented, indentedChars_eq (level + 1) v,
      indentedMembers_eq (level + 1) ms]

theorem indentedItems_eq (level : Nat) :
    ∀ vs : List Json, indentedItems level vs = Layout.indented.itemsChars level vs
  | [] => rfl
  | v :: vs => by
    simp [indentedItems, Layout.itemsChars, Layout.indented, indentedChars_eq level v, indentedItems_eq level vs]

theorem indentedMembers_eq (level : Nat) :
    ∀ ms : List (JsonString × Json), indentedMembers level ms = Layout.indented.membersChars level ms
  | [] => rfl
  | (k, v) :: ms => by
    simp [indentedMembers, Layout.membersChars, Layout.indented, indentedChars_eq level v, indentedMembers_eq level ms]

end

/-! ### Texts of the grammar -/

namespace Layout

open Reader

variable (l : Layout)

/-- A name and the text of a value make a member, with a colon between. -/
theorem member_chars {cs after rest : List Char} {v : Json} (k : JsonString) (hv : ∀ rest, Value (cs ++ rest) v rest)
    (hafter : Space after rest) : Member (stringChars k ++ ':' :: (l.afterColon ++ (cs ++ after))) (k, v) rest := by
  obtain ⟨ks, hcons, hk⟩ := exists_stringChars_eq_cons k
  rw [hcons]
  exact .mk (space_refl _) (hk _) (space_refl _) (.mk (l.space_afterColon _) (hv _) hafter)

mutual

/-- In every layout the text of a value is one of the grammar for it. -/
theorem value_chars (level : Nat) (rest : List Char) : ∀ v : Json, Value (l.chars level v ++ rest) v rest
  | null => .null rest
  | bool true => .yes rest
  | bool false => .no rest
  | number n => .number (number_numberChars n rest)
  | string s => by
    obtain ⟨cs, hcons, hs⟩ := exists_stringChars_eq_cons s
    rw [chars, hcons]
    exact .string (hs rest)
  | array [] => .emptyArray (space_refl _)
  | array (v :: vs) => by
    have hitems := elements_itemsChars (level + 1) vs (fun rest => value_chars (level + 1) rest v)
      (l.space_newLine level (']' :: rest))
    simpa [chars] using Value.array (elements_of_space (l.space_newLine (level + 1) _) hitems)
  | object [] => .emptyObject (space_refl _)
  | object ((k, v) :: ms) => by
    have hmembers := members_membersChars (level + 1) k ms (fun rest => value_chars (level + 1) rest v)
      (l.space_newLine level ('}' :: rest))
    simpa [chars] using Value.object (members_of_space (l.space_newLine (level + 1) _) hmembers)

theorem elements_itemsChars {cs after rest : List Char} {v : Json} (level : Nat) :
    ∀ vs : List Json, (∀ rest, Value (cs ++ rest) v rest) → Space after rest →
      Elements (cs ++ (l.itemsChars level vs ++ after)) (v :: vs) rest
  | [], hv, hafter => .one (.mk (space_refl _) (hv _) hafter)
  | w :: vs, hv, hafter => by
    have hitems := elements_itemsChars level vs (fun rest => value_chars level rest w) hafter
    have helements := elements_of_space (l.space_newLine level _) hitems
    simpa [itemsChars] using Elements.cons (.mk (space_refl _) (hv _) (space_refl _)) helements

theorem members_membersChars {cs after rest : List Char} {v : Json} (level : Nat) (k : JsonString) :
    ∀ ms : List (JsonString × Json), (∀ rest, Value (cs ++ rest) v rest) → Space after rest →
      Members (stringChars k ++ ':' :: (l.afterColon ++ (cs ++ (l.membersChars level ms ++ after)))) ((k, v) :: ms) rest
  | [], hv, hafter => .one (l.member_chars k hv hafter)
  | (j, w) :: ms, hv, hafter => by
    have hmembers := members_membersChars level j ms (fun rest => value_chars level rest w) hafter
    have hmembers := members_of_space (l.space_newLine level _) hmembers
    simpa [membersChars] using Members.cons (l.member_chars k hv (space_refl _)) hmembers

end

end Layout

theorem isText_compact (v : Json) : IsText v.compact v := by
  have hvalue := Layout.compact.value_chars 0 [] v
  rw [List.append_nil, ← compactChars_eq] at hvalue
  rw [IsText, compact, String.toList_ofList]
  exact .mk (Reader.space_refl _) hvalue (Reader.space_refl _)

theorem isText_indented (v : Json) : IsText v.indented v := by
  have hvalue := Layout.indented.value_chars 0 [] v
  rw [List.append_nil, ← indentedChars_eq] at hvalue
  rw [IsText, indented, String.toList_ofList]
  exact .mk (Reader.space_refl _) hvalue (Reader.space_refl _)

theorem isText_indented_line (v : Json) : IsText (v.indented ++ "\n") v := by
  have hvalue := Layout.indented.value_chars 0 ['\n'] v
  rw [← indentedChars_eq] at hvalue
  rw [IsText, indented, String.toList_append, String.toList_ofList]
  have hspace : Space ['\n'] [] := ⟨['\n'], fun c hc => by rw [List.mem_singleton.1 hc]; decide, rfl⟩
  exact .mk (Reader.space_refl _) hvalue hspace

theorem ofText?_compact (v : Json) : ofText? v.compact = some v := ofText?_eq_some_iff.2 (isText_compact v)

end Formulary.Json
