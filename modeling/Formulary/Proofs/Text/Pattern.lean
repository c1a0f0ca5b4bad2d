import Formulary.Proofs.Text.Cut

/-!
# Search patterns

A pattern says how a text may start.  There can be several ways to read one text by one pattern, and they have an order:
of two alternatives the first one comes first, and a run or an optional part is rather long than short.  A search goes
through a text from left to right, takes the first way at the first place where there is one, and goes on behind it.
-/

namespace Formulary.Text

inductive Pattern where
  /-- What no text starts with. -/
  | never
  | literal (chars : List Char)
  /-- Some characters of a class, or none. -/
  | run (test : Char → Bool)
  | either (a b : Pattern)
  /-- One after the other. -/
  | both (a b : Pattern)
  | maybe (a : Pattern)
  /-- A part whose text is reported. -/
  | group (a : Pattern)

namespace Pattern

/-- A way to read a text by a pattern: the texts of the groups in their order, and what follows. -/
structure Way where
  groups : List (List Char)
  rest : List Char

/-- What follows a run, from the longest one to the shortest one. -/
def afterRun (test : Char → Bool) : List Char → List (List Char)
  | [] => [[]]
  | c :: cs => if test c then afterRun test cs ++ [c :: cs] else [c :: cs]

/-- The ways to read the start of a text by a pattern, in their order. -/
def ways : Pattern → List Char → List Way
  | never, _ => []
  | literal chars, cs => if chars.isPrefixOf cs then [⟨[], cs.drop chars.length⟩] else []
  | run test, cs => (afterRun test cs).map (⟨[], ·⟩)
  | either a b, cs => a.ways cs ++ b.ways cs
  | both a b, cs => (a.ways cs).flatMap fun w => (b.ways w.rest).map fun w' => ⟨w.groups ++ w'.groups, w'.rest⟩
  | maybe a, cs => a.ways cs ++ [⟨[], cs⟩]
  | group a, cs => (a.ways cs).map fun w => ⟨cs.take (cs.length - w.rest.length) :: w.groups, w.rest⟩

/-- The alternatives of a list, in its order. -/
def anyOf (alternatives : List Pattern) : Pattern := alternatives.foldr either never

variable {p a b : Pattern} {test : Char → Bool} {cs rest chars : List Char} {w : Way}

theorem suffix_of_mem_afterRun (h : rest ∈ afterRun test cs) : rest <:+ cs := by
  induction cs with
  | nil =>
    obtain rfl := List.mem_singleton.1 h
    exact List.suffix_rfl
  | cons c cs ih =>
    unfold afterRun at h
    by_cases hc : test c
    · rw [if_pos hc] at h
      rcases List.mem_append.1 h with h | h
      · exact (ih h).trans (List.suffix_cons c cs)
      · obtain rfl := List.mem_singleton.1 h
        exact List.suffix_rfl
    · rw [if_neg hc] at h
      obtain rfl := List.mem_singleton.1 h
      exact List.suffix_rfl

/-- What a way leaves of a text is its end. -/
theorem rest_suffix_of_mem_ways (h : w ∈ p.ways cs) : w.rest <:+ cs := by
  induction p generalizing cs w with
  | never => cases h
  | literal chars =>
    unfold ways at h
    split at h
    · obtain rfl := List.mem_singleton.1 h
      exact List.drop_suffix _ _
    · cases h
  | run test =>
    obtain ⟨rest, hrest, rfl⟩ := List.mem_map.1 h
    exact suffix_of_mem_afterRun hrest
  | either a b iha ihb =>
    rcases List.mem_append.1 h with h | h
    · exact iha h
    · exact ihb h
  | both a b iha ihb =>
    obtain ⟨v, hv, h⟩ := List.mem_flatMap.1 h
    obtain ⟨v', hv', rfl⟩ := List.mem_map.1 h
    exact (ihb hv').trans (iha hv)
  | maybe a ih =>
    rcases List.mem_append.1 h with h | h
    · exact ih h
    · obtain rfl := List.mem_singleton.1 h
      exact List.suffix_rfl
  | group a ih =>
    obtain ⟨v, hv, rfl⟩ := List.mem_map.1 h
    have hrest : v.rest <:+ cs := ih hv
    exact hrest

/-- A run that is not the longest one is followed by a character of its class. -/
theorem flatMap_afterRun {β : Type} {f : List Char → List β} (h : ∀ c cs, test c = true → f (c :: cs) = [])
    (cs : List Char) : (afterRun test cs).flatMap f = f (cs.dropWhile test) := by
  induction cs with
  | nil => simp [afterRun]
  | cons c cs ih =>
    unfold afterRun
    by_cases hc : test c
    · rw [if_pos hc, List.flatMap_append, ih, List.flatMap_singleton, h c cs hc, List.append_nil,
        List.dropWhile_cons_of_pos hc]
    · rw [if_neg hc, List.flatMap_singleton, List.dropWhile_cons_of_neg hc]

theorem ways_anyOf (alternatives : List Pattern) (cs : List Char) :
    (anyOf alternatives).ways cs = alternatives.flatMap (·.ways cs) := by
  induction alternatives with
  | nil => rfl
  | cons a alternatives ih =>
    rw [List.flatMap_cons, ← ih]
    rfl

/-! ### Texts and optional texts -/

/-- A pattern that starts with a text goes on behind this text. -/
theorem ways_both_literal_append (chars rest : List Char) (b : Pattern) :
    (both (literal chars) b).ways (chars ++ rest) = b.ways rest := by
  have hprefix : chars.isPrefixOf (chars ++ rest) = true := List.isPrefixOf_iff_prefix.2 (List.prefix_append _ _)
  rw [ways, ways, if_pos hprefix, List.drop_left, List.flatMap_singleton]
  exact List.map_id' _

theorem ways_literal_eq_nil (h : ¬ chars <+: cs) : (literal chars).ways cs = [] :=
  if_neg (mt List.isPrefixOf_iff_prefix.1 h)

theorem ways_both_of_ways_eq_nil (h : a.ways cs = []) (b : Pattern) : (both a b).ways cs = [] := by
  rw [ways, h, List.flatMap_nil]

theorem ways_both_maybe_of_ways_eq_nil (h : a.ways cs = []) (b : Pattern) :
    (both (maybe a) b).ways cs = b.ways cs := by
  rw [ways, ways, h, List.nil_append, List.flatMap_singleton]
  exact List.map_id' _

/-- Before a pattern that starts neither in the run nor with the text, the text and the longest run after it are read
where the text stands. -/
theorem ways_both_maybe_literal_run (hrun : ∀ c cs, test c = true → b.ways (c :: cs) = [])
    (hliteral : ∀ rest, b.ways (chars ++ rest) = []) (rest : List Char) :
    (both (maybe (both (literal chars) (run test))) b).ways (chars ++ rest) = b.ways (rest.dropWhile test) := by
  have hid (x : List Char) : (b.ways x).map (fun w => (⟨[] ++ w.groups, w.rest⟩ : Way)) = b.ways x := List.map_id' _
  rw [ways, ways, ways_both_literal_append, List.flatMap_append, List.flatMap_singleton, hid, hliteral, List.append_nil,
    ways, List.flatMap_map]
  simp only [hid]
  exact flatMap_afterRun hrun rest

/-! ### Searching -/

/-- A pattern takes at least one character of every text. -/
def TakesSome (p : Pattern) : Prop := ∀ cs, ∀ w ∈ p.ways cs, w.rest ≠ cs

theorem takesSome_both_literal (h : chars ≠ []) (b : Pattern) : TakesSome (both (literal chars) b) := by
  intro cs w hw he
  by_cases hprefix : chars <+: cs
  · obtain ⟨tail, rfl⟩ := hprefix
    rw [ways_both_literal_append] at hw
    have hle := (rest_suffix_of_mem_ways hw).length_le
    have hpos := List.length_pos_iff.2 h
    rw [he, List.length_append] at hle
    omega
  · rw [ways_both_of_ways_eq_nil (ways_literal_eq_nil hprefix)] at hw
    cases hw

/-- The search for a pattern, with the texts of its groups. -/
def recogniser (p : Pattern) (h : p.TakesSome) : Recogniser (List (List Char)) where
  read? cs := (p.ways cs).head?.map fun w => (w.groups, w.rest)
  take {cs groups rest} hread := by
    obtain ⟨w, hw, he⟩ := Option.map_eq_some_iff.1 hread
    obtain ⟨rfl, rfl⟩ := Prod.mk.inj he
    have hmem : w ∈ p.ways cs := List.mem_of_mem_head? hw
    obtain ⟨chars, hchars⟩ := rest_suffix_of_mem_ways hmem
    refine ⟨chars, ?_, hchars.symm⟩
    rintro rfl
    exact h cs w hmem hchars

end Pattern

/-- The text with everything that is found in it replaced by something that depends on what is found. -/
def replaceAll {α : Type} (r : Recogniser α) (replacement : α → List Char → List Char) (cs : List Char) : List Char :=
  (cut r cs).flatMap fun
    | .plain c => [c]
    | .token a chars => replacement a chars

section replaceAll

variable {α β : Type} {r : Recogniser α} {r' : Recogniser β} {a : α} {c : Char} {chars rest cs : List Char}
  {replacement : α → List Char → List Char} {replacement' : β → List Char → List Char}

theorem replaceAll_nil (r : Recogniser α) (replacement : α → List Char → List Char) :
    replaceAll r replacement [] = [] := by
  rw [replaceAll, cut_nil, List.flatMap_nil]

theorem replaceAll_of_read? (h : r.read? (chars ++ rest) = some (a, rest)) :
    replaceAll r replacement (chars ++ rest) = replacement a chars ++ replaceAll r replacement rest := by
  rw [replaceAll, cut_of_read? h, List.flatMap_cons]
  rfl

theorem replaceAll_of_read?_eq_none (h : r.read? (c :: cs) = none) :
    replaceAll r replacement (c :: cs) = c :: replaceAll r replacement cs := by
  rw [replaceAll, cut_of_read?_eq_none h, List.flatMap_cons]
  rfl

/-- Searches that find the same places replace them in the same way, whatever they report of them. -/
theorem replaceAll_congr {f : α → β} (hread : ∀ cs, r'.read? cs = (r.read? cs).map (Prod.map f id))
    (hreplacement : ∀ a chars, replacement' (f a) chars = replacement a chars) (cs : List Char) :
    replaceAll r' replacement' cs = replaceAll r replacement cs := by
  induction cs using r.induction with
  | nil => rw [replaceAll_nil, replaceAll_nil]
  | token a chars rest h ih =>
    have h' : r'.read? (chars ++ rest) = some (f a, rest) := by
      rw [hread, h]
      rfl
    rw [replaceAll_of_read? h, replaceAll_of_read? h', hreplacement, ih]
  | plain c cs h ih =>
    have h' : r'.read? (c :: cs) = none := by
      rw [hread, h]
      rfl
    rw [replaceAll_of_read?_eq_none h, replaceAll_of_read?_eq_none h', ih]

end replaceAll

end Formulary.Text
