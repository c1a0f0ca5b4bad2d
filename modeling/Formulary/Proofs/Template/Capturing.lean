import Formulary.Proofs.Template.Grammar
import Formulary.Proofs.Text.Reading

/-!
# Searching a template for placeholders

A template is scanned from left to right for placeholders (`Placeholder.Scan`): a placeholder is spelt with its name and,
behind a colon, a suffix, and the suffix says which part is the type and which part are the options
(`Placeholder.Groups`).  A search by the pattern of placeholders with its two optional parts finds the same placeholders
with the same parts (`Placeholder.scan_iff_search`): it first reads the longest word as type, and where the text does not
close behind it, gives the type up and reads all of the suffix as options (`Placeholder.head?_afterName`).
-/

namespace Formulary.Placeholder

open Text Reading

variable {p : Placeholder} {kind options : Option (List Char)} {name suffix inner cs rest : List Char} {c : Char}
  {pieces : List (Piece Placeholder)}

/-! ### How a placeholder is spelt -/

/-- The type and the options in the text behind the first colon. -/
inductive Groups : List Char → Option (List Char) → Option (List Char) → Prop
  | kind {word : List Char} (hword : IsWord word) : Groups word (some word) none
  | kindOptions {word options : List Char} (hword : IsWord word) (hoptions : options ≠ []) :
      Groups (word ++ ':' :: options) (some word) (some options)
  /-- A text of any other form is options alone. -/
  | options {suffix : List Char} (hkind : ¬ IsWord suffix)
      (hkindOptions : ∀ word options, IsWord word → options ≠ [] → suffix ≠ word ++ ':' :: options) :
      Groups suffix none (some suffix)

/-- What a placeholder is between its braces.  Its name is as long as it can be, since no character of words follows. -/
inductive Spelt : Placeholder → List Char → Prop
  | bare {name : List Char} (hname : IsWord name) : Spelt ⟨name, none, none⟩ name
  | suffixed {name suffix : List Char} {kind options : Option (List Char)} (hname : IsWord name) (hsuffix : suffix ≠ [])
      (hbrace : '}' ∉ suffix) (hgroups : Groups suffix kind options) :
      Spelt ⟨name, kind, options⟩ (name ++ ':' :: suffix)

/-- The pieces of a text that is scanned for placeholders. -/
inductive Scan : List Char → List (Piece Placeholder) → Prop
  | nil : Scan [] []
  /-- Where a placeholder starts it is taken, and scanning goes on behind it. -/
  | token {p : Placeholder} {inner rest : List Char} {pieces : List (Piece Placeholder)} (hinner : Spelt p inner)
      (hrest : Scan rest pieces) : Scan (braced inner ++ rest) (.token p (braced inner) :: pieces)
  | plain {c : Char} {cs : List Char} {pieces : List (Piece Placeholder)}
      (hnone : ∀ p inner rest, Spelt p inner → c :: cs ≠ braced inner ++ rest) (hcs : Scan cs pieces) :
      Scan (c :: cs) (.plain c :: pieces)

theorem groups_parts (suffix : List Char) : Groups suffix (parts suffix).1 (parts suffix).2 := by
  have hsuffix := List.takeWhile_append_dropWhile (p := isWordChar) (l := suffix)
  have hchars : ∀ c ∈ suffix.takeWhile isWordChar, isWordChar c = true := fun c hc => List.mem_takeWhile_imp hc
  -- the word before the first colon is the longest one at the start
  have hlongest (word options : List Char) (hword : IsWord word) (he : suffix = word ++ ':' :: options) :
      suffix.takeWhile isWordChar = word ∧ suffix.dropWhile isWordChar = ':' :: options :=
    ⟨he ▸ hword.takeWhile_append (by decide) _, he ▸ hword.dropWhile_append (by decide) _⟩
  have hself (hword : IsWord suffix) : suffix.dropWhile isWordChar = [] := List.dropWhile_eq_nil_iff.2 hword.isWordChar
  unfold parts
  split
  · rename_i htake
    refine .options (fun hword => hword.ne_nil ?_) fun word options hword _ he => ?_
    · rw [← hsuffix, htake, hself hword, List.append_nil]
    · exact hword.ne_nil ((hlongest word options hword he).1.symm.trans htake)
  · rename_i hdrop htake
    have hword : IsWord (suffix.takeWhile isWordChar) := ⟨htake, hchars⟩
    rw [hdrop, List.append_nil] at hsuffix
    rw [hsuffix] at hword ⊢
    exact .kind hword
  · rename_i c options hdrop htake
    have hgroups : Groups (suffix.takeWhile isWordChar ++ ':' :: c :: options) _ _ :=
      .kindOptions ⟨htake, hchars⟩ (List.cons_ne_nil c options)
    rwa [← hdrop, hsuffix] at hgroups
  · rename_i htake hempty hcolon
    refine .options (fun hword => hempty (hself hword)) fun word options hword hoptions he => ?_
    obtain ⟨c, options, rfl⟩ := List.exists_cons_of_ne_nil hoptions
    exact hcolon c options (hlongest word _ hword he).2

/-- What is written as a placeholder is spelt as one. -/
theorem Written.spelt (h : Written p inner) : Spelt p inner := by
  cases h with
  | bare hname => exact .bare hname
  | suffixed hname hsuffix hbrace => exact .suffixed hname hsuffix hbrace (groups_parts _)

theorem Spelt.exists_written (h : Spelt p inner) : ∃ q, Written q inner := by
  cases h with
  | bare hname => exact ⟨_, .bare hname⟩
  | suffixed hname hsuffix hbrace _ => exact ⟨_, .suffixed hname hsuffix hbrace⟩

theorem ne_of_isWordChar (h : isWordChar c = true) : c ≠ ':' ∧ c ≠ '}' := by
  constructor
  · rintro rfl
    exact absurd h (by decide)
  · rintro rfl
    exact absurd h (by decide)

/-! ### The pattern -/

/-- A colon and a run behind it. -/
def colonRun (test : Char → Bool) : Reading (List Char) := do
  literal [':']
  run test

/-- What stands behind the name and the type: options or none, and the closing braces. -/
def ending : Reading (Option (List Char)) := do
  let options ← maybe (colonRun (· ≠ '}'))
  literal ['}', '}']
  return options

/-- What stands behind the name: a type or none, options or none, and the closing braces. -/
def afterName : Reading (Option (List Char) × Option (List Char)) := do
  let kind ← maybe (colonRun isWordChar)
  let options ← ending
  return (kind, options)

/-- The pattern by which placeholders are found. -/
def pattern : Reading Placeholder := do
  literal ['{', '{']
  let name ← run isWordChar
  let parts ← afterName
  return ⟨name, parts.1, parts.2⟩

/-- What an optional part reads: nothing, or a colon and a text without closing braces. -/
inductive Ending : Option (List Char) → List Char → Prop
  | none : Ending none []
  | some {options : List Char} (hne : options ≠ []) (hbrace : '}' ∉ options) : Ending (some options) (':' :: options)

theorem Ending.not_mem {tail : List Char} (h : Ending options tail) : '}' ∉ tail := by
  cases h with
  | none => exact List.not_mem_nil
  | some hne hbrace => simpa using hbrace

theorem Ending.not_mem_append {word tail : List Char} (h : Ending options tail) (hword : IsWord word) :
    '}' ∉ word ++ tail := by
  rw [List.mem_append, not_or]
  exact ⟨hword.not_mem (by decide), h.not_mem⟩

section Ending

variable {β : Type} {test : Char → Bool} {tail : List Char}

theorem colonRun_bind_assoc (b : List Char → Reading β) (cs : List Char) :
    (colonRun test >>= b) cs = (literal [':'] >>= fun _ => run test >>= b) cs :=
  List.flatMap_assoc

theorem colonRun_bind (b : List Char → Reading β) (cs : List Char) :
    (colonRun test >>= b) (':' :: cs) = (run test >>= b) cs := by
  rw [colonRun_bind_assoc]
  exact literal_bind [':'] cs _

theorem colonRun_bind_eq_nil (hc : c ≠ ':') (b : List Char → Reading β) (cs : List Char) :
    (colonRun test >>= b) (c :: cs) = [] := by
  rw [colonRun_bind_assoc]
  exact literal_bind_of_head_ne hc [] cs _

theorem of_mem_colonRun (h : (suffix, rest) ∈ colonRun test cs) :
    suffix ≠ [] ∧ (∀ c ∈ suffix, test c = true) ∧ cs = ':' :: suffix ++ rest := by
  obtain ⟨_, cs', hcolon, hrun⟩ := mem_bind_iff.1 h
  obtain rfl := eq_append_of_mem_literal hcolon
  obtain ⟨hne, hsuffix, rfl⟩ := of_mem_run hrun
  exact ⟨hne, hsuffix, rfl⟩

/-- Before the closing braces the options are read in one way. -/
theorem ending_append (h : Ending options tail) (rest : List Char) :
    ending (tail ++ '}' :: '}' :: rest) = [(options, rest)] := by
  rw [ending, maybe_bind]
  cases h with
  | none =>
    rw [List.nil_append, colonRun_bind_eq_nil (by decide), List.nil_append]
    exact literal_bind ['}', '}'] rest _
  | some hne hbrace =>
    rw [List.cons_append, colonRun_bind, literal_bind_of_head_ne (by decide), List.append_nil,
      run_bind ?_ hne (forall_ne_closing hbrace) (by decide)]
    · exact literal_bind ['}', '}'] rest _
    · intro run c cs hc
      exact literal_bind_of_head_ne (of_decide_eq_true hc) _ _ _

theorem ending_eq_nil (hcolon : c ≠ ':') (hclosing : c ≠ '}') (cs : List Char) : ending (c :: cs) = [] := by
  rw [ending, maybe_bind, colonRun_bind_eq_nil hcolon, literal_bind_of_head_ne hclosing, List.append_nil]

theorem of_mem_ending (h : (options, rest) ∈ ending cs) :
    ∃ tail, Ending options tail ∧ cs = tail ++ '}' :: '}' :: rest := by
  obtain ⟨o, cs', ho, h⟩ := mem_bind_iff.1 h
  obtain ⟨_, rest', hclosing, hpure⟩ := mem_bind_iff.1 h
  obtain ⟨rfl, rfl⟩ := Prod.mk.inj (List.mem_singleton.1 hpure)
  obtain rfl := eq_append_of_mem_literal hclosing
  rcases mem_maybe_iff.1 ho with ⟨suffix, rfl, hsuffix⟩ | ⟨rfl, rfl⟩
  · obtain ⟨hne, hchars, rfl⟩ := of_mem_colonRun hsuffix
    exact ⟨_, .some hne fun hmem => by simpa using hchars _ hmem, rfl⟩
  · exact ⟨_, .none, rfl⟩

end Ending

/-! ### The parts of a suffix -/

theorem afterName_closing (rest : List Char) : afterName ('}' :: '}' :: rest) = [((none, none), rest)] := by
  rw [afterName, maybe_bind, colonRun_bind_eq_nil (by decide), List.nil_append, bind_apply,
    show '}' :: '}' :: rest = [] ++ '}' :: '}' :: rest from rfl, ending_append .none]
  rfl

theorem afterName_eq_nil (hcolon : c ≠ ':') (hclosing : c ≠ '}') (cs : List Char) : afterName (c :: cs) = [] := by
  rw [afterName, maybe_bind, colonRun_bind_eq_nil hcolon, List.nil_append, bind_apply, ending_eq_nil hcolon hclosing,
    List.flatMap_nil]

/-- With a type, a suffix is read in one way only. -/
theorem kind_bind {word tail : List Char} (hword : IsWord word) (htail : Ending options tail) (rest : List Char) :
    (run isWordChar >>= fun kind => ending >>= fun options => pure (some kind, options))
        (word ++ tail ++ '}' :: '}' :: rest) = [((some word, options), rest)] := by
  have hshort (kind : List Char) (c : Char) (cs : List Char) (hc : isWordChar c = true) :
      (ending >>= fun options => pure (some kind, options)) (c :: cs) = [] := by
    obtain ⟨hcolon, hclosing⟩ := ne_of_isWordChar hc
    rw [bind_apply, ending_eq_nil hcolon hclosing, List.flatMap_nil]
  have hlong : (ending >>= fun options => pure (some word, options)) (tail ++ '}' :: '}' :: rest)
      = [((some word, options), rest)] := by
    rw [bind_apply, ending_append htail]
    rfl
  rw [List.append_assoc, ← hlong]
  cases htail with
  | none => exact run_bind hshort hword.ne_nil hword.isWordChar (by decide) _
  | some hne hbrace => exact run_bind hshort hword.ne_nil hword.isWordChar (by decide) _

/-- Without the form of a type with or without options behind it, a suffix is not read with a type. -/
theorem kind_bind_eq_nil (hbrace : '}' ∉ suffix) (hkind : ¬ IsWord suffix)
    (hkindOptions : ∀ word options, IsWord word → options ≠ [] → suffix ≠ word ++ ':' :: options) (rest : List Char) :
    (run isWordChar >>= fun kind => ending >>= fun options => pure (some kind, options))
        (suffix ++ '}' :: '}' :: rest) = [] := by
  refine List.eq_nil_iff_forall_not_mem.2 fun ⟨parts, rest'⟩ hmem => ?_
  obtain ⟨word, cs', hrun, hmem⟩ := mem_bind_iff.1 hmem
  obtain ⟨options, rest'', hending, _⟩ := mem_bind_iff.1 hmem
  obtain ⟨hne, hchars, he⟩ := of_mem_run hrun
  obtain ⟨tail, htail, rfl⟩ := of_mem_ending hending
  have hword : IsWord word := ⟨hne, hchars⟩
  rw [← List.append_assoc] at he
  obtain ⟨rfl, _⟩ := append_closing_inj hbrace (htail.not_mem_append hword) he
  cases htail with
  | none => exact hkind (by rwa [List.append_nil])
  | some hne' _ => exact hkindOptions word _ hword hne' rfl

theorem head?_afterName (hsuffix : suffix ≠ []) (hbrace : '}' ∉ suffix) (h : Groups suffix kind options)
    (rest : List Char) :
    (afterName (':' :: (suffix ++ '}' :: '}' :: rest))).head? = some ((kind, options), rest) := by
  rw [afterName, maybe_bind, colonRun_bind]
  cases h with
  | kind hword =>
    have hkind := kind_bind hword .none rest
    rw [List.append_nil] at hkind
    rw [hkind]
    rfl
  | kindOptions hword hoptions =>
    have hoptions' : '}' ∉ _ := fun hmem => hbrace (List.mem_append_right _ (List.mem_cons_of_mem ':' hmem))
    rw [kind_bind hword (.some hoptions hoptions')]
    rfl
  | options hkind hkindOptions =>
    rw [kind_bind_eq_nil hbrace hkind hkindOptions, List.nil_append, bind_apply, ← List.cons_append,
      ending_append (.some hsuffix hbrace)]
    rfl

/-- Whatever is read behind a name, it is nothing or a colon and a suffix, up to the closing braces. -/
theorem of_mem_afterName {found : Option (List Char) × Option (List Char)} (h : (found, rest) ∈ afterName cs) :
    ∃ suffix tail, Ending suffix tail ∧ cs = tail ++ '}' :: '}' :: rest := by
  obtain ⟨kind, cs', hkind, h⟩ := mem_bind_iff.1 h
  obtain ⟨options, rest', hending, hpure⟩ := mem_bind_iff.1 h
  obtain ⟨_, rfl⟩ := Prod.mk.inj (List.mem_singleton.1 hpure)
  obtain ⟨tail, htail, rfl⟩ := of_mem_ending hending
  rcases mem_maybe_iff.1 hkind with ⟨word, rfl, hword⟩ | ⟨rfl, rfl⟩
  · obtain ⟨hne, hchars, rfl⟩ := of_mem_colonRun hword
    refine ⟨_, _, .some (List.append_ne_nil_of_left_ne_nil hne tail) (htail.not_mem_append ⟨hne, hchars⟩), ?_⟩
    simp
  · exact ⟨options, tail, htail, rfl⟩

/-! ### Searching -/

theorem pattern_braced (inner rest : List Char) :
    pattern (braced inner ++ rest) = (run isWordChar >>= fun name => afterName >>= fun parts =>
      pure ⟨name, parts.1, parts.2⟩) (inner ++ '}' :: '}' :: rest) := by
  rw [braced_append]
  exact literal_bind ['{', '{'] _ _

/-- The first way to read a placeholder gives its parts as they are spelt. -/
theorem head?_pattern (h : Spelt p inner) (rest : List Char) :
    (pattern (braced inner ++ rest)).head? = some (p, rest) := by
  have hshort (name : List Char) (c : Char) (cs : List Char) (hc : isWordChar c = true) :
      (afterName >>= fun parts => pure (⟨name, parts.1, parts.2⟩ : Placeholder)) (c :: cs) = [] := by
    obtain ⟨hcolon, hclosing⟩ := ne_of_isWordChar hc
    rw [bind_apply, afterName_eq_nil hcolon hclosing, List.flatMap_nil]
  rw [pattern_braced]
  cases h with
  | @bare name hname =>
    rw [run_bind hshort hname.ne_nil hname.isWordChar (by decide), bind_apply, afterName_closing]
    rfl
  | @suffixed name suffix kind options hname hsuffix hbrace hgroups =>
    rw [List.append_assoc, List.cons_append, run_bind hshort hname.ne_nil hname.isWordChar (by decide)]
    have hhead := head?_afterName hsuffix hbrace hgroups rest
    obtain ⟨others, hothers⟩ := List.head?_eq_some_iff.1 hhead
    rw [bind_apply, hothers]
    rfl

/-- A placeholder is read only where one is spelt. -/
theorem exists_spelt_of_mem_pattern (h : (p, rest) ∈ pattern cs) :
    ∃ q inner, Spelt q inner ∧ cs = braced inner ++ rest := by
  obtain ⟨_, cs₁, hopening, h⟩ := mem_bind_iff.1 h
  obtain ⟨name, cs₂, hname, h⟩ := mem_bind_iff.1 h
  obtain ⟨found, cs₃, hfound, hpure⟩ := mem_bind_iff.1 h
  obtain ⟨_, rfl⟩ := Prod.mk.inj (List.mem_singleton.1 hpure)
  obtain ⟨suffix, tail, htail, rfl⟩ := of_mem_afterName hfound
  obtain ⟨hne, hchars, rfl⟩ := of_mem_run hname
  obtain rfl := eq_append_of_mem_literal hopening
  have hword : IsWord name := ⟨hne, hchars⟩
  cases htail with
  | none => exact ⟨_, _, .bare hword, by simp [braced]⟩
  | some hsuffix hbrace => exact ⟨_, _, .suffixed hword hsuffix hbrace (groups_parts _), by simp [braced]⟩

theorem head?_pattern_eq_some_iff :
    (pattern cs).head? = some (p, rest) ↔ ∃ inner, Spelt p inner ∧ cs = braced inner ++ rest := by
  constructor
  · intro h
    obtain ⟨q, inner, hq, rfl⟩ := exists_spelt_of_mem_pattern (List.mem_of_head? h)
    rw [head?_pattern hq] at h
    obtain ⟨rfl, _⟩ := Prod.mk.inj (Option.some.inj h)
    exact ⟨inner, hq, rfl⟩
  · rintro ⟨inner, hinner, rfl⟩
    exact head?_pattern hinner rest

/-- What is read is what a search for the pattern finds. -/
theorem read?_eq_head?_pattern (cs : List Char) : read? cs = (pattern cs).head? := by
  cases hread : read? cs with
  | some m =>
    obtain ⟨p, rest⟩ := m
    obtain ⟨inner, hinner, rfl⟩ := read?_eq_some_iff.1 hread
    rw [head?_pattern hinner.spelt]
  | none =>
    cases hhead : (pattern cs).head? with
    | none => rfl
    | some m =>
      obtain ⟨inner, hinner, rfl⟩ := head?_pattern_eq_some_iff.1 hhead
      obtain ⟨q, hq⟩ := hinner.exists_written
      rw [read?_braced hq] at hread
      cases hread

/-- The search for placeholders. -/
def search : Recogniser Placeholder where
  read? cs := (pattern cs).head?
  take h := take_read? ((read?_eq_head?_pattern _).trans h)

theorem search_eq_recogniser : search = recogniser := by
  have h : search.read? = recogniser.read? := funext fun cs => (read?_eq_head?_pattern cs).symm
  cases hs : search with
  | mk read? take =>
    rw [hs] at h
    subst h
    rfl

theorem search_read?_eq_none_iff :
    search.read? cs = none ↔ ∀ p inner rest, Spelt p inner → cs ≠ braced inner ++ rest := by
  constructor
  · rintro hread p inner rest hinner rfl
    rw [show search.read? (braced inner ++ rest) = some (p, rest) from head?_pattern hinner rest] at hread
    cases hread
  · intro h
    cases hread : search.read? cs with
    | none => rfl
    | some m =>
      obtain ⟨inner, hinner, hcs⟩ := head?_pattern_eq_some_iff.1 hread
      exact absurd hcs (h m.1 inner m.2 hinner)

/-- A scan is the cut into what the search finds. -/
theorem scan_iff : Scan cs pieces ↔ pieces = cut search cs := by
  constructor
  · intro h
    induction h with
    | nil => rw [cut_nil]
    | token hinner hrest ih => rw [show cut search _ = _ from cut_of_read? (head?_pattern hinner _), ih]
    | plain hnone hcs ih => rw [cut_of_read?_eq_none (search_read?_eq_none_iff.2 hnone), ih]
  · rintro rfl
    induction cs using search.induction with
    | nil =>
      rw [cut_nil]
      exact .nil
    | token p chars rest hread ih =>
      rw [cut_of_read? hread]
      obtain ⟨inner, hinner, hcs⟩ := head?_pattern_eq_some_iff.1 hread
      obtain rfl := List.append_cancel_right hcs
      exact .token hinner ih
    | plain c cs hread ih =>
      rw [cut_of_read?_eq_none hread]
      exact .plain (search_read?_eq_none_iff.1 hread) ih

/-- There is one way to scan a template, and the search for the pattern of placeholders finds the placeholders on it, each
with its name, its type and its options as they are spelt. -/
theorem scan_iff_search (body : String) :
    (∀ pieces, Scan body.toList pieces ↔ pieces = cut search body.toList) ∧ all body = tokens search body.toList := by
  refine ⟨fun pieces => scan_iff, ?_⟩
  rw [search_eq_recogniser]
  rfl

example : all "\x7b\x7ba\x7b\x7bb:select:\x7d\x7d" =
    [(⟨['b'], none, some "select:".toList⟩, "\x7b\x7bb:select:\x7d\x7d".toList)] := by
  decide +kernel

end Formulary.Placeholder
