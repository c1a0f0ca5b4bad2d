import Formulary.Proofs.Text.Pattern

/-!
# Readings

Like a search pattern a reading says how a text may start, but it also gives what the parts of the pattern have read, so
that it can be told which of several optional parts took part.  There can be several results for one text, and they have
an order: a longer run comes before a shorter one, and an optional part is rather read than left out.  A run that has to be
followed by something outside its class is read in one way only (`run_bind`).
-/

namespace Formulary.Text

/-- What can be read at the start of a text, the preferred result first, each with what follows. -/
def Reading (α : Type) : Type := List Char → List (α × List Char)

namespace Reading

variable {α β : Type}

instance : Monad Reading where
  pure a cs := [(a, cs)]
  bind a b cs := (a cs).flatMap fun m => b m.1 m.2

/-- A given text. -/
def literal (chars : List Char) : Reading Unit := fun cs =>
  if chars.isPrefixOf cs then [((), cs.drop chars.length)] else []

/-- Some characters of a class, and at least one. -/
def run (test : Char → Bool) : Reading (List Char)
  | [] => []
  | c :: cs => if test c then (run test cs).map (Prod.map (c :: ·) id) ++ [([c], cs)] else []

/-- A part that may be left out. -/
def maybe (a : Reading α) : Reading (Option α) := fun cs => (a cs).map (Prod.map some id) ++ [(none, cs)]

variable {a : Reading α} {b : α → Reading β} {test : Char → Bool} {c : Char} {chars cs rest : List Char}

theorem bind_apply (a : Reading α) (b : α → Reading β) (cs : List Char) :
    (a >>= b) cs = (a cs).flatMap fun m => b m.1 m.2 := rfl

theorem mem_bind_iff {y : β} : (y, rest) ∈ (a >>= b) cs ↔ ∃ x cs', (x, cs') ∈ a cs ∧ (y, rest) ∈ b x cs' := by
  rw [bind_apply, List.mem_flatMap, Prod.exists]

/-! ### Texts -/

theorem literal_bind (chars rest : List Char) (b : Unit → Reading β) :
    (literal chars >>= b) (chars ++ rest) = b () rest := by
  have hprefix : chars.isPrefixOf (chars ++ rest) = true := List.isPrefixOf_iff_prefix.2 (List.prefix_append _ _)
  rw [bind_apply, literal, if_pos hprefix, List.drop_left, List.flatMap_singleton]

theorem literal_bind_eq_nil (h : ¬ chars <+: cs) (b : Unit → Reading β) : (literal chars >>= b) cs = [] := by
  rw [bind_apply, literal, if_neg (mt List.isPrefixOf_iff_prefix.1 h), List.flatMap_nil]

/-- A text is not read where another character stands. -/
theorem literal_bind_of_head_ne {d : Char} (h : c ≠ d) (chars cs : List Char) (b : Unit → Reading β) :
    (literal (d :: chars) >>= b) (c :: cs) = [] := by
  refine literal_bind_eq_nil (fun hprefix => h ?_) b
  obtain ⟨_, he⟩ := hprefix
  exact (List.cons.inj he).1.symm

theorem eq_append_of_mem_literal {u : Unit} (h : (u, rest) ∈ literal chars cs) : cs = chars ++ rest := by
  unfold literal at h
  split at h
  · rename_i hprefix
    obtain ⟨tail, rfl⟩ := List.isPrefixOf_iff_prefix.1 hprefix
    rw [List.mem_singleton, List.drop_left] at h
    rw [(Prod.mk.inj h).2]
  · cases h

/-! ### Runs -/

theorem of_mem_run (h : (chars, rest) ∈ run test cs) :
    chars ≠ [] ∧ (∀ c ∈ chars, test c = true) ∧ cs = chars ++ rest := by
  induction cs generalizing chars with
  | nil => cases h
  | cons d cs ih =>
    unfold run at h
    split at h
    · rename_i hd
      rcases List.mem_append.1 h with h | h
      · obtain ⟨⟨chars', rest'⟩, hmem, he⟩ := List.mem_map.1 h
        obtain ⟨rfl, rfl⟩ := Prod.mk.inj he
        obtain ⟨_, htest, rfl⟩ := ih hmem
        exact ⟨List.cons_ne_nil _ _, List.forall_mem_cons.2 ⟨hd, htest⟩, rfl⟩
      · obtain ⟨rfl, rfl⟩ := Prod.mk.inj (List.mem_singleton.1 h)
        exact ⟨List.cons_ne_nil _ _, List.forall_mem_cons.2 ⟨hd, by simp⟩, rfl⟩
    · cases h

/-- Where nothing goes on with a character of the class, only the longest run is read. -/
theorem run_bind {b : List Char → Reading β} (hb : ∀ run c cs, test c = true → b run (c :: cs) = [])
    (hne : chars ≠ []) (hchars : ∀ c ∈ chars, test c = true) (hc : test c = false) (rest : List Char) :
    (run test >>= b) (chars ++ c :: rest) = b chars (c :: rest) := by
  induction chars generalizing b with
  | nil => exact absurd rfl hne
  | cons d chars ih =>
    obtain ⟨hd, hchars⟩ := List.forall_mem_cons.1 hchars
    rw [bind_apply, List.cons_append, run, if_pos hd, List.flatMap_append, List.flatMap_singleton, List.flatMap_map]
    cases chars with
    | nil => simp [run, hc]
    | cons e chars =>
      -- the shorter runs are followed by a character of the class
      have hshort : b [d] (e :: chars ++ c :: rest) = [] := hb _ _ _ (hchars e List.mem_cons_self)
      rw [hshort, List.append_nil]
      exact ih (b := fun run => b (d :: run)) (fun run => hb (d :: run)) (List.cons_ne_nil _ _) hchars

/-! ### Optional parts -/

theorem maybe_bind (a : Reading α) (b : Option α → Reading β) (cs : List Char) :
    (maybe a >>= b) cs = (a >>= fun x => b (some x)) cs ++ b none cs := by
  rw [bind_apply, maybe, List.flatMap_append, List.flatMap_singleton, List.flatMap_map]
  rfl

theorem mem_maybe_iff {x : Option α} :
    (x, rest) ∈ maybe a cs ↔ (∃ y, x = some y ∧ (y, rest) ∈ a cs) ∨ (x = none ∧ rest = cs) := by
  rw [maybe, List.mem_append, List.mem_singleton, Prod.mk.injEq]
  refine or_congr_left ⟨?_, ?_⟩
  · intro h
    obtain ⟨⟨y, rest'⟩, hmem, he⟩ := List.mem_map.1 h
    obtain ⟨rfl, rfl⟩ := Prod.mk.inj he
    exact ⟨y, rfl, hmem⟩
  · rintro ⟨y, rfl, hmem⟩
    exact List.mem_map.2 ⟨(y, rest), hmem, rfl⟩

end Reading

end Formulary.Text
