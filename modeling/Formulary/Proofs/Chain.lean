/-!
# Chains of checks

A chain runs one check after the other and ends with the first one that fails.  It succeeds if all its checks do, with
what the last one gives (`bind_eq_ok_iff`), and it fails for the reason of the first check that fails
(`bind_eq_error_iff`).  So does a traversal, which runs one check on each element of a list
(`map_eq_of_mapM_eq_ok`, `exists_of_mapM_eq_error`).
-/

namespace Formulary

variable {ε α β : Type}

theorem eq_ok_of_toOption {x : Except ε α} {a : α} (h : x.toOption = some a) : x = .ok a := by
  cases x with
  | error e => cases h
  | ok b =>
    cases h
    rfl

/-- A chain succeeds with what its rest gives for the result of its first check. -/
theorem bind_eq_ok_iff {x : Except ε α} {f : α → Except ε β} {b : β} :
    (x >>= f) = .ok b ↔ ∃ a, x = .ok a ∧ f a = .ok b := by
  constructor
  · intro h
    rcases x with e | a
    · cases h
    · exact ⟨a, rfl, h⟩
  · rintro ⟨a, rfl, h⟩
    exact h

/-- A chain fails in its first check, or else in its rest for the result of it. -/
theorem bind_eq_error_iff {x : Except ε α} {f : α → Except ε β} {e : ε} :
    (x >>= f) = .error e ↔ x = .error e ∨ ∃ a, x = .ok a ∧ f a = .error e := by
  constructor
  · intro h
    rcases x with e' | a
    · cases h
      exact .inl rfl
    · exact .inr ⟨a, rfl, h⟩
  · rintro (rfl | ⟨a, rfl, h⟩)
    · rfl
    · exact h

theorem pure_eq_ok_iff {a b : α} : (pure a : Except ε α) = .ok b ↔ b = a := by
  constructor
  · intro h
    cases h
    rfl
  · rintro rfl
    rfl

/-- A check that is passed can be left out of a chain. -/
theorem check_bind_of_ok {x : Except ε α} {f : α → Except ε β} {a : α} (h : x = .ok a) : (x >>= f) = f a := by
  rw [h]
  rfl

/-- A check without a result of its own stands before the rest of a chain. -/
theorem check_bind_eq_ok_iff {x : Except ε Unit} {f : Unit → Except ε β} {b : β} :
    (x >>= f) = .ok b ↔ x = .ok () ∧ f () = .ok b :=
  bind_eq_ok_iff.trans ⟨fun ⟨_, h⟩ => h, fun h => ⟨(), h⟩⟩

/-! ### Traversals -/

variable {f : α → Except ε β} {as : List α} {bs : List β} {e : ε}

theorem mapM_cons_of_error {a : α} (h : f a = .error e) : (a :: as).mapM f = .error e := by
  rw [List.mapM_cons, h]
  rfl

theorem mapM_cons_of_ok {a : α} {b : β} (h : f a = .ok b) :
    (a :: as).mapM f = (as.mapM f).map (b :: ·) := by
  rw [List.mapM_cons, h]
  cases as.mapM f <;> rfl

theorem map_eq_of_mapM_eq_ok (h : as.mapM f = .ok bs) : as.map f = bs.map .ok := by
  induction as generalizing bs with
  | nil =>
    cases h
    rfl
  | cons a as ih =>
    cases ha : f a with
    | error e => cases (mapM_cons_of_error ha).symm.trans h
    | ok b =>
      rw [mapM_cons_of_ok ha] at h
      cases has : as.mapM f with
      | error e =>
        rw [has] at h
        cases h
      | ok cs =>
        rw [has] at h
        cases h
        rw [List.map_cons, List.map_cons, ha, ih has]

/-- A traversal fails at the first element at which the function does. -/
theorem exists_of_mapM_eq_error (h : as.mapM f = .error e) :
    ∃ before a after, as = before ++ a :: after ∧ (∀ b ∈ before, ∃ c, f b = .ok c) ∧ f a = .error e := by
  induction as with
  | nil => cases h
  | cons a as ih =>
    cases ha : f a with
    | error e' =>
      rw [mapM_cons_of_error ha] at h
      cases h
      exact ⟨[], a, as, rfl, nofun, ha⟩
    | ok b =>
      rw [mapM_cons_of_ok ha] at h
      cases has : as.mapM f with
      | ok bs =>
        rw [has] at h
        cases h
      | error e' =>
        rw [has] at h
        cases h
        obtain ⟨before, a', after, rfl, hbefore, hfault⟩ := ih has
        refine ⟨a :: before, a', after, rfl, ?_, hfault⟩
        exact List.forall_mem_cons.2 ⟨⟨b, ha⟩, hbefore⟩

end Formulary
