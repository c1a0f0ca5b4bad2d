import Formulary.Proofs.Office.Effect

/-!
# Runs

A run is an office with the steps that its users ask for, whoever they are and whether the steps succeed or fail.  Its
states are the offices between the steps: `state n` is the office before step `n`, and after the last step the office
stays as it is.  One step leads from each state to the next (`state_succ_cases`), so that what a step keeps, a run keeps
(`invariant`).
-/

namespace Formulary

/-- An office with the steps that are asked of it, in order. -/
structure Run where
  start : Office
  steps : List Step

namespace Run

variable {r : Run} {n : Nat} {s : Step} {a : Answer}

/-- The office before step `n`. -/
def state (r : Run) (n : Nat) : Office := r.start.run (r.steps.take n)

/-- Step `n` of a run is the given one, and succeeds with an answer. -/
def Accepts (r : Run) (n : Nat) (s : Step) (a : Answer) : Prop :=
  r.steps[n]? = some s ∧ ((r.state n).step s).2 = .ok a

/-- Step `n` of a run is asked for by a user, as the user is before the step, and succeeds. -/
def Acts (r : Run) (n : Nat) (u : User) : Prop := ∃ s a, r.Accepts n s a ∧ (r.state n).user? s.actor = some u

theorem state_succ_of_getElem? (h : r.steps[n]? = some s) : r.state (n + 1) = ((r.state n).step s).1 := by
  unfold state Office.run
  rw [List.take_add_one, h, List.foldl_append]
  rfl

theorem state_succ_of_length_le (h : r.steps.length ≤ n) : r.state (n + 1) = r.state n := by
  unfold state
  rw [List.take_of_length_le h, List.take_of_length_le (by omega)]

/-- A state and the next one: an accepted step leads from one to the other, or they are the same. -/
theorem state_succ_cases (r : Run) (n : Nat) :
    (∃ s a, r.Accepts n s a ∧ (r.state n).Effect s (r.state (n + 1)) a) ∨ r.state (n + 1) = r.state n := by
  by_cases hn : n < r.steps.length
  · have hs : r.steps[n]? = some r.steps[n] := List.getElem?_eq_getElem hn
    have he := state_succ_of_getElem? hs
    rcases Office.step_cases (r.state n) r.steps[n] with ⟨a, ha, h⟩ | ⟨e, h⟩
    · exact .inl ⟨_, a, ⟨hs, ha⟩, he ▸ h⟩
    · exact .inr (he.trans (by rw [h]))
  · exact .inr (state_succ_of_length_le (by omega))

theorem accepts_or_state_succ_eq (r : Run) (n : Nat) :
    (∃ s a, r.Accepts n s a) ∨ (∀ s a, ¬ r.Accepts n s a) ∧ r.state (n + 1) = r.state n := by
  by_cases h : ∃ s a, r.Accepts n s a
  · exact .inl h
  · have hnone : ∀ s a, ¬ r.Accepts n s a := fun s a ha => h ⟨s, a, ha⟩
    exact .inr ⟨hnone, (state_succ_cases r n).resolve_left fun ⟨s, a, ha, _⟩ => hnone s a ha⟩

theorem Accepts.effect (h : r.Accepts n s a) : (r.state n).Effect s (r.state (n + 1)) a := by
  rw [state_succ_of_getElem? h.1]
  exact Office.effect_of_step h.2

/-- The effect of an accepted step on an office that has a name of its own, for proofs by cases on the kind of step. -/
theorem Accepts.exists_effect (h : r.Accepts n s a) : ∃ o', r.state (n + 1) = o' ∧ (r.state n).Effect s o' a :=
  ⟨_, rfl, h.effect⟩

/-- What holds at the start and is kept by every accepted step of a run holds in all its states. -/
theorem invariant {P : Office → Prop} (hstart : P r.start)
    (hstep : ∀ n s a, r.Accepts n s a → P (r.state n) → P (r.state (n + 1))) (n : Nat) : P (r.state n) := by
  induction n with
  | zero => exact hstart
  | succ n ih =>
    rcases state_succ_cases r n with ⟨s, a, h, _⟩ | h
    · exact hstep n s a h ih
    · exact h ▸ ih

/-- The lifecycle of an office is not up to its users. -/
theorem lifecycle_state (r : Run) (n : Nat) : (r.state n).lifecycle = r.start.lifecycle :=
  invariant (P := fun o => o.lifecycle = r.start.lifecycle) rfl (fun _ _ _ h ih => h.effect.lifecycle_eq.trans ih) n

theorem rules_state (r : Run) (n : Nat) : (r.state n).rules = r.start.rules :=
  invariant (P := fun o => o.rules = r.start.rules) rfl (fun _ _ _ h ih => h.effect.rules_eq.trans ih) n

end Run

/-! ### A small office

One editor, with a template for the leases of the own organization, an admin and a super admin of that organization, and
an editor of another one, for runs that stand for others. -/

namespace SmallOffice

def acme : OrganizationId := ⟨1⟩

def noon : Instant :=
  ⟨⟨2025, 1, 15, by decide, by decide, by decide⟩, 12, 0, 0, 0, by decide, by decide, by decide, by decide⟩

def evening : Instant :=
  ⟨⟨2025, 1, 15, by decide, by decide, by decide⟩, 18, 30, 0, 0, by decide, by decide, by decide, by decide⟩

def editor : User := ⟨⟨1⟩, "Marie Dupont", "marie@acme.fr", User.rolesFor .editor, some acme⟩

def owner : User := ⟨⟨2⟩, "Luc Bernard", "luc@beta.fr", User.rolesFor .editor, some ⟨2⟩⟩

def admin : User := ⟨⟨3⟩, "Anne Petit", "anne@acme.fr", User.rolesFor .adminOrg, some acme⟩

/-- A super admin who belongs to an organization. -/
def root : User := ⟨⟨4⟩, "Claire Blanc", "claire@acme.fr", User.rolesFor .superAdmin, some acme⟩

def lease : Template where
  id := ⟨1⟩
  name := "Bail"
  description := none
  body := "Bail de {{preneur}}"
  form := [⟨"preneur", "Preneur", .text, true, []⟩]
  audience := .organization
  organization := some acme
  creator := editor.id
  version := 1
  createdAt := noon
  updatedAt := none

def office : Office := ⟨.standard, .standard, [editor], [lease], []⟩

/-- The values that name a tenant. -/
def tenant (name : String) : FormValues := Table.ofList [("preneur", name)]

end SmallOffice

end Formulary
