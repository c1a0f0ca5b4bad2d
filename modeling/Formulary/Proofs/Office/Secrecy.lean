import Formulary.Proofs.Office.Operation
import Formulary.Proofs.Office.Run

/-!
# What a refusal tells

Whoever has no right on a record is refused before anything of the record is looked at, and a refusal names nothing but
the user, the right and the kind of the record.  So two versions of one record, both out of reach of a user, cannot be
told apart by what is tried on them, whatever else is asked for in the attempts (`User.learnsNothing`).
-/

namespace Formulary

/-- Two attempts, for which a user needs a right on a record, are refused in the same way on two versions of a record
that the user has no such right on. -/
def User.RefusedAlike {ρ κ α : Type} (u : User) (right : Right) (record : ρ → Record) (id : ρ → κ)
    (attempt attempt' : ρ → Except Refusal α) : Prop :=
  ∀ r r', id r = id r' → u.may right (record r) = false → u.may right (record r') = false →
    ∃ refusal, attempt r = .error refusal ∧ attempt' r' = .error refusal

/-- No two attempts on a record that is out of reach of a user tell anything of its contents, whatever else is asked for
in them. -/
structure User.LearnsNothing (u : User) : Prop where
  drawDocument (rules rules' : Ruleset) (id id' : DocumentId) (values values' : FormValues) (now now' : Instant) :
    u.RefusedAlike .view .template Template.id (Document.draw rules u · id values now)
      (Document.draw rules' u · id' values' now')
  reviseTemplate (rules rules' : Ruleset) (revision revision' : TemplateRevision) (now now' : Instant) :
    u.RefusedAlike .edit .template Template.id (Template.revise rules u · revision now)
      (Template.revise rules' u · revision' now')
  refillDocument (rules rules' : Ruleset) (t t' : Template) (values values' : FormValues) (now now' : Instant) :
    u.RefusedAlike .edit .document Document.id (Document.refill rules u · t values now)
      (Document.refill rules' u · t' values' now')
  moveDocument (lifecycle lifecycle' : Lifecycle) (status status' : Status) (now now' : Instant) :
    u.RefusedAlike .edit .document Document.id (Document.move lifecycle u · status now)
      (Document.move lifecycle' u · status' now')
  removeDocument : u.RefusedAlike .edit .document Document.id (Document.ensureRemovable u) (Document.ensureRemovable u)
  reviseUser (revision revision' : AccountRevision) :
    u.RefusedAlike .edit .user User.id (u.revise · revision) (u.revise · revision')
  removeUser : u.RefusedAlike .edit .user User.id u.ensureRemovable u.ensureRemovable

namespace User

variable {ρ κ α : Type} {u : User} {right : Right} {record : ρ → Record} {id : ρ → κ}
  {attempt attempt' : ρ → Except Refusal α}

/-- A refusal that depends on the identifier alone is the same for all versions of a record. -/
theorem refusedAlike_of_error (refusal : κ → Refusal)
    (h : ∀ r, u.may right (record r) = false → attempt r = .error (refusal (id r)))
    (h' : ∀ r, u.may right (record r) = false → attempt' r = .error (refusal (id r))) :
    u.RefusedAlike right record id attempt attempt' := by
  intro r r' hid hr hr'
  refine ⟨refusal (id r), h r hr, ?_⟩
  rw [hid]
  exact h' r' hr'

theorem ensureRight_of_not_may {record : Record} (h : u.may right record = false) :
    u.ensureRight right record = .error (.denied ⟨u.id, right, record.kind⟩) :=
  ensure_eq_error_iff.2 ⟨h, rfl⟩

/-- A template is refused to who writes no templates before it is asked whether the user may edit it. -/
theorem revise_of_not_may {rules : Ruleset} {t : Template} {revision : TemplateRevision} {now : Instant}
    (h : u.may .edit (.template t) = false) :
    t.revise rules u revision now =
      .error (if u.isAuthor then .denied ⟨u.id, .edit, .template⟩ else .noAuthor u.id) := by
  unfold Template.revise
  by_cases hauthor : u.isAuthor = true
  · rw [check_bind_of_ok (ensure_eq_ok_iff.2 hauthor), if_pos hauthor]
    exact bind_eq_error_iff.2 (.inl (ensureRight_of_not_may h))
  · rw [if_neg hauthor]
    exact bind_eq_error_iff.2 (.inl (ensure_eq_error_iff.2 ⟨Bool.eq_false_iff.2 hauthor, rfl⟩))

/-- So is the removal of the own account, which is told by the identifiers. -/
theorem ensureRemovable_of_not_may {v : User} (h : u.may .edit (.user v) = false) :
    u.ensureRemovable v = .error (if u.id = v.id then .ownAccount u.id else .denied ⟨u.id, .edit, .user⟩) := by
  unfold ensureRemovable
  by_cases hown : u.id = v.id
  · rw [if_pos hown]
    exact bind_eq_error_iff.2 (.inl (ensure_eq_error_iff.2 ⟨decide_eq_false (not_not_intro hown), rfl⟩))
  · rw [if_neg hown, check_bind_of_ok (ensure_eq_ok_iff.2 (decide_eq_true hown))]
    exact ensureRight_of_not_may h

/-- An operation that checks the right first refuses for want of it, and names no more than the kind of the record. -/
theorem refusedAlike_of_ensureRight (kind : RecordKind) (hkind : ∀ r, (record r).kind = kind)
    {f f' : ρ → Unit → Except Refusal α} :
    u.RefusedAlike right record id (fun r => u.ensureRight right (record r) >>= f r)
      (fun r => u.ensureRight right (record r) >>= f' r) := by
  have hrefused (r : ρ) (h : u.may right (record r) = false) :
      u.ensureRight right (record r) = .error (.denied ⟨u.id, right, kind⟩) := by
    rw [ensureRight_of_not_may h, hkind]
  refine refusedAlike_of_error (fun _ => .denied ⟨u.id, right, kind⟩) ?_ ?_
  · intro r hr
    exact bind_eq_error_iff.2 (.inl (hrefused r hr))
  · intro r hr
    exact bind_eq_error_iff.2 (.inl (hrefused r hr))

/-- Two versions of a record that a user may not view or edit are refused to the user in the same way, by each operation
and whatever else it is asked to do. -/
theorem learnsNothing (u : User) : u.LearnsNothing where
  drawDocument _ _ _ _ _ _ _ _ := refusedAlike_of_ensureRight .template fun _ => rfl
  reviseTemplate _ _ _ _ _ _ :=
    refusedAlike_of_error (fun _ => if u.isAuthor then .denied ⟨u.id, .edit, .template⟩ else .noAuthor u.id)
      (fun _ => revise_of_not_may) fun _ => revise_of_not_may
  refillDocument _ _ _ _ _ _ _ _ := refusedAlike_of_ensureRight .document fun _ => rfl
  moveDocument _ _ _ _ _ _ := refusedAlike_of_ensureRight .document fun _ => rfl
  removeDocument := refusedAlike_of_ensureRight .document fun _ => rfl
  reviseUser _ _ := refusedAlike_of_ensureRight .user fun _ => rfl
  removeUser :=
    refusedAlike_of_error (fun id => if u.id = id then .ownAccount u.id else .denied ⟨u.id, .edit, .user⟩)
      (fun _ => ensureRemovable_of_not_may) fun _ => ensureRemovable_of_not_may

open SmallOffice in
/-- A stranger does not find out whether a lease is still a draft. -/
theorem owner_learnsNothing :
    let draft : Document :=
      ⟨⟨1⟩, lease.id, some acme, editor.id, .draft, tenant "SCI Horizon", "Bail de SCI Horizon", noon, none⟩
    let signed : Document := { draft with template := ⟨2⟩, status := .signed, content := "", updatedAt := some noon }
    owner.may .edit (.document draft) = false ∧ owner.may .edit (.document signed) = false ∧
      ∃ refusal, draft.refill .standard owner lease (tenant "Garage Petit") noon = .error refusal ∧
        signed.refill .standard owner { lease with id := ⟨3⟩ } (tenant "") evening = .error refusal := by
  intro draft signed
  have hdraft : owner.may .edit (.document draft) = false := by decide
  have hsigned : owner.may .edit (.document signed) = false := by decide
  have hrefill := (learnsNothing owner).refillDocument .standard .standard lease { lease with id := ⟨3⟩ }
    (tenant "Garage Petit") (tenant "") noon evening
  exact ⟨hdraft, hsigned, hrefill draft signed rfl hdraft hsigned⟩

end User

end Formulary
