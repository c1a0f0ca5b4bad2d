import Formulary.Office
import Formulary.Proofs.Office.Operation

/-!
# What a step does

A step that succeeds finds its user and its records, performs one operation on a record and puts the result into its
list; `Office.Effect` has one constructor for each kind of step and says all of this.  The key fact is that steps do
nothing else: `perform_eq_ok_iff`, and for the office after a step `step_cases`.
-/

namespace Formulary

namespace Office

/-- The office and the answer after a step that succeeds. -/
inductive Effect (o : Office) : Step → Office → Answer → Prop
  | addTemplate {actor request now u t} (hu : o.user? actor = some u)
      (ht : Template.create o.rules u request now = .ok t) :
      Effect o (.addTemplate actor request now) { o with templates := o.templates ++ [t] } (.template t)
  | reviseTemplate {actor template revision now u t t'} (hu : o.user? actor = some u)
      (ht : o.template? template = some t) (ht' : t.revise o.rules u revision now = .ok t') :
      Effect o (.reviseTemplate actor template revision now) (o.putTemplate template t') (.template t')
  | drawDocument {actor template id values now u t d} (hu : o.user? actor = some u)
      (ht : o.template? template = some t) (hd : Document.draw o.rules u t id values now = .ok d) :
      Effect o (.drawDocument actor template id values now) { o with documents := o.documents ++ [d] } (.document d)
  | refillDocument {actor document template values now u t d d'} (hu : o.user? actor = some u)
      (ht : o.template? template = some t) (hd : o.document? document = some d)
      (hd' : d.refill o.rules u t values now = .ok d') :
      Effect o (.refillDocument actor document template values now) (o.putDocument document d') (.document d')
  | moveDocument {actor document status now u d d'} (hu : o.user? actor = some u)
      (hd : o.document? document = some d) (hd' : d.move o.lifecycle u status now = .ok d') :
      Effect o (.moveDocument actor document status now) (o.putDocument document d') (.document d')
  | removeDocument {actor document u d} (hu : o.user? actor = some u) (hd : o.document? document = some d)
      (hr : d.ensureRemovable u = .ok ()) :
      Effect o (.removeDocument actor document)
        { o with documents := o.documents.filter (fun e => e.id ≠ document) }
        (.documentsLeft (o.documents.filter (fun e => e.id ≠ document)).length)
  | addUser {actor request u v} (hu : o.user? actor = some u) (hv : u.create request = .ok v) :
      Effect o (.addUser actor request) { o with users := o.users ++ [v] } (.user v)
  | reviseUser {actor target revision u v v'} (hu : o.user? actor = some u) (hv : o.user? target = some v)
      (hv' : u.revise v revision = .ok v') :
      Effect o (.reviseUser actor target revision) (o.putUser target v') (.user v')
  | removeUser {actor target u v} (hu : o.user? actor = some u) (hv : o.user? target = some v)
      (hr : u.ensureRemovable v = .ok ()) :
      Effect o (.removeUser actor target) { o with users := o.users.filter (fun v => v.id ≠ target) }
        (.usersLeft (o.users.filter (fun v => v.id ≠ target)).length)

variable {o o' : Office} {s : Step} {a : Answer}

/-- The steps that succeed, and what they do. -/
theorem perform_eq_ok_iff : o.perform s = .ok (o', a) ↔ o.Effect s o' a := by
  constructor
  · intro h
    obtain ⟨u, hu, h⟩ := bind_eq_ok_iff.1 h
    rw [found_eq_ok_iff] at hu
    cases s with
    | addTemplate actor request now =>
      obtain ⟨t, ht, h⟩ := bind_eq_ok_iff.1 h
      obtain ⟨rfl, rfl⟩ := Prod.mk.inj (pure_eq_ok_iff.1 h)
      exact .addTemplate hu (allowed_eq_ok_iff.1 ht)
    | reviseTemplate actor template revision now =>
      obtain ⟨t, ht, h⟩ := bind_eq_ok_iff.1 h
      obtain ⟨t', ht', h⟩ := bind_eq_ok_iff.1 h
      obtain ⟨rfl, rfl⟩ := Prod.mk.inj (pure_eq_ok_iff.1 h)
      exact .reviseTemplate hu (found_eq_ok_iff.1 ht) (allowed_eq_ok_iff.1 ht')
    | drawDocument actor template id values now =>
      obtain ⟨t, ht, h⟩ := bind_eq_ok_iff.1 h
      obtain ⟨d, hd, h⟩ := bind_eq_ok_iff.1 h
      obtain ⟨rfl, rfl⟩ := Prod.mk.inj (pure_eq_ok_iff.1 h)
      exact .drawDocument hu (found_eq_ok_iff.1 ht) (allowed_eq_ok_iff.1 hd)
    | refillDocument actor document template values now =>
      obtain ⟨t, ht, h⟩ := bind_eq_ok_iff.1 h
      obtain ⟨d, hd, h⟩ := bind_eq_ok_iff.1 h
      obtain ⟨d', hd', h⟩ := bind_eq_ok_iff.1 h
      obtain ⟨rfl, rfl⟩ := Prod.mk.inj (pure_eq_ok_iff.1 h)
      exact .refillDocument hu (found_eq_ok_iff.1 ht) (found_eq_ok_iff.1 hd) (allowed_eq_ok_iff.1 hd')
    | moveDocument actor document status now =>
      obtain ⟨d, hd, h⟩ := bind_eq_ok_iff.1 h
      obtain ⟨d', hd', h⟩ := bind_eq_ok_iff.1 h
      obtain ⟨rfl, rfl⟩ := Prod.mk.inj (pure_eq_ok_iff.1 h)
      exact .moveDocument hu (found_eq_ok_iff.1 hd) (allowed_eq_ok_iff.1 hd')
    | removeDocument actor document =>
      obtain ⟨d, hd, h⟩ := bind_eq_ok_iff.1 h
      obtain ⟨⟨⟩, hr, h⟩ := bind_eq_ok_iff.1 h
      obtain ⟨rfl, rfl⟩ := Prod.mk.inj (pure_eq_ok_iff.1 h)
      exact .removeDocument hu (found_eq_ok_iff.1 hd) (allowed_eq_ok_iff.1 hr)
    | addUser actor request =>
      obtain ⟨v, hv, h⟩ := bind_eq_ok_iff.1 h
      obtain ⟨rfl, rfl⟩ := Prod.mk.inj (pure_eq_ok_iff.1 h)
      exact .addUser hu (allowed_eq_ok_iff.1 hv)
    | reviseUser actor target revision =>
      obtain ⟨v, hv, h⟩ := bind_eq_ok_iff.1 h
      obtain ⟨v', hv', h⟩ := bind_eq_ok_iff.1 h
      obtain ⟨rfl, rfl⟩ := Prod.mk.inj (pure_eq_ok_iff.1 h)
      exact .reviseUser hu (found_eq_ok_iff.1 hv) (allowed_eq_ok_iff.1 hv')
    | removeUser actor target =>
      obtain ⟨v, hv, h⟩ := bind_eq_ok_iff.1 h
      obtain ⟨⟨⟩, hr, h⟩ := bind_eq_ok_iff.1 h
      obtain ⟨rfl, rfl⟩ := Prod.mk.inj (pure_eq_ok_iff.1 h)
      exact .removeUser hu (found_eq_ok_iff.1 hv) (allowed_eq_ok_iff.1 hr)
  · intro h
    cases h <;> simp_all [perform, Step.actor, found, allowed, bind, Except.bind, pure, Except.pure]

/-- A step succeeds with its effect, or the office stays as it is. -/
theorem step_cases (o : Office) (s : Step) :
    (∃ a, (o.step s).2 = .ok a ∧ o.Effect s (o.step s).1 a) ∨ ∃ e, o.step s = (o, .error e) := by
  unfold step
  split
  · rename_i o' a h
    exact .inl ⟨a, rfl, perform_eq_ok_iff.1 h⟩
  · rename_i e h
    exact .inr ⟨e, rfl⟩

theorem effect_of_step (h : (o.step s).2 = .ok a) : o.Effect s (o.step s).1 a := by
  rcases step_cases o s with ⟨b, hb, he⟩ | ⟨e, he⟩
  · rw [hb] at h
    cases h
    exact he
  · rw [he] at h
    cases h

theorem step_of_effect (h : o.Effect s o' a) : o.step s = (o', .ok a) := by
  unfold step
  rw [perform_eq_ok_iff.2 h]

/-- The lifecycle of an office is not up to its users. -/
theorem Effect.lifecycle_eq (h : o.Effect s o' a) : o'.lifecycle = o.lifecycle := by cases h <;> rfl

/-- Nor are the rules by which it reads templates and forms. -/
theorem Effect.rules_eq (h : o.Effect s o' a) : o'.rules = o.rules := by cases h <;> rfl

end Office

end Formulary
