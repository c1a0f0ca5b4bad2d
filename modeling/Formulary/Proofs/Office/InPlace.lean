import Formulary.Proofs.Office.Accounts
import Formulary.Proofs.Office.Fate

/-!
# Records that are written where they stand

The operations of an office give whole records.  An office can as well keep each record in one place and write its
fields one after the other, and then a refusal after the first write would leave a record half changed.  There is none:
every operation makes all its checks before it writes its first field (`Template.apply_reviseInPlace` and the like), so
that such an office goes through the same states with the same answers (`stepInPlace_eq_step`).  Hence a step that fails
leaves the office as it is, and one that succeeds changes one record, in the fields of its operation, and leaves all
others in their places (`step_commits`).
-/

namespace Formulary

/-! ### Writing field by field -/

/-- Work on a record that is written where it stands: what has been written stays, also if the work is refused later. -/
abbrev InPlace (ρ : Type) : Type → Type := ExceptT Refusal (StateM ρ)

/-- What the work gives, and what it leaves of the record. -/
def InPlace.apply {ρ α : Type} (work : InPlace ρ α) (r : ρ) : Except Refusal α × ρ := work.run r

def Template.reviseInPlace (rules : Ruleset) (actor : User) (revision : TemplateRevision) (now : Instant) :
    InPlace Template Unit := do
  ensure actor.isAuthor (.noAuthor actor.id)
  actor.ensureRight .edit (.template (← get))
  let organization ← revision.audience.owner actor (← get).organization
  let form := rules.formOf revision.body
  modify fun t => { t with name := revision.name }
  modify fun t => { t with description := revision.description }
  modify fun t => { t with body := revision.body }
  modify fun t => { t with audience := revision.audience }
  modify fun t => { t with organization }
  modify fun t => { t with form }
  modify fun t => { t with version := t.version + 1 }
  modify fun t => { t with updatedAt := some now }

def Document.refillInPlace (rules : Ruleset) (actor : User) (t : Template) (values : FormValues) (now : Instant) :
    InPlace Document Unit := do
  actor.ensureRight .edit (.document (← get))
  (← get).ensureDraft
  ensure ((← get).template = t.id) (.otherTemplate (← get).id (← get).template t.id)
  let (data, content) ← t.fillIn rules values
  modify fun d => { d with data }
  modify fun d => { d with content }
  modify fun d => { d with updatedAt := some now }

/-- A document is moved to another status; the status that it had is given back. -/
def Document.moveInPlace (lifecycle : Lifecycle) (actor : User) (status : Status) (now : Instant) :
    InPlace Document Status := do
  actor.ensureRight .edit (.document (← get))
  lifecycle.ensurePermitted (← get).status status
  let previous := (← get).status
  modify fun d => { d with status }
  modify fun d => { d with updatedAt := some now }
  return previous

def User.reviseInPlace (actor : User) (revision : AccountRevision) : InPlace User Unit := do
  actor.ensureRight .edit (.user (← get))
  actor.ensureGrant revision.role
  ensure (revision.organization = (← get).organization || actor.holds .superAdmin) (.foreignOrganization (← get).id)
  modify fun v => { v with name := revision.name }
  modify fun v => { v with email := revision.email }
  modify fun v => v.assign revision.role
  modify fun v => { v with organization := revision.organization }

/-! ### Nothing is written before the last check -/

section Apply

variable {ρ α β : Type}

/-- An operation that gives the whole record, done at once: refused, it leaves the record as it is. -/
def atOnce (result : α) (r : ρ) : Except Refusal ρ → Except Refusal α × ρ
  | .ok r' => (.ok result, r')
  | .error e => (.error e, r)

/-- A check that comes before all writing. -/
theorem apply_check_bind {check : Except Refusal β} {work : β → InPlace ρ α} {operation : β → Except Refusal ρ}
    {result : α} {r : ρ} (h : ∀ b, InPlace.apply (work b) r = atOnce result r (operation b)) :
    InPlace.apply (liftM check >>= work) r = atOnce result r (check >>= operation) := by
  cases check with
  | error e => rfl
  | ok b => exact h b

theorem apply_get_bind {work : ρ → InPlace ρ α} {r : ρ} :
    InPlace.apply (get >>= work) r = InPlace.apply (work r) r :=
  rfl

end Apply

theorem Template.apply_reviseInPlace (rules : Ruleset) (u : User) (revision : TemplateRevision) (now : Instant)
    (t : Template) : (reviseInPlace rules u revision now).apply t = atOnce () t (t.revise rules u revision now) := by
  unfold reviseInPlace revise
  refine apply_check_bind fun _ => ?_
  rw [apply_get_bind]
  refine apply_check_bind fun _ => ?_
  rw [apply_get_bind]
  exact apply_check_bind fun _ => rfl

theorem Document.apply_refillInPlace (rules : Ruleset) (u : User) (t : Template) (values : FormValues) (now : Instant)
    (d : Document) : (refillInPlace rules u t values now).apply d = atOnce () d (d.refill rules u t values now) := by
  unfold refillInPlace refill
  rw [apply_get_bind]
  refine apply_check_bind fun _ => ?_
  rw [apply_get_bind]
  refine apply_check_bind fun _ => ?_
  rw [apply_get_bind, apply_get_bind, apply_get_bind]
  refine apply_check_bind fun _ => ?_
  exact apply_check_bind fun _ => rfl

theorem Document.apply_moveInPlace (lifecycle : Lifecycle) (u : User) (status : Status) (now : Instant) (d : Document) :
    (moveInPlace lifecycle u status now).apply d = atOnce d.status d (d.move lifecycle u status now) := by
  unfold moveInPlace move
  rw [apply_get_bind]
  refine apply_check_bind fun _ => ?_
  rw [apply_get_bind]
  exact apply_check_bind fun _ => rfl

theorem User.apply_reviseInPlace (u : User) (revision : AccountRevision) (v : User) :
    (reviseInPlace u revision).apply v = atOnce () v (u.revise v revision) := by
  unfold reviseInPlace revise
  rw [apply_get_bind]
  refine apply_check_bind fun _ => ?_
  refine apply_check_bind fun _ => ?_
  rw [apply_get_bind, apply_get_bind]
  exact apply_check_bind fun _ => rfl

namespace Office

/-! ### An office that writes in place -/

variable {ρ α : Type}

/-- Work on a record of an office, which is found and put back in some way: it is left there as the work leaves it. -/
def workOn (find? : Office → Option ρ) (put : Office → ρ → Office) (answer : ρ → Answer) (work : InPlace ρ α)
    (o : Office) : Office × Except StepError Answer :=
  match find? o with
  | none => (o, .error .unknownRecord)
  | some r =>
    match work.apply r with
    | (.ok _, r') => (put o r', .ok (answer r'))
    | (.error e, r') => (put o r', .error (.refused e))

/-- A step as `step` performs it, but with the records that it changes written where they stand. -/
def stepInPlace (o : Office) (s : Step) : Office × Except StepError Answer :=
  match o.user? s.actor with
  | none => (o, .error .unknownRecord)
  | some u =>
    match s with
    | .reviseTemplate _ template revision now =>
      workOn (template? · template) (putTemplate · template) .template (Template.reviseInPlace o.rules u revision now) o
    | .refillDocument _ document template values now =>
      match o.template? template with
      | none => (o, .error .unknownRecord)
      | some t =>
        workOn (document? · document) (putDocument · document) .document
          (Document.refillInPlace o.rules u t values now) o
    | .moveDocument _ document status now =>
      workOn (document? · document) (putDocument · document) .document (Document.moveInPlace o.lifecycle u status now) o
    | .reviseUser _ target revision =>
      workOn (user? · target) (putUser · target) .user (User.reviseInPlace u revision) o
    | _ => o.step s

variable {o : Office}

theorem workOn_eq {find? : Office → Option ρ} {put : Office → ρ → Office} {answer : ρ → Answer} {work : InPlace ρ α}
    {result : ρ → α} {operation : ρ → Except Refusal ρ}
    (hwork : ∀ r, work.apply r = atOnce (result r) r (operation r)) (hput : ∀ r, find? o = some r → put o r = o) :
    workOn find? put answer work o =
      match (do
        let r ← found (find? o)
        let r ← allowed (operation r)
        return (put o r, answer r)) with
      | .ok (o', a) => (o', .ok a)
      | .error e => (o, .error e) := by
  unfold workOn
  cases hfind : find? o with
  | none => rfl
  | some r =>
    cases hop : operation r with
    | ok r' => simp only [hwork, hop, atOnce, found, allowed, bind, Except.bind, pure, Except.pure]
    | error e => simp only [hwork, hop, atOnce, found, allowed, bind, Except.bind, hput r hfind]

theorem putTemplate_self {id : TemplateId} {t : Template} (h : o.template? id = some t) : o.putTemplate id t = o := by
  rw [putTemplate, replaceFirst_self h]

theorem putDocument_self {id : DocumentId} {d : Document} (h : o.document? id = some d) : o.putDocument id d = o := by
  rw [putDocument, replaceFirst_self h]

theorem putUser_self {id : UserId} {u : User} (h : o.user? id = some u) : o.putUser id u = o := by
  rw [putUser, replaceFirst_self h]

theorem stepInPlace_eq_step (o : Office) (s : Step) : o.stepInPlace s = o.step s := by
  unfold stepInPlace
  cases hu : o.user? s.actor with
  | none =>
    unfold step perform
    rw [hu]
    rfl
  | some u =>
    cases s with
    | addTemplate | drawDocument | removeDocument | addUser | removeUser => rfl
    | reviseTemplate actor template revision now =>
      unfold step perform
      rw [hu]
      exact workOn_eq (Template.apply_reviseInPlace o.rules u revision now) fun _ => putTemplate_self
    | refillDocument actor document template values now =>
      unfold step perform
      rw [hu]
      dsimp only
      cases ht : o.template? template with
      | none => rfl
      | some t => exact workOn_eq (Document.apply_refillInPlace o.rules u t values now) fun _ => putDocument_self
    | moveDocument actor document status now =>
      unfold step perform
      rw [hu]
      exact workOn_eq (Document.apply_moveInPlace o.lifecycle u status now) fun _ => putDocument_self
    | reviseUser actor target revision =>
      unfold step perform
      rw [hu]
      exact workOn_eq (User.apply_reviseInPlace u revision) fun _ => putUser_self

end Office

/-! ### What a step leaves as it is -/

/-- One template with other contents. -/
def Template.IsRevisionOf (t' t : Template) : Prop :=
  t' = { t with
    name := t'.name
    description := t'.description
    body := t'.body
    form := t'.form
    audience := t'.audience
    organization := t'.organization
    version := t'.version
    updatedAt := t'.updatedAt }

/-- One document with other data and another text. -/
def Document.IsRefillOf (d' d : Document) : Prop :=
  d' = { d with data := d'.data, content := d'.content, updatedAt := d'.updatedAt }

/-- One document with another status. -/
def Document.IsMoveOf (d' d : Document) : Prop := d' = { d with status := d'.status, updatedAt := d'.updatedAt }

/-- One account with other contents. -/
def User.IsRevisionOf (v' v : User) : Prop :=
  v' = { v with name := v'.name, email := v'.email, roles := v'.roles, organization := v'.organization }

namespace Office

/-- What a step that succeeds may change of an office: it puts a new record last, takes its record out, or changes its
record in its place. -/
inductive Commits (o : Office) : Step → Office → Prop
  | addTemplate {actor request now t} (hid : t.id = request.id) :
      Commits o (.addTemplate actor request now) { o with templates := o.templates ++ [t] }
  | reviseTemplate {actor template revision now before t t' after} (hid : t.id = template)
      (hfound : o.templates = before ++ t :: after) (hrevised : t'.IsRevisionOf t) :
      Commits o (.reviseTemplate actor template revision now) { o with templates := before ++ t' :: after }
  | drawDocument {actor template id values now d} (hid : d.id = id) :
      Commits o (.drawDocument actor template id values now) { o with documents := o.documents ++ [d] }
  | refillDocument {actor document template values now before d d' after} (hid : d.id = document)
      (hfound : o.documents = before ++ d :: after) (hrefilled : d'.IsRefillOf d) :
      Commits o (.refillDocument actor document template values now) { o with documents := before ++ d' :: after }
  | moveDocument {actor document status now before d d' after} (hid : d.id = document)
      (hfound : o.documents = before ++ d :: after) (hmoved : d'.IsMoveOf d) :
      Commits o (.moveDocument actor document status now) { o with documents := before ++ d' :: after }
  | removeDocument {actor document before d after} (hid : d.id = document)
      (hfound : o.documents = before ++ d :: after) :
      Commits o (.removeDocument actor document) { o with documents := before ++ after }
  | addUser {actor request v} (hid : v.id = request.id) :
      Commits o (.addUser actor request) { o with users := o.users ++ [v] }
  | reviseUser {actor target revision before v v' after} (hid : v.id = target)
      (hfound : o.users = before ++ v :: after) (hrevised : v'.IsRevisionOf v) :
      Commits o (.reviseUser actor target revision) { o with users := before ++ v' :: after }
  | removeUser {actor target before v after} (hid : v.id = target) (hfound : o.users = before ++ v :: after) :
      Commits o (.removeUser actor target) { o with users := before ++ after }

variable {o o' : Office} {s : Step} {a : Answer}

theorem Effect.commits (h : o.Effect s o' a) (documents : o.DocumentsDistinct) (users : o.UsersDistinct) :
    o.Commits s o' := by
  cases h with
  | addTemplate hu ht =>
    obtain ⟨_, _, _, rfl⟩ := Template.create_eq_ok_iff.1 ht
    exact .addTemplate rfl
  | reviseTemplate hu ht ht' =>
    obtain ⟨_, _, _, _, rfl⟩ := Template.revise_eq_ok_iff.1 ht'
    obtain ⟨before, after, hfound, hput⟩ := exists_split_replaceFirst ht
    rw [putTemplate, hput]
    exact .reviseTemplate (mem_of_find?_key ht).2 hfound rfl
  | drawDocument hu ht hd =>
    obtain ⟨_, _, rfl⟩ := Document.draw_eq_ok_iff.1 hd
    exact .drawDocument rfl
  | refillDocument hu ht hd hd' =>
    obtain ⟨_, _, _, _, rfl⟩ := Document.refill_eq_ok_iff.1 hd'
    obtain ⟨before, after, hfound, hput⟩ := exists_split_replaceFirst hd
    rw [putDocument, hput]
    exact .refillDocument (mem_of_find?_key hd).2 hfound rfl
  | moveDocument hu hd hd' =>
    obtain ⟨_, _, rfl⟩ := Document.move_eq_ok_iff.1 hd'
    obtain ⟨before, after, hfound, hput⟩ := exists_split_replaceFirst hd
    rw [putDocument, hput]
    exact .moveDocument (mem_of_find?_key hd).2 hfound rfl
  | removeDocument hu hd hr =>
    obtain ⟨before, after, hfound, hleft⟩ := exists_split_filter_key_ne documents hd
    rw [hleft]
    exact .removeDocument (mem_of_find?_key hd).2 hfound
  | addUser hu hv =>
    obtain ⟨_, _, _, _, rfl⟩ := User.create_eq_ok_iff.1 hv
    exact .addUser rfl
  | reviseUser hu hv hv' =>
    obtain ⟨_, _, _, rfl⟩ := User.revise_eq_ok_iff.1 hv'
    obtain ⟨before, after, hfound, hput⟩ := exists_split_replaceFirst hv
    rw [putUser, hput]
    exact .reviseUser (mem_of_find?_key hv).2 hfound rfl
  | removeUser hu hv hr =>
    obtain ⟨before, after, hfound, hleft⟩ := exists_split_filter_key_ne users hv
    rw [hleft]
    exact .removeUser (mem_of_find?_key hv).2 hfound

/-- Whether the records of an office are written where they stand or replaced as a whole, a step that fails leaves all
of them as they are, and one that succeeds changes one record, in the fields of its operation. -/
theorem step_commits (o : Office) (documents : o.DocumentsDistinct) (users : o.UsersDistinct) (s : Step) :
    o.stepInPlace s = o.step s ∧
      ((∃ e, o.stepInPlace s = (o, .error e)) ∨ ∃ o' a, o.stepInPlace s = (o', .ok a) ∧ o.Commits s o') := by
  have hsame := stepInPlace_eq_step o s
  refine ⟨hsame, ?_⟩
  rw [hsame]
  rcases step_cases o s with ⟨a, ha, h⟩ | hrefused
  · exact .inr ⟨_, a, Prod.ext rfl ha, h.commits documents users⟩
  · exact .inl hrefused

section Cabinet

open SmallOffice

/-- An office with a lease under signature before the draft of another one. -/
def cabinet : Office where
  rules := .standard
  lifecycle := .standard
  users := [editor, admin]
  templates := [lease]
  documents := [
    ⟨⟨1⟩, lease.id, some acme, admin.id, .signed, tenant "SCI Horizon", "Bail de SCI Horizon", noon, some noon⟩,
    ⟨⟨2⟩, lease.id, some acme, editor.id, .draft, tenant "Garage Petit", "Bail de Garage Petit", noon, none⟩]

/-- The draft is refilled in its place, and left as it is where the last check, that of the values, refuses. -/
theorem cabinet_step_commits :
    let refilling (name : String) : Step := .refillDocument editor.id ⟨2⟩ lease.id (tenant name) evening
    cabinet.DocumentsDistinct ∧ cabinet.UsersDistinct ∧
      (∃ e, cabinet.stepInPlace (refilling " ") = (cabinet, .error e)) ∧
      ∃ o', (cabinet.stepInPlace (refilling "Boulangerie Martin")).1 = o' ∧
        cabinet.Commits (refilling "Boulangerie Martin") o' := by
  intro refilling
  have documents : cabinet.DocumentsDistinct := by decide
  have users : cabinet.UsersDistinct := by decide
  have hrefused : (cabinet.stepInPlace (refilling " ")).2.isOk = false := by decide +kernel
  have haccepted : (cabinet.stepInPlace (refilling "Boulangerie Martin")).2.isOk = true := by decide +kernel
  refine ⟨documents, users, ?_, ?_⟩
  · rcases (step_commits cabinet documents users (refilling " ")).2 with h | ⟨o', a, h, _⟩
    · exact h
    · rw [h] at hrefused
      cases hrefused
  · rcases (step_commits cabinet documents users (refilling "Boulangerie Martin")).2 with ⟨e, h⟩ | ⟨o', a, h, hcommits⟩
    · rw [h] at haccepted
      cases haccepted
    · exact ⟨o', by rw [h], hcommits⟩

end Cabinet

end Office

end Formulary
