import Formulary.Proofs.Office.Identifiers
import Formulary.Proofs.Office.Run

/-!
# What a step does to the accounts

Where the accounts of an office have distinct identifiers, each account after a step that succeeds was there before, or
the step makes or revises it and gives it its role (`Effect.accountOrigin`), and an account is lost only if the step
removes it or revises it (`Office.not_mem_users_step_iff`).  Making accounts under identifiers that are not in use keeps
the identifiers distinct, in one step and over a run (`Run.usersDistinct_state`).
-/

namespace Formulary

/-- The account to which a step gives a role if it succeeds, and the role. -/
def Step.grant? : Step → Option (UserId × Role)
  | addUser _ request => some (request.id, request.role)
  | reviseUser _ target revision => some (target, revision.role)
  | _ => none

namespace Office

/-- No two accounts have one identifier. -/
def UsersDistinct (o : Office) : Prop := (o.users.map User.id).Nodup

instance (o : Office) : Decidable o.UsersDistinct := inferInstanceAs (Decidable (List.Nodup _))

/-- Where an account after a step that succeeds comes from. -/
inductive AccountOrigin (o : Office) (s : Step) (v : User) : Prop
  | kept (hv : v ∈ o.users) (hs : ∀ role, s.grant? ≠ some (v.id, role))
  | made {actor request u} (hs : s = .addUser actor request) (hu : o.user? actor = some u)
      (hv : u.create request = .ok v)
  | revised {actor revision u w} (hs : s = .reviseUser actor w.id revision) (hu : o.user? actor = some u)
      (hw : w ∈ o.users) (hv : u.revise w revision = .ok v)

variable {o o' : Office} {s : Step} {a : Answer} {u v w : User}

theorem mem_users_of_user? {id : UserId} (h : o.user? id = some u) : u ∈ o.users ∧ u.id = id :=
  mem_of_find?_key h

theorem user?_eq_some_iff (distinct : o.UsersDistinct) {id : UserId} :
    o.user? id = some u ↔ u ∈ o.users ∧ u.id = id :=
  find?_key_eq_some_iff distinct

theorem user_eq_of_id_eq (distinct : o.UsersDistinct) (hv : v ∈ o.users) (hw : w ∈ o.users) (h : v.id = w.id) :
    v = w :=
  List.inj_on_of_nodup_map distinct hv hw h

theorem mem_users_putUser_iff {id : UserId} {v' : User} (distinct : o.UsersDistinct) (hv : o.user? id = some v) :
    w ∈ (o.putUser id v').users ↔ w = v' ∨ w ∈ o.users ∧ w.id ≠ id := by
  obtain ⟨hvm, hid⟩ := mem_users_of_user? hv
  exact mem_replaceFirst_iff distinct hvm hid

theorem Effect.accountOrigin (h : o.Effect s o' a) (distinct : o.UsersDistinct)
    (fresh : ∀ actor request, s = .addUser actor request → ∀ w ∈ o.users, w.id ≠ request.id) (hv : v ∈ o'.users) :
    o.AccountOrigin s v := by
  cases h with
  | addTemplate | reviseTemplate | drawDocument | refillDocument | moveDocument | removeDocument =>
    exact .kept hv nofun
  | addUser hu hw =>
    -- an account that is kept is not given the role: it has another identifier than the new one
    rcases List.mem_append.1 hv with hv | hv
    · refine .kept hv fun role hrole => fresh _ _ rfl v hv ?_
      exact (Prod.mk.inj (Option.some.inj hrole)).1.symm
    · obtain rfl := List.mem_singleton.1 hv
      exact .made rfl hu hw
  | reviseUser hu hw hw' =>
    rcases (mem_users_putUser_iff distinct hw).1 hv with rfl | ⟨hv, hid⟩
    · obtain ⟨hmem, rfl⟩ := mem_users_of_user? hw
      exact .revised rfl hu hmem hw'
    · refine .kept hv fun role hrole => hid ?_
      exact (Prod.mk.inj (Option.some.inj hrole)).1.symm
  | removeUser => exact .kept (List.mem_filter.1 hv).1 nofun

theorem Effect.not_mem_users_iff (h : o.Effect s o' a) (distinct : o.UsersDistinct) (hv : v ∈ o.users) :
    v ∉ o'.users ↔ (∃ actor, s = .removeUser actor v.id) ∨
      ∃ actor revision, s = .reviseUser actor v.id revision ∧ a ≠ .user v := by
  cases h with
  | addTemplate | reviseTemplate | drawDocument | refillDocument | moveDocument | removeDocument =>
    refine iff_of_false (fun hlost => hlost hv) ?_
    rintro (⟨_, ⟨⟩⟩ | ⟨_, _, ⟨⟩, _⟩)
  | addUser =>
    refine iff_of_false (fun hlost => hlost (List.mem_append_left _ hv)) ?_
    rintro (⟨_, ⟨⟩⟩ | ⟨_, _, ⟨⟩, _⟩)
  | @reviseUser actor target revision u w w' hu hw hw' =>
    rw [mem_users_putUser_iff distinct hw]
    constructor
    · intro hlost
      have hid : v.id = target := by
        by_contra hid
        exact hlost (.inr ⟨hv, hid⟩)
      refine .inr ⟨actor, revision, by rw [hid], fun he => hlost (.inl ?_)⟩
      exact (Answer.user.inj he).symm
    · rintro (⟨_, ⟨⟩⟩ | ⟨_, _, hs, hne⟩) hkept
      obtain ⟨_, rfl, _⟩ := Step.reviseUser.inj hs
      rcases hkept with rfl | ⟨_, hid⟩
      · exact hne rfl
      · exact hid rfl
  | @removeUser actor target u w hu hw hr =>
    simp only [List.mem_filter, hv, true_and, decide_not, Bool.not_eq_true', decide_eq_false_iff_not, not_not]
    constructor
    · rintro rfl
      exact .inl ⟨actor, rfl⟩
    · rintro (⟨_, hs⟩ | ⟨_, _, ⟨⟩, _⟩)
      exact (Step.removeUser.inj hs).2.symm

/-- An account is lost in a step if and only if the user removes it, or revises it into another one. -/
theorem not_mem_users_step_iff (distinct : o.UsersDistinct) (hu : o.user? s.actor = some u) (hv : v ∈ o.users) :
    v ∉ (o.step s).1.users ↔
      (s = .removeUser u.id v.id ∧ u.ensureRemovable v = .ok ()) ∨
        ∃ revision v', s = .reviseUser u.id v.id revision ∧ u.revise v revision = .ok v' ∧ v' ≠ v := by
  have hactor : u.id = s.actor := (mem_users_of_user? hu).2
  have hfound : o.user? v.id = some v := (user?_eq_some_iff distinct).2 ⟨hv, rfl⟩
  constructor
  · intro hlost
    rcases step_cases o s with ⟨a, _, h⟩ | ⟨e, h⟩
    · have hcause := (h.not_mem_users_iff distinct hv).1 hlost
      -- cases on the effect need an office after the step that is not an expression
      generalize (o.step s).1 = o' at h
      rcases hcause with ⟨actor, rfl⟩ | ⟨actor, revision, rfl, hne⟩
      · cases h with
        | removeUser hu' hv' hr =>
          obtain rfl := Option.some.inj (hu.symm.trans hu')
          obtain rfl := Option.some.inj (hfound.symm.trans hv')
          exact .inl ⟨by rw [hactor]; rfl, hr⟩
      · cases h with
        | reviseUser hu' hv' hr =>
          obtain rfl := Option.some.inj (hu.symm.trans hu')
          obtain rfl := Option.some.inj (hfound.symm.trans hv')
          refine .inr ⟨revision, _, by rw [hactor]; rfl, hr, ?_⟩
          rintro rfl
          exact hne rfl
    · rw [h] at hlost
      exact absurd hv hlost
  · rw [← hactor] at hu
    rintro (⟨rfl, hr⟩ | ⟨revision, v', rfl, hr, hne⟩)
    · have h := Effect.removeUser hu hfound hr
      rw [step_of_effect h]
      exact (h.not_mem_users_iff distinct hv).2 (.inl ⟨_, rfl⟩)
    · have h := Effect.reviseUser hu hfound hr
      rw [step_of_effect h]
      exact (h.not_mem_users_iff distinct hv).2 (.inr ⟨_, _, rfl, fun he => hne (Answer.user.inj he)⟩)

theorem Effect.usersDistinct (h : o.Effect s o' a) (distinct : o.UsersDistinct)
    (fresh : ∀ actor request, s = .addUser actor request → ∀ w ∈ o.users, w.id ≠ request.id) :
    o'.UsersDistinct := by
  cases h with
  | addTemplate | reviseTemplate | drawDocument | refillDocument | moveDocument | removeDocument => exact distinct
  | addUser hu hv =>
    obtain ⟨_, _, _, _, rfl⟩ := User.create_eq_ok_iff.1 hv
    exact nodup_map_append_singleton distinct (fresh _ _ rfl)
  | reviseUser hu hv hv' =>
    obtain ⟨_, _, _, rfl⟩ := User.revise_eq_ok_iff.1 hv'
    exact nodup_map_replaceFirst distinct (mem_users_of_user? hv).2
  | removeUser => exact distinct.sublist (List.filter_sublist.map User.id)

end Office

namespace Run

/-- An account is made under an identifier that is not in use. -/
def AddsFresh (r : Run) : Prop :=
  ∀ n actor request a, r.Accepts n (.addUser actor request) a → ∀ v ∈ (r.state n).users, v.id ≠ request.id

variable {r : Run} {n : Nat}

theorem usersDistinct_state (distinct : r.start.UsersDistinct) (fresh : r.AddsFresh) (n : Nat) :
    (r.state n).UsersDistinct := by
  refine invariant distinct (fun n s a h ih => h.effect.usersDistinct ih ?_) n
  rintro actor request rfl
  exact fresh n actor request a h

theorem Accepts.accountOrigin {s : Step} {a : Answer} {v : User} (h : r.Accepts n s a)
    (distinct : (r.state n).UsersDistinct) (fresh : r.AddsFresh) (hv : v ∈ (r.state (n + 1)).users) :
    (r.state n).AccountOrigin s v := by
  refine h.effect.accountOrigin distinct ?_ hv
  rintro actor request rfl
  exact fresh n actor request a h

end Run

end Formulary
