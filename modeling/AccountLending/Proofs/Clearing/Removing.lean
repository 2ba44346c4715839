import AccountLending.Iam.Contents
import AccountLending.Proofs.Dict

/-!
# Requests to an account's IAM only take away

Whatever is asked of an account's IAM, nothing is added to it and nothing in it is altered: each
role, policy, user and group that is there afterwards was there before, and has no more than it had
then.  This is said of one request, refused or not, so it holds of every sequence of them.

* `Dict.IsWithin` — the names of a dictionary are among those of another one;
* `Iam.IsWithin` — an account has no more than it had;
* `Iam.isWithin_serve` — what a request leaves is within what was there.
-/

namespace AccountLending

/-! ## Parts of a dictionary -/

/-- Every name of a dictionary is one of another dictionary, and its value is related to the one
there. -/
def Dict.IsWithin {α : Type} (within : α → α → Prop) (after before : Dict α) : Prop :=
  ∀ name x, after.get? name = some x → ∃ y, before.get? name = some y ∧ within x y

namespace Dict.IsWithin

variable {α : Type} {within : α → α → Prop} {before mid after : Dict α}

theorem refl (hrefl : ∀ x, within x x) (d : Dict α) : d.IsWithin within d :=
  fun _ x hx => ⟨x, hx, hrefl x⟩

theorem trans (htrans : ∀ x y z, within x y → within y z → within x z)
    (h : mid.IsWithin within before) (h' : after.IsWithin within mid) :
    after.IsWithin within before := by
  intro name x hx
  obtain ⟨y, hy, hxy⟩ := h' name x hx
  obtain ⟨z, hz, hyz⟩ := h name y hy
  exact ⟨z, hz, htrans x y z hxy hyz⟩

/-- Forgetting a name leaves the others with their values. -/
theorem erase (hrefl : ∀ x, within x x) (d : Dict α) (name : String) :
    (d.erase name).IsWithin within d := by
  intro other x hx
  rw [Dict.get?_erase] at hx
  split at hx
  · simp at hx
  · exact ⟨x, hx, hrefl x⟩

/-- Changing one value is taking away when the value becomes less. -/
theorem modify (hrefl : ∀ x, within x x) {d : Dict α} {name : String} {f : α → α}
    (hf : ∀ x, d.get? name = some x → within (f x) x) : (d.modify name f).IsWithin within d := by
  intro other x hx
  rw [Dict.get?_modify] at hx
  split at hx
  · rename_i hother
    obtain ⟨y, hy, rfl⟩ := Option.map_eq_some_iff.1 hx
    exact ⟨y, hy, hf y (hother ▸ hy)⟩
  · exact ⟨x, hx, hrefl x⟩

end Dict.IsWithin

/-- Every name of a set is one of another set. -/
def NameSet.IsWithin (after before : NameSet) : Prop :=
  ∀ name, after.contains name = true → before.contains name = true

namespace NameSet.IsWithin

theorem refl (names : NameSet) : names.IsWithin names := fun _ h => h

theorem trans {before mid after : NameSet} (h : mid.IsWithin before) (h' : after.IsWithin mid) :
    after.IsWithin before :=
  fun name hname => h name (h' name hname)

theorem erase (names : NameSet) (name : String) : NameSet.IsWithin (names.erase name) names := by
  intro other hother
  rw [NameSet.contains_erase] at hother
  simp_all

end NameSet.IsWithin

namespace Iam

/-! ## Parts of an account -/

/-- A role has no more than it had. -/
structure Role.IsWithin (after before : Role) : Prop where
  path : after.path = before.path
  attached : after.attached.IsWithin before.attached
  inline : after.inline.IsWithin before.inline

/-- A policy has no version that it had not. -/
structure Policy.IsWithin (after before : Policy) : Prop where
  name : after.name = before.name
  versions : after.versions.Sublist before.versions

/-- A user has no more than it had. -/
structure User.IsWithin (after before : User) : Prop where
  hasProfile : after.hasProfile = true → before.hasProfile = true
  keys : after.keys.IsWithin before.keys
  certificates : after.certificates.IsWithin before.certificates
  inline : after.inline.IsWithin before.inline
  attached : after.attached.IsWithin before.attached
  groups : after.groups.IsWithin before.groups

/-- An account has no more than it had: nothing in it is new, and nothing in it has changed but by
what was taken away. -/
structure IsWithin (after before : Iam) : Prop where
  roles : after.roles.IsWithin Role.IsWithin before.roles
  policies : after.policies.IsWithin Policy.IsWithin before.policies
  users : after.users.IsWithin User.IsWithin before.users
  groups : after.groups.IsWithin NameSet.IsWithin before.groups

theorem Role.IsWithin.refl (role : Role) : role.IsWithin role := ⟨rfl, .refl _, .refl _⟩

theorem Role.IsWithin.trans (x y z : Role) (h : x.IsWithin y) (h' : y.IsWithin z) : x.IsWithin z :=
  ⟨h.path.trans h'.path, h'.attached.trans h.attached, h'.inline.trans h.inline⟩

theorem Policy.IsWithin.refl (policy : Policy) : policy.IsWithin policy := ⟨rfl, .refl _⟩

theorem Policy.IsWithin.trans (x y z : Policy) (h : x.IsWithin y) (h' : y.IsWithin z) :
    x.IsWithin z :=
  ⟨h.name.trans h'.name, h.versions.trans h'.versions⟩

theorem User.IsWithin.refl (user : User) : user.IsWithin user :=
  ⟨id, .refl _, .refl _, .refl _, .refl _, .refl _⟩

theorem User.IsWithin.trans (x y z : User) (h : x.IsWithin y) (h' : y.IsWithin z) : x.IsWithin z :=
  ⟨h'.hasProfile ∘ h.hasProfile, h'.keys.trans h.keys, h'.certificates.trans h.certificates,
    h'.inline.trans h.inline, h'.attached.trans h.attached, h'.groups.trans h.groups⟩

namespace IsWithin

variable {iam before mid after : Iam}

theorem refl (iam : Iam) : iam.IsWithin iam :=
  ⟨.refl Role.IsWithin.refl _, .refl Policy.IsWithin.refl _, .refl User.IsWithin.refl _,
    .refl NameSet.IsWithin.refl _⟩

theorem trans (h : mid.IsWithin before) (h' : after.IsWithin mid) : after.IsWithin before :=
  ⟨h.roles.trans Role.IsWithin.trans h'.roles, h.policies.trans Policy.IsWithin.trans h'.policies,
    h.users.trans User.IsWithin.trans h'.users,
    h.groups.trans (fun _ _ _ hxy hyz => hyz.trans hxy) h'.groups⟩

/-! ### One kind of artifact after the other -/

theorem of_roles {roles : Dict Role} (h : roles.IsWithin Role.IsWithin iam.roles) :
    ({ iam with roles } : Iam).IsWithin iam :=
  ⟨h, (refl iam).policies, (refl iam).users, (refl iam).groups⟩

theorem of_policies {policies : Dict Policy} (h : policies.IsWithin Policy.IsWithin iam.policies) :
    ({ iam with policies } : Iam).IsWithin iam :=
  ⟨(refl iam).roles, h, (refl iam).users, (refl iam).groups⟩

theorem of_users {users : Dict User} (h : users.IsWithin User.IsWithin iam.users) :
    ({ iam with users } : Iam).IsWithin iam :=
  ⟨(refl iam).roles, (refl iam).policies, h, (refl iam).groups⟩

theorem changeUser {user : String} {f : User → User}
    (hf : ∀ content, iam.users.get? user = some content → (f content).IsWithin content) :
    (iam.changeUser user f).IsWithin iam :=
  of_users (.modify User.IsWithin.refl hf)

theorem changeGroup {group : String} {f : NameSet → NameSet}
    (hf : ∀ attached, iam.groups.get? group = some attached → (f attached).IsWithin attached) :
    (iam.changeGroup group f).IsWithin iam :=
  ⟨(refl iam).roles, (refl iam).policies, (refl iam).users, .modify NameSet.IsWithin.refl hf⟩

end IsWithin

/-! ## Removals -/

variable {iam after : Iam}

theorem exists_of_bind_ok {ε α β : Type} {x : Except ε α} {f : α → Except ε β} {b : β}
    (h : x >>= f = .ok b) : ∃ a, x = .ok a ∧ f a = .ok b := by
  cases x with
  | error e => simp [bind, Except.bind] at h
  | ok a => exact ⟨a, rfl, h⟩

theorem get?_of_role {name : String} {content : Role} (h : iam.role name = .ok content) :
    iam.roles.get? name = some content := by
  unfold role at h
  split at h
  · rename_i hfound
    rw [hfound, Except.ok.inj h]
  · simp at h

theorem get?_of_user {name : String} {content : User} (h : iam.user name = .ok content) :
    iam.users.get? name = some content := by
  unfold user at h
  split at h
  · rename_i hfound
    rw [hfound, Except.ok.inj h]
  · simp at h

theorem get?_of_policy {arn : String} {content : Policy} (h : iam.policy arn = .ok content) :
    iam.policies.get? arn = some content := by
  unfold policy at h
  split at h
  · rename_i hfound
    rw [hfound, Except.ok.inj h]
  · simp at h

theorem isWithin_of_without {names left : NameSet} {name what : String}
    (h : without names name what = .ok left) : left.IsWithin names := by
  unfold without at h
  split at h
  · rw [← Except.ok.inj h]
    exact .erase names name
  · simp at h

theorem isWithin_of_withoutVersion {content left : Policy} {arn version : String}
    (h : withoutVersion content arn version = .ok left) : left.IsWithin content := by
  unfold withoutVersion at h
  split at h
  · simp at h
  · split at h
    · simp at h
    · rw [← Except.ok.inj h]
      exact ⟨rfl, List.eraseP_sublist⟩

theorem exists_of_take {α β : Type} {find : Except ServiceError.Reason α} {get : α → NameSet}
    {name what : String} {f : NameSet → β} {result : β}
    (h : (do
      let left ← without (get (← find)) name what
      return f left) = .ok result) :
    ∃ content left, find = .ok content ∧ without (get content) name what = .ok left ∧
      f left = result := by
  obtain ⟨content, hcontent, h⟩ := exists_of_bind_ok h
  obtain ⟨left, hleft, h⟩ := exists_of_bind_ok h
  exact ⟨content, left, hcontent, hleft, Except.ok.inj h⟩

/-- Taking a name away from one of the sets of a value, in whatever dictionary the value is. -/
theorem isWithin_of_take {α : Type} {d : Dict α} {le : α → α → Prop} {place : Dict α → Iam}
    {find : Except ServiceError.Reason α} {key name what : String} {get : α → NameSet}
    {put : NameSet → α → α} (hle : ∀ content, le content content)
    (hplace : ∀ {changed : Dict α}, changed.IsWithin le d → (place changed).IsWithin iam)
    (hfind : ∀ {content}, find = .ok content → d.get? key = some content)
    (hput : ∀ content left, left.IsWithin (get content) → le (put left content) content)
    (h : (do
      let left ← without (get (← find)) name what
      return place (d.modify key (put left))) = .ok after) : after.IsWithin iam := by
  obtain ⟨content, left, hcontent, hleft, rfl⟩ := exists_of_take h
  refine hplace (.modify hle fun found hfound => hput found left ?_)
  obtain rfl := Option.some.inj ((hfind hcontent).symm.trans hfound)
  exact isWithin_of_without hleft

/-- What a removal leaves is within what was there. -/
theorem isWithin_of_apply {removal : Removal} (h : iam.apply removal = .ok after) :
    after.IsWithin iam := by
  cases removal with
  | detachRolePolicy role arn =>
    refine isWithin_of_take Role.IsWithin.refl .of_roles get?_of_role
      (fun content left hleft => ?_) h
    exact ⟨rfl, hleft, .refl _⟩
  | deleteRoleInline role policy =>
    refine isWithin_of_take Role.IsWithin.refl .of_roles get?_of_role
      (fun content left hleft => ?_) h
    exact ⟨rfl, .refl _, hleft⟩
  | deleteRole role =>
    obtain ⟨content, -, h⟩ := exists_of_bind_ok h
    split at h
    · obtain rfl := Except.ok.inj h
      exact .of_roles (.erase Role.IsWithin.refl _ _)
    · simp at h
  | detachGroupPolicy group arn =>
    rw [apply] at h
    cases hgroup : iam.groups.get? group with
    | none => simp [hgroup] at h
    | some attached =>
      rw [hgroup] at h
      obtain ⟨left, hleft, h⟩ := exists_of_bind_ok h
      obtain rfl := Except.ok.inj h
      refine .changeGroup fun found hfound => ?_
      obtain rfl := Option.some.inj (hgroup.symm.trans hfound)
      exact isWithin_of_without hleft
  | deleteVersion arn version =>
    obtain ⟨content, hcontent, h⟩ := exists_of_bind_ok h
    obtain ⟨left, hleft, h⟩ := exists_of_bind_ok h
    obtain rfl := Except.ok.inj h
    refine .of_policies (.modify Policy.IsWithin.refl fun found hfound => ?_)
    obtain rfl := Option.some.inj ((get?_of_policy hcontent).symm.trans hfound)
    exact isWithin_of_withoutVersion hleft
  | deletePolicy arn =>
    obtain ⟨content, -, h⟩ := exists_of_bind_ok h
    split at h
    · obtain rfl := Except.ok.inj h
      exact .of_policies (.erase Policy.IsWithin.refl _ _)
    · simp at h
  | deleteAccessKey user key =>
    refine isWithin_of_take User.IsWithin.refl .of_users get?_of_user
      (fun content left hleft => ?_) h
    exact ⟨id, hleft, .refl _, .refl _, .refl _, .refl _⟩
  | deleteCertificate user certificate =>
    refine isWithin_of_take User.IsWithin.refl .of_users get?_of_user
      (fun content left hleft => ?_) h
    exact ⟨id, .refl _, hleft, .refl _, .refl _, .refl _⟩
  | deleteUserInline user policy =>
    refine isWithin_of_take User.IsWithin.refl .of_users get?_of_user
      (fun content left hleft => ?_) h
    exact ⟨id, .refl _, .refl _, hleft, .refl _, .refl _⟩
  | detachUserPolicy user arn =>
    refine isWithin_of_take User.IsWithin.refl .of_users get?_of_user
      (fun content left hleft => ?_) h
    exact ⟨id, .refl _, .refl _, .refl _, hleft, .refl _⟩
  | leaveGroup user group =>
    refine isWithin_of_take User.IsWithin.refl .of_users get?_of_user
      (fun content left hleft => ?_) h
    exact ⟨id, .refl _, .refl _, .refl _, .refl _, hleft⟩
  | deleteUser user =>
    obtain ⟨content, -, h⟩ := exists_of_bind_ok h
    split at h
    · obtain rfl := Except.ok.inj h
      exact .of_users (.erase User.IsWithin.refl _ _)
    · simp at h

/-! ## Requests -/

theorem isWithin_respond (iam : Iam) (request : Request) :
    (iam.respond request).2.IsWithin iam := by
  cases request with
  | query listing => exact .refl iam
  | remove removal =>
    rw [respond]
    split
    · rename_i happly
      exact isWithin_of_apply happly
    · exact .refl iam
  | deleteLoginProfile user =>
    rw [respond]
    split
    · rename_i happly
      obtain ⟨content, -, h⟩ := exists_of_bind_ok happly
      obtain ⟨-, rfl⟩ := Prod.mk.inj (Except.ok.inj h)
      exact .changeUser fun found _ => ⟨by simp, .refl _, .refl _, .refl _, .refl _, .refl _⟩
    · exact .refl iam

/-- What a request leaves is within what was there, whether it is refused or not. -/
theorem isWithin_serve (request : Request) (service : Journaled Iam Request) :
    (serve request service).2.state.IsWithin service.state := by
  unfold serve
  split
  · exact .refl service.state
  · exact isWithin_respond service.state request

end Iam

end AccountLending
