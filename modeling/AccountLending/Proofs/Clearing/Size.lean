import Mathlib.Algebra.Order.Ring.Nat
import AccountLending.Proofs.Clearing.Emptied
import AccountLending.Proofs.Clearing.Removing

/-!
# How much an account holds

Everything that a request can take from an account is counted: roles, policies and users, the
versions of a policy but for the default one, and whatever is attached to, written into or given to
a role, a user or a group.  A request that is granted takes exactly one of these, and nothing else
changes the count.

* `Iam.size` — how much there is in an account;
* `Iam.Takes` — what a granted removal does: it takes one thing from one role, policy, user or
  group;
* `Iam.Request.taken` — how much a request took, by the reply to it;
* `Iam.size_serve` — the count after a request, refused or not.
-/

namespace AccountLending

/-! ## Sums over a dictionary -/

namespace Dict

variable {α : Type} {d : Dict α} {name : String} {value : α}

/-- The sum of a quantity over the values of a dictionary. -/
def total (f : α → Nat) (d : Dict α) : Nat := (d.entries.map fun e => f e.2).sum

/-- The entry of a name stands between entries of other names. -/
theorem exists_entries_eq (h : d.get? name = some value) :
    ∃ before after, d.entries = before ++ (name, value) :: after ∧
      ∀ e ∈ before ++ after, e.1 ≠ name := by
  obtain ⟨before, after, hentries⟩ := List.append_of_mem ((mem_entries_iff d name value).2 h)
  refine ⟨before, after, hentries, fun e he heq => ?_⟩
  have hnodup := nodup_keys d
  rw [keys, hentries, List.map_append, List.map_cons, List.nodup_middle, ← List.map_append]
    at hnodup
  exact hnodup.notMem (List.mem_map.2 ⟨e, he, heq⟩)

/-- Forgetting a name takes its value from a sum. -/
theorem total_erase (f : α → Nat) (h : d.get? name = some value) :
    (d.erase name).total f + f value = d.total f := by
  obtain ⟨before, after, hentries, hothers⟩ := exists_entries_eq h
  obtain ⟨hbefore, hafter⟩ := List.forall_mem_append.1 hothers
  have herased : (d.erase name).entries = before ++ after := by
    show d.entries.filter (fun e => e.1 ≠ name) = _
    rw [hentries, List.filter_append, List.filter_cons_of_neg (by simp),
      List.filter_eq_self.2 (by simpa using hbefore), List.filter_eq_self.2 (by simpa using hafter)]
  rw [total, total, herased, hentries]
  simp only [List.map_append, List.map_cons, List.sum_append, List.sum_cons]
  omega

/-- Storing a value under a name exchanges the one in the sum for the other. -/
theorem total_put (f : α → Nat) (h : d.get? name = some value) (left : Option α) :
    (d.put name left).total f + f value = d.total f + left.elim 0 f := by
  cases left with
  | none => exact total_erase f h
  | some x =>
    -- both dictionaries are the same without the name
    have hrest : (d.put name (some x)).erase name = d.erase name := by rw [erase_put]; rfl
    have hnew := total_erase f (get?_put_self d name (some x))
    have hold := total_erase f h
    rw [hrest] at hnew
    simp only [Option.elim_some]
    omega

/-- Forgetting a name of a dictionary leaves one name less. -/
theorem size_erase (h : d.get? name = some value) : (d.erase name).size + 1 = d.size := by
  have hsize : ∀ e : Dict α, e.size = e.total fun _ => 1 := fun e => by simp [size, total]
  rw [hsize, hsize]
  exact total_erase _ h

end Dict

namespace Iam

/-! ## What is counted -/

/-- A role with what is attached to it and written into it. -/
def Role.size (role : Role) : Nat := 1 + role.attached.size + role.inline.size

/-- A policy with its versions, but for the default one. -/
def Policy.size (policy : Policy) : Nat := 1 + policy.versions.countP (!·.isDefault)

/-- A user with all that it has. -/
def User.size (user : User) : Nat :=
  1 + user.hasProfile.toNat + user.keys.size + user.certificates.size + user.inline.size
    + user.attached.size + user.groups.size

/-- How much there is in an account.  Of groups only the attachments are counted, since no request
deletes a group. -/
def size (iam : Iam) : Nat :=
  iam.roles.total Role.size + iam.policies.total Policy.size + iam.users.total User.size
    + iam.groups.total Dict.size

/-! ## Taking one thing away -/

/-- One thing is taken from an account: a part of a role, policy, user or group, or the whole of it
when it has no other parts. -/
inductive Takes (iam : Iam) : Iam → Prop
  | role {name : String} {content : Role} (left : Option Role)
    (h : iam.roles.get? name = some content)
    (hleft : left.elim 0 Role.size + 1 = content.size) :
    Takes iam { iam with roles := iam.roles.put name left }
  | policy {arn : String} {content : Policy} (left : Option Policy)
    (h : iam.policies.get? arn = some content)
    (hleft : left.elim 0 Policy.size + 1 = content.size)
    (hsound : ∀ policy ∈ left, policy.IsSound) :
    Takes iam { iam with policies := iam.policies.put arn left }
  | user {name : String} {content : User} (left : Option User)
    (h : iam.users.get? name = some content)
    (hleft : left.elim 0 User.size + 1 = content.size) :
    Takes iam { iam with users := iam.users.put name left }
  | group {name : String} {attached : NameSet} (left : NameSet)
    (h : iam.groups.get? name = some attached)
    (hleft : left.size + 1 = attached.size) :
    Takes iam { iam with groups := iam.groups.put name (some left) }

variable {iam after : Iam}

theorem Takes.size (h : iam.Takes after) : after.size + 1 = iam.size := by
  cases h with
  | role left h hleft =>
    have htotal := Dict.total_put Role.size h left
    simp only [Iam.size]
    omega
  | policy left h hleft _ =>
    have htotal := Dict.total_put Policy.size h left
    simp only [Iam.size]
    omega
  | user left h hleft =>
    have htotal := Dict.total_put User.size h left
    simp only [Iam.size]
    omega
  | group left h hleft =>
    have htotal := Dict.total_put Dict.size h (some left)
    simp only [Iam.size, Option.elim_some] at htotal ⊢
    omega

theorem Takes.isSound (h : iam.Takes after) (hiam : iam.IsSound) : after.IsSound := by
  cases h with
  | role => exact hiam
  | user => exact hiam
  | group => exact hiam
  | @policy arn _ left _ _ hsound =>
    intro other policy hother
    rw [Dict.get?_put] at hother
    split at hother
    · exact hsound policy hother
    · exact hiam other policy hother

/-! ## Removals -/

theorem size_of_without {names left : NameSet} {name what : String}
    (h : without names name what = .ok left) : left.size + 1 = names.size := by
  unfold without at h
  split at h
  · rename_i hname
    obtain ⟨_, hfound⟩ := Option.isSome_iff_exists.1 hname
    rw [← Except.ok.inj h]
    exact Dict.size_erase hfound
  · simp at h

/-- A version that is not the default one is taken from a policy. -/
theorem takes_of_withoutVersion {content left : Policy} {arn version : String}
    (h : withoutVersion content arn version = .ok left) :
    left.size + 1 = content.size ∧ (content.IsSound → left.IsSound) := by
  unfold withoutVersion at h
  split at h
  · simp at h
  rename_i found hfound
  split at h
  · simp at h
  rename_i hold
  obtain ⟨hid, before, after, hversions, hbefore⟩ := List.find?_eq_some_iff_append.1 hfound
  have herased : content.versions.eraseP (·.id = version) = before ++ after := by
    rw [hversions,
      List.eraseP_append_right _ (fun other hother => by simpa using hbefore other hother),
      List.eraseP_cons, hid, cond_true]
  have hcount : ∀ p : VersionSummary → Bool, content.versions.countP p =
      (content.versions.eraseP (·.id = version)).countP p + if p found then 1 else 0 := by
    intro p
    rw [herased, hversions, List.countP_append, List.countP_append, List.countP_cons, Nat.add_assoc]
  rw [← Except.ok.inj h]
  constructor
  · simp only [Policy.size, hcount (!·.isDefault), hold]
    rfl
  · intro hsound
    constructor
    · exact hsound.ids.sublist (List.eraseP_sublist.map _)
    · rw [← hsound.default, hcount (·.isDefault), if_neg hold, Nat.add_zero]

/-- Taking a name away from one of the sets of a value, in whatever dictionary the value is. -/
theorem takes_of_take {α : Type} (place : Dict α → Iam) {d : Dict α} {size : α → Nat}
    {find : Except ServiceError.Reason α} {key name what : String} {get : α → NameSet}
    {put : NameSet → α → α}
    (hplace : ∀ {content} (left : Option α), d.get? key = some content →
      left.elim 0 size + 1 = size content → iam.Takes (place (d.put key left)))
    (hfind : ∀ {content}, find = .ok content → d.get? key = some content)
    (hput : ∀ content left, left.size + 1 = (get content).size →
      size (put left content) + 1 = size content)
    (h : (do
      let left ← without (get (← find)) name what
      return place (d.modify key (put left))) = .ok after) : iam.Takes after := by
  obtain ⟨content, left, hcontent, hleft, rfl⟩ := exists_of_take h
  have hfound := hfind hcontent
  rw [Dict.modify_of_get? hfound]
  exact hplace (some _) hfound (hput content left (size_of_without hleft))

theorem size_of_isEmpty {α : Type} {d : Dict α} (h : d.isEmpty = true) : d.size = 0 := by
  rw [Dict.isEmpty, List.isEmpty_iff] at h
  rw [Dict.size, h, List.length_nil]

/-- A removal that is done takes one thing away. -/
theorem takes_of_apply {removal : Removal} (hsound : iam.IsSound)
    (h : iam.apply removal = .ok after) : iam.Takes after := by
  cases removal with
  | detachRolePolicy _ _ | deleteRoleInline _ _ =>
    refine takes_of_take (fun roles => { iam with roles }) .role get?_of_role
      (fun content left hleft => ?_) h
    simp only [Role.size]
    omega
  | deleteRole role =>
    obtain ⟨content, hcontent, h⟩ := exists_of_bind_ok h
    split at h
    · rename_i hbare
      obtain ⟨hattached, hinline⟩ := (Bool.and_eq_true _ _).mp hbare
      rw [← Except.ok.inj h]
      refine .role none (get?_of_role hcontent) ?_
      simp [Role.size, size_of_isEmpty hattached, size_of_isEmpty hinline]
    · simp at h
  | detachGroupPolicy group arn =>
    rw [apply] at h
    cases hgroup : iam.groups.get? group with
    | none => simp [hgroup] at h
    | some attached =>
      rw [hgroup] at h
      obtain ⟨left, hleft, h⟩ := exists_of_bind_ok h
      rw [← Except.ok.inj h, changeGroup, Dict.modify_of_get? hgroup]
      exact .group left hgroup (size_of_without hleft)
  | deleteVersion arn version =>
    obtain ⟨content, hcontent, h⟩ := exists_of_bind_ok h
    obtain ⟨left, hleft, h⟩ := exists_of_bind_ok h
    have hfound := get?_of_policy hcontent
    obtain ⟨hsize, hkeeps⟩ := takes_of_withoutVersion hleft
    rw [← Except.ok.inj h, Dict.modify_of_get? hfound]
    refine .policy (some left) hfound hsize fun policy hpolicy => ?_
    exact Option.some.inj hpolicy ▸ hkeeps (hsound arn content hfound)
  | deletePolicy arn =>
    obtain ⟨content, hcontent, h⟩ := exists_of_bind_ok h
    split at h
    · rename_i hbare
      have hfound := get?_of_policy hcontent
      -- one version is left, and that is the default one
      have hone : content.versions.length ≤ 1 := by simpa using ((Bool.and_eq_true _ _).mp hbare).1
      have hlength := content.versions.length_eq_countP_add_countP (·.isDefault)
      have hdefault := (hsound arn content hfound).default
      rw [← Except.ok.inj h]
      refine .policy none hfound ?_ (by simp)
      simp only [Option.elim_none, Policy.size, Bool.not_eq_true, Bool.decide_eq_false] at hlength ⊢
      omega
    · simp at h
  | deleteAccessKey _ _ | deleteCertificate _ _ | deleteUserInline _ _ | detachUserPolicy _ _
  | leaveGroup _ _ =>
    refine takes_of_take (fun users => { iam with users }) .user get?_of_user
      (fun content left hleft => ?_) h
    simp only [User.size]
    omega
  | deleteUser user =>
    obtain ⟨content, hcontent, h⟩ := exists_of_bind_ok h
    split at h
    · rename_i hbare
      rw [← Except.ok.inj h]
      refine .user none (get?_of_user hcontent) ?_
      simp only [User.isBare, Bool.and_eq_true, Bool.not_eq_true'] at hbare
      obtain ⟨⟨⟨⟨⟨hprofile, hkeys⟩, hcertificates⟩, hinline⟩, hattached⟩, hgroups⟩ :=
        hbare
      simp [User.size, hprofile, size_of_isEmpty hkeys, size_of_isEmpty hcertificates,
        size_of_isEmpty hinline, size_of_isEmpty hattached, size_of_isEmpty hgroups]
    · simp at h

/-- Deleting a login profile takes it away if there is one, and nothing otherwise. -/
theorem takes_of_dropProfile {user : String} {had : Bool}
    (h : iam.dropProfile user = .ok (had, after)) :
    if had then iam.Takes after else after = iam := by
  obtain ⟨content, hcontent, h⟩ := exists_of_bind_ok h
  obtain ⟨rfl, rfl⟩ := Prod.mk.inj (Except.ok.inj h)
  have hfound := get?_of_user hcontent
  rw [changeUser, Dict.modify_of_get? hfound]
  cases hprofile : content.hasProfile with
  | true => exact .user _ hfound (by simp [User.size, hprofile]; omega)
  | false =>
    have hsame : ({ content with hasProfile := false } : User) = content := by rw [← hprofile]
    simp only [Bool.false_eq_true, if_false, hsame, ← hfound, Dict.put_get?]

/-! ## Requests -/

/-- How much a request took away, by the reply to it. -/
def Request.taken : (request : Request) → Except ServiceError request.Answer → Nat
  | .query _, _ => 0
  | .remove _, reply => if reply.isOk then 1 else 0
  | .deleteLoginProfile _, reply => if reply.toOption = some true then 1 else 0

/-- What a request took, according to the reply to it, is just what the account has lost. -/
theorem size_serve (request : Request) {service : Journaled Iam Request}
    (hsound : service.state.IsSound) :
    (serve request service).2.state.size + request.taken (serve request service).1 =
      service.state.size ∧ (serve request service).2.state.IsSound := by
  unfold serve
  split
  · cases request <;> exact ⟨rfl, hsound⟩
  cases request with
  | query query => exact ⟨rfl, hsound⟩
  | remove removal =>
    simp only [respond]
    cases happly : service.state.apply removal with
    | error reason => exact ⟨rfl, hsound⟩
    | ok after =>
      have htakes := takes_of_apply hsound happly
      exact ⟨htakes.size, htakes.isSound hsound⟩
  | deleteLoginProfile user =>
    simp only [respond]
    cases hdrop : service.state.dropProfile user with
    | error reason => exact ⟨rfl, hsound⟩
    | ok dropped =>
      obtain ⟨had, after⟩ := dropped
      have htakes := takes_of_dropProfile hdrop
      cases had with
      | true => exact ⟨htakes.size, htakes.isSound hsound⟩
      | false =>
        obtain rfl := htakes
        exact ⟨rfl, hsound⟩

end Iam

end AccountLending
