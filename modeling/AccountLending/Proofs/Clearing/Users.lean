import AccountLending.Proofs.Clearing.Principals

/-!
# How users are removed

Every user of an account loses its login profile and all its dependents, and is then deleted.

* `userPrincipal` — the columns of a user;
* `usersLeft`, `usersDeeds` — what is left of the users, and what is done;
* `does_removeUsers` — the run.
-/

namespace AccountLending.Lending

open Iam (Query Removal)

/-! ## One user -/

/-- The access keys of a user. -/
def userKeys (user : String) : Column Iam.User where
  dependents := (userDependents user).get ⟨0, by simp [userDependents]⟩
  target key := ⟨.accessKey, user ++ "/" ++ key, .deleteAccessKey user key⟩
  names := (·.keys)
  set names content := { content with keys := names }

/-- The signing certificates of a user. -/
def userCertificates (user : String) : Column Iam.User where
  dependents := (userDependents user).get ⟨1, by simp [userDependents]⟩
  target certificate :=
    ⟨.signingCertificate, user ++ "/" ++ certificate, .deleteCertificate user certificate⟩
  names := (·.certificates)
  set names content := { content with certificates := names }

/-- The policies written into a user. -/
def userInline (user : String) : Column Iam.User where
  dependents := (userDependents user).get ⟨2, by simp [userDependents]⟩
  target policy := ⟨.userInlinePolicy, user ++ "/" ++ policy, .deleteUserInline user policy⟩
  names := (·.inline)
  set names content := { content with inline := names }

/-- The managed policies attached to a user. -/
def userAttached (user : String) : Column Iam.User where
  dependents := (userDependents user).get ⟨3, by simp [userDependents]⟩
  target arn :=
    ⟨.userPolicyAttachment, user ++ "/" ++ Text.afterLast '/' arn, .detachUserPolicy user arn⟩
  names := (·.attached)
  set names content := { content with attached := names }

/-- The groups that a user belongs to. -/
def userGroups (user : String) : Column Iam.User where
  dependents := (userDependents user).get ⟨4, by simp [userDependents]⟩
  target group := ⟨.groupMembership, user ++ "/" ++ group, .leaveGroup user group⟩
  names := (·.groups)
  set names content := { content with groups := names }

/-- A user as a principal. -/
def userPrincipal (user : String) : Principal Iam.User where
  columns :=
    [userKeys user, userCertificates user, userInline user, userAttached user, userGroups user]
  target := ⟨.user, user, .deleteUser user⟩
  isBare content := content.isBare
  inUse := .inUse ("user " ++ user)

/-- An account with a user of a content, or without it. -/
def placeUser (iam : Iam) (user : String) (content : Option Iam.User) : Iam :=
  { iam with users := iam.users.put user content }

variable {iam : Iam}

theorem user_placeUser (user : String) (content : Iam.User) :
    (placeUser iam user (some content)).user user = .ok content := by
  simp [placeUser, Iam.user]

theorem changeUser_placeUser (user : String) (content : Iam.User) (f : Iam.User → Iam.User) :
    (placeUser iam user (some content)).changeUser user f =
      placeUser iam user (some (f content)) := by
  simp [placeUser, Iam.changeUser]

/-- A column holds when the account lists its names, and removes them as from a set. -/
theorem column_holds {user : String} {column : Column Iam.User} (what : String)
    (answer : Iam.User → column.dependents.query.Answer)
    (hnames_set : ∀ names x, column.names (column.set names x) = names)
    (hset_names : ∀ x, column.set (column.names x) x = x)
    (hset_set : ∀ names others x, column.set names (column.set others x) = column.set names x)
    (hanswer : ∀ x, (placeUser iam user (some x)).answer column.dependents.query = .ok (answer x))
    (htargets : ∀ x, column.dependents.targets (answer x) = (column.names x).keys.map column.target)
    (hremoved : ∀ x name, (placeUser iam user (some x)).apply (column.target name).removal = do
      let names ← Iam.without (column.names x) name what
      return placeUser iam user (some (column.set names x))) :
    column.Holds fun x => placeUser iam user (some x) where
  names_set := hnames_set
  set_names := hset_names
  set_set := hset_set
  listed x := ⟨answer x, hanswer x, htargets x⟩
  removed x name hname := by
    rw [hremoved, Iam.without, if_pos hname]
    rfl

theorem userPrincipal_holds (iam : Iam) (user : String) :
    (userPrincipal user).Holds (placeUser iam user) where
  columns column hcolumn := by
    have hpolicies : ∀ names : NameSet, (Iam.attachedPolicies names).map (fun policy =>
        (⟨.userPolicyAttachment, user ++ "/" ++ policy.name, .detachUserPolicy user policy.arn⟩ :
          Target)) = names.keys.map (userAttached user).target := by
      intro names
      rw [Iam.attachedPolicies, List.map_map]
      rfl
    simp only [userPrincipal, List.mem_cons, List.not_mem_nil, or_false] at hcolumn
    -- for each column: the account lists its names, and removes one of them like a set does
    rcases hcolumn with rfl | rfl | rfl | rfl | rfl
    · refine column_holds "access key" (fun x => x.keys.keys) (fun _ _ => rfl)
        (fun _ => rfl) (fun _ _ _ => rfl) (fun x => ?_) (fun x => rfl) fun x name => ?_
      · simp only [userKeys, userDependents, List.get]
        simp [Iam.answer, user_placeUser, bind, Except.bind, pure, Except.pure]
      · simp [Iam.apply, userKeys, user_placeUser, changeUser_placeUser, bind, Except.bind, pure,
          Except.pure]
    · refine column_holds "certificate" (fun x => x.certificates.keys) (fun _ _ => rfl)
        (fun _ => rfl) (fun _ _ _ => rfl) (fun x => ?_) (fun x => rfl) fun x name => ?_
      · simp only [userCertificates, userDependents, List.get]
        simp [Iam.answer, user_placeUser, bind, Except.bind, pure, Except.pure]
      · simp [Iam.apply, userCertificates, user_placeUser, changeUser_placeUser, bind,
          Except.bind, pure, Except.pure]
    · refine column_holds "inline policy" (fun x => x.inline.keys) (fun _ _ => rfl)
        (fun _ => rfl) (fun _ _ _ => rfl) (fun x => ?_) (fun x => rfl) fun x name => ?_
      · simp only [userInline, userDependents, List.get]
        simp [Iam.answer, user_placeUser, bind, Except.bind, pure, Except.pure]
      · simp [Iam.apply, userInline, user_placeUser, changeUser_placeUser, bind, Except.bind, pure,
          Except.pure]
    · refine column_holds "attachment" (fun x => Iam.attachedPolicies x.attached)
        (fun _ _ => rfl) (fun _ => rfl) (fun _ _ _ => rfl) (fun x => ?_)
        (fun x => hpolicies x.attached) fun x name => ?_
      · simp only [userAttached, userDependents, List.get]
        simp [Iam.answer, user_placeUser, bind, Except.bind, pure, Except.pure]
      · simp [Iam.apply, userAttached, user_placeUser, changeUser_placeUser, bind,
          Except.bind, pure, Except.pure]
    · refine column_holds "group membership" (fun x => x.groups.keys) (fun _ _ => rfl)
        (fun _ => rfl) (fun _ _ _ => rfl) (fun x => ?_) (fun x => rfl) fun x name => ?_
      · simp only [userGroups, userDependents, List.get]
        simp [Iam.answer, user_placeUser, bind, Except.bind, pure, Except.pure]
      · simp [Iam.apply, userGroups, user_placeUser, changeUser_placeUser, bind, Except.bind, pure,
          Except.pure]
  deleted x := by
    show (placeUser iam user (some x)).apply (.deleteUser user) = _
    simp only [Iam.apply, user_placeUser, bind, Except.bind, pure, Except.pure]
    simp only [userPrincipal, placeUser, Dict.erase_put]
    rfl

variable {failing : NameSet} {site : Site}

/-- What is left of a user of its login profile. -/
def profileLeft (failing : NameSet) (user : String) (content : Iam.User) : Iam.User :=
  { content with hasProfile := content.hasProfile && refused failing (.deleteLoginProfile user) }

/-- The reply to the deletion of the login profile of a user. -/
def profileDeletion (failing : NameSet) (user : String) (content : Iam.User) :
    Except ServiceError Bool :=
  if refused failing (.deleteLoginProfile user) then .error (refusal (.deleteLoginProfile user))
  else .ok content.hasProfile

/-- What is left of a user. -/
def userLeft (failing : NameSet) (user : String) (content : Iam.User) : Option Iam.User :=
  (userPrincipal user).left failing (profileLeft failing user content)

/-- What is done to a user. -/
def userDeeds (failing : NameSet) (user : String) (content : Iam.User) : List Deed :=
  .profiled user (profileDeletion failing user content) ::
    (userPrincipal user).deeds failing (profileLeft failing user content)

theorem placeUser_get? (iam : Iam) (user : String) :
    placeUser iam user (iam.users.get? user) = iam := by
  rw [placeUser, Dict.put_get?]

theorem leads_deleteProfile (failing : NameSet) (iam : Iam) (site : Site) (user : String)
    (content : Iam.User) :
    Leads failing (Engine.iam site.session (.deleteLoginProfile user))
      (placeUser iam user (some content))
      (profileDeletion failing user content) [.deleteLoginProfile user]
      (placeUser iam user (some (profileLeft failing user content))) := by
  unfold profileDeletion profileLeft
  cases hrefused : refused failing (.deleteLoginProfile user) with
  | true =>
    rw [if_pos rfl, Bool.and_true]
    exact leads_iam_refused hrefused
  | false =>
    have hreply := leads_iam site.session (placeUser iam user (some content)) hrefused
    simpa [Iam.respond, Iam.dropProfile, user_placeUser, changeUser_placeUser, bind,
      Except.bind, pure, Except.pure] using hreply

theorem does_removeUser (iam : Iam) {user : String} {content : Iam.User}
    (h : iam.users.get? user = some content) :
    Does failing (removeUser site user) iam (userDeeds failing user content)
      (placeUser iam user (userLeft failing user content)) := by
  have hprofile :=
    leads_deleteProfile failing iam site user content
  rw [← h, placeUser_get?] at hprofile
  -- the login profile goes first, whatever becomes of it
  have hremove := Principal.does failing site (userPrincipal_holds iam user)
    (profileLeft failing user content)
  refine Leads.bind_of_eq hprofile ?_ rfl
  refine Leads.bind_of_eq (leads_note site _) ?_ rfl
  exact Leads.bind_of_eq hremove (leads_done _) (List.append_nil _).symm

/-! ## All users -/

/-- What is left of the users. -/
def usersLeft (failing : NameSet) (users : Dict Iam.User) : Dict Iam.User :=
  if refused failing (.query .users) then users else users.filterMap (userLeft failing)

/-- What is done to the users. -/
def usersDeeds (failing : NameSet) (users : Dict Iam.User) : List Deed :=
  if refused failing (.query .users) then [.unlisted .users "users"]
  else .listed .users :: users.entries.flatMap fun e => userDeeds failing e.1 e.2

theorem does_removeUsers :
    Does failing (removeUsers site) iam (usersDeeds failing iam.users)
      { iam with users := usersLeft failing iam.users } := by
  unfold removeUsers usersDeeds usersLeft
  cases hrefused : refused failing (.query .users) with
  | true =>
    refine Leads.bind_of_eq (leads_iam_refused hrefused) ?_ rfl
    exact leads_note site _
  | false =>
    have husers :=
      does_forEach_entries failing iam.users (fun users => { iam with users }) (fun _ => true)
        Prod.fst (removeUser site) (fun e => userDeeds failing e.1 e.2) (userLeft failing)
        fun now user content _ hnow _ => does_removeUser { iam with users := now } hnow
    simp only [List.filter_true, if_true] at husers
    exact Leads.bind_of_eq (leads_query hrefused rfl) husers rfl

end AccountLending.Lending
