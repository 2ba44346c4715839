import AccountLending.Proofs.Ownership
import AccountLending.Proofs.Reclamation.Alone

/-!
# Plans under a lagging index

The index of tagged resources sees the tags of the members at once, but may have further resources:
accounts that belong to somebody else by now, accounts that are no members, the same account twice,
and resources that are no accounts.  What a plan has is decided by the tags of the members, and the
index only decides what is checked, and in which order.

* `Organization.yielded` — the account numbers that the index gives for a user, in the order of the
  index;
* `isOffending` — what makes an account of the index end the checks;
* `Reclaimer.perform_check_user` — the first offending account decides how the checks end;
* `plannedFor_eq` — the accounts that are planned are those that have the user as their owner;
* `World.plan_exact` — when a plan is made, what it has, and which account a failure names.
-/

namespace AccountLending

open Lending

/-- The account numbers that the index of tagged resources gives for a user, in the order of the
index. -/
def Organization.yielded (organization : Organization) (user : String) : List String :=
  (organization.resourcesWith Tags.ownerKey user).filterMap AccountId.ofArn?

namespace Lending

open World

variable {reclaimer : Reclaimer} {organization : Organization} {caller user account : String}
variable {accounts found arns : List String} {member : Member} {world : World}

/-! ## The index -/

theorem numbersAmong_append (found arns more : List String) :
    numbersAmong found (arns ++ more) = numbersAmong (numbersAmong found arns) more := by
  induction arns generalizing found with
  | nil => rfl
  | cons arn rest ih =>
    rw [List.cons_append, numbersAmong, numbersAmong]
    cases AccountId.ofArn? arn with
    | some account => exact ih _
    | none => exact ih found

/-- That every account is listed once makes no difference to the first one of a kind. -/
theorem find?_numbersAmong (p : String → Bool) (found arns : List String) :
    (numbersAmong found arns).find? p =
      (found.find? p).or ((arns.filterMap AccountId.ofArn?).find? p) := by
  induction arns generalizing found with
  | nil => exact (Option.or_none ..).symm
  | cons arn rest ih =>
    rw [numbersAmong]
    cases harn : AccountId.ofArn? arn with
    | none =>
      rw [List.filterMap_cons_none harn]
      exact ih found
    | some account =>
      rw [List.filterMap_cons_some harn]
      dsimp only
      rw [ih, List.find?_cons]
      split
      · rename_i hfound
        cases hp : p account with
        | false => rfl
        | true =>
          -- an account that was found before it is of the kind as well
          have hsome : (found.find? p).isSome := List.find?_isSome.2 ⟨account, hfound, hp⟩
          rw [Option.or_of_isSome hsome, Option.or_of_isSome hsome]
      · rw [List.find?_append, Option.or_assoc, List.find?_singleton]
        cases p account <;> simp

theorem find?_indexed (organization : Organization) (user : String) (p : String → Bool) :
    (organization.indexed user).find? p = (organization.yielded user).find? p := by
  rw [Organization.indexed, find?_numbersAmong, List.find?_nil, Option.none_or,
    Organization.yielded]

theorem mem_yielded_iff :
    account ∈ organization.yielded user ↔ account ∈ organization.indexed user := by
  rw [Organization.mem_indexed_iff, Organization.yielded, List.mem_filterMap]

/-- Accounts of a kind that were all found before are found once. -/
theorem filter_numbersAmong {p : String → Bool}
    (h : ∀ arn ∈ arns, ∀ account, AccountId.ofArn? arn = some account → p account = true →
      account ∈ found) :
    (numbersAmong found arns).filter p = found.filter p := by
  induction arns generalizing found with
  | nil => rfl
  | cons arn rest ih =>
    obtain ⟨hfirst, hrest⟩ := List.forall_mem_cons.1 h
    rw [numbersAmong]
    cases harn : AccountId.ofArn? arn with
    | none => exact ih hrest
    | some account =>
      dsimp only
      split
      · exact ih hrest
      · rename_i hnew
        rw [ih fun other hother number hnumber hp => List.mem_append_left
          _ (hrest other hother number hnumber hp), List.filter_append, List.filter_singleton]
        cases hp : p account with
        | false => exact List.append_nil _
        | true => exact absurd (hfirst account harn hp) hnew

theorem mem_ownedAmong_of_tags (h : (organization.tags account).owner? = some user) :
    account ∈ ownedAmong organization.members user := by
  cases hmember : organization.find? account with
  | none =>
    rw [Organization.tags, hmember] at h
    exact absurd h (by simp [Tags.owner?])
  | some member =>
    rw [Organization.tags_of_find? hmember] at h
    exact mem_ownedAmong_iff.2 ⟨member, List.mem_of_find?_eq_some hmember, h,
      by simpa using List.find?_some hmember⟩

/-- The accounts that are planned for a user are those that have it as their owner, each once and in
the order of the members, whatever else the index has. -/
theorem plannedFor_eq (hdistinct : organization.IsDistinct)
    (hvalid : ∀ member ∈ organization.members, AccountId.isValid member.account.id = true)
    (user : String) :
    plannedFor organization user = (ownedAmong organization.members user).map fun account =>
      ⟨account, some user⟩ := by
  have howner : ∀ account ∈ ownedAmong organization.members user,
      (organization.tags account).owner? = some user := by
    intro account haccount
    obtain ⟨member, hmember, howner, rfl⟩ := mem_ownedAmong_iff.1 haccount
    rwa [Organization.tags_of_find? (Organization.find?_of_mem hdistinct hmember)]
  have hresources : organization.resourcesWith Tags.ownerKey user =
      (ownedAmong organization.members user).map AccountId.arn ++
        (organization.resources.filter (·.tags.get? Tags.ownerKey = some user)).map (·.arn) := by
    rw [Organization.resourcesWith, ownedAmong, List.map_map]
    rfl
  have hmembers : numbersAmong [] ((ownedAmong organization.members user).map AccountId.arn) =
      ownedAmong organization.members user := by
    refine numbersAmong_arns (hdistinct.sublist (sublist_ownedAmong _ _)) fun account haccount => ?_
    obtain ⟨member, hmember, -, rfl⟩ := mem_ownedAmong_iff.1 haccount
    exact hvalid member hmember
  rw [plannedFor, Organization.indexed, hresources, numbersAmong_append, hmembers,
    filter_numbersAmong, List.filter_eq_self.2 fun account haccount =>
      decide_eq_true (howner account haccount)]
  exact fun _ _ account _ hp => mem_ownedAmong_of_tags (of_decide_eq_true hp)

/-! ## The checks -/

/-- An account of the index ends the checks when it is the caller's, when it is no member, or when
it is the user's and stands outside the pool. -/
def isOffending (reclaimer : Reclaimer) (caller user : String) (organization : Organization)
    (account : String) : Bool :=
  account = caller || match organization.find? account with
    | none => true
    | some member => member.tags.owner? = some user &&
      !(member.parent = reclaimer.payer.root || member.parent = reclaimer.payer.claimed)

theorem isOffending_eq_false_iff : isOffending reclaimer caller user organization account = false ↔
    IsChecked reclaimer caller user organization account := by
  unfold isOffending
  constructor
  · intro h
    rw [Bool.or_eq_false_iff, decide_eq_false_iff_not] at h
    obtain ⟨hother, h⟩ := h
    cases hmember : organization.find? account with
    | none => simp [hmember] at h
    | some member =>
      refine ⟨hother, member, hmember, fun howner => ?_⟩
      simpa [hmember, howner, or_iff_not_imp_left] using h
  · rintro ⟨hother, member, hmember, hpool⟩
    simpa [hother, hmember, or_iff_not_imp_left] using hpool

/-- The failure with which an offending account ends the checks. -/
def offence (caller : String) (organization : Organization) (account : String) : PoolError :=
  if account = caller then .payerAccountTarget account
  else match organization.find? account with
    | none => .service ⟨.organizations, .noAccount account⟩
    | some member => .notInPool account member.parent

/-- A request that the organization cannot answer fails for its reason. -/
theorem exists_perform_organization_error (hanswers : world.OrganizationAnswers)
    {request : Organization.Request} {reason : ServiceError.Reason}
    (hanswer : (world.cloud.organization.state.answer request).1 = .error reason) :
    ∃ after, world.perform (Action.organization request) =
      (.error (.service ⟨.organizations, reason⟩), after) := by
  have hserve : (Organization.serve request world.cloud.organization).1 =
      .error ⟨.organizations, reason⟩ := by
    simp only [Organization.serve, hanswers request, Bool.false_eq_true, if_false, hanswer]
    rfl
  have hreply : (Cloud.serve (.organization request) world.cloud).1 =
      .error ⟨.organizations, reason⟩ := hserve
  refine ⟨_, (perform_cloud _ _).trans (Prod.ext ?_ rfl)⟩
  show (Cloud.serve (.organization request) world.cloud).1.mapError PoolError.service = _
  rw [hreply]
  rfl

theorem exists_perform_readClaim_error (hanswers : world.OrganizationAnswers)
    (hmember : world.cloud.organization.state.find? account = none) :
    ∃ after, world.perform (readClaim account) =
      (.error (.service ⟨.organizations, .noAccount account⟩), after) := by
  have hanswer : (world.cloud.organization.state.answer (.listTags account)).1 =
      .error (.noAccount account) := by
    simp [Organization.answer, Organization.fromMember, hmember]
  obtain ⟨after, hread⟩ := exists_perform_organization_error hanswers hanswer
  exact ⟨after, perform_bind_error hread _⟩

namespace Reclaimer

/-- The place of a member outside the pool is refused. -/
theorem exists_perform_poolParent_error (reclaimer : Reclaimer)
    (hanswers : world.OrganizationAnswers)
    (hmember : world.cloud.organization.state.find? account = some member)
    (hpool : ¬ (member.parent = reclaimer.payer.root ∨ member.parent = reclaimer.payer.claimed)) :
    ∃ after, world.perform (reclaimer.poolParent account) =
      (.error (.notInPool account member.parent), after) := by
  have hanswer :
      (world.cloud.organization.state.answer (.parentOf account)).1 = .ok member.parent := by
    simp [Organization.answer, Organization.fromMember, hmember]
  have hplace := perform_organization (hanswers _) hanswer
  refine ⟨(world.perform (reclaimer.poolParent account)).2, Prod.ext ?_ rfl⟩
  rw [poolParent, perform_bind_ok hplace, if_neg hpool, perform_throw]

/-- An offending account ends the checks. -/
theorem perform_check_of_isOffending (hanswers : world.OrganizationAnswers)
    (hunprotected : reclaimer.settings.isProtectedOwner user = false)
    (hoffending : isOffending reclaimer caller user world.cloud.organization.state account = true)
    (rest : List String) :
    (world.perform (reclaimer.check caller (some user) (account :: rest))).1 =
      .error (offence caller world.cloud.organization.state account) := by
  rw [check, offence]
  split
  · rfl
  rename_i hother
  cases hmember : world.cloud.organization.state.find? account with
  | none =>
    obtain ⟨after, hread⟩ := exists_perform_readClaim_error hanswers hmember
    rw [perform_bind_error hread]
  | some member =>
    simp only [isOffending, hmember, hother, decide_false, Bool.false_or, Bool.and_eq_true,
      decide_eq_true_eq, Bool.not_eq_true', Bool.or_eq_false_iff, decide_eq_false_iff_not]
        at hoffending
    obtain ⟨howner, hroot, hclaimed⟩ := hoffending
    obtain ⟨read, hclaim, hread⟩ := exists_perform_readClaim hanswers hmember
    have howned : (Claim.ofTags member.tags).owner? = some user :=
      (Claim.owner?_ofTags member.tags).trans howner
    have hpassed : read.perform (reclaimer.checkOwner account (Claim.ofTags member.tags).owner?) =
        (.ok (), read) := by
      rw [howned, checkOwner, hunprotected]
      rfl
    obtain ⟨placed, hplaced⟩ := exists_perform_poolParent_error reclaimer
      (hanswers.of_hasOnlyRead hread) (hread.cloud.state ▸ hmember) (not_or.2 ⟨hroot, hclaimed⟩)
    rw [perform_bind_ok hclaim]
    dsimp only
    rw [if_pos howned, perform_bind_ok hpassed, perform_bind_error hplaced]

/-- An account that passes its checks is followed by the others, whose failure ends the checks as
well. -/
theorem exists_check_of_isChecked (hanswers : world.OrganizationAnswers)
    (hunprotected : reclaimer.settings.isProtectedOwner user = false)
    (hchecked : IsChecked reclaimer caller user world.cloud.organization.state account)
    (rest : List String) :
    ∃ mid, world.HasOnlyRead mid ∧
      ∀ e, (mid.perform (reclaimer.check caller (some user) rest)).1 = .error e →
        (world.perform (reclaimer.check caller (some user) (account :: rest))).1 = .error e := by
  obtain ⟨hother, member, hmember, hpool⟩ := hchecked
  obtain ⟨read, hclaim, hread⟩ := exists_perform_readClaim hanswers hmember
  rw [check, if_neg hother, perform_bind_ok hclaim]
  dsimp only
  split
  · rename_i howned
    have hpassed : read.perform (reclaimer.checkOwner account (Claim.ofTags member.tags).owner?) =
        (.ok (), read) := by
      rw [howned, checkOwner, hunprotected]
      rfl
    have howner : member.tags.owner? = some user :=
      (Claim.owner?_ofTags member.tags).symm.trans howned
    have hplace : read.Succeeds (reclaimer.poolParent account) :=
      succeeds_poolParent (hread.cloud.state ▸ hmember) (hpool howner) fun call hcall =>
        (hanswers.of_hasOnlyRead hread).isRefused
          ((reclaimer.uses_poolParent account).mem_trace hcall)
    obtain ⟨parent, placed, hplaced⟩ := hplace
    refine ⟨placed, hread.trans
      (hasOnlyRead_of_perform (reclaimer.uses_poolParent account) hplaced), fun e he => ?_⟩
    rw [perform_bind_ok hpassed, perform_bind_ok hplaced, perform_bind, he]
  · obtain ⟨_, said, hsaid⟩ :=
      succeeds_log .warn ("Skipping account " ++ account ++ ": indexed for '" ++ user
        ++ "' but owned by '" ++ (Claim.ofTags member.tags).owner?.getD "-" ++ "'") read
    refine ⟨said, hread.trans (hasOnlyRead_of_perform (uses_log _ _) hsaid), fun e he => ?_⟩
    rw [perform_bind_ok hsaid, he]

/-- The first offending account decides how the checks end. -/
theorem perform_check_of_find? (hanswers : world.OrganizationAnswers)
    (hunprotected : reclaimer.settings.isProtectedOwner user = false)
    (hfirst : accounts.find? (isOffending reclaimer caller user world.cloud.organization.state) =
      some account) :
    (world.perform (reclaimer.check caller (some user) accounts)).1 =
      .error (offence caller world.cloud.organization.state account) := by
  induction accounts generalizing world with
  | nil => exact absurd hfirst (by simp)
  | cons first rest ih =>
    rw [List.find?_cons] at hfirst
    split at hfirst
    · rename_i hoffending
      obtain rfl := Option.some.inj hfirst
      exact perform_check_of_isOffending hanswers hunprotected hoffending rest
    · rename_i hchecked
      obtain ⟨mid, hread, herror⟩ := exists_check_of_isChecked hanswers hunprotected
        (isOffending_eq_false_iff.1 hchecked) rest
      rw [← hread.cloud.state] at hfirst ⊢
      exact herror _ (ih (hanswers.of_hasOnlyRead hread) hfirst)

/-! ## The plan for a user -/

/-- What becomes of the plan for a user, told by the index and the members. -/
def resolution (reclaimer : Reclaimer) (caller user : String) (organization : Organization) :
    Except PoolError (List Planned) :=
  if reclaimer.settings.isProtectedOwner user then .error (.protectedOwner "-" user)
  else if organization.resourcesWith Tags.ownerKey user = [] then .error (.noResources user)
  else if organization.yielded user = [] then .error (.noAccountsForUser user)
  else match (organization.yielded user).find? (isOffending reclaimer caller user organization) with
    | some account => .error (offence caller organization account)
    | none =>
      if ownedAmong organization.members user = [] then .error (.noAccountsForUser user)
      else .ok ((ownedAmong organization.members user).map fun account => ⟨account, some user⟩)

theorem yielded_eq_nil_iff : organization.yielded user = [] ↔ organization.indexed user = [] := by
  simp only [List.eq_nil_iff_forall_not_mem, mem_yielded_iff]

theorem resourcesWith_ne_nil (h : organization.yielded user ≠ []) :
    organization.resourcesWith Tags.ownerKey user ≠ [] := by
  intro hnone
  rw [Organization.yielded, hnone] at h
  exact h rfl

/-- An offending account of the index ends the plan. -/
theorem perform_plan_of_find? (hanswers : world.OrganizationAnswers)
    (hunprotected : reclaimer.settings.isProtectedOwner user = false)
    (hcaller : world.cloud.identity.state = .ok caller)
    (hfirst : (world.cloud.organization.state.yielded user).find?
      (isOffending reclaimer caller user world.cloud.organization.state) = some account) :
    (world.perform (reclaimer.plan (.user user))).1 =
      .error (offence caller world.cloud.organization.state account) := by
  have hyielded : world.cloud.organization.state.yielded user ≠ [] :=
    List.ne_nil_of_mem (List.mem_of_find?_eq_some hfirst)
  have hresources := resourcesWith_ne_nil hyielded
  have hindexed : world.cloud.organization.state.indexed user ≠ [] :=
    mt yielded_eq_nil_iff.2 hyielded
  have hlooked : (world.perform (reclaimer.candidates (.user user))).1 = _ :=
    perform_candidates_user (hanswers _) hunprotected
  rw [lookUp, if_neg (by simpa using hresources), if_neg (by simpa using hindexed)] at hlooked
  cases hcandidates : world.perform (reclaimer.candidates (.user user)) with
  | mk found looked =>
  rw [hcandidates] at hlooked
  obtain rfl : found = .ok (world.cloud.organization.state.indexed user) := hlooked
  have hread := hasOnlyRead_of_perform (reclaimer.uses_candidates (.user user)) hcandidates
  have hcalled : looked.perform (Action.identity .caller) = (.ok caller, looked) := by
    apply perform_caller
    rw [hread.cloud.identity, hcaller]
  have hchecked := perform_check_of_find? (hanswers.of_hasOnlyRead hread) hunprotected
    (by rw [hread.cloud.state, find?_indexed, hfirst])
  rw [hread.cloud.state] at hchecked
  rw [plan, perform_bind_ok hcandidates, perform_bind_ok hcalled, ReclaimTarget.user?,
    perform_bind, hchecked]

theorem perform_plan_user_eq (hanswers : world.OrganizationAnswers)
    (hdistinct : world.cloud.organization.state.IsDistinct)
    (hvalid : ∀ member ∈ world.cloud.organization.state.members,
      AccountId.isValid member.account.id = true)
    (hcaller : world.cloud.identity.state = .ok caller) (user : String) :
    (world.perform (reclaimer.plan (.user user))).1 =
      resolution reclaimer caller user world.cloud.organization.state := by
  rw [resolution]
  split
  · rename_i hprotected
    have hcandidates : world.perform (reclaimer.candidates (.user user)) =
        (.error (.protectedOwner "-" user), world) := by
      rw [candidates, if_pos hprotected, perform_throw]
    rw [plan, perform_bind_error hcandidates]
  rename_i hunprotected
  rw [Bool.not_eq_true] at hunprotected
  cases hfirst : (world.cloud.organization.state.yielded user).find?
      (isOffending reclaimer caller user world.cloud.organization.state) with
  | some account =>
    have hyielded := List.ne_nil_of_mem (List.mem_of_find?_eq_some hfirst)
    rw [if_neg (resourcesWith_ne_nil hyielded), if_neg hyielded]
    exact perform_plan_of_find? hanswers hunprotected hcaller hfirst
  | none =>
    have hchecked : ∀ account ∈ world.cloud.organization.state.indexed user,
        IsChecked reclaimer caller user world.cloud.organization.state account := by
      intro account haccount
      have hpassed := List.find?_eq_none.1 hfirst account (mem_yielded_iff.2 haccount)
      exact isOffending_eq_false_iff.1 (Bool.not_eq_true _ ▸ hpassed)
    have hempty : world.cloud.organization.state.yielded user = [] →
        ownedAmong world.cloud.organization.state.members user = [] := by
      intro hnone
      have hplanned := plannedFor_eq hdistinct hvalid user
      rw [plannedFor, yielded_eq_nil_iff.1 hnone] at hplanned
      exact List.map_eq_nil_iff.1 hplanned.symm
    rw [perform_plan_user hanswers hunprotected hcaller hchecked, plannedFor_eq hdistinct hvalid]
    simp only [List.isEmpty_iff, List.map_eq_nil_iff]
    split
    · rfl
    · split
      · rw [ite_self]
      · rename_i howned
        rw [if_neg (mt hempty howned)]

/-! ## What decides -/

/-- No account of the index is offending exactly when none is the caller's, all are members, and the
user's own stand in the pool. -/
theorem find?_isOffending_eq_none_iff (hdistinct : organization.IsDistinct)
    (hvalid : ∀ member ∈ organization.members, AccountId.isValid member.account.id = true) :
    (organization.yielded user).find? (isOffending reclaimer caller user organization) = none ↔
      (∀ account ∈ organization.yielded user, account ≠ caller) ∧
        (∀ account ∈ organization.yielded user, ∃ member,
          organization.find? account = some member) ∧
        ∀ member ∈ organization.members, member.tags.owner? = some user →
          member.parent = reclaimer.payer.root ∨ member.parent = reclaimer.payer.claimed := by
  have hchecked :
      (organization.yielded user).find? (isOffending reclaimer caller user organization) = none ↔
      ∀ account ∈ organization.yielded user,
        IsChecked reclaimer caller user organization account := by
    simp only [List.find?_eq_none, Bool.not_eq_true, isOffending_eq_false_iff]
  rw [hchecked]
  constructor
  · refine fun h => ⟨fun account haccount => (h account haccount).other,
      fun account haccount => ?_, ?_⟩
    · obtain ⟨member, hmember, -⟩ := (h account haccount).member
      exact ⟨member, hmember⟩
    · -- the index sees every member that has the user as its owner
      intro member hmember howner
      have hfind := Organization.find?_of_mem hdistinct hmember
      have haccount := Organization.mem_indexed_of_find? (hvalid member hmember) hfind howner
      obtain ⟨found, hfound, hpool⟩ := (h member.account.id (mem_yielded_iff.2 haccount)).member
      obtain rfl := Option.some.inj (hfind.symm.trans hfound)
      exact hpool howner
  · rintro ⟨hother, hmember, hpool⟩ account haccount
    obtain ⟨member, hfind⟩ := hmember account haccount
    exact ⟨hother account haccount, member, hfind, hpool member (List.mem_of_find?_eq_some hfind)⟩

/-- The index and the members decide what becomes of the plan for a user. -/
structure IsResolved (reclaimer : Reclaimer) (caller user : String) (organization : Organization)
    (result : Except PoolError (List Planned)) : Prop where
  ok_iff : ∀ planned, result = .ok planned ↔ reclaimer.settings.isProtectedOwner user = false ∧
    organization.yielded user ≠ [] ∧
    (∀ account ∈ organization.yielded user, account ≠ caller) ∧
    (∀ account ∈ organization.yielded user, ∃ member, organization.find? account = some member) ∧
    (∃ member ∈ organization.members, member.tags.owner? = some user) ∧
    (∀ member ∈ organization.members, member.tags.owner? = some user →
      member.parent = reclaimer.payer.root ∨ member.parent = reclaimer.payer.claimed) ∧
    planned = (ownedAmong organization.members user).map fun account => ⟨account, some user⟩
  payer_iff : ∀ account, result = .error (.payerAccountTarget account) ↔
    reclaimer.settings.isProtectedOwner user = false ∧
      (organization.yielded user).find? (isOffending reclaimer caller user organization) =
        some account ∧
      account = caller
  pool_iff : ∀ account parent, result = .error (.notInPool account parent) ↔
    reclaimer.settings.isProtectedOwner user = false ∧
      (organization.yielded user).find? (isOffending reclaimer caller user organization) =
        some account ∧
      account ≠ caller ∧ ∃ member, organization.find? account = some member ∧ member.parent = parent

theorem resolution_eq_ok_iff (planned : List Planned) :
    resolution reclaimer caller user organization = .ok planned ↔
      reclaimer.settings.isProtectedOwner user = false ∧ organization.yielded user ≠ [] ∧
        (organization.yielded user).find? (isOffending reclaimer caller user organization) = none ∧
        ownedAmong organization.members user ≠ [] ∧
        planned = (ownedAmong organization.members user).map fun account =>
          ⟨account, some user⟩ := by
  unfold resolution
  constructor
  · intro h
    split at h
    · cases h
    rename_i hunprotected
    split at h
    · cases h
    split at h
    · cases h
    rename_i hyielded
    split at h
    · cases h
    rename_i hnone
    split at h
    · cases h
    rename_i howned
    exact ⟨Bool.not_eq_true _ ▸ hunprotected, hyielded, hnone, howned, (Except.ok.inj h).symm⟩
  · rintro ⟨hunprotected, hyielded, hnone, howned, rfl⟩
    rw [hunprotected, if_neg Bool.false_ne_true, if_neg (resourcesWith_ne_nil hyielded),
      if_neg hyielded, hnone]
    exact if_neg howned

/-- A failure that is none of looking the user up is that of the first offending account. -/
theorem resolution_eq_error_iff {e : PoolError} (hprotected : e ≠ .protectedOwner "-" user)
    (hresources : e ≠ .noResources user) (hnobody : e ≠ .noAccountsForUser user) :
    resolution reclaimer caller user organization = .error e ↔
      reclaimer.settings.isProtectedOwner user = false ∧ ∃ account,
        (organization.yielded user).find? (isOffending reclaimer caller user organization) =
          some account ∧
        offence caller organization account = e := by
  unfold resolution
  constructor
  · intro h
    split at h
    · exact absurd (Except.error.inj h).symm hprotected
    rename_i hunprotected
    split at h
    · exact absurd (Except.error.inj h).symm hresources
    split at h
    · exact absurd (Except.error.inj h).symm hnobody
    split at h
    · rename_i account hfirst
      exact ⟨Bool.not_eq_true _ ▸ hunprotected, account, hfirst, Except.error.inj h⟩
    split at h
    · exact absurd (Except.error.inj h).symm hnobody
    · cases h
  · rintro ⟨hunprotected, account, hfirst, rfl⟩
    have hyielded := List.ne_nil_of_mem (List.mem_of_find?_eq_some hfirst)
    rw [hunprotected, if_neg Bool.false_ne_true, if_neg (resourcesWith_ne_nil hyielded),
      if_neg hyielded, hfirst]

theorem offence_eq_payer_iff {other : String} :
    offence caller organization other = .payerAccountTarget account ↔
    other = account ∧ account = caller := by
  unfold offence
  constructor
  · intro h
    split at h
    · rename_i hown
      obtain rfl : other = account := PoolError.payerAccountTarget.inj h
      exact ⟨rfl, hown⟩
    · split at h <;> cases h
  · rintro ⟨rfl, rfl⟩
    exact if_pos rfl

theorem offence_eq_pool_iff {other parent : String} :
    offence caller organization other = .notInPool account parent ↔
    other = account ∧ account ≠ caller ∧
      ∃ member, organization.find? account = some member ∧ member.parent = parent := by
  unfold offence
  constructor
  · intro h
    split at h
    · cases h
    rename_i hother
    split at h
    · cases h
    rename_i member hmember
    obtain ⟨rfl, rfl⟩ := PoolError.notInPool.inj h
    exact ⟨rfl, hother, member, hmember, rfl⟩
  · rintro ⟨rfl, hother, member, hmember, rfl⟩
    rw [if_neg hother, hmember]

theorem isResolved_resolution (hdistinct : organization.IsDistinct)
    (hvalid : ∀ member ∈ organization.members, AccountId.isValid member.account.id = true) :
    IsResolved reclaimer caller user organization
      (resolution reclaimer caller user organization) where
  ok_iff planned := by
    have howned : ownedAmong organization.members user ≠ [] ↔
        ∃ member ∈ organization.members, member.tags.owner? = some user := by
      simp [ne_eq, ownedAmong_eq_nil_iff]
    rw [resolution_eq_ok_iff, find?_isOffending_eq_none_iff hdistinct hvalid, howned]
    constructor
    · rintro ⟨hunprotected, hyielded, ⟨hother, hmember, hpool⟩, howner, hplanned⟩
      exact ⟨hunprotected, hyielded, hother, hmember, howner, hpool, hplanned⟩
    · rintro ⟨hunprotected, hyielded, hother, hmember, howner, hpool, hplanned⟩
      exact ⟨hunprotected, hyielded, ⟨hother, hmember, hpool⟩, howner, hplanned⟩
  payer_iff account := by
    rw [resolution_eq_error_iff (by simp) (by simp) (by simp)]
    simp only [offence_eq_payer_iff]
    constructor
    · rintro ⟨hunprotected, other, hfirst, rfl, hown⟩
      exact ⟨hunprotected, hfirst, hown⟩
    · rintro ⟨hunprotected, hfirst, hown⟩
      exact ⟨hunprotected, account, hfirst, rfl, hown⟩
  pool_iff account parent := by
    rw [resolution_eq_error_iff (by simp) (by simp) (by simp)]
    simp only [offence_eq_pool_iff]
    constructor
    · rintro ⟨hunprotected, other, hfirst, rfl, hother, hmember⟩
      exact ⟨hunprotected, hfirst, hother, hmember⟩
    · rintro ⟨hunprotected, hfirst, hother, hmember⟩
      exact ⟨hunprotected, account, hfirst, rfl, hother, hmember⟩

/-! ## The plan for one account -/

/-- One account is planned exactly when it passes its checks. -/
theorem perform_plan_account_eq_ok_iff (hanswers : world.OrganizationAnswers)
    (hcaller : world.cloud.identity.state = .ok caller) (account : String)
    (planned : List Planned) :
    (world.perform (reclaimer.plan (.account account))).1 = .ok planned ↔
      AccountId.isValid account = true ∧ account ≠ caller ∧ ∃ member,
        world.cloud.organization.state.find? account = some member ∧
        (∀ owner, member.tags.owner? = some owner →
          reclaimer.settings.isProtectedOwner owner = false) ∧
        (member.parent = reclaimer.payer.root ∨ member.parent = reclaimer.payer.claimed) ∧
        planned = [⟨account, member.tags.owner?⟩] := by
  constructor
  · intro h
    have hplan : world.perform (reclaimer.plan (.account account)) = (.ok planned, _) :=
      Prod.ext h rfl
    obtain ⟨owner, rfl⟩ := exists_of_perform_plan_account hplan
    obtain ⟨⟨hvalid, member, hmember, hpool, howner⟩, other, hidentity, hadmitted⟩ :=
      isPlannable_of_perform_plan hplan _ (List.mem_singleton_self _)
    obtain rfl : other = caller := Except.ok.inj (hidentity.symm.trans hcaller)
    dsimp only at howner
    subst howner
    exact ⟨hvalid, hadmitted.other, member, hmember, hadmitted.unprotected, hpool, rfl⟩
  · rintro ⟨hvalid, hother, member, hmember, hunprotected, hpool, rfl⟩
    have hplannable : IsPlannable reclaimer world ⟨account, member.tags.owner?⟩ :=
      ⟨⟨hvalid, member, hmember, hpool, rfl⟩, caller, hcaller, hother, ⟨hanswers _, hanswers _⟩,
        hunprotected⟩
    obtain ⟨mid, hplan⟩ := perform_plan_account hplannable
    exact congrArg Prod.fst hplan

end Reclaimer

end Lending

/-- When no request to the organization is registered to fail, its members have different valid
numbers and the caller is known, whatever else the index of tagged resources has, a plan for a user
is made exactly when the user is not protected, the index gives an account, none of its accounts is
the caller's, all of them are members, one member has the user as its owner, and all that do stand
in the pool.  The plan then has exactly the accounts that have the user as their owner.  A failure
that names an account names the first one of the index that is offending.  A plan for one account is
made exactly when the account passes its checks. -/
theorem World.plan_exact (world : World) (reclaimer : Reclaimer) (caller : String)
    (hanswers : world.OrganizationAnswers) (hdistinct : world.cloud.organization.state.IsDistinct)
    (hvalid : ∀ member ∈ world.cloud.organization.state.members,
      AccountId.isValid member.account.id = true)
    (hcaller : world.cloud.identity.state = .ok caller) :
    (∀ user, Reclaimer.IsResolved reclaimer caller user world.cloud.organization.state
        (world.perform (reclaimer.plan (.user user))).1) ∧
      ∀ account planned, (world.perform (reclaimer.plan (.account account))).1 = .ok planned ↔
        AccountId.isValid account = true ∧ account ≠ caller ∧ ∃ member,
          world.cloud.organization.state.find? account = some member ∧
          (∀ owner, member.tags.owner? = some owner →
            reclaimer.settings.isProtectedOwner owner = false) ∧
          (member.parent = reclaimer.payer.root ∨ member.parent = reclaimer.payer.claimed) ∧
          planned = [⟨account, member.tags.owner?⟩] := by
  refine ⟨fun user => ?_, Reclaimer.perform_plan_account_eq_ok_iff hanswers hcaller⟩
  rw [Reclaimer.perform_plan_user_eq hanswers hdistinct hvalid hcaller]
  exact Reclaimer.isResolved_resolution hdistinct hvalid

/-! ### An index that lags behind -/

/-- The pool of an organization whose index lags behind. -/
def laggingReclaimer : Reclaimer := ⟨{ root := "r-pool", claimed := "ou-lent" }, {}⟩

/-- The index still has an account for Alice that is Bob's by now, and one of hers twice; it has the
caller's account for Dave, and an account outside the pool for Carol. -/
def laggingWorld : World where
  cloud := (Cloud.ofCaller (.ok "999999999999")).changeOrganization fun _ => {
    members := [⟨{ id := "111111111111", status := .active }, "ou-lent", Tags.ofClaim "alice" "t1"⟩,
      ⟨{ id := "222222222222", status := .active }, "ou-lent", Tags.ofClaim "bob" "t2"⟩,
      ⟨{ id := "333333333333", status := .active }, "ou-else", Tags.ofClaim "carol" "t3"⟩,
      ⟨{ id := "444444444444", status := .active }, "r-pool", Dict.ofList [("owner", "alice")]⟩]
    resources := [⟨AccountId.arn "222222222222", Tags.ofClaim "alice" "t0"⟩,
      ⟨AccountId.arn "444444444444", Tags.ofClaim "alice" "t4"⟩,
      ⟨"arn:aws:s3:::alice-files", Dict.ofList [("owner", "alice")]⟩,
      ⟨AccountId.arn "999999999999", Dict.ofList [("owner", "dave")]⟩] }

/-- Alice's own two accounts are planned and Bob's is not.  The plans for Carol and for Dave name
the account that is in the way, and Bob's account is planned on its own. -/
theorem plan_exact_lagging :
    let planFor target := (laggingWorld.perform (laggingReclaimer.plan target)).1
    planFor (.user "alice") = .ok [⟨"111111111111", some "alice"⟩, ⟨"444444444444", some "alice"⟩] ∧
      planFor (.user "carol") = .error (.notInPool "333333333333" "ou-else") ∧
      planFor (.user "dave") = .error (.payerAccountTarget "999999999999") ∧
      planFor (.account "222222222222") = .ok [⟨"222222222222", some "bob"⟩] := by
  intro planFor
  obtain ⟨hresolved, haccount⟩ :=
    laggingWorld.plan_exact laggingReclaimer "999999999999" (fun _ => rfl)
      (by decide +kernel) (by decide +kernel) rfl
  refine ⟨((hresolved "alice").ok_iff _).2
    ⟨by decide +kernel, by decide +kernel, by decide +kernel, ?_,
      by decide +kernel, by decide +kernel, by decide +kernel⟩,
    ((hresolved "carol").pool_iff _ _).2
      ⟨by decide +kernel, by decide +kernel, by decide +kernel, _, rfl, rfl⟩,
    ((hresolved "dave").payer_iff _).2 (by decide +kernel),
    (haccount _ _).2 ⟨by decide +kernel, by decide +kernel, _, rfl, ?_, by decide +kernel, rfl⟩⟩
  · have hyielded : laggingWorld.cloud.organization.state.yielded "alice" =
        ["111111111111", "444444444444", "222222222222", "444444444444"] := by
      decide +kernel
    rw [hyielded]
    simp only [List.forall_mem_cons, ← Option.isSome_iff_exists]
    decide +kernel
  · rintro _ ⟨⟩
    decide +kernel

end AccountLending
