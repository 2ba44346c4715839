import AccountLending.Proofs.Reclamation.Resolving

/-!
# The look-ups of ownership agree

The owner of an account is read from its tags, the accounts of an owner come from the index of
tagged resources, and the owners under a unit are counted from the tags of its accounts.  In an
organization whose members have different numbers, and whose index knows of nothing else, all three
say the same.

* `Organization.IsPlain` — such an organization;
* `ownedAmong` — the accounts of an owner among some members, in their order;
* `lookUp_eq` — what the index says is what the tags of all members say;
* `Census.get?_count`, `Census.unowned_count` — what is counted of some members;
* `AgreeOn`, `AgreeUnder` — the agreement for a user, and for a unit;
* `World.ownership_agrees` — the look-ups agree for every user and every unit.
-/

namespace AccountLending

/-- The members have different numbers, all of them valid, and the index knows of nothing but
members. -/
structure Organization.IsPlain (organization : Organization) : Prop where
  distinct : organization.IsDistinct
  valid : ∀ member ∈ organization.members, AccountId.isValid member.account.id = true
  resources : organization.resources = []

/-- The members that stand directly in a unit. -/
def Organization.under (organization : Organization) (parent : String) : List Member :=
  organization.members.filter (·.parent = parent)

namespace Lending

open World

/-- The accounts of an owner among some members, in the order of the members. -/
def ownedAmong (members : List Member) (user : String) : List String :=
  (members.filter (·.tags.owner? = some user)).map (·.account.id)

theorem mem_ownedAmong_iff {members : List Member} {user account : String} :
    account ∈ ownedAmong members user ↔
      ∃ member ∈ members, member.tags.owner? = some user ∧ member.account.id = account := by
  simp only [ownedAmong, List.mem_map, List.mem_filter, decide_eq_true_eq, and_assoc]

theorem sublist_ownedAmong (members : List Member) (user : String) :
    (ownedAmong members user).Sublist (members.map (·.account.id)) :=
  List.filter_sublist.map _

theorem ownedAmong_eq_nil_iff (members : List Member) (user : String) :
    ownedAmong members user = [] ↔ ∀ member ∈ members, member.tags.owner? ≠ some user := by
  simp [ownedAmong]

variable {organization : Organization} {members : List Member} {user account parent : String}
variable {world : World}

/-! ## The index -/

/-- Resource names of different accounts give all of them. -/
theorem numbersAmong_arns {found accounts : List String} (hnodup : (found ++ accounts).Nodup)
    (hvalid : ∀ account ∈ accounts, AccountId.isValid account = true) :
    numbersAmong found (accounts.map AccountId.arn) = found ++ accounts := by
  induction accounts generalizing found with
  | nil => exact (List.append_nil found).symm
  | cons account rest ih =>
    obtain ⟨haccount, hrest⟩ := List.forall_mem_cons.1 hvalid
    have hnew : account ∉ found := fun hmem =>
      List.disjoint_of_nodup_append hnodup hmem List.mem_cons_self
    rw [List.append_cons] at hnodup
    rw [List.map_cons, numbersAmong, AccountId.ofArn?_arn haccount]
    dsimp only
    rw [if_neg hnew, ih hnodup hrest, ← List.append_cons]

/-- The index has the accounts of an owner as the tags of the members say, in the order of the
members. -/
theorem indexed_eq (h : organization.IsPlain) (user : String) :
    organization.indexed user = ownedAmong organization.members user := by
  have hresources : organization.resourcesWith Tags.ownerKey user =
      (ownedAmong organization.members user).map AccountId.arn := by
    rw [Organization.resourcesWith, h.resources, List.filter_nil, List.map_nil,
      List.append_nil, ownedAmong, List.map_map]
    rfl
  rw [Organization.indexed, hresources]
  refine numbersAmong_arns (h.distinct.sublist (sublist_ownedAmong _ _)) fun account haccount => ?_
  obtain ⟨member, hmember, -, rfl⟩ := mem_ownedAmong_iff.1 haccount
  exact h.valid member hmember

theorem resourcesWith_eq_nil_iff (h : organization.IsPlain) (user : String) :
    organization.resourcesWith Tags.ownerKey user = [] ↔
    ownedAmong organization.members user = [] := by
  rw [Organization.resourcesWith, h.resources, List.filter_nil, List.map_nil, List.append_nil,
    List.map_eq_nil_iff, ownedAmong, List.map_eq_nil_iff]
  rfl

/-- Asking the index for an owner gives the accounts that have it, and fails when there are none. -/
theorem lookUp_eq (h : organization.IsPlain) (user : String) :
    Reclaimer.lookUp organization user = if ownedAmong organization.members user = []
      then .error (.noResources user) else .ok (ownedAmong organization.members user) := by
  simp only [Reclaimer.lookUp, indexed_eq h, List.isEmpty_iff, resourcesWith_eq_nil_iff h]
  split <;> rfl

/-! ## The tags of one account -/

theorem exists_perform_readTags (hanswers : world.OrganizationAnswers) {member : Member}
    (hmember : world.cloud.organization.state.find? account = some member) :
    ∃ read, world.perform (readTags account) = (.ok member.tags, read) ∧
      world.HasOnlyRead read := by
  have hanswer :
      (world.cloud.organization.state.answer (.listTags account)).1 = .ok member.tags := by
    simp [Organization.answer, Organization.fromMember, hmember]
  have hread : world.perform (readTags account) = (.ok member.tags, _) :=
    perform_organization (hanswers _) hanswer
  exact ⟨_, hread, hasOnlyRead_of_perform (uses_readTags account) hread⟩

/-- The claim on a member is the one that its tags record. -/
theorem exists_perform_readClaim (hanswers : world.OrganizationAnswers) {member : Member}
    (hmember : world.cloud.organization.state.find? account = some member) :
    ∃ read, world.perform (readClaim account) = (.ok (Claim.ofTags member.tags), read) ∧
      world.HasOnlyRead read := by
  obtain ⟨looked, hlooked, -⟩ := exists_perform_readTags hanswers hmember
  have hobserved : (looked.run (observe account member.tags)).1 = Claim.ofTags member.tags := by
    unfold observe
    split <;> rfl
  have hclaim : world.perform (readClaim account) =
      (.ok (Claim.ofTags member.tags), (looked.run (observe account member.tags)).2) := by
    rw [readClaim, perform_bind_ok hlooked, perform_lift, hobserved]
  exact ⟨_, hclaim, hasOnlyRead_of_perform (uses_readClaim account) hclaim⟩

/-- The owner of an account is the owner tag of the member. -/
theorem perform_ownerOf_eq_ok_iff (hanswers : world.OrganizationAnswers) :
    (world.perform (ownerOf account)).1 = .ok user ↔
      ∃ member, world.cloud.organization.state.find? account = some member ∧
        member.tags.owner? = some user := by
  constructor
  · intro howner
    obtain ⟨tags, read, hread, htail⟩ :=
      exists_of_perform_bind (show world.perform (ownerOf account) =
        (.ok user, _) from Prod.ext howner rfl)
    obtain ⟨member, hmember, rfl⟩ := exists_of_perform_readTags hread
    refine ⟨member, hmember, ?_⟩
    split at htail
    · exact absurd htail perform_throw_ne_ok
    · split at htail
      · rename_i owner howner
        rw [howner, (eq_of_perform_pure htail).1]
      · exact absurd htail perform_throw_ne_ok
  · rintro ⟨member, hmember, howner⟩
    obtain ⟨read, hread, -⟩ := exists_perform_readTags hanswers hmember
    have hsome : member.tags.isEmpty = false := by
      rw [← Bool.not_eq_true, Dict.isEmpty_iff]
      intro hnone
      have habsent := hnone Tags.ownerKey
      rw [Dict.contains, show member.tags.get? Tags.ownerKey = some user from howner] at habsent
      exact absurd habsent.symm Bool.false_ne_true
    rw [ownerOf, perform_bind_ok hread, hsome, if_neg Bool.false_ne_true, howner]
    rfl

/-! ## Counting -/

namespace Census

/-- Count members in, one after the other. -/
def count (census : Census) (members : List Member) : Census :=
  members.foldl (fun census member => census.add member.account.id member.tags) census

theorem get?_add (census : Census) (account : String) (tags : Tags) (user : String) :
    (census.add account tags).owners.get? user = if tags.owner? = some user
      then some ((census.owners.get? user).getD [] ++ [account]) else census.owners.get? user := by
  unfold add
  cases tags.owner? with
  | none => rfl
  | some owner =>
    dsimp only
    rw [Dict.get?_insert]
    by_cases h : user = owner
    · rw [h, if_pos rfl, if_pos rfl]
    · rw [if_neg h, if_neg fun heq => h (Option.some.inj heq).symm]

/-- Every owner has the accounts that it had, and after them its own among those that are
counted. -/
theorem get?_count (census : Census) (members : List Member) (user : String) :
    (census.count members).owners.get? user =
      if ownedAmong members user = [] then census.owners.get? user
      else some ((census.owners.get? user).getD [] ++ ownedAmong members user) := by
  induction members generalizing census with
  | nil => rfl
  | cons member rest ih =>
    have hcount :
        census.count (member :: rest) = (census.add member.account.id member.tags).count rest := rfl
    rw [hcount, ih, get?_add]
    by_cases howner : member.tags.owner? = some user
    · have howned :
          ownedAmong (member :: rest) user = member.account.id :: ownedAmong rest user := by
        simp [ownedAmong, howner]
      rw [if_pos howner, howned, if_neg (List.cons_ne_nil _ _), Option.getD_some]
      split
      · rename_i hnone
        rw [hnone]
      · rw [List.append_assoc, List.singleton_append]
    · have howned : ownedAmong (member :: rest) user = ownedAmong rest user := by
        simp [ownedAmong, howner]
      rw [if_neg howner, howned]

theorem unowned_count (census : Census) (members : List Member) :
    (census.count members).unowned = census.unowned + members.countP (·.tags.owner?.isNone) := by
  induction members generalizing census with
  | nil => rfl
  | cons member rest ih =>
    have hcount :
        census.count (member :: rest) = (census.add member.account.id member.tags).count rest := rfl
    rw [hcount, ih, List.countP_cons, add]
    cases member.tags.owner? with
    | none =>
      simp only [Option.isNone_none, if_true]
      omega
    | some owner => rfl

theorem contains_owners_count (members : List Member) (user : String) :
    (Census.count {} members).owners.contains user = true ↔
      ∃ member ∈ members, member.tags.owner? = some user := by
  have hnone := ownedAmong_eq_nil_iff members user
  rw [Dict.contains, get?_count]
  split
  · rename_i howned
    simpa using hnone.1 howned
  · rename_i howned
    rw [hnone] at howned
    simpa using howned

/-- Of members with different numbers every one that has an owner is counted once. -/
theorem count_eq_one (hdistinct : (members.map (·.account.id)).Nodup) {member : Member}
    (hmember : member ∈ members) (howner : member.tags.owner? = some user) :
    (Census.count {} members).owners.values.flatten.count member.account.id = 1 := by
  have hvalues : ∀ e ∈ (Census.count {} members).owners.entries, e.2 = ownedAmong members e.1 := by
    rintro ⟨owner, accounts⟩ hentry
    have haccounts := (Dict.mem_entries_iff _ _ _).1 hentry
    rw [get?_count] at haccounts
    split at haccounts
    · simp at haccounts
    · exact (Option.some.inj haccounts).symm
  apply List.count_eq_one_of_mem
  · -- the accounts of different owners are different, since a member has only one owner
    rw [List.nodup_flatten, Dict.values, List.pairwise_map]
    constructor
    · intro accounts haccounts
      obtain ⟨e, hentry, rfl⟩ := List.mem_map.1 haccounts
      rw [hvalues e hentry]
      exact hdistinct.sublist (sublist_ownedAmong _ _)
    · refine (Census.count {} members).owners.increasing.imp_of_mem fun {a b} ha hb hlt => ?_
      rw [hvalues a ha, hvalues b hb]
      intro account haccount haccount'
      obtain ⟨first, hfirst, howner, rfl⟩ := mem_ownedAmong_iff.1 haccount
      obtain ⟨second, hsecond, howner', hsame⟩ := mem_ownedAmong_iff.1 haccount'
      obtain rfl := List.inj_on_of_nodup_map hdistinct hsecond hfirst hsame
      rw [Option.some.inj (howner.symm.trans howner')] at hlt
      exact String.lt_irrefl _ hlt
  · have howned : (Census.count {} members).owners.get? user = some (ownedAmong members user) := by
      rw [get?_count, if_neg fun hnone => (ownedAmong_eq_nil_iff ..).1 hnone member hmember howner]
      rfl
    refine List.mem_flatten.2 ⟨ownedAmong members user, ?_,
      mem_ownedAmong_iff.2 ⟨member, hmember, howner, rfl⟩⟩
    exact List.mem_map.2 ⟨_, (Dict.mem_entries_iff _ _ _).2 howned, rfl⟩

end Census

/-- The tags of members are read and counted one after the other. -/
theorem exists_perform_countAll (hanswers : world.OrganizationAnswers)
    (hdistinct : world.cloud.organization.state.IsDistinct) (census : Census)
    {members : List Member}
    (hmembers : ∀ member ∈ members, member ∈ world.cloud.organization.state.members) :
    ∃ after, world.perform (countAll census (members.map (·.account))) =
      (.ok (census.count members), after) := by
  induction members generalizing census world with
  | nil => exact ⟨world, rfl⟩
  | cons member rest ih =>
    obtain ⟨hmember, hrest⟩ := List.forall_mem_cons.1 hmembers
    obtain ⟨read, htags, hread⟩ :=
      exists_perform_readTags hanswers (Organization.find?_of_mem hdistinct hmember)
    rw [← hread.cloud.state] at hdistinct hrest
    obtain ⟨after, hcount⟩ := ih (hanswers.of_hasOnlyRead hread) hdistinct
      (census.add member.account.id member.tags) hrest
    exact ⟨after, (perform_bind_ok htags _).trans hcount⟩

/-- Looking for the owners under a unit counts the members that stand in it. -/
theorem perform_ownersUnder (hanswers : world.OrganizationAnswers)
    (hdistinct : world.cloud.organization.state.IsDistinct)
    (hmembers : world.cloud.organization.state.under parent = members) :
    (world.perform (ownersUnder parent)).1 =
      if members = [] then .error (.noAccountsForParent parent)
      else if (Census.count {} members).owners.isEmpty
        then .error (.accountsWithNoOwner parent (Census.count {} members).unowned)
      else .ok (Census.count {} members).owners := by
  have hanswer : (world.cloud.organization.state.answer (.listAccounts parent)).1 =
      .ok (members.map (·.account)) := by
    rw [← hmembers]
    rfl
  obtain ⟨_, listed, hlisted⟩ := succeeds_organization (hanswers _) hanswer
  obtain rfl := Except.ok.inj (hanswer.symm.trans (of_perform_organization hlisted).2)
  have hread := hasOnlyRead_of_perform (uses_organization rfl) hlisted
  rw [ownersUnder, perform_bind_ok hlisted]
  by_cases hnone : members = []
  · rw [if_pos hnone, hnone]
    rfl
  · rw [if_neg hnone, if_neg (by simpa using hnone)]
    have hthere : ∀ member ∈ members, member ∈ world.cloud.organization.state.members :=
      fun member hmember => (List.mem_filter.1 (hmembers ▸ hmember)).1
    rw [← hread.cloud.state] at hdistinct hthere
    obtain ⟨counted, hcount⟩ :=
      exists_perform_countAll (hanswers.of_hasOnlyRead hread) hdistinct {} hthere
    rw [perform_bind_ok hcount]
    -- members without an owner are only told to the log
    split
    · rfl
    · split <;> rfl

/-! ## Agreement -/

/-- The look-ups agree for a user: its accounts are those whose owner it is, each once and in the
order of the members, and the index has nothing for it exactly when no member has it as its
owner. -/
structure AgreeOn (world : World) (user : String) : Prop where
  found_iff : ∀ account,
    (∃ accounts, (world.perform (accountsOf user)).1 = .ok accounts ∧ account ∈ accounts) ↔
      (world.perform (ownerOf account)).1 = .ok user
  ordered : ∀ accounts, (world.perform (accountsOf user)).1 = .ok accounts →
    accounts.Nodup ∧ accounts.Sublist (world.cloud.organization.state.members.map (·.account.id))
  noResources_iff : (world.perform (accountsOf user)).1 = .error (.noResources user) ↔
    ∀ member ∈ world.cloud.organization.state.members, member.tags.owner? ≠ some user
  ends : (∃ accounts, (world.perform (accountsOf user)).1 = .ok accounts) ∨
    (world.perform (accountsOf user)).1 = .error (.noResources user)

/-- The owners under a unit are the owners of its accounts, each with those of its accounts that
stand in the unit, and every account there that has an owner is listed once. -/
structure IsCensusOf (world : World) (parent : String) (owners : Dict (List String)) : Prop where
  owner_iff : ∀ user, owners.contains user = true ↔
    ∃ member ∈ world.cloud.organization.state.under parent, member.tags.owner? = some user
  accounts : ∀ user accounts, owners.get? user = some accounts →
    ∃ all, (world.perform (accountsOf user)).1 = .ok all ∧ accounts = all.filter fun account =>
      account ∈ (world.cloud.organization.state.under parent).map (·.account.id)
  once : ∀ member ∈ world.cloud.organization.state.under parent, ∀ user,
    member.tags.owner? = some user → owners.values.flatten.count member.account.id = 1

/-- What looking for the owners under a unit comes to: a census of the unit when an account there
has an owner, and otherwise a failure that tells whether there are accounts at all, and how many. -/
structure AgreeUnder (world : World) (parent : String) : Prop where
  owned : (∃ member ∈ world.cloud.organization.state.under parent, ∃ user,
    member.tags.owner? = some user) →
    ∃ owners, (world.perform (ownersUnder parent)).1 = .ok owners ∧ IsCensusOf world parent owners
  empty : world.cloud.organization.state.under parent = [] →
    (world.perform (ownersUnder parent)).1 = .error (.noAccountsForParent parent)
  unowned : world.cloud.organization.state.under parent ≠ [] →
    (∀ member ∈ world.cloud.organization.state.under parent, member.tags.owner? = none) →
    (world.perform (ownersUnder parent)).1 =
      .error (.accountsWithNoOwner parent (world.cloud.organization.state.under parent).length)

theorem perform_accountsOf_eq (hanswers : world.OrganizationAnswers)
    (hplain : world.cloud.organization.state.IsPlain) (user : String) :
    (world.perform (accountsOf user)).1 =
      if ownedAmong world.cloud.organization.state.members user = [] then .error (.noResources user)
      else .ok (ownedAmong world.cloud.organization.state.members user) :=
  (Reclaimer.perform_accountsOf (hanswers _)).trans (lookUp_eq hplain user)

theorem agreeOn (hanswers : world.OrganizationAnswers)
    (hplain : world.cloud.organization.state.IsPlain) (user : String) : AgreeOn world user := by
  have hfound := perform_accountsOf_eq hanswers hplain user
  have hnone := ownedAmong_eq_nil_iff world.cloud.organization.state.members user
  have hok : ∀ accounts, (world.perform (accountsOf user)).1 = .ok accounts →
      accounts = ownedAmong world.cloud.organization.state.members user := by
    intro accounts h
    rw [hfound] at h
    split at h
    · simp at h
    · exact (Except.ok.inj h).symm
  constructor
  case found_iff =>
    intro account
    rw [perform_ownerOf_eq_ok_iff hanswers]
    constructor
    · rintro ⟨accounts, haccounts, haccount⟩
      rw [hok accounts haccounts] at haccount
      obtain ⟨member, hmember, howner, rfl⟩ := mem_ownedAmong_iff.1 haccount
      exact ⟨member, Organization.find?_of_mem hplain.distinct hmember, howner⟩
    · rintro ⟨member, hmember, howner⟩
      have hid : member.account.id = account := by simpa using List.find?_some hmember
      have hthere := List.mem_of_find?_eq_some hmember
      refine ⟨_, ?_, mem_ownedAmong_iff.2 ⟨member, hthere, howner, hid⟩⟩
      rw [hfound, if_neg fun hempty => hnone.1 hempty member hthere howner]
  case ordered =>
    intro accounts haccounts
    rw [hok accounts haccounts]
    have hsublist := sublist_ownedAmong world.cloud.organization.state.members user
    exact ⟨hplain.distinct.sublist hsublist, hsublist⟩
  case noResources_iff =>
    rw [← hnone, hfound]
    split
    · rename_i hempty
      simp [hempty]
    · rename_i hsome
      simp [hsome]
  case ends =>
    rw [hfound]
    split
    · exact .inr rfl
    · exact .inl ⟨_, rfl⟩

/-- The accounts of an owner that stand in a unit. -/
theorem ownedAmong_under (h : organization.IsDistinct) (parent user : String) :
    ownedAmong (organization.under parent) user =
      (ownedAmong organization.members user).filter fun account =>
      account ∈ (organization.under parent).map (·.account.id) := by
  have hunder : ∀ member ∈ organization.members,
      (member.account.id ∈ (organization.under parent).map (·.account.id) ↔
        member.parent = parent) := by
    intro member hmember
    rw [List.mem_map]
    constructor
    · rintro ⟨other, hother, hid⟩
      obtain ⟨hthere, hparent⟩ := List.mem_filter.1 hother
      rw [← List.inj_on_of_nodup_map h hthere hmember hid]
      exact of_decide_eq_true hparent
    · exact fun hparent => ⟨member, List.mem_filter.2 ⟨hmember, decide_eq_true hparent⟩, rfl⟩
  rw [ownedAmong, Organization.under, ownedAmong, List.filter_map, List.filter_filter,
    List.filter_filter]
  refine congrArg _ (List.filter_congr fun member hmember => ?_)
  rw [Bool.and_comm]
  exact congrArg (· && decide (member.tags.owner? = some user))
    (decide_eq_decide.2 (hunder member hmember)).symm

theorem isCensusOf_count (hanswers : world.OrganizationAnswers)
    (hplain : world.cloud.organization.state.IsPlain) (parent : String) :
    IsCensusOf world parent
      (Census.count {} (world.cloud.organization.state.under parent)).owners where
  owner_iff := Census.contains_owners_count _
  accounts user accounts haccounts := by
    rw [Census.get?_count] at haccounts
    split at haccounts
    · simp at haccounts
    rename_i hsome
    have hunder := ownedAmong_under hplain.distinct parent user
    refine ⟨ownedAmong world.cloud.organization.state.members user, ?_, ?_⟩
    · rw [perform_accountsOf_eq hanswers hplain, if_neg]
      intro hempty
      rw [hempty, List.filter_nil] at hunder
      exact hsome hunder
    · rw [← hunder]
      exact (Option.some.inj haccounts).symm
  once member hmember user howner :=
    Census.count_eq_one (hplain.distinct.sublist (List.filter_sublist.map _)) hmember howner

theorem agreeUnder (hanswers : world.OrganizationAnswers)
    (hplain : world.cloud.organization.state.IsPlain)
    (parent : String) : AgreeUnder world parent := by
  have hends := perform_ownersUnder hanswers hplain.distinct
    (rfl : world.cloud.organization.state.under parent = _)
  have hnone := (Census.count {} (world.cloud.organization.state.under parent)).owners.isEmpty_iff
  constructor
  case owned =>
    rintro ⟨member, hmember, user, howner⟩
    refine ⟨_, ?_, isCensusOf_count hanswers hplain parent⟩
    have hsome := (Census.contains_owners_count _ _).2 ⟨member, hmember, howner⟩
    rw [hends, if_neg (List.ne_nil_of_mem hmember), if_neg]
    intro hempty
    exact Bool.false_ne_true ((hnone.1 hempty user).symm.trans hsome)
  case empty =>
    intro hempty
    rw [hends, if_pos hempty]
  case unowned =>
    intro hsome hunowned
    have hempty :
        (Census.count {} (world.cloud.organization.state.under parent)).owners.isEmpty = true := by
      refine hnone.2 fun user => ?_
      rw [← Bool.not_eq_true, Census.contains_owners_count]
      rintro ⟨member, hmember, howner⟩
      rw [hunowned member hmember] at howner
      exact absurd howner (by simp)
    have hcounted : (world.cloud.organization.state.under parent).countP (·.tags.owner?.isNone) =
        (world.cloud.organization.state.under parent).length := by
      refine List.countP_eq_length.2 fun member hmember => ?_
      rw [hunowned member hmember]
      rfl
    rw [hends, if_neg hsome, if_pos hempty, Census.unowned_count, hcounted, Nat.zero_add]

end Lending

open Lending

/-- When no request to the organization is registered to fail, its members have different valid
numbers, and the index knows of nothing else, the look-ups of ownership agree for every user and
under every unit. -/
theorem World.ownership_agrees (world : World) (hanswers : world.OrganizationAnswers)
    (hplain : world.cloud.organization.state.IsPlain) :
    (∀ user, AgreeOn world user) ∧ ∀ parent, AgreeUnder world parent :=
  ⟨agreeOn hanswers hplain, agreeUnder hanswers hplain⟩

/-! ## An organization with two units -/

/-- An organization in which one user has an account in each of two units, another one has one, and
one account of the first unit has no owner. -/
def crewOrganization : Organization where
  members := [⟨{ id := "444444444444", status := .active }, "ou-a", Tags.ofClaim "alice" "t1"⟩,
    ⟨{ id := "111111111111", status := .active }, "ou-b", Tags.ofClaim "alice" "t2"⟩,
    ⟨{ id := "333333333333", status := .active }, "ou-a", Tags.ofClaim "bob" "t3"⟩,
    ⟨{ id := "222222222222", status := .active }, "ou-a", Dict.empty⟩]

/-- Alice has two accounts, and the first of them is the one that the census of the first unit lists
for her. -/
theorem ownership_agrees_crew :
    let world : World :=
      { cloud := (Cloud.ofCaller (.ok "999999999999")).changeOrganization fun _ =>
      crewOrganization }
    (∃ accounts, (world.perform (accountsOf "alice")).1 = .ok accounts ∧ "111111111111" ∈ accounts ∧
      accounts.Nodup) ∧
    (∃ owners, (world.perform (ownersUnder "ou-a")).1 = .ok owners ∧
      owners.contains "alice" = true ∧ owners.values.flatten.count "444444444444" = 1) ∧
    (world.perform (ownersUnder "ou-c")).1 = .error (.noAccountsForParent "ou-c") := by
  intro world
  have hplain : world.cloud.organization.state.IsPlain :=
    ⟨by decide +kernel, by decide +kernel, rfl⟩
  obtain ⟨hon, hunder⟩ := world.ownership_agrees (fun _ => rfl) hplain
  have hthere : ⟨{ id := "444444444444", status := .active }, "ou-a", Tags.ofClaim "alice" "t1"⟩ ∈
      world.cloud.organization.state.under "ou-a" := by
    decide +kernel
  have howner : (Tags.ofClaim "alice" "t1").owner? = some "alice" := by decide +kernel
  have howned :
      (world.perform (ownerOf "111111111111")).1.toOption = some "alice" := by decide +kernel
  obtain ⟨after, howned⟩ := World.exists_of_toOption howned
  obtain ⟨accounts, haccounts, haccount⟩ :=
    ((hon "alice").found_iff "111111111111").2 (congrArg Prod.fst howned)
  obtain ⟨owners, howners, hcensus⟩ := (hunder "ou-a").owned ⟨_, hthere, "alice", howner⟩
  refine ⟨⟨accounts, haccounts, haccount, ((hon "alice").ordered accounts haccounts).1⟩,
    ⟨owners, howners, ?_, ?_⟩, (hunder "ou-c").empty (by decide +kernel)⟩
  · exact (hcensus.owner_iff "alice").2 ⟨_, hthere, howner⟩
  · exact hcensus.once _ hthere "alice" howner

end AccountLending
