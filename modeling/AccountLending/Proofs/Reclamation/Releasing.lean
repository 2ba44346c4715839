import AccountLending.Proofs.Clearing.Whole
import AccountLending.Proofs.Reclamation.Planning

/-!
# Returning one account

An account is returned by three requests that change something: its claim tags are removed, it is
moved to the root of the pool, and a session in it is opened.  None of them touches another account,
and none of them fails unless it is registered to.

* `World.isRefused` — whether a call is registered to fail;
* `World.HasChanged` — what a world keeps when one member of the organization is changed;
* `Reclaimer.of_perform_release` — what an account is after it was returned;
* `Reclaimer.succeeds_release` — an account that may be taken back is returned unless a call is
  refused.
-/

namespace AccountLending

namespace World

variable {α β : Type}

/-! ## Calls that are registered to fail -/

/-- Whether a call is registered to fail. -/
def isRefused (world : World) : Call → Bool
  | .cloud (.organization request) => world.cloud.organization.fails request.entry
  | .cloud (.identity .caller) => false
  | .cloud (.identity (.assumeRole arn _ _)) => (Cloud.accountOfRole? arn).any fun account =>
    world.cloud.identity.fails (Identity.Event.assumed account).entry
  | .cloud (.iam session request) =>
    (world.cloud.iamOf (world.cloud.accountOf session)).fails request.entry
  | .host _ => false

theorem isRefused_congr {before after : World}
    (horganization : after.cloud.organization.failing = before.cloud.organization.failing)
    (hidentity : after.cloud.identity.failing = before.cloud.identity.failing)
    (hcaller : after.cloud.identity.state = before.cloud.identity.state)
    (hiam : ∀ account, (after.cloud.iamOf account).failing = (before.cloud.iamOf account).failing)
    (call : Call) : after.isRefused call = before.isRefused call := by
  match call with
  | .cloud (.organization request) => simp only [isRefused, Journaled.fails, horganization]
  | .cloud (.identity .caller) => rfl
  | .cloud (.identity (.assumeRole arn _ _)) => simp only [isRefused, Journaled.fails, hidentity]
  | .cloud (.iam session request) =>
    have haccount : after.cloud.accountOf session = before.cloud.accountOf session := by
      cases session with
      | some session => rfl
      | none => simp only [Cloud.accountOf, hcaller]
    simp only [isRefused, Journaled.fails, haccount, hiam]
  | .host request => rfl

/-- An action has a value in a world. -/
def Succeeds (world : World) (action : Action α) : Prop :=
  ∃ a after, world.perform action = (.ok a, after)

/-- A sequence succeeds when its parts do, where each part is only asked about its own calls. -/
theorem succeeds_bind {P : Call → Prop} {action : Action α} {f : α → Action β} {world : World}
    (h : ∀ call ∈ world.calls (action >>= f), P call)
    (haction : (∀ call ∈ world.calls action, P call) → world.Succeeds action)
    (hf : ∀ a mid, world.perform action = (.ok a, mid) → (∀ call ∈ mid.calls (f a), P call) →
      mid.Succeeds (f a)) : world.Succeeds (action >>= f) := by
  rw [calls_bind] at h
  obtain ⟨a, mid, hperform⟩ := haction fun call hcall => h call (List.mem_append_left _ hcall)
  rw [hperform] at h
  obtain ⟨b, after, hrest⟩ :=
    hf a mid hperform fun call hcall => h call (List.mem_append_right _ hcall)
  exact ⟨b, after, (perform_bind_ok hperform f).trans hrest⟩

theorem succeeds_pure (a : α) (world : World) : world.Succeeds (pure a) := ⟨a, world, rfl⟩

theorem succeeds_log (level : Log.Level) (message : String) (world : World) :
    world.Succeeds (Action.log level message) := ⟨(), _, rfl⟩

theorem perform_organization {request : Organization.Request} {a : request.Answer} {world : World}
    (hrefused : world.isRefused (.cloud (.organization request)) = false)
    (hanswer : (world.cloud.organization.state.answer request).1 = .ok a) :
    world.perform (Action.organization request) = (.ok a, { world with cloud := { world.cloud with
      organization := { world.cloud.organization.record request with
        state := (world.cloud.organization.state.answer request).2 } } }) := by
  have hserve : Organization.serve request world.cloud.organization =
      (.ok a, { world.cloud.organization.record request with
        state := (world.cloud.organization.state.answer request).2 }) := by
    have hallowed : world.cloud.organization.fails request.entry = false := hrefused
    simp only [Organization.serve, hallowed, Bool.false_eq_true, if_false, hanswer]
    rfl
  apply (perform_cloud _ _).trans
  show ((Organization.serve request world.cloud.organization).1.mapError PoolError.service,
    ({ world with cloud := { world.cloud with
      organization := (Organization.serve request world.cloud.organization).2 } } : World)) = _
  rw [hserve]
  rfl

theorem succeeds_organization {request : Organization.Request} {a : request.Answer} {world : World}
    (hrefused : world.isRefused (.cloud (.organization request)) = false)
    (hanswer : (world.cloud.organization.state.answer request).1 = .ok a) :
    world.Succeeds (Action.organization request) :=
  ⟨a, _, perform_organization hrefused hanswer⟩

/-! ## One member changed -/

/-- A world in which one member of the organization is changed, while the other members, every
account's IAM and the registered failures are what they were. -/
structure HasChanged (account : String) (f : Member → Member) (before after : World) : Prop where
  find? : ∀ other, after.cloud.organization.state.find? other =
    if other = account then (before.cloud.organization.state.find? other).map f
    else before.cloud.organization.state.find? other
  iamOf : ∀ other, after.cloud.iamOf other = before.cloud.iamOf other
  isRefused : ∀ call, after.isRefused call = before.isRefused call

variable {account : String} {f g : Member → Member} {before mid after : World}

theorem HasOnlyRead.iamOf (h : HasOnlyRead before after) (other : String) :
    after.cloud.iamOf other = before.cloud.iamOf other := by
  rw [Cloud.iamOf, h.cloud.iam]
  rfl

theorem HasOnlyRead.isRefused (h : HasOnlyRead before after) (call : Call) :
    after.isRefused call = before.isRefused call :=
  isRefused_congr h.cloud.failing (congrArg Journaled.failing h.cloud.identity)
    (congrArg Journaled.state h.cloud.identity) (fun other => congrArg _ (h.iamOf other)) call

theorem HasOnlyRead.hasChanged (h : HasOnlyRead before after) (account : String) :
    HasChanged account id before after where
  find? other := by
    rw [h.cloud.state, Option.map_id, id, ite_self]
  iamOf := h.iamOf
  isRefused := h.isRefused

theorem HasChanged.trans (h : HasChanged account f before mid)
    (h' : HasChanged account g mid after) : HasChanged account (g ∘ f) before after where
  find? other := by
    rw [h'.find?, h.find?]
    split
    · rw [Option.map_map]
    · rfl
  iamOf other := (h'.iamOf other).trans (h.iamOf other)
  isRefused call := (h'.isRefused call).trans (h.isRefused call)

/-- Only what becomes of the member that there is matters. -/
theorem HasChanged.congr {member : Member} (h : HasChanged account f before after)
    (hmember : before.cloud.organization.state.find? account = some member)
    (hsame : f member = g member) : HasChanged account g before after where
  find? other := by
    rw [h.find?]
    by_cases hother : other = account
    · rw [if_pos hother, if_pos hother, hother, hmember, Option.map_some, Option.map_some, hsame]
    · rw [if_neg hother, if_neg hother]
  iamOf := h.iamOf
  isRefused := h.isRefused

/-- A request that changes one member. -/
theorem hasChanged_of_perform {request : Organization.Request} {a : request.Answer}
    (h : before.perform (Action.organization request) = (.ok a, after))
    (hf : ∀ member, (f member).account.id = member.account.id)
    (hstate : (before.cloud.organization.state.answer request).2 =
      before.cloud.organization.state.change account f) : HasChanged account f before after := by
  obtain ⟨hgranted, hanswer⟩ := of_perform_organization h
  have hperform := perform_organization hgranted hanswer
  obtain rfl := (congrArg Prod.snd h).symm.trans (congrArg Prod.snd hperform)
  refine ⟨fun other => ?_, fun other => rfl, isRefused_congr rfl rfl rfl fun other => rfl⟩
  show (before.cloud.organization.state.answer request).2.find? other = _
  rw [hstate]
  exact Organization.find?_change _ _ _ _ hf

end World

namespace Lending

open World

variable {reclaimer : Reclaimer} {account : String} {member : Member} {world after : World}

namespace Reclaimer

/-! ## Its tags -/

/-- Removing those claim tags that there are removes all claim tags. -/
theorem eraseAll_present (tags : Tags) :
    tags.eraseAll (Tags.claimKeys.filter tags.contains) = tags.eraseAll Tags.claimKeys := by
  apply Dict.ext_get?
  intro key
  rw [Dict.get?_eraseAll, Dict.get?_eraseAll]
  by_cases hkey : key ∈ Tags.claimKeys
  · rw [if_pos hkey]
    split
    · rfl
    · rename_i habsent
      have hnone : tags.contains key = false := by
        simpa [List.mem_filter, hkey] using habsent
      simpa [Dict.contains] using hnone
  · rw [if_neg hkey, if_neg fun hmem => hkey (List.mem_filter.1 hmem).1]

/-- A member without claim tags. -/
def untagged (member : Member) : Member :=
  { member with tags := member.tags.eraseAll Tags.claimKeys }

theorem hasChanged_of_perform_untag (h : world.perform (untag account) = (.ok (), after)) :
    HasChanged account untagged world after := by
  -- the tags that are removed are those that were read, with no one writing in between
  obtain ⟨tags, read, hread, h⟩ := exists_of_perform_bind h
  obtain ⟨member, hmember, rfl⟩ := exists_of_perform_readTags hread
  have hsame := hasOnlyRead_of_perform (uses_readTags account) hread
  have herased := eraseAll_present member.tags
  dsimp only at h
  split at h
  · rename_i habsent
    have hlogged := hsame.trans (hasOnlyRead_of_perform (uses_log _ _) h)
    apply (hlogged.hasChanged account).congr hmember
    rw [List.isEmpty_iff.1 habsent] at herased
    rw [untagged, ← herased]
    rfl
  · obtain ⟨_, removed, hremoved, h⟩ := exists_of_perform_bind h
    have hchanged : HasChanged account (fun other => { other with
        tags := other.tags.eraseAll (Tags.claimKeys.filter member.tags.contains) }) read removed :=
      hasChanged_of_perform hremoved (fun _ => rfl) rfl
    have hlogged := hasOnlyRead_of_perform (uses_log _ _) h
    apply ((hsame.hasChanged account).trans ((hchanged.trans (hlogged.hasChanged account)))).congr
      hmember
    simp only [Function.comp_apply, id, untagged, herased]

theorem succeeds_untag (hmember : world.cloud.organization.state.find? account = some member)
    (h : ∀ call ∈ world.calls (untag account), world.isRefused call = false) :
    world.Succeeds (untag account) := by
  refine succeeds_bind h (fun hcalls => ?_) fun tags read hread hcalls => ?_
  · apply succeeds_organization (a := member.tags) (hcalls _ (List.mem_singleton_self _))
    simp [Organization.answer, Organization.fromMember, hmember]
  · have hsame := hasOnlyRead_of_perform (uses_readTags account) hread
    have hchanged := hsame.hasChanged account
    dsimp only at hcalls ⊢
    split at hcalls
    · rename_i habsent
      rw [if_pos habsent]
      exact succeeds_log _ _ _
    · rename_i hpresent
      rw [if_neg hpresent]
      refine succeeds_bind hcalls (fun hcalls => ?_) fun _ removed hremoved hcalls =>
        succeeds_log _ _ _
      refine succeeds_organization (a := ()) ?_ ?_
      · rw [hchanged.isRefused]
        exact hcalls _ (List.mem_singleton_self _)
      · simp [Organization.answer, Organization.fromMember, hsame.cloud.state, hmember]

/-! ## Its place -/

/-- A member under the root of a pool. -/
def atRoot (reclaimer : Reclaimer) (member : Member) : Member :=
  { member with parent := reclaimer.payer.root }

theorem atRoot_of_parent {parent : String} (h : member.parent = parent)
    (hroot : parent = reclaimer.payer.root) : member = atRoot reclaimer member := by
  rw [atRoot, ← hroot, ← h]

theorem hasChanged_of_perform_moveBack
    (h : world.perform (reclaimer.moveBack account) = (.ok (), after)) :
    HasChanged account (atRoot reclaimer) world after := by
  obtain ⟨parent, read, hread, h⟩ := exists_of_perform_bind h
  obtain ⟨member, hmember, hparent, hpool⟩ := exists_of_perform_poolParent hread
  have hsame := hasOnlyRead_of_perform (reclaimer.uses_poolParent account) hread
  split at h
  · rename_i hroot
    have hlogged := hsame.trans (hasOnlyRead_of_perform (uses_log _ _) h)
    exact (hlogged.hasChanged account).congr hmember (atRoot_of_parent hparent hroot)
  · rename_i hnot
    -- an account of the pool that is not under the root is under the other unit
    have hclaimed : member.parent = reclaimer.payer.claimed :=
      hparent.trans (hpool.resolve_left hnot)
    have hfound : read.cloud.organization.state.find? account = some member := by
      rw [hsame.cloud.state]
      exact hmember
    obtain ⟨_, moved, hmoved, h⟩ := exists_of_perform_bind h
    have hchanged : HasChanged account (atRoot reclaimer) read moved :=
      hasChanged_of_perform hmoved (fun _ => rfl)
        (congrArg Prod.snd (Organization.answer_move hfound hclaimed))
    have hlogged := hasOnlyRead_of_perform (uses_log _ _) h
    exact (hsame.hasChanged account).trans (hchanged.trans (hlogged.hasChanged account))

theorem succeeds_poolParent (hmember : world.cloud.organization.state.find? account = some member)
    (hpool : member.parent = reclaimer.payer.root ∨ member.parent = reclaimer.payer.claimed)
    (h : ∀ call ∈ world.calls (reclaimer.poolParent account), world.isRefused call = false) :
    world.Succeeds (reclaimer.poolParent account) := by
  have hanswer :
      (world.cloud.organization.state.answer (.parentOf account)).1 = .ok member.parent := by
    simp [Organization.answer, Organization.fromMember, hmember]
  refine succeeds_bind h (fun hcalls => ?_) fun parent read hread _ => ?_
  · exact succeeds_organization (hcalls _ (List.mem_singleton_self _)) hanswer
  · obtain rfl := Except.ok.inj (hanswer.symm.trans (of_perform_organization hread).2)
    rw [if_pos hpool]
    exact succeeds_pure _ _

theorem succeeds_moveBack (hmember : world.cloud.organization.state.find? account = some member)
    (hpool : member.parent = reclaimer.payer.root ∨ member.parent = reclaimer.payer.claimed)
    (h : ∀ call ∈ world.calls (reclaimer.moveBack account), world.isRefused call = false) :
    world.Succeeds (reclaimer.moveBack account) := by
  apply succeeds_bind h (succeeds_poolParent hmember hpool)
  intro parent read hread hcalls
  obtain ⟨found, hfound, hparent, hplace⟩ := exists_of_perform_poolParent hread
  obtain rfl := Option.some.inj (hmember.symm.trans hfound)
  have hsame := hasOnlyRead_of_perform (reclaimer.uses_poolParent account) hread
  split at hcalls
  · rename_i hroot
    rw [if_pos hroot]
    exact succeeds_log _ _ _
  · rename_i hnot
    rw [if_neg hnot]
    refine succeeds_bind hcalls (fun hcalls => ?_) fun _ moved hmoved hcalls => succeeds_log _ _ _
    refine succeeds_organization (a := ()) ?_ ?_
    · rw [(hsame.hasChanged account).isRefused]
      exact hcalls _ (List.mem_singleton_self _)
    · have hclaimed := hparent.trans (hplace.resolve_left hnot)
      rw [hsame.cloud.state, Organization.answer_move hmember hclaimed]

/-! ## A session in it -/

/-- The resource name of the admin role names the account. -/
theorem accountOfRole?_adminRoleArn (reclaimer : Reclaimer) (h : AccountId.isValid account = true) :
    Cloud.accountOfRole? (reclaimer.adminRoleArn account) = some account := by
  -- the pieces of the name are told apart by colons, and a valid number has none
  have hseparator : ':' ∉ account.toList := by
    intro hmem
    rw [AccountId.isValid, Bool.and_eq_true, List.all_eq_true] at h
    exact absurd (h.2 ':' hmem) (by decide)
  have hpieces : Text.pieces ':' (reclaimer.adminRoleArn account).toList =
      ["arn".toList, "aws".toList, "iam".toList, [], account.toList]
        ++ Text.pieces ':' ("role/" ++ reclaimer.settings.adminRole).toList := by
    have hlist :
        (reclaimer.adminRoleArn account).toList = "arn".toList ++ ':' :: ("aws".toList ++ ':' ::
        ("iam".toList ++ ':' :: ([] ++ ':' :: (account.toList ++ ':' ::
          ("role/" ++ reclaimer.settings.adminRole).toList)))) := by
      simp [adminRoleArn, String.toList_append]
    rw [hlist, Text.pieces_append_cons _ _ _ (by decide), Text.pieces_append_cons _ _ _ (by decide),
      Text.pieces_append_cons _ _ _ (by decide), Text.pieces_append_cons _ _ _ (by simp),
      Text.pieces_append_cons _ _ _ hseparator]
    rfl
  rw [Cloud.accountOfRole?, Text.field?, hpieces]
  simp

/-- Assuming a role opens the session of the account that the role names. -/
theorem exists_of_assumeRole {world : World} {arn : String} (name : String) (seconds : Int32)
    (harn : Cloud.accountOfRole? arn = some account)
    (hgranted : world.isRefused (.cloud (.identity (.assumeRole arn name seconds))) = false) :
    ∃ after, world.perform (Action.identity (.assumeRole arn name seconds)) =
        (.ok (Cloud.sessionOf account), after) ∧ HasChanged account id world after := by
  have hallowed : world.cloud.identity.fails (Identity.Event.assumed account).entry = false := by
    simpa [isRefused, harn] using hgranted
  have hserve : world.cloud.assumeRole arn name = (.ok (Cloud.sessionOf account),
      { world.cloud with
        identity := (world.cloud.identity.record (.assumed account)).record (.opened name) }
        |>.changeIam account id) := by
    simp [Cloud.assumeRole, harn, hallowed]
  refine ⟨{ world with cloud := (world.cloud.assumeRole arn name).2 }, ?_, ?_⟩
  · apply (perform_cloud _ _).trans
    show ((world.cloud.assumeRole arn name).1.mapError PoolError.service,
      ({ world with cloud := (world.cloud.assumeRole arn name).2 } : World)) = _
    rw [hserve]
    rfl
  · have hiam := (world.cloud.assumeRole_keeps arn name).2
    rw [hserve] at hiam ⊢
    refine ⟨fun other => ?_, hiam, isRefused_congr rfl rfl rfl fun other => congrArg _ (hiam other)⟩
    rw [Option.map_id, id, ite_self]
    rfl

theorem not_refused_of_assumeRole {arn name : String} {seconds : Int32} {session : Session}
    (h : world.perform (Action.identity (.assumeRole arn name seconds)) = (.ok session, after)) :
    world.isRefused (.cloud (.identity (.assumeRole arn name seconds))) = false := by
  have hreply : (world.cloud.assumeRole arn name).1.mapError PoolError.service = .ok session :=
    congrArg Prod.fst h
  replace hreply := ok_of_mapError hreply
  simp only [isRefused]
  cases harn : Cloud.accountOfRole? arn with
  | none => rfl
  | some account =>
    rw [Option.any_some]
    cases hfails : world.cloud.identity.fails (Identity.Event.assumed account).entry with
    | false => rfl
    | true => simp [Cloud.assumeRole, harn, hfails] at hreply

theorem of_perform_openSession {session : Session} (hvalid : AccountId.isValid account = true)
    (h : world.perform (reclaimer.openSession account) = (.ok session, after)) :
    session = Cloud.sessionOf account ∧ HasChanged account id world after := by
  obtain ⟨now, told, htold, h⟩ := exists_of_perform_bind h
  obtain ⟨_, logged, hlogged, h⟩ := exists_of_perform_bind h
  obtain ⟨after', hsession, hchanged⟩ :=
    exists_of_assumeRole _ _ (accountOfRole?_adminRoleArn reclaimer hvalid)
      (not_refused_of_assumeRole h)
  obtain ⟨hsame, rfl⟩ := Prod.mk.inj (h.symm.trans hsession)
  obtain rfl : world = told := congrArg Prod.snd htold
  have hread := hasOnlyRead_of_perform (uses_log _ _) hlogged
  exact ⟨Except.ok.inj hsame, (hread.hasChanged account).trans hchanged⟩

theorem succeeds_openSession (hvalid : AccountId.isValid account = true)
    (h : ∀ call ∈ world.calls (reclaimer.openSession account), world.isRefused call = false) :
    world.Succeeds (reclaimer.openSession account) := by
  apply succeeds_bind h (fun _ => ⟨_, _, rfl⟩)
  intro now told htold hcalls
  obtain rfl : world = told := congrArg Prod.snd htold
  apply succeeds_bind hcalls (fun _ => succeeds_log _ _ _)
  intro _ logged hlogged hcalls
  have hread := hasOnlyRead_of_perform (uses_log _ _) hlogged
  -- the last call of the three is made in the world that the first two leave
  have hgranted : logged.isRefused (.cloud (.identity (.assumeRole (reclaimer.adminRoleArn account)
      (reclaimer.settings.sessionNameStart ++ "-" ++ Time.digits now)
      reclaimer.settings.sessionSeconds))) = false := by
    rw [hread.isRefused]
    exact hcalls _ (List.mem_singleton_self _)
  obtain ⟨after, hsession, -⟩ :=
    exists_of_assumeRole _ _ (accountOfRole?_adminRoleArn reclaimer hvalid) hgranted
  exact ⟨_, after, hsession⟩

/-! ## The whole return -/

/-- A member that was returned: it stands under the root and has no claim tags. -/
def returned (reclaimer : Reclaimer) (member : Member) : Member :=
  atRoot reclaimer (untagged member)

/-- An account that was returned is free and under the root, its session is its own, and everything
else is what it was. -/
theorem of_perform_release {session : Session} (hvalid : AccountId.isValid account = true)
    (h : world.perform (reclaimer.release account) = (.ok session, after)) :
    session = Cloud.sessionOf account ∧ HasChanged account (returned reclaimer) world after := by
  obtain ⟨_, freed, hfreed, h⟩ := exists_of_perform_bind h
  obtain ⟨_, moved, hmoved, h⟩ := exists_of_perform_bind h
  obtain ⟨hsession, hopened⟩ := of_perform_openSession hvalid h
  refine ⟨hsession, ?_⟩
  exact (hasChanged_of_perform_untag hfreed).trans
    ((hasChanged_of_perform_moveBack hmoved).trans hopened)

/-- An account that may be taken back is returned, unless a call is refused. -/
theorem succeeds_release (hvalid : AccountId.isValid account = true)
    (hmember : world.cloud.organization.state.find? account = some member)
    (hpool : member.parent = reclaimer.payer.root ∨ member.parent = reclaimer.payer.claimed)
    (h : ∀ call ∈ world.calls (reclaimer.release account), world.isRefused call = false) :
    world.Succeeds (reclaimer.release account) := by
  apply succeeds_bind h (succeeds_untag hmember)
  intro _ freed hfreed hcalls
  have hchanged := hasChanged_of_perform_untag hfreed
  have hfound : freed.cloud.organization.state.find? account = some (untagged member) := by
    rw [hchanged.find?, if_pos rfl, hmember, Option.map_some]
  refine succeeds_bind hcalls (fun hcalls => succeeds_moveBack hfound hpool fun call hcall => ?_)
    fun _ moved hmoved hcalls => succeeds_openSession hvalid fun call hcall => ?_
  · rw [hchanged.isRefused]
    exact hcalls call hcall
  · rw [(hchanged.trans (hasChanged_of_perform_moveBack hmoved)).isRefused]
    exact hcalls call hcall

end Reclaimer

end Lending

end AccountLending
