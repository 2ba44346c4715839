import AccountLending.Proofs.Assignment.Faltering
import AccountLending.Proofs.Reclamation.Footprint
import AccountLending.Proofs.Reclamation.Resolving

/-!
# Lending and taking back

An owner whom nobody knows yet is lent an account, with any of the requests failing, and then
everything that the owner has is taken back.  Wherever lending has stopped, the pool is then what it
was: an account that was tagged is found through the index of tagged resources, under whichever unit
it stands, and if none was tagged there is nothing to find.

* `IsOpenTo` — what is asked of a pool and of the owner;
* `IsRestored` — an account that is what it was, but for the token of an earlier claim;
* `IsClaimed.plannedFor_eq` — the account that was tagged is what a reclamation plans;
* `IsClaimed.taken` — a reclamation brings it back;
* `World.reclaim_restores` — the pool after both.
-/

namespace AccountLending

namespace Lending

open World

/-! ## Pools and owners -/

/-- A pool from which an owner whom nobody knows can be lent an account that can be taken back:
nobody else changes the organization, no request to it and no session is refused, and the caller's
own account is none that could be lent.  The operator agrees to take back an account of the
owner. -/
structure IsOpenTo (reclaimer : Reclaimer) (owner : String) (world : World) : Prop where
  undisturbed : world.cloud.IsUndisturbed
  valid : ∀ member ∈ world.cloud.organization.state.members,
    AccountId.isValid member.account.id = true
  granted : ∀ account, world.cloud.identity.fails (Identity.Event.assumed account).entry = false
  caller : ∃ caller, world.cloud.identity.state = .ok caller ∧
    world.cloud.organization.state.parent? caller ≠ some reclaimer.payer.root
  unprotected : reclaimer.settings.isProtectedOwner owner = false
  unowned : ∀ member ∈ world.cloud.organization.state.members, member.tags.owner? ≠ some owner
  unindexed : ∀ resource ∈ world.cloud.organization.state.resources,
    resource.tags.get? Tags.ownerKey ≠ some owner
  agreed :
    ∀ account, world.host.answer (reclaimer.question (.user owner) [⟨account, some owner⟩]) = true

/-- An account is what it was, except that it may have lost the token of an earlier claim when it
was tagged. -/
structure IsRestored (tagged : List String) (account : String) (before after : Organization) :
    Prop where
  parent : after.parent? account = before.parent? account
  tags : ∀ key, (after.tags account).get? key = (before.tags account).get? key ∨
    account ∈ tagged ∧ key = Tags.tokenKey ∧ (after.tags account).get? key = none

theorem isRestored_of_find? {tagged : List String} {account : String} {before after : Organization}
    (h : after.find? account = before.find? account) : IsRestored tagged account before after where
  parent := Organization.parent?_congr h
  tags key := .inl (by rw [Organization.tags_congr h])

/-- Removing the tags of a claim from an account that was free leaves those that it had, but for the
token of an earlier claim. -/
theorem get?_eraseAll_written {tags : Tags} (hfree : (Claim.ofTags tags).isFree = true)
    (owner token key : String) :
    ((Organization.written tags (Tags.ofClaim owner token) none).eraseAll Tags.claimKeys).get? key =
      if key = Tags.tokenKey then none else tags.get? key := by
  obtain ⟨howner, hclaimed⟩ := (Claim.isFree_ofTags_iff tags).1 hfree
  replace hclaimed : tags.get? Tags.claimedKey = none := by simpa [Dict.contains] using hclaimed
  rw [Dict.get?_eraseAll]
  by_cases htoken : key = Tags.tokenKey
  · simp [htoken, Tags.claimKeys]
  rw [if_neg htoken]
  split
  · rename_i hkey
    -- the other two tags of a claim were not there before
    have hother :
        key = Tags.ownerKey ∨ key = Tags.claimedKey := by simpa [Tags.claimKeys, htoken] using hkey
    rcases hother with rfl | rfl
    · exact howner.symm
    · exact hclaimed.symm
  · rename_i hkey
    have hunwritten : (Tags.ofClaim owner token).get? key = none := by
      simp only [Tags.claimKeys, List.mem_cons, List.not_mem_nil, or_false, not_or] at hkey
      rw [Tags.get?_ofClaim, if_neg hkey.2.2, if_neg hkey.2.1, if_neg hkey.1]
    rw [Organization.written, Dict.get?_insertAll_entries, hunwritten, Option.none_or]

/-! ## The index after lending -/

/-- The index has every account once. -/
theorem nodup_indexed (world : World) (user : String) :
    (world.cloud.organization.state.indexed user).Nodup := by
  rw [Organization.indexed, ← run_accountsAmong user [] _ world]
  exact (nodup_accountsAmong user List.nodup_nil (by simp) _ world).1

/-- The index has nothing for an owner whom nobody knows. -/
theorem IsOpenTo.resourcesWith_eq_nil {reclaimer : Reclaimer} {owner : String} {world : World}
    (h : IsOpenTo reclaimer owner world) :
    world.cloud.organization.state.resourcesWith Tags.ownerKey owner = [] := by
  have hmembers : world.cloud.organization.state.members.filter
      (·.tags.get? Tags.ownerKey = some owner) = [] :=
    List.filter_eq_nil_iff.2 fun member hmember howner =>
      h.unowned member hmember (of_decide_eq_true howner)
  have hresources : world.cloud.organization.state.resources.filter
      (·.tags.get? Tags.ownerKey = some owner) = [] :=
    List.filter_eq_nil_iff.2 fun resource hresource howner =>
      h.unindexed resource hresource (of_decide_eq_true howner)
  rw [Organization.resourcesWith, hmembers, hresources]
  rfl

section Claimed

variable {reclaimer : Reclaimer} {owner account token parent : String} {tagged : List String}
variable {before lent : World}

/-- The account that was tagged is a member with a valid number. -/
theorem IsClaimed.isValid {payer : Payer} {now : Organization}
    (h : IsClaimed payer owner before.cloud.organization.state tagged account token parent now)
    (hopen : IsOpenTo reclaimer owner before) : AccountId.isValid account = true := by
  obtain ⟨member, hmember, -⟩ := Option.map_eq_some_iff.1 h.pooled
  have hid : member.account.id = account := by simpa using List.find?_some hmember
  rw [← hid]
  exact hopen.valid member (List.mem_of_find?_eq_some hmember)

theorem IsClaimed.exists_member {payer : Payer} {organization now : Organization}
    (h : IsClaimed payer owner organization tagged account token parent now) :
    ∃ member, now.find? account = some member ∧ member.parent = parent ∧
      member.tags = Organization.written (organization.tags account)
        (Tags.ofClaim owner token) none := by
  obtain ⟨member, hmember, hparent⟩ := Option.map_eq_some_iff.1 h.parent
  exact ⟨member, hmember, hparent, (Organization.tags_of_find? hmember).symm.trans h.tags⟩

/-- The index has the account that was tagged, and no other. -/
theorem IsClaimed.indexed_eq
    (h : IsClaimed reclaimer.payer owner before.cloud.organization.state tagged account token parent
      lent.cloud.organization.state)
    (hopen : IsOpenTo reclaimer owner before) (hstill : before.IsStill lent) :
    lent.cloud.organization.state.indexed owner = [account] := by
  have hvalid := h.isValid hopen
  refine List.perm_singleton.1 ((List.perm_ext_iff_of_nodup (nodup_indexed lent owner)
    (List.nodup_singleton account)).2 fun other => ?_)
  rw [List.mem_singleton]
  constructor
  · intro hother
    obtain ⟨arn, harn, hnumber⟩ := Organization.mem_indexed_iff.1 hother
    rcases List.mem_append.1 harn with hmember | hresource
    · obtain ⟨member, howned, rfl⟩ := List.mem_map.1 hmember
      obtain ⟨hmember, howner⟩ := List.mem_filter.1 howned
      have hfound := Organization.find?_of_mem hstill.undisturbed.distinct hmember
      -- a member other than the account is what it was, and was not the owner's
      by_cases hid : member.account.id = account
      · rw [hid, AccountId.ofArn?_arn hvalid] at hnumber
        exact (Option.some.inj hnumber).symm
      · rw [h.other _ hid] at hfound
        exact absurd (of_decide_eq_true howner)
          (hopen.unowned member (List.mem_of_find?_eq_some hfound))
    · obtain ⟨resource, howned, -⟩ := List.mem_map.1 hresource
      obtain ⟨hresource, howner⟩ := List.mem_filter.1 howned
      rw [hstill.resources] at hresource
      exact absurd (of_decide_eq_true howner) (hopen.unindexed resource hresource)
  · rintro rfl
    obtain ⟨member, hmember, -, htags⟩ := h.exists_member
    refine Organization.mem_indexed_of_find? hvalid hmember ?_
    rw [htags, Tags.owner?_written]

theorem IsClaimed.plannedFor_eq
    (h : IsClaimed reclaimer.payer owner before.cloud.organization.state tagged account token parent
      lent.cloud.organization.state)
    (hopen : IsOpenTo reclaimer owner before) (hstill : before.IsStill lent) :
    plannedFor lent.cloud.organization.state owner = [⟨account, some owner⟩] := by
  have howner : (lent.cloud.organization.state.tags account).owner? = some owner := by
    rw [h.tags, Tags.owner?_written]
  rw [plannedFor, h.indexed_eq hopen hstill, List.filter_cons_of_pos (by simpa using howner)]
  rfl

/-! ## Taking back -/

/-- None of the calls by which an account is returned is refused, as long as neither the
organization nor the sessions are. -/
theorem isRefused_of_isReturning {payer : Payer} {world : World}
    (hanswers : world.OrganizationAnswers) (hgranted : ∀ account,
      world.cloud.identity.fails (Identity.Event.assumed account).entry = false)
    {call : Call} (hcall : call.IsReturning payer account) : world.isRefused call = false := by
  match call, hcall with
  | .cloud (.organization request), _ => exact hanswers request
  | .cloud (.identity (.assumeRole arn _ _)), _ =>
    rw [isRefused]
    cases Cloud.accountOfRole? arn with
    | none => rfl
    | some account => exact hgranted _
  | .host _, _ => rfl

/-- One account of the pool is taken back when neither the organization nor the sessions are
refused. -/
theorem Reclaimer.taken_of_planned {world mid : World} {p : Planned} (question : String)
    (hanswers : world.OrganizationAnswers)
    (hgranted : ∀ account,
      world.cloud.identity.fails (Identity.Event.assumed account).entry = false)
    (hread : world.HasOnlyRead mid)
    (hplanned : IsReclaimable reclaimer world.cloud.organization.state p) :
    ∃ reports after,
      (mid.asked question).perform (reclaimer.reclaimAll [] [p]) = (.ok reports, after) ∧
      HasTakenBack reclaimer [p.account] world after := by
  obtain ⟨hvalid, member, hmember, hpool, -⟩ := hplanned
  rw [← hread.cloud.state] at hmember
  obtain ⟨session, released, hrelease⟩ :
      (mid.asked question).Succeeds (reclaimer.release p.account) := by
    refine succeeds_release hvalid hmember hpool fun call hcall => ?_
    apply (hread.isRefused call).trans
    exact isRefused_of_isReturning hanswers hgranted
      ((reclaimer.isReturning_release p.account).mem_trace hcall)
  obtain ⟨rfl, -⟩ := of_perform_release hvalid hrelease
  have hall : (mid.asked question).perform (reclaimer.reclaimAll [] [p]) = _ :=
    perform_reclaimAll_cons hrelease rfl
  have hnodup : ([p].map (·.account)).Nodup := List.nodup_singleton _
  obtain ⟨-, htaken⟩ := of_perform_reclaimAll hnodup (by simpa using hvalid) hall
  exact ⟨_, _, hall, htaken.of_asked hread⟩

theorem IsClaimed.isReclaimable
    (h : IsClaimed reclaimer.payer owner before.cloud.organization.state tagged account token parent
      lent.cloud.organization.state)
    (hparent : parent = reclaimer.payer.root ∨ parent = reclaimer.payer.claimed)
    (hopen : IsOpenTo reclaimer owner before) :
    IsReclaimable reclaimer lent.cloud.organization.state ⟨account, some owner⟩ := by
  obtain ⟨member, hmember, hplace, htags⟩ := h.exists_member
  rw [← hplace] at hparent
  exact ⟨h.isValid hopen, member, hmember, hparent, by rw [htags, Tags.owner?_written]⟩

/-- A reclamation for an owner plans the account that was tagged for the owner. -/
theorem IsClaimed.perform_plan
    (h : IsClaimed reclaimer.payer owner before.cloud.organization.state tagged account token parent
      lent.cloud.organization.state)
    (hparent : parent = reclaimer.payer.root ∨ parent = reclaimer.payer.claimed)
    (hopen : IsOpenTo reclaimer owner before) (hstill : before.IsStill lent) :
    (lent.perform (reclaimer.plan (.user owner))).1 = .ok [⟨account, some owner⟩] := by
  obtain ⟨caller, hcaller, houtside⟩ := hopen.caller
  obtain ⟨-, member, hmember, hpool, -⟩ := h.isReclaimable hparent hopen
  have hindexed := h.indexed_eq hopen hstill
  have hsome :
      (lent.cloud.organization.state.resourcesWith Tags.ownerKey owner).isEmpty = false := by
    obtain ⟨arn, harn, -⟩ :=
      Organization.mem_indexed_iff.1 (hindexed ▸ List.mem_singleton_self account)
    exact List.isEmpty_eq_false_iff_exists_mem.2 ⟨arn, harn⟩
  have hchecked : ∀ other ∈ lent.cloud.organization.state.indexed owner,
      IsChecked reclaimer caller owner lent.cloud.organization.state other := by
    intro other hindex
    rw [hindexed, List.mem_singleton] at hindex
    rw [hindex]
    -- the account was under the root, so that it is not the caller's
    refine ⟨?_, member, hmember, fun _ => hpool⟩
    rintro rfl
    exact houtside h.pooled
  rw [Reclaimer.perform_plan_user hstill.undisturbed.answering hopen.unprotected
    ((congrArg Journaled.state hstill.identity).trans hcaller) hchecked, hsome,
    if_neg Bool.false_ne_true,
    h.plannedFor_eq hopen hstill, List.isEmpty_cons, if_neg Bool.false_ne_true]

/-- A reclamation for an owner brings back the account that was tagged for the owner. -/
theorem IsClaimed.taken
    (h : IsClaimed reclaimer.payer owner before.cloud.organization.state tagged account token parent
      lent.cloud.organization.state)
    (hparent : parent = reclaimer.payer.root ∨ parent = reclaimer.payer.claimed)
    (hopen : IsOpenTo reclaimer owner before) (hstill : before.IsStill lent) :
    ∃ reports after, lent.perform (reclaimer.reclaim askOperator (.user owner)) =
        (Reclaimer.conclusion reports, after) ∧ HasTakenBack reclaimer [account] lent after := by
  have hplan := h.perform_plan hparent hopen hstill
  cases hfound : lent.perform (reclaimer.plan (.user owner)) with
  | mk found mid =>
  rw [hfound] at hplan
  obtain rfl : found = _ := hplan
  have hread := hasOnlyRead_of_perform (reclaimer.uses_plan (.user owner)) hfound
  have hconfirm := mid.run_askOperator (reclaimer.question (.user owner) [⟨account, some owner⟩])
  rw [hread.answer, hstill.answer, hopen.agreed] at hconfirm
  have hgranted :
      ∀ other, lent.cloud.identity.fails (Identity.Event.assumed other).entry = false := by
    rw [hstill.identity]
    exact hopen.granted
  obtain ⟨reports, after, hall, htaken⟩ := Reclaimer.taken_of_planned
    (reclaimer.question (.user owner) [⟨account, some owner⟩]) hstill.undisturbed.answering
    hgranted hread (h.isReclaimable hparent hopen)
  exact ⟨reports, after, Reclaimer.perform_reclaim_agreed hfound hconfirm hall, htaken⟩

/-- An account that was tagged and taken back is what it was, and so are all others. -/
theorem IsClaimed.isRestored {after : World}
    (h : IsClaimed reclaimer.payer owner before.cloud.organization.state tagged account token parent
      lent.cloud.organization.state)
    (htaken : HasTakenBack reclaimer [account] lent after) (other : String) :
    IsRestored tagged other before.cloud.organization.state after.cloud.organization.state := by
  by_cases hother : other = account
  · obtain ⟨member, hmember, -, htags⟩ := h.exists_member
    have hfound :
        after.cloud.organization.state.find? account = some (reclaimer.returned member) := by
      rw [htaken.find?, if_pos (List.mem_singleton_self account), hmember, Option.map_some]
    rw [hother]
    constructor
    · rw [h.pooled]
      simp [Organization.parent?, hfound, Reclaimer.returned, Reclaimer.atRoot]
    · intro key
      rw [Organization.tags_of_find? hfound, show (reclaimer.returned member).tags =
        member.tags.eraseAll Tags.claimKeys from rfl, htags, get?_eraseAll_written h.free]
      split
      · rename_i hkey
        exact .inr ⟨h.tagged ▸ List.mem_singleton_self account, hkey, rfl⟩
      · exact .inl rfl
  · apply isRestored_of_find?
    rw [htaken.find?, if_neg (by simpa using hother)]
    exact h.other other hother

/-- A reclamation for an owner who has got nothing finds nothing. -/
theorem IsUntouched.reclaim
    (h : IsUntouched before.cloud.organization.state tagged lent.cloud.organization.state)
    (hopen : IsOpenTo reclaimer owner before) (hstill : before.IsStill lent) :
    ∃ after, lent.perform (reclaimer.reclaim askOperator (.user owner)) =
        (.error (.noResources owner), after) ∧
      after.cloud.organization.state = before.cloud.organization.state := by
  obtain ⟨caller, hcaller, -⟩ := hopen.caller
  have hnone : lent.cloud.organization.state.resourcesWith Tags.ownerKey owner = [] := by
    rw [h.same]
    exact hopen.resourcesWith_eq_nil
  have hchecked : ∀ other ∈ lent.cloud.organization.state.indexed owner,
      IsChecked reclaimer caller owner lent.cloud.organization.state other := by
    rw [Organization.indexed, hnone]
    exact fun other hindex => absurd hindex List.not_mem_nil
  have hplan := Reclaimer.perform_plan_user hstill.undisturbed.answering hopen.unprotected
    ((congrArg Journaled.state hstill.identity).trans hcaller) hchecked
  rw [hnone, List.isEmpty_nil, if_pos rfl] at hplan
  cases hfound : lent.perform (reclaimer.plan (.user owner)) with
  | mk found after =>
  rw [hfound] at hplan
  obtain rfl : found = _ := hplan
  have hread := hasOnlyRead_of_perform (reclaimer.uses_plan (.user owner)) hfound
  exact ⟨after, Reclaimer.perform_reclaim_failed hfound, hread.cloud.state.trans h.same⟩

end Claimed

theorem Reclaimer.conclusion_ne_noResources (reports : List Report) (owner : String) :
    Reclaimer.conclusion reports ≠ .error (.noResources owner) := by
  unfold Reclaimer.conclusion
  split <;> simp

end Lending

open Lending

/-- An owner whom nobody knows is lent an account of a pool that is open to them (`IsOpenTo`), with
any of the requests failing without effect, and then all that the owner has is taken back, without
failures.  Every account is then under the unit and has the tags that it had before, but for the
token of an earlier claim on the account that was tagged.  The reclamation finds no resource of the
owner just when lending has tagged no account. -/
theorem World.reclaim_restores {start lent : Faltering} {reclaimer : Reclaimer}
    {settings : AllocationSettings} {owner : String} {assigned : Except PoolError String}
    {result : Except PoolError ReclaimOutcome} {after : World}
    (hopen : IsOpenTo reclaimer owner start.world)
    (hlent : Faltering.run (assign reclaimer.payer settings owner).run start = (assigned, lent))
    (hrun : lent.world.perform (reclaimer.reclaim askOperator (.user owner)) = (result, after)) :
    let tagged := taggedIn (Faltering.exchanges (assign reclaimer.payer settings owner).run start)
    (∀ account, IsRestored tagged account start.world.cloud.organization.state
      after.cloud.organization.state) ∧
    (result = .error (.noResources owner) ↔ tagged = []) := by
  intro tagged
  obtain ⟨hstill, huntouched | ⟨account, token, parent, hclaimed, hparent⟩⟩ :=
    lent_of_run hopen.undisturbed hlent
  · obtain ⟨finished, hfinished, hsame⟩ := huntouched.reclaim hopen hstill
    obtain ⟨rfl, rfl⟩ := Prod.mk.inj (hrun.symm.trans hfinished)
    exact ⟨fun account => isRestored_of_find? (by rw [hsame]), iff_of_true rfl huntouched.tagged⟩
  · obtain ⟨reports, finished, hfinished, htaken⟩ := hclaimed.taken hparent hopen hstill
    obtain ⟨rfl, rfl⟩ := Prod.mk.inj (hrun.symm.trans hfinished)
    refine ⟨hclaimed.isRestored htaken,
      iff_of_false (Reclaimer.conclusion_ne_noResources reports owner) ?_⟩
    rw [show tagged = _ from hclaimed.tagged]
    exact List.cons_ne_nil _ _

/-! ### An account that is tagged and cannot be moved -/

/-- A pool of one free account, which has a tag of its own and the token of an earlier claim, and a
party whose sixth request fails. -/
def faultyStart : Faltering where
  world := { cloud := (Cloud.ofCaller (.ok "999999999999")).changeOrganization (·.addMember
    ⟨{ id := "111122223333", status := .active }, "r-pool",
      Dict.ofList [("team", "red"), (Tags.tokenKey, "earlier")]⟩) }
  faults :=
    [none, none, none, none, none, some ⟨.organizations, .refused "MoveAccount:111122223333"⟩]

theorem isOpenTo_faultyStart : IsOpenTo lentReclaimer "alice" faultyStart.world where
  undisturbed := ⟨fun _ => rfl, rfl, by decide⟩
  valid := by decide
  granted _ := rfl
  caller := ⟨"999999999999", rfl, by decide⟩
  unprotected := by decide +kernel
  unowned := by decide +kernel
  unindexed := by decide
  agreed _ := rfl

/-- The account is tagged and stays under the root.  The reclamation finds it, and leaves it with
the tag of its own. -/
theorem reclaim_restores_faulty :
    let lent := (Faltering.run (assign lentReclaimer.payer {} "alice").run faultyStart).2.world
    let (result, after) := lent.perform (lentReclaimer.reclaim askOperator (.user "alice"))
    result ≠ .error (.noResources "alice") ∧
      after.cloud.organization.state.parent? "111122223333" = some "r-pool" ∧
      (after.cloud.organization.state.tags "111122223333").get? "team" = some "red" := by
  have htagged :
      taggedIn (Faltering.exchanges (assign lentReclaimer.payer {} "alice").run faultyStart) =
      ["111122223333"] := by
    decide +kernel
  cases hlent : Faltering.run (assign lentReclaimer.payer {} "alice").run faultyStart with
  | mk assigned lent =>
  dsimp only
  cases hrun : lent.world.perform (lentReclaimer.reclaim askOperator (.user "alice")) with
  | mk result after =>
  obtain ⟨hrestored, hresult⟩ := World.reclaim_restores isOpenTo_faultyStart hlent hrun
  rw [htagged] at hresult
  have haccount := hrestored "111122223333"
  refine ⟨fun hnone => List.cons_ne_nil _ _ (hresult.1 hnone), haccount.parent, ?_⟩
  rcases haccount.tags "team" with hsame | ⟨-, htoken, -⟩
  · exact hsame
  · exact absurd htoken (by decide)

end AccountLending
