import Mathlib.Data.List.Forall2
import AccountLending.Proofs.Clearing.Removing
import AccountLending.Proofs.Reclamation.Turns

/-!
# The footprint of a reclamation

A reclamation puts one question, which lists the accounts of its plan, and changes no other account.
Of the accounts that it lists it takes away claim tags, brings them from the claimed unit to the
root, and removes what it finds in their IAM; it adds nothing and alters nothing else.  This is so
however the reclamation ends and whichever of its calls are refused.

* `Member.IsReturnOf` — what may become of a member;
* `World.IsConfined` — a world in which only some accounts were taken back, as far as it went;
* `World.IsConfined.serve` — what each call of a turn may change;
* `Reclaimer.torn_of_perform_reclaimAll` — the accounts that were cleared, and those that were not;
* `World.reclaim_confined` — the footprint of a whole reclamation.
-/

namespace AccountLending

/-! ## Members -/

/-- What may become of a member when some accounts of a pool are taken back: it can lose claim tags,
and it can come from the claimed unit to the root.  A member that is not one of the accounts stays
what it is. -/
structure Member.IsReturnOf (payer : Payer) (accounts : List String) (old new : Member) : Prop where
  account : new.account = old.account
  tags : ∀ key, new.tags.get? key = old.tags.get? key ∨
    (key ∈ Tags.claimKeys ∧ new.tags.get? key = none)
  parent : new.parent = old.parent ∨ (old.parent = payer.claimed ∧ new.parent = payer.root)
  other : old.account.id ∉ accounts → new = old

namespace Member.IsReturnOf

variable {payer : Payer} {accounts : List String}

theorem refl (member : Member) : member.IsReturnOf payer accounts member :=
  ⟨rfl, fun _ => .inl rfl, .inl rfl, fun _ => rfl⟩

theorem trans {old mid new : Member} (h : IsReturnOf payer accounts old mid)
    (h' : IsReturnOf payer accounts mid new) : IsReturnOf payer accounts old new where
  account := h'.account.trans h.account
  tags key := by
    rcases h'.tags key with hsame | hgone
    · rw [hsame]
      exact h.tags key
    · exact .inr hgone
  parent := by
    rcases h'.parent with hsame | ⟨hclaimed, hroot⟩
    · rw [hsame]
      exact h.parent
    · rcases h.parent with hsame | ⟨hclaimed', -⟩
      · exact .inr ⟨hsame ▸ hclaimed, hroot⟩
      · exact .inr ⟨hclaimed', hroot⟩
  other hother := by
    have hmid := h.other hother
    rw [h'.other (by rwa [hmid]), hmid]

end Member.IsReturnOf

namespace Organization

/-- Changing the first member of a number relates the members one by one. -/
theorem forall₂_changeFirst {R : Member → Member → Prop} (hrefl : ∀ member, R member member)
    {account : String} {f : Member → Member} (members : List Member)
    (hf : ∀ member, members.find? (·.account.id = account) = some member → R member (f member)) :
    List.Forall₂ R members (changeFirst account f members) := by
  induction members with
  | nil => exact .nil
  | cons member rest ih =>
    rw [changeFirst]
    by_cases hmember : member.account.id = account
    · rw [if_pos hmember]
      exact .cons (hf member (by simp [hmember])) (List.forall₂_same.2 fun other _ => hrefl other)
    · rw [if_neg hmember]
      exact .cons (hrefl member) (ih fun other hother => hf other (by simpa [hmember] using hother))

/-- An organization some of whose accounts were taken back, as far as it went: the accounts are the
same, in the same order, and so is everything that is no member. -/
structure HasReturned (payer : Payer) (accounts : List String) (before after : Organization) :
    Prop where
  members : List.Forall₂ (Member.IsReturnOf payer accounts) before.members after.members
  resources : after.resources = before.resources
  rivals : after.rivals = before.rivals

namespace HasReturned

variable {payer : Payer} {accounts : List String} {before mid after : Organization}

theorem refl (organization : Organization) : organization.HasReturned payer accounts organization :=
  ⟨List.forall₂_same.2 fun member _ => .refl member, rfl, rfl⟩

theorem trans (h : HasReturned payer accounts before mid)
    (h' : HasReturned payer accounts mid after) : HasReturned payer accounts before after where
  members := by
    have hmembers := h.members
    have hmembers' := h'.members
    clear h h'
    -- the relation of the members is followed along the list in the middle
    generalize before.members = first at hmembers
    generalize mid.members = second at hmembers hmembers'
    generalize after.members = third at hmembers'
    induction hmembers generalizing third with
    | nil =>
      cases hmembers'
      exact .nil
    | cons hmember _ ih =>
      cases hmembers' with
      | cons hmember' hrest => exact .cons (hmember.trans hmember') (ih _ hrest)
  resources := h'.resources.trans h.resources
  rivals := h'.rivals.trans h.rivals

/-- Changing one of the accounts as it may be changed. -/
theorem change {organization : Organization} {account : String} {f : Member → Member}
    (hf : ∀ member, organization.find? account = some member →
      member.IsReturnOf payer accounts (f member)) :
    organization.HasReturned payer accounts (organization.change account f) :=
  ⟨forall₂_changeFirst .refl _ hf, rfl, rfl⟩

/-- The accounts of the members are what they were. -/
theorem accounts_eq (h : HasReturned payer accounts before after) :
    after.members.map (·.account) = before.members.map (·.account) := by
  have hmembers := h.members
  generalize before.members = first at hmembers
  generalize after.members = second at hmembers
  induction hmembers with
  | nil => rfl
  | cons hmember _ ih => simp [hmember.account, ih]

/-- What has become of the member that a number finds. -/
theorem find? (h : HasReturned payer accounts before after) {account : String} {old : Member}
    (hold : before.find? account = some old) :
    ∃ new, after.find? account = some new ∧ old.IsReturnOf payer accounts new := by
  have hmembers := h.members
  unfold Organization.find? at hold ⊢
  generalize before.members = first at hmembers hold
  generalize after.members = second at hmembers
  induction hmembers with
  | nil => simp at hold
  | @cons member member' _ _ hmember _ ih =>
    by_cases hid : member.account.id = account
    · obtain rfl : member = old := by simpa [hid] using hold
      exact ⟨member', by simp [hmember.account, hid], hmember⟩
    · have hid' : member'.account.id ≠ account := by rwa [hmember.account]
      obtain ⟨new, hnew, hreturn⟩ := ih (by simpa [hid] using hold)
      exact ⟨new, by simpa [hid'] using hnew, hreturn⟩

end HasReturned

end Organization

/-! ## Calls of a turn -/

namespace Call

/-- A call that puts a question to the operator. -/
def isQuestion : Call → Bool
  | .host (.confirm _) => true
  | _ => false

/-- A call by which an account is returned: reading, removing claim tags, moving it from the claimed
unit to the root, or opening a session. -/
def IsReturning (payer : Payer) (account : String) : Call → Prop
  | .cloud (.organization (.listTags _)) | .cloud (.organization (.parentOf _)) => True
  | .cloud (.organization (.untag other keys)) =>
    other = account ∧ ∀ key ∈ keys, key ∈ Tags.claimKeys
  | .cloud (.organization (.move other source destination)) =>
    other = account ∧ source = payer.claimed ∧ destination = payer.root
  | .cloud (.identity (.assumeRole ..)) => True
  | .host (.log _) | .host .now => True
  | _ => False

/-- A call by which an account is returned, or cleared through a session in it. -/
def IsTakingBack (payer : Payer) (call : Call) : Prop :=
  (∃ account, call.IsReturning payer account) ∨ ∃ session, Lending.IsOwnCall session call

end Call

namespace Organization

variable {payer : Payer} {accounts : List String} {account : String}

/-- Removing claim tags from one of the accounts. -/
theorem hasReturned_untag (haccount : account ∈ accounts) {keys : List String}
    (hkeys : ∀ key ∈ keys, key ∈ Tags.claimKeys) (organization : Organization) :
    organization.HasReturned payer accounts (organization.answer (.untag account keys)).2 := by
  refine .change fun member hmember => ?_
  have hid : member.account.id = account := by simpa using List.find?_some hmember
  refine ⟨rfl, fun key => ?_, .inl rfl, fun hother => absurd (hid ▸ haccount) hother⟩
  dsimp only
  rw [Dict.get?_eraseAll]
  split
  · rename_i hkey
    exact .inr ⟨hkeys key hkey, rfl⟩
  · exact .inl rfl

/-- Moving one of the accounts from the claimed unit to the root. -/
theorem hasReturned_move (haccount : account ∈ accounts) (organization : Organization) :
    organization.HasReturned payer accounts
      (organization.answer (.move account payer.claimed payer.root)).2 := by
  simp only [answer]
  split
  · exact .refl organization
  · rename_i member hmember
    split
    · rename_i hparent
      refine .change fun found hfound => ?_
      obtain rfl := Option.some.inj (hmember.symm.trans hfound)
      have hid : member.account.id = account := by simpa using List.find?_some hmember
      exact ⟨rfl, fun _ => .inl rfl, .inr ⟨hparent, rfl⟩,
        fun hother => absurd (hid ▸ haccount) hother⟩
    · exact .refl organization

end Organization

/-! ## Worlds -/

/-- A world in which only some accounts of a pool were taken back, as far as it went: of the
organization, and of the IAM of each account, nothing was added or altered, and the other accounts
are what they were. -/
structure World.IsConfined (payer : Payer) (accounts : List String)
    (before after : World) : Prop where
  organization :
    before.cloud.organization.state.HasReturned payer accounts after.cloud.organization.state
  iam : ∀ other, (after.cloud.iamOf other).state.IsWithin (before.cloud.iamOf other).state
  iamOf : ∀ other, other ∉ accounts → after.cloud.iamOf other = before.cloud.iamOf other

namespace World.IsConfined

variable {payer : Payer} {accounts : List String} {account : String} {before mid after : World}

theorem refl (world : World) : IsConfined payer accounts world world :=
  ⟨.refl _, fun _ => .refl _, fun _ _ => rfl⟩

theorem trans (h : IsConfined payer accounts before mid)
    (h' : IsConfined payer accounts mid after) : IsConfined payer accounts before after :=
  ⟨h.organization.trans h'.organization, fun other => (h.iam other).trans (h'.iam other),
    fun other hother => (h'.iamOf other hother).trans (h.iamOf other hother)⟩

/-- A world that was only read is confined to nothing at all. -/
theorem of_hasOnlyRead (h : World.HasOnlyRead before after) :
    IsConfined payer accounts before after where
  organization := h.cloud.state ▸ .refl _
  iam other := h.iamOf other ▸ .refl _
  iamOf other _ := h.iamOf other

/-- A request to the organization whose answer is confined. -/
theorem of_organization {request : Organization.Request} (world : World)
    (h : world.cloud.organization.state.HasReturned payer accounts
      (world.cloud.organization.state.answer request).2) :
    IsConfined payer accounts world (World.serve (.cloud (.organization request)) world).2 := by
  refine ⟨?_, fun _ => .refl _, fun _ _ => rfl⟩
  show world.cloud.organization.state.HasReturned payer accounts
    (Organization.serve request world.cloud.organization).2.state
  unfold Organization.serve
  split
  · exact .refl _
  · exact h

/-- A call by which one of the accounts is returned. -/
theorem serve_isReturning {call : Call} (hcall : call.IsReturning payer account)
    (haccount : account ∈ accounts) (world : World) :
    IsConfined payer accounts world (World.serve call world).2 := by
  match call, hcall with
  | .cloud (.organization (.listTags _)), _ => exact of_organization world (.refl _)
  | .cloud (.organization (.parentOf _)), _ => exact of_organization world (.refl _)
  | .cloud (.organization (.untag _ _)), ⟨rfl, hkeys⟩ =>
    exact of_organization world (Organization.hasReturned_untag haccount hkeys _)
  | .cloud (.organization (.move _ _ _)), ⟨rfl, rfl, rfl⟩ =>
    exact of_organization world (Organization.hasReturned_move haccount _)
  | .cloud (.identity (.assumeRole arn name _)), _ =>
    obtain ⟨horganization, hiam⟩ := world.cloud.assumeRole_keeps arn name
    have hstate :
        (world.cloud.assumeRole arn name).2.organization.state = world.cloud.organization.state :=
      congrArg Journaled.state horganization
    exact ⟨(show _ = _ from hstate) ▸ .refl _, fun other => (hiam other) ▸ .refl _,
      fun other _ => hiam other⟩
  | .host (.log _), _ => exact ⟨.refl _, fun _ => .refl _, fun _ _ => rfl⟩
  | .host .now, _ => exact .refl world

/-- A call by which one of the accounts is cleared. -/
theorem serve_isOwnCall {session : Session} {call : Call} (hcall : Lending.IsOwnCall session call)
    (hsession : session.accessKey ∈ accounts) (world : World) :
    IsConfined payer accounts world (World.serve call world).2 := by
  match call, hcall with
  | .cloud (.iam (some _) request), rfl =>
    have hiamOf := Cloud.iamOf_changeIam world.cloud session.accessKey
    refine ⟨.refl _, fun other => ?_, fun other hother => ?_⟩
    · show ((world.cloud.changeIam session.accessKey _).iamOf other).state.IsWithin _
      rw [hiamOf]
      split
      · rename_i hother
        rw [hother]
        exact Iam.isWithin_serve request _
      · exact .refl _
    · refine (hiamOf other _).trans (if_neg fun heq => hother ?_)
      rwa [heq]
  | .host (.log _), _ => exact ⟨.refl _, fun _ => .refl _, fun _ _ => rfl⟩

end World.IsConfined

namespace Lending

open World

namespace Reclaimer

variable {reclaimer : Reclaimer} {account : String} {world after : World}

/-! ## Turns -/

theorem isReturning_untag (payer : Payer) (account : String) :
    (untag account).Uses (Call.IsReturning payer account) := by
  have hread : (readTags account).Uses (Call.IsReturning payer account) := Action.uses_cloud trivial
  apply hread.bind
  intro tags
  dsimp only
  split
  · exact ⟨trivial, fun _ => trivial⟩
  · have hremove : (Action.organization (.untag account (Tags.claimKeys.filter tags.contains))).Uses
        (Call.IsReturning payer account) :=
      Action.uses_cloud ⟨rfl, fun key hkey => (List.mem_filter.1 hkey).1⟩
    exact hremove.bind fun _ => ⟨trivial, fun _ => trivial⟩

theorem isReturning_moveBack (reclaimer : Reclaimer) (account : String) :
    (reclaimer.moveBack account).Uses (Call.IsReturning reclaimer.payer account) := by
  have hplace :
      (Action.organization (.parentOf account)).Uses (Call.IsReturning reclaimer.payer account) :=
    Action.uses_cloud trivial
  have hparent :
      (reclaimer.poolParent account).Uses (Call.IsReturning reclaimer.payer account) := by
    apply hplace.bind
    intro parent
    split <;> trivial
  apply hparent.bind
  intro parent
  split
  · exact ⟨trivial, fun _ => trivial⟩
  · have hmove :
        (Action.organization (.move account reclaimer.payer.claimed reclaimer.payer.root)).Uses
          (Call.IsReturning reclaimer.payer account) := Action.uses_cloud ⟨rfl, rfl, rfl⟩
    exact hmove.bind fun _ => ⟨trivial, fun _ => trivial⟩

theorem isReturning_release (reclaimer : Reclaimer) (account : String) :
    (reclaimer.release account).Uses (Call.IsReturning reclaimer.payer account) := by
  have hopen : (reclaimer.openSession account).Uses (Call.IsReturning reclaimer.payer account) :=
    ⟨trivial, fun _ => ⟨trivial, fun _ => Action.uses_cloud trivial⟩⟩
  exact (isReturning_untag _ account).bind fun _ =>
    (reclaimer.isReturning_moveBack account).bind fun _ => hopen

/-- Returning an account changes nothing but that account, however it ends. -/
theorem isConfined_of_perform_release {accounts : List String} (haccount : account ∈ accounts)
    {result : Except PoolError Session}
    (h : world.perform (reclaimer.release account) = (result, after)) :
    World.IsConfined reclaimer.payer accounts world after := by
  have hkept := perform_keeps (reclaimer.isReturning_release account)
    (fun call now hcall hnow => hnow.trans (World.IsConfined.serve_isReturning hcall haccount now))
    (World.IsConfined.refl world)
  rwa [h] at hkept

/-- Accounts that are dealt with in turns are the only ones that change, however the run ends. -/
theorem isConfined_of_perform_reclaimAll {accounts : List String} {planned : List Planned}
    {done : List Report} {result : Except PoolError (List Report)}
    (hvalid : ∀ p ∈ planned, AccountId.isValid p.account = true)
    (haccounts : ∀ p ∈ planned, p.account ∈ accounts)
    (h : world.perform (reclaimer.reclaimAll done planned) = (result, after)) :
    World.IsConfined reclaimer.payer accounts world after := by
  induction planned generalizing done world with
  | nil =>
    obtain ⟨-, rfl⟩ := Prod.mk.inj h
    exact .refl _
  | cons p rest ih =>
    have hp := haccounts p List.mem_cons_self
    cases hrelease : world.perform (reclaimer.release p.account) with
    | mk released mid =>
    have hreleased := isConfined_of_perform_release hp hrelease
    cases released with
    | error source =>
      rw [perform_reclaimAll_aborted hrelease] at h
      obtain ⟨-, rfl⟩ := Prod.mk.inj h
      exact hreleased
    | ok session =>
      -- the session is that of the account, so clearing it touches no other IAM
      obtain ⟨rfl, -⟩ := of_perform_release (hvalid p List.mem_cons_self) hrelease
      rw [perform_reclaimAll_cons hrelease rfl] at h
      have hcleared := (reclaimer.uses_report p (Cloud.sessionOf p.account)).run_keeps
        (fun call now hcall hnow => hnow.trans (World.IsConfined.serve_isOwnCall hcall hp now))
        (.refl mid : World.IsConfined reclaimer.payer accounts mid mid)
      have hrest := ih (fun q hq => hvalid q (List.mem_cons_of_mem _ hq))
        (fun q hq => haccounts q (List.mem_cons_of_mem _ hq)) h
      exact (hreleased.trans hcleared).trans hrest

/-! ## Questions -/

theorem isQuestion_of_isReading (call : Call) (h : IsReading call) : call.isQuestion = false := by
  match call, h with
  | .cloud _, _ => rfl
  | .host (.log _), _ => rfl

theorem isQuestion_of_isReturning {payer : Payer} (call : Call)
    (h : call.IsReturning payer account) : call.isQuestion = false := by
  match call, h with
  | .cloud _, _ => rfl
  | .host (.log _), _ => rfl
  | .host .now, _ => rfl

theorem isQuestion_of_isOwnCall {session : Session} (call : Call) (h : IsOwnCall session call) :
    call.isQuestion = false := by
  match call, h with
  | .cloud _, _ => rfl
  | .host (.log _), _ => rfl

/-- The turns of the accounts only return accounts and clear them. -/
theorem uses_reclaimAll (reclaimer : Reclaimer) (done : List Report) (planned : List Planned) :
    (reclaimer.reclaimAll done planned).Uses (Call.IsTakingBack reclaimer.payer) := by
  induction planned generalizing done with
  | nil => trivial
  | cons p rest ih =>
    have hrelease : (reclaimer.release p.account).Uses (Call.IsTakingBack reclaimer.payer) :=
      (reclaimer.isReturning_release p.account).mono fun _ hcall => .inl ⟨p.account, hcall⟩
    have hresult : (reclaimer.release p.account).result.Uses (Call.IsTakingBack reclaimer.payer) :=
      Action.uses_lift hrelease
    apply hresult.bind
    intro released
    cases released with
    | error source => trivial
    | ok session =>
      have hreport : (reclaimer.report p session).Uses (Call.IsTakingBack reclaimer.payer) :=
        (reclaimer.uses_report p session).mono fun _ hcall => .inr ⟨session, hcall⟩
      exact (Action.uses_lift hreport).bind fun report => ih _

/-- No question is put in the turns of the accounts. -/
theorem asksNothing_reclaimAll (reclaimer : Reclaimer) (done : List Report)
    (planned : List Planned) :
    (reclaimer.reclaimAll done planned).Uses fun call => call.isQuestion = false :=
  (reclaimer.uses_reclaimAll done planned).mono fun call hcall => by
    rcases hcall with ⟨account, hreturning⟩ | ⟨session, hown⟩
    · exact isQuestion_of_isReturning call hreturning
    · exact isQuestion_of_isOwnCall call hown

/-- A call that puts no question leaves the questions that were put. -/
theorem questions_serve {call : Call} (hcall : call.isQuestion = false) (world : World) :
    (World.serve call world).2.host.questions = world.host.questions := by
  match call with
  | .cloud request => rfl
  | .host (.log _) | .host .freshToken | .host .now | .host (.pause _) | .host (.print _)
  | .host (.say _)
  | .host .isInteractive | .host (.readFile _) => rfl
  | .host (.confirm question) => simp [Call.isQuestion] at hcall
  | .host .readLine =>
    show (Host.serve .readLine world.host).2.questions = _
    rw [Host.serve]
    split <;> rfl
  | .host (.connect payer) =>
    show (Host.serve (.connect payer) world.host).2.questions = _
    rw [Host.serve]
    split <;> rfl

theorem questions_perform {α : Type} {action : Action α}
    (h : action.Uses fun call => call.isQuestion = false)
    (world : World) : (world.perform action).2.host.questions = world.host.questions :=
  perform_keeps h (fun _ now hcall (hnow : now.host.questions = world.host.questions) =>
    (questions_serve hcall now).trans hnow) rfl

/-! ## Accounts that were cleared -/

/-- The reports that a reclamation ends with, whether it completes or not. -/
def reportsOf : Except PoolError ReclaimOutcome → List Report
  | .ok (.completed reports) | .error (.teardownIncomplete reports)
  | .error (.reclaimAborted _ _ reports) =>
    reports
  | _ => []

theorem reportsOf_conclusion (reports : List Report) :
    reportsOf (conclusion reports) = reports := by
  unfold conclusion
  split <;> rfl

/-- Accounts that were cleared, each by what its own IAM had, and accounts whose IAM was not
reached. -/
structure AreTorn (reclaimer : Reclaimer) (world after : World) (torn rest : List Planned) :
    Prop where
  freed : ∀ p ∈ torn, IsFreed reclaimer p.account after
  cleared : ∀ p ∈ torn, (after.cloud.iamOf p.account).state =
    Lending.cleared (world.cloud.iamOf p.account).failing reclaimer.settings
      (world.cloud.iamOf p.account).state
  unreached : ∀ p ∈ rest, after.cloud.iamOf p.account = world.cloud.iamOf p.account

theorem isFreed_of_find? {member : Member}
    (h : after.cloud.organization.state.find? account = some (reclaimer.returned member)) :
    IsFreed reclaimer account after where
  tags key hkey := by
    rw [Organization.tags_of_find? h]
    simp [returned, atRoot, untagged, Dict.contains, Dict.get?_eraseAll, hkey]
  parent := by simp [Organization.parent?, h, returned, atRoot]

/-- All accounts of a list were taken back, and nothing has happened to them since. -/
theorem areTorn_of_hasTakenBack {planned : List Planned} {mid : World}
    (hplanned : ∀ p ∈ planned, IsReclaimable reclaimer world.cloud.organization.state p)
    (htaken : HasTakenBack reclaimer (planned.map (·.account)) world mid)
    (hsame : ∀ p ∈ planned, after.cloud.organization.state.find? p.account =
      mid.cloud.organization.state.find? p.account ∧
      after.cloud.iamOf p.account = mid.cloud.iamOf p.account) :
    AreTorn reclaimer world after planned [] where
  freed p hp := by
    obtain ⟨-, member, hmember, -⟩ := hplanned p hp
    have hfound :
        after.cloud.organization.state.find? p.account = some (reclaimer.returned member) := by
      rw [(hsame p hp).1, htaken.find?, if_pos (List.mem_map_of_mem hp), hmember, Option.map_some]
    exact isFreed_of_find? hfound
  cleared p hp := by
    rw [(hsame p hp).2]
    exact htaken.cleared p.account (List.mem_map_of_mem hp)
  unreached p hp := absurd hp List.not_mem_nil

/-- The accounts that have been dealt with are a first part of the plan: there is a report for each,
and the IAM of the others was not reached. -/
theorem torn_of_perform_reclaimAll {planned : List Planned} {mid : World} {question : String}
    {all : Except PoolError (List Report)} (hread : world.HasOnlyRead mid)
    (hnodup : (planned.map (·.account)).Nodup)
    (hplanned : ∀ p ∈ planned, IsReclaimable reclaimer world.cloud.organization.state p)
    (hall : (mid.asked question).perform (reclaimer.reclaimAll [] planned) = (all, after)) :
    ∃ torn rest, planned = torn ++ rest ∧
      reportsOf (all.bind conclusion) = torn.map (reclaimer.reportOf world) ∧
      AreTorn reclaimer world after torn rest := by
  have hvalid : ∀ p ∈ planned, AccountId.isValid p.account = true :=
    fun p hp => (hplanned p hp).isValid
  cases all with
  | ok reports =>
    obtain ⟨hreports, htaken⟩ := of_perform_reclaimAll hnodup hvalid hall
    refine ⟨planned, [], (List.append_nil _).symm, ?_,
      areTorn_of_hasTakenBack hplanned (htaken.of_asked hread) fun p _ => ⟨rfl, rfl⟩⟩
    rw [show (Except.ok reports).bind conclusion = conclusion reports from rfl,
      reportsOf_conclusion, hreports, List.nil_append]
    exact List.map_congr_left fun q _ => reportOf_congr (hread.iamOf q.account)
  | error e =>
    obtain ⟨before, p, rest, reports, turn, source, rfl, hbefore, hturn, rfl⟩ :=
      aborted_of_perform_reclaimAll hall
    have haborted := isAbortedAt_of_perform hread hnodup hvalid hbefore hturn
    rw [List.map_append, List.map_cons, List.nodup_append] at hnodup
    obtain ⟨hnodup, -, hapart⟩ := hnodup
    have hbeforePlanned := fun q hq => hplanned q (List.mem_append_left _ hq)
    obtain ⟨-, htaken⟩ :=
      of_perform_reclaimAll hnodup (fun q hq => (hbeforePlanned q hq).isValid) hbefore
    have hsame := isSameForOthers_of_perform_release (hvalid p (by simp)) hturn
    -- the accounts before the one at which the run stopped are not touched in its turn
    have htorn : AreTorn reclaimer world after before [] :=
      areTorn_of_hasTakenBack hbeforePlanned (htaken.of_asked hread) fun q hq =>
        ⟨hsame.find? q.account fun heq => hapart _ (List.mem_map_of_mem hq)
          _ List.mem_cons_self heq, hsame.iamOf q.account⟩
    refine ⟨before, p :: rest, rfl, haborted.reported, htorn.freed, htorn.cleared, fun q hq => ?_⟩
    rcases List.mem_cons.1 hq with rfl | hq
    · exact haborted.iamOf
    · exact (haborted.untouched q hq).2

end Reclaimer

/-! ## Whole reclamations -/

/-- How a reclamation keeps to a plan that was made.  The accounts that it lists in its question are
those of the plan. -/
structure KeepsToPlan (reclaimer : Reclaimer) (target : ReclaimTarget) (planned : List Planned)
    (world after : World) (result : Except PoolError ReclaimOutcome) : Prop where
  /-- There is one question, and it is put after the plan was made. -/
  asked : ∃ others, world.calls (reclaimer.reclaim askOperator target) =
      world.calls (reclaimer.plan target) ++
        .host (.confirm (reclaimer.question target planned)) :: others ∧
    ∀ call ∈ world.calls (reclaimer.plan target) ++ others, call.isQuestion = false
  questions : after.host.questions = world.host.questions ++ [reclaimer.question target planned]
  /-- The question lists the accounts in the order of the plan. -/
  lists : reclaimer.question target planned = "Reclaim " ++ target.words ++ " ("
    ++ ", ".intercalate (planned.map (·.account)) ++ ") into " ++ reclaimer.payer.root
    ++ "? All IAM users, roles and policies in them will be deleted."
  accounts : after.cloud.organization.state.members.map (·.account) =
    world.cloud.organization.state.members.map (·.account)
  confined : World.IsConfined reclaimer.payer (planned.map (·.account)) world after
  /-- There is a report for each account that was cleared, by what its own IAM had. -/
  torn : ∃ torn rest, planned = torn ++ rest ∧
    Reclaimer.reportsOf result = torn.map (reclaimer.reportOf world) ∧
    Reclaimer.AreTorn reclaimer world after torn rest

namespace Reclaimer

variable {reclaimer : Reclaimer} {target : ReclaimTarget} {planned : List Planned}
  {world mid after : World}

theorem isQuestion_of_mem_plan {call : Call} (h : call ∈ world.calls (reclaimer.plan target)) :
    call.isQuestion = false :=
  isQuestion_of_isReading call ((reclaimer.uses_plan target).mem_trace h)

/-- The operator says no. -/
theorem keepsToPlan_declined (hplan : world.perform (reclaimer.plan target) = (.ok planned, mid))
    (hanswer : mid.host.answer (reclaimer.question target planned) = false) :
    KeepsToPlan reclaimer target planned world
      (world.perform (reclaimer.reclaim askOperator target)).2
      (world.perform (reclaimer.reclaim askOperator target)).1 := by
  have hread := hasOnlyRead_of_perform (reclaimer.uses_plan target) hplan
  have hconfirm := mid.run_askOperator (reclaimer.question target planned)
  rw [hanswer] at hconfirm
  have hcalls := calls_reclaim_declined hplan hconfirm
  rw [List.append_assoc] at hcalls
  rw [perform_reclaim_declined hplan hconfirm]
  have hconfined : World.IsConfined reclaimer.payer (planned.map (·.account)) world
      ((mid.asked (reclaimer.question target planned)).logged [declinedLine target]) := by
    have hmid : World.IsConfined reclaimer.payer (planned.map (·.account)) world mid :=
      .of_hasOnlyRead hread
    exact ⟨hmid.organization, hmid.iam, hmid.iamOf⟩
  refine ⟨⟨_, hcalls, fun call hcall => ?_⟩, ?_, rfl, hconfined.organization.accounts_eq, hconfined,
    [], planned, rfl, rfl, fun p hp => absurd hp List.not_mem_nil, fun p hp =>
      absurd hp List.not_mem_nil,
    fun p _ => hread.iamOf p.account⟩
  · rcases List.mem_append.1 hcall with hcall | hcall
    · exact isQuestion_of_mem_plan hcall
    · rw [List.mem_singleton.1 hcall]
      rfl
  · show mid.host.questions ++ _ = _
    rw [hread.questions]

/-- The operator says yes. -/
theorem keepsToPlan_agreed (hplan : world.perform (reclaimer.plan target) = (.ok planned, mid))
    (hanswer : mid.host.answer (reclaimer.question target planned) = true) :
    KeepsToPlan reclaimer target planned world
      (world.perform (reclaimer.reclaim askOperator target)).2
      (world.perform (reclaimer.reclaim askOperator target)).1 := by
  have hread := hasOnlyRead_of_perform (reclaimer.uses_plan target) hplan
  have hconfirm := mid.run_askOperator (reclaimer.question target planned)
  rw [hanswer] at hconfirm
  obtain ⟨hnodup, hplanned⟩ := planned_of_perform_plan hplan
  have hcalls := calls_reclaim_agreed hplan hconfirm
  rw [List.append_assoc] at hcalls
  cases hall : (mid.asked (reclaimer.question target planned)).perform
    (reclaimer.reclaimAll [] planned) with
  | mk all finished =>
  rw [perform_reclaim_agreed hplan hconfirm hall]
  have hturns := isConfined_of_perform_reclaimAll (fun p hp => (hplanned p hp).isValid)
    (fun p hp => List.mem_map_of_mem hp) hall
  have hconfined : World.IsConfined reclaimer.payer (planned.map (·.account)) world finished := by
    have hmid : World.IsConfined reclaimer.payer (planned.map (·.account)) world mid :=
      .of_hasOnlyRead hread
    have hasked : World.IsConfined reclaimer.payer (planned.map (·.account)) mid
        (mid.asked (reclaimer.question target planned)) :=
          ⟨.refl _, fun _ => .refl _, fun _ _ => rfl⟩
    exact (hmid.trans hasked).trans hturns
  have hquiet :
      finished.host.questions = world.host.questions ++ [reclaimer.question target planned] := by
    have hturns := questions_perform (reclaimer.asksNothing_reclaimAll [] planned)
      (mid.asked (reclaimer.question target planned))
    rw [hall] at hturns
    rw [hturns, ← hread.questions]
    rfl
  refine ⟨⟨_, hcalls, fun call hcall => ?_⟩, hquiet, rfl,
    hconfined.organization.accounts_eq, hconfined,
    torn_of_perform_reclaimAll hread hnodup hplanned hall⟩
  rcases List.mem_append.1 hcall with hcall | hcall
  · exact isQuestion_of_mem_plan hcall
  · exact (reclaimer.asksNothing_reclaimAll [] planned).mem_trace hcall

end Reclaimer

end Lending

open Lending

/-- A reclamation whose plan cannot be made puts no question and only reads.  One whose plan is made
puts one question, which lists the accounts of the plan in order, and changes no other account.  Of
those it takes away claim tags, brings them from the claimed unit to the root, and removes artifacts
of their IAM, each account's by what was in its own; nothing is added or altered, and no account
joins or leaves the organization. -/
theorem World.reclaim_confined (world : World) (reclaimer : Reclaimer) (target : ReclaimTarget) :
    let (result, after) := world.perform (reclaimer.reclaim askOperator target)
    match (world.perform (reclaimer.plan target)).1 with
    | .error e => result = .error e ∧ world.cloud.HasOnlyRead after.cloud ∧
        after.host.questions = world.host.questions ∧
        ∀ call ∈ world.calls (reclaimer.reclaim askOperator target), call.isQuestion = false
    | .ok planned => KeepsToPlan reclaimer target planned world after result := by
  cases hplan : world.perform (reclaimer.plan target) with
  | mk found mid =>
  cases found with
  | error e =>
    have hread := hasOnlyRead_of_perform (reclaimer.uses_plan target) hplan
    rw [Reclaimer.perform_reclaim_failed hplan, Reclaimer.calls_reclaim_failed hplan]
    exact ⟨rfl, hread.cloud, hread.questions,
      fun call hcall => Reclaimer.isQuestion_of_mem_plan hcall⟩
  | ok planned =>
    cases hanswer : mid.host.answer (reclaimer.question target planned) with
    | false => exact Reclaimer.keepsToPlan_declined hplan hanswer
    | true => exact Reclaimer.keepsToPlan_agreed hplan hanswer

end AccountLending
