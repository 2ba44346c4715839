import AccountLending.Proofs.Assignment.Choosing

/-!
# Lending an account that is asked for

An account that is asked for by its number is lent in the same cases in which it would be tried when
the first free account is looked for, although the two ways of lending check it differently: one
asks whether it can be lent, the other looks for a reason why it cannot.

* `Organization.mem_lendable_iff` — an account can be lent when its member can be;
* `Ending` — the four ways in which lending the account can end;
* `ending_assignAccount` — it ends in one of them, told by the organization and its rivals alone;
* `World.assignAccount_agrees` — when each of them happens, and that both ways of lending leave the
  same organization.
-/

namespace AccountLending

/-- The accounts under a unit that can be lent are those of the members that can be. -/
theorem Organization.mem_lendable_iff {organization : Organization}
    (hdistinct : organization.IsDistinct) {unit account : String} :
    account ∈ organization.lendable unit ↔ ∃ member, organization.find? account = some member ∧
      member.parent = unit ∧ member.isLendable = true := by
  constructor
  · intro h
    obtain ⟨member, hmember, hlendable, rfl⟩ := exists_of_mem_lendableAmong h
    obtain ⟨hfind, hparent⟩ := Lending.find?_of_mem_under hdistinct hmember
    exact ⟨member, hfind, hparent, hlendable⟩
  · rintro ⟨member, hfind, hparent, hlendable⟩
    have hid : member.account.id = account := by simpa using List.find?_some hfind
    have hunder : member ∈ organization.under unit :=
      List.mem_filter.2 ⟨List.mem_of_find?_eq_some hfind, decide_eq_true hparent⟩
    exact List.mem_map.2 ⟨member, List.mem_filter.2 ⟨hunder, hlendable⟩, hid⟩

namespace Lending

open World

variable {payer : Payer} {owner token account : String} {member : Member}
  {organization : Organization}
variable {world : World}

/-- The claim names a reason exactly when the account is not free. -/
theorem ineligibility?_eq_none_iff (claim : Claim) :
    ineligibility? claim = none ↔ claim.isFree = true := by
  cases claim <;> simp [ineligibility?, Claim.isFree]

/-- How lending an account that is asked for can end: with which result, and with which
organization. -/
inductive Ending (payer : Payer) (owner token : String) (organization : Organization)
    (account : String) :
    Except PoolError String → Organization → Prop
  | invalid : AccountId.isValid account = false →
      Ending payer owner token organization account (.error (.invalidAccountId account))
        organization
  | ineligible (reason : Ineligibility) : AccountId.isValid account = true →
      account ∉ organization.lendable payer.root →
      Ending payer owner token organization account (.error (.notEligible account reason))
        organization
  | lost : AccountId.isValid account = true → account ∈ organization.lendable payer.root →
      organization.rivals.contains account = true →
      Ending payer owner token organization account (.error (.claimConflict account))
        (organization.raced payer owner token [account] none)
  | won : AccountId.isValid account = true → account ∈ organization.lendable payer.root →
      organization.rivals.contains account = false →
      Ending payer owner token organization account (.ok account)
        (organization.raced payer owner token [] (some account))

/-! ## The search -/

/-- An account that is found in the listing is the one of the member with its number. -/
theorem exists_of_find?_under {found : Account} (hdistinct : organization.IsDistinct)
    {unit : String}
    (h : ((organization.under unit).map (·.account)).find? (·.id = account) = some found) :
    ∃ member, organization.find? account = some member ∧ member.parent = unit ∧
      member.account = found := by
  have hid : found.id = account := by simpa using List.find?_some h
  obtain ⟨member, hmember, rfl⟩ := List.mem_map.1 (List.mem_of_find?_eq_some h)
  obtain ⟨hfind, hparent⟩ := find?_of_mem_under hdistinct hmember
  exact ⟨member, hid ▸ hfind, hparent, rfl⟩

theorem find?_under (hdistinct : organization.IsDistinct)
    (hmember : organization.find? account = some member) :
    ((organization.under member.parent).map (·.account)).find? (·.id = account) =
      some member.account := by
  have hid : member.account.id = account := by simpa using List.find?_some hmember
  have hunder : member ∈ organization.under member.parent :=
    List.mem_filter.2 ⟨List.mem_of_find?_eq_some hmember, decide_eq_true rfl⟩
  cases hfound : ((organization.under member.parent).map (·.account)).find? (·.id = account) with
  | none =>
    have hnone := List.find?_eq_none.1 hfound member.account (List.mem_map_of_mem hunder)
    exact absurd hid (by simpa using hnone)
  | some found =>
    obtain ⟨other, hother, -, rfl⟩ := exists_of_find?_under hdistinct hfound
    rw [Option.some.inj (hmember.symm.trans hother)]

/-- The claim that decides who has an account that can be lent. -/
def contend (payer : Payer) (settings : AllocationSettings) (account owner : String) :
    Action String := do
  if ← claim settings account owner then handOver payer account owner
  else throw (.claimConflict account)

/-- An account that can be lent is found, looked at and claimed. -/
theorem exists_assignAccount_of_mem_lendable (payer : Payer) (settings : AllocationSettings)
    (owner : String) (hanswers : world.OrganizationAnswers)
    (hdistinct : world.cloud.organization.state.IsDistinct)
    (hvalid : AccountId.isValid account = true)
    (hmember : world.cloud.organization.state.find? account = some member)
    (hparent : member.parent = payer.root) (hlendable : member.isLendable = true) :
    ∃ read, world.perform (assignAccount payer settings account owner) =
        read.perform (contend payer settings account owner) ∧ world.HasOnlyRead read := by
  obtain ⟨listed, hlisted, hread⟩ := exists_perform_poolAccounts hanswers payer.root
  have hunder : member ∈ world.cloud.organization.state.under payer.root :=
    List.mem_filter.2 ⟨List.mem_of_find?_eq_some hmember, decide_eq_true hparent⟩
  rw [if_neg (List.ne_nil_of_mem hunder)] at hlisted
  obtain ⟨read, hclaim, hunchanged⟩ := exists_perform_readClaim (hanswers.of_hasOnlyRead hread)
    (hread.cloud.state ▸ hmember)
  rw [Member.isLendable_eq, Bool.and_eq_true] at hlendable
  refine ⟨read, ?_, hread.trans hunchanged⟩
  rw [assignAccount, if_pos hvalid, perform_bind_ok hlisted, ← hparent,
    find?_under hdistinct hmember]
  dsimp only
  rw [if_pos hlendable.1, perform_bind_ok hclaim, (ineligibility?_eq_none_iff _).2 hlendable.2]
  rfl

/-- An account that cannot be lent is refused for some reason. -/
theorem exists_assignAccount_of_not_mem_lendable (payer : Payer) (settings : AllocationSettings)
    (owner : String) (hanswers : world.OrganizationAnswers)
    (hdistinct : world.cloud.organization.state.IsDistinct)
    (hroot : world.cloud.organization.state.under payer.root ≠ [])
    (hvalid : AccountId.isValid account = true)
    (hlendable : account ∉ world.cloud.organization.state.lendable payer.root) :
    ∃ reason ended, world.perform (assignAccount payer settings account owner) =
        (.error (.notEligible account reason), ended) ∧ world.HasOnlyRead ended := by
  obtain ⟨listed, hlisted, hread⟩ := exists_perform_poolAccounts hanswers payer.root
  rw [if_neg hroot] at hlisted
  rw [assignAccount, if_pos hvalid, perform_bind_ok hlisted]
  cases hfound : ((world.cloud.organization.state.under payer.root).map (·.account)).find?
    (·.id = account) with
  | none => exact ⟨_, listed, rfl, hread⟩
  | some found =>
    obtain ⟨member, hmember, hparent, rfl⟩ := exists_of_find?_under hdistinct hfound
    dsimp only
    split
    · rename_i hactive
      obtain ⟨read, hclaim, hunchanged⟩ := exists_perform_readClaim (hanswers.of_hasOnlyRead hread)
        (hread.cloud.state ▸ hmember)
      rw [perform_bind_ok hclaim]
      cases hreason : ineligibility? (Claim.ofTags member.tags) with
      | some reason => exact ⟨reason, read, rfl, hread.trans hunchanged⟩
      | none =>
        -- an active account of the root without a reason could be lent
        have hfree := (ineligibility?_eq_none_iff _).1 hreason
        refine absurd ?_ hlendable
        refine (Organization.mem_lendable_iff hdistinct).2 ⟨member, hmember, hparent, ?_⟩
        rw [Member.isLendable_eq, hactive, hfree, Bool.and_self]
    · exact ⟨_, listed, rfl, hread⟩

/-! ## The claim -/

/-- An account that can be lent is won without a rival, and lost to one. -/
theorem ending_contend (settings : AllocationSettings) (owner : String)
    (hanswers : world.OrganizationAnswers) (hdistinct : world.cloud.organization.state.IsDistinct)
    (hvalid : AccountId.isValid account = true)
    (hmember : world.cloud.organization.state.find? account = some member)
    (hparent : member.parent = payer.root) (hlendable : member.isLendable = true) :
    let ended := world.perform (contend payer settings account owner)
    Ending payer owner (Host.Token.ofBits world.host.tokens) world.cloud.organization.state
      account ended.1
      ended.2.cloud.organization.state := by
  intro ended
  have hfree := Member.isFree_of_isLendable hlendable
  have hthere := (Organization.mem_lendable_iff hdistinct).2 ⟨member, hmember, hparent, hlendable⟩
  cases hrival : world.cloud.organization.state.rivals.contains account with
  | true =>
    obtain ⟨claimed, hclaimed, hbecome⟩ :=
      exists_perform_claim hanswers hmember hfree settings owner
    rw [hrival] at hclaimed
    have hended : ended = (.error (.claimConflict account), claimed) := perform_bind_ok hclaimed _
    rw [hended, hbecome.state, Organization.tagged_eq_raced hdistinct hrival payer]
    exact .lost hvalid hthere hrival
  | false =>
    obtain ⟨claimed, lent, hclaimed, hlent, hbecome⟩ :=
      exists_perform_claim_handOver hanswers hdistinct hmember hfree hparent hrival settings owner
    have hended : ended = (.ok account, lent) := (perform_bind_ok hclaimed _).trans hlent
    rw [hended, hbecome.state]
    exact .won hvalid hthere hrival

theorem ending_assignAccount (payer : Payer) (settings : AllocationSettings)
    (account owner : String) (hanswers : world.OrganizationAnswers)
    (hdistinct : world.cloud.organization.state.IsDistinct)
    (hroot : world.cloud.organization.state.under payer.root ≠ []) :
    let ended := world.perform (assignAccount payer settings account owner)
    Ending payer owner (Host.Token.ofBits world.host.tokens) world.cloud.organization.state
      account ended.1
      ended.2.cloud.organization.state := by
  intro ended
  by_cases hvalid : AccountId.isValid account = true
  case neg =>
    have hended : ended = (.error (.invalidAccountId account), world) := by
      simp only [ended, assignAccount]
      rw [if_neg hvalid, perform_throw]
    rw [hended]
    exact .invalid (Bool.eq_false_iff.2 hvalid)
  by_cases hthere : account ∈ world.cloud.organization.state.lendable payer.root
  case neg =>
    obtain ⟨reason, refused, hended, hread⟩ :=
      exists_assignAccount_of_not_mem_lendable payer settings owner hanswers hdistinct hroot
        hvalid hthere
    simp only [ended]
    rw [hended, hread.cloud.state]
    exact .ineligible reason hvalid hthere
  obtain ⟨member, hmember, hparent, hlendable⟩ := (Organization.mem_lendable_iff hdistinct).1 hthere
  obtain ⟨read, hended, hread⟩ :=
    exists_assignAccount_of_mem_lendable payer settings owner hanswers hdistinct hvalid hmember
      hparent hlendable
  have hbecome := hread.hasBecome
  have hending :=
    ending_contend settings owner (hbecome.answers hanswers) (hbecome.state ▸ hdistinct) hvalid
      (hbecome.state ▸ hmember) hparent hlendable
  rw [hbecome.state, hbecome.tokens] at hending
  simp only [ended]
  rwa [hended]

/-! ## What decides -/

/-- The organization and its rivals alone decide how lending an account ends. -/
structure IsDecided (payer : Payer) (owner token : String) (organization : Organization)
    (account : String) (result : Except PoolError String) (after : Organization) : Prop where
  ok_iff : ∀ lent, result = .ok lent ↔ lent = account ∧ account ∈ organization.lendable payer.root ∧
    organization.rivals.contains account = false
  conflict_iff :
    result = .error (.claimConflict account) ↔ account ∈ organization.lendable payer.root ∧
    organization.rivals.contains account = true
  invalid_iff : result = .error (.invalidAccountId account) ↔ AccountId.isValid account = false
  notEligible_iff : (∃ reason, result = .error (.notEligible account reason)) ↔
    AccountId.isValid account = true ∧ account ∉ organization.lendable payer.root
  won : account ∈ organization.lendable payer.root → organization.rivals.contains account = false →
    after = organization.raced payer owner token [] (some account)
  /-- A lost account carries its rival's claim, and is not moved. -/
  lost : account ∈ organization.lendable payer.root → organization.rivals.contains account = true →
    after = organization.raced payer owner token [account] none ∧
    after.parent? account = some payer.root
  refused : AccountId.isValid account = false ∨ account ∉ organization.lendable payer.root →
    after = organization

theorem Ending.isDecided {result : Except PoolError String} {after : Organization}
    (hdistinct : organization.IsDistinct)
    (hvalid : ∀ member ∈ organization.members, AccountId.isValid member.account.id = true)
    (h : Ending payer owner token organization account result after) :
    IsDecided payer owner token organization account result after := by
  have hnumber : account ∈ organization.lendable payer.root → AccountId.isValid account = true := by
    intro hthere
    obtain ⟨member, hmember, -, rfl⟩ := exists_of_mem_lendableAmong hthere
    exact hvalid member (List.mem_of_mem_filter hmember)
  cases h with
  | invalid hinvalid =>
    have hthere : account ∉ organization.lendable payer.root := fun hthere =>
      Bool.false_ne_true (hinvalid.symm.trans (hnumber hthere))
    constructor <;> simp [hinvalid, hthere]
  | ineligible reason hvalid hthere => constructor <;> simp [hvalid, hthere]
  | lost hvalid hthere hrival =>
    constructor
    case lost =>
      intro _ _
      refine ⟨rfl, ?_⟩
      obtain ⟨member, hmember, hparent, -⟩ := (Organization.mem_lendable_iff hdistinct).1 hthere
      rw [← Organization.tagged_eq_raced hdistinct hrival, Organization.parent?_tagged,
        Organization.parent?, hmember, Option.map_some, hparent]
    all_goals simp [hvalid, hthere, hrival]
  | won hvalid hthere hrival =>
    constructor <;> simp [hvalid, hthere, hrival, eq_comm]

end Lending

open Lending

/-- When no request to the organization is registered to fail, its members have different valid
numbers and the root is not empty, an account that is asked for is lent exactly when it is one that
can be lent and has no rival, and otherwise the failure says why it is not.  Without rivals, asking
for the account that would be lent anyway leaves the same organization. -/
theorem World.assignAccount_agrees (world : World) (payer : Payer) (settings : AllocationSettings)
    (owner : String) (hanswers : world.OrganizationAnswers)
    (hdistinct : world.cloud.organization.state.IsDistinct)
    (hvalid : ∀ member ∈ world.cloud.organization.state.members,
      AccountId.isValid member.account.id = true)
    (hroot : world.cloud.organization.state.under payer.root ≠ []) :
    (∀ account, IsDecided payer owner (Host.Token.ofBits world.host.tokens)
      world.cloud.organization.state account
        (world.perform (assignAccount payer settings account owner)).1
        (world.perform (assignAccount payer settings account owner)).2.cloud.organization.state) ∧
      (world.cloud.organization.state.rivals = Dict.empty → ∀ account,
        (world.perform (assign payer settings owner)).1 = .ok account →
        (world.perform (assignAccount payer settings account owner)).2.cloud.organization.state =
          (world.perform (assign payer settings owner)).2.cloud.organization.state) := by
  have hdecided : ∀ account, IsDecided payer owner (Host.Token.ofBits world.host.tokens)
      world.cloud.organization.state account
      (world.perform (assignAccount payer settings account owner)).1
      (world.perform (assignAccount payer settings account owner)).2.cloud.organization.state :=
    fun account =>
      (ending_assignAccount payer settings account owner hanswers hdistinct hroot).isDecided
        hdistinct hvalid
  refine ⟨hdecided, fun halone account hlent => ?_⟩
  obtain ⟨drawn, after, hlending, hbecome, -⟩ :=
    exists_perform_assign payer settings owner hanswers hdistinct
  rw [hlending, if_neg hroot] at hlent
  have hwon := eq_some_of_choice hlent
  have hlost : contested world.cloud.organization.state.rivals
      (world.cloud.organization.state.lendable payer.root) = [] := by
    rw [halone, contested_empty]
  have hrival : world.cloud.organization.state.rivals.contains account = false := by
    rw [halone]
    rfl
  rw [hwon, hlost] at hbecome
  rw [hlending, hbecome.state, (hdecided account).won (mem_of_uncontested? hwon) hrival]
  rfl

/-- Of two accounts that are asked for, the one with a rival is lost to it, and the one without is
lent.  Without rivals, the one that would be lent anyway is lent in the same way. -/
theorem assignAccount_agrees_rivals :
    let request account :=
      (triedWorld someRivals).perform (assignAccount rivalPayer {} account "alice")
    let alone := triedWorld Dict.empty
    ((request "333333333333").1 = .error (.claimConflict "333333333333") ∧
      ((request "333333333333").2.cloud.organization.state.tags "333333333333").owner? =
        some "bob" ∧
      (request "666666666666").1 = .ok "666666666666" ∧
      (request "666666666666").2.cloud.organization.state.parent? "666666666666" = some "ou-lent" ∧
      (∃ reason, (request "444444444444").1 = .error (.notEligible "444444444444" reason)) ∧
      (request "4444").1 = .error (.invalidAccountId "4444")) ∧
    (alone.perform
        (assignAccount rivalPayer {} "333333333333" "alice")).2.cloud.organization.state =
      (alone.perform (assign rivalPayer {} "alice")).2.cloud.organization.state := by
  intro request alone
  obtain ⟨hdecided, -⟩ :=
    (triedWorld someRivals).assignAccount_agrees rivalPayer {} "alice" (fun _ => rfl)
      (by decide +kernel) (by decide +kernel) (by decide +kernel)
  obtain ⟨-, hsame⟩ := alone.assignAccount_agrees rivalPayer {} "alice" (fun _ => rfl)
    (by decide +kernel) (by decide +kernel) (by decide +kernel)
  have hlost := ((hdecided "333333333333").lost (by decide +kernel) (by decide +kernel)).1
  have hwon := (hdecided "666666666666").won (by decide +kernel) (by decide +kernel)
  have hassigned :
      (alone.perform (assign rivalPayer {} "alice")).1.toOption = some "333333333333" := by
    decide +kernel
  obtain ⟨after, hassigned⟩ := World.exists_of_toOption hassigned
  refine ⟨⟨(hdecided "333333333333").conflict_iff.2 (by decide +kernel), ?_,
    ((hdecided "666666666666").ok_iff "666666666666").2 (by decide +kernel), ?_,
    (hdecided "444444444444").notEligible_iff.2 (by decide +kernel),
    (hdecided "4444").invalid_iff.2 (by decide +kernel)⟩, hsame rfl _ (congrArg Prod.fst hassigned)⟩
  · dsimp only [request]
    rw [hlost]
    decide +kernel
  · dsimp only [request]
    rw [hwon]
    decide +kernel

end AccountLending
