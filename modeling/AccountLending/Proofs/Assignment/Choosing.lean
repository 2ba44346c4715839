import AccountLending.Proofs.Assignment.Contested

/-!
# Which account is lent

The accounts of the pool are tried in the order of the listing.  An account that cannot be lent is
passed over and stays as it is; one that can be lent but has a rival is claimed by that rival, and
the next one is tried; the first one without a rival is lent.

* `Organization.lendable` — the accounts under a unit that can be lent;
* `contested`, `uncontested?` — the accounts that are lost, and the one that is won;
* `ComesTo`, `comesTo_members` — what comes of trying the accounts of a listing;
* `World.assign_first_uncontested` — what comes of lending the first free account, told by the
  organization and its rivals alone.
-/

namespace AccountLending

/-- Whether a member can be lent: its account is active, and it has neither of the tags of a
claim. -/
def Member.isLendable (member : Member) : Bool :=
  member.account.isActive && !member.tags.contains Tags.ownerKey &&
    !member.tags.contains Tags.claimedKey

theorem Member.isLendable_eq (member : Member) :
    member.isLendable = (member.account.isActive && (Claim.ofTags member.tags).isFree) := by
  rw [isLendable, Bool.and_assoc]
  congr 1
  rw [Bool.eq_iff_iff, Claim.isFree_ofTags_iff]
  simp [Tags.owner?, Dict.contains]

theorem Member.isFree_of_isLendable {member : Member} (h : member.isLendable = true) :
    (Claim.ofTags member.tags).isFree = true := by
  rw [isLendable_eq, Bool.and_eq_true] at h
  exact h.2

/-- The accounts of those members that can be lent. -/
def lendableAmong (members : List Member) : List String :=
  (members.filter (·.isLendable)).map (·.account.id)

/-- The accounts directly under a unit that can be lent, in the order of the listing. -/
def Organization.lendable (organization : Organization) (unit : String) : List String :=
  lendableAmong (organization.under unit)

/-- The accounts that come before the first one without a rival. -/
def contested (rivals : Dict String) (accounts : List String) : List String :=
  accounts.takeWhile rivals.contains

/-- The first account without a rival. -/
def uncontested? (rivals : Dict String) (accounts : List String) : Option String :=
  accounts.find? (!rivals.contains ·)

section Candidates

variable {rivals : Dict String} {account : String} {rest accounts : List String}

theorem lendableAmong_cons (member : Member) (rest : List Member) :
    lendableAmong (member :: rest) =
      if member.isLendable then member.account.id :: lendableAmong rest
      else lendableAmong rest := by
  rw [lendableAmong, List.filter_cons]
  split <;> rfl

theorem exists_of_mem_lendableAmong {members : List Member} (h : account ∈ lendableAmong members) :
    ∃ member ∈ members, member.isLendable = true ∧ member.account.id = account := by
  obtain ⟨member, hmember, rfl⟩ := List.mem_map.1 h
  obtain ⟨hthere, hlendable⟩ := List.mem_filter.1 hmember
  exact ⟨member, hthere, hlendable, rfl⟩

theorem contested_cons (rivals : Dict String) (account : String) (rest : List String) :
    contested rivals (account :: rest) =
      if rivals.contains account then account :: contested rivals rest else [] :=
  List.takeWhile_cons

theorem uncontested?_cons (rivals : Dict String) (account : String) (rest : List String) :
    uncontested? rivals (account :: rest) =
      if rivals.contains account then uncontested? rivals rest else
      some account := by
  rw [uncontested?, List.find?_cons]
  cases rivals.contains account <;> rfl

theorem mem_of_mem_contested (h : account ∈ contested rivals accounts) : account ∈ accounts :=
  (List.takeWhile_prefix _).mem h

theorem mem_of_uncontested? (h : uncontested? rivals accounts = some account) :
    account ∈ accounts :=
  List.mem_of_find?_eq_some h

theorem contested_empty (accounts : List String) : contested Dict.empty accounts = [] := by
  cases accounts <;> rfl

end Candidates

/-! ## One account after the other -/

namespace Organization

variable {organization : Organization} {payer : Payer} {owner account : String}

theorem find?_tagged_of_ne {other : String} (hother : other ≠ account) (owner token : String) :
    (organization.tagged account owner token).find? other = organization.find? other := by
  have hfind :=
    find?_change { organization with rivals := organization.rivals.erase account } account other
      (fun member => { member with
        tags := written member.tags (Tags.ofClaim owner token) (organization.rivals.get? account) })
      fun _ => rfl
  rw [if_neg hother] at hfind
  exact hfind

theorem contains_rivals_tagged_of_ne {other : String} (hother : other ≠ account)
    (owner token : String) :
    (organization.tagged account owner token).rivals.contains other =
      organization.rivals.contains other := by
  show (organization.rivals.erase account).contains other = _
  rw [Dict.contains, Dict.get?_erase, if_neg hother, Dict.contains]

/-- When no account is won or lost, nothing changes. -/
theorem raced_nil (organization : Organization) (payer : Payer) (owner token : String) :
    organization.raced payer owner token [] none = organization := by
  simp [raced, Dict.eraseAll]

/-- What comes of one lost account and then of others comes of all of them. -/
theorem raced_raced {lost : List String} {won : Option String} (hlost : account ∉ lost)
    (hwon : won ≠ some account) (payer : Payer) (owner first token : String) :
    (organization.raced payer owner first [account] none).raced payer owner token lost won =
      organization.raced payer owner token (account :: lost) won := by
  refine (Organization.mk.injEq ..).mpr ⟨?_, rfl, rfl⟩
  show List.map _ (List.map _ organization.members) = _
  rw [List.map_map]
  refine List.map_congr_left fun member _ => ?_
  have hid : (organization.overtaken member).account.id = member.account.id := by
    unfold overtaken
    split <;> rfl
  by_cases haccount : member.account.id = account
  · -- the account that was lost first is neither lost again nor won
    simp [haccount, hid, hlost, hwon]
  · have hstill : (organization.raced payer owner first [account] none).overtaken member =
        organization.overtaken member := by
      have hrival : (organization.rivals.eraseAll [account]).get? member.account.id =
          organization.rivals.get? member.account.id := by
        rw [Dict.get?_eraseAll, if_neg (by simpa using haccount)]
      simp only [overtaken, raced, hrival]
    simp [haccount, hstill]

end Organization

namespace Lending

open World

/-- A call that moves an account. -/
def IsMoving (call : Call) : Prop :=
  ∃ account source destination, call = .cloud (.organization (.move account source destination))

variable {payer : Payer} {settings : AllocationSettings} {owner account : String}
variable {member : Member} {members : List Member} {rivals : Dict String} {world : World}

/-! ### Calls that move nothing -/

theorem not_isMoving_of_isReading {call : Call} (h : IsReading call) : ¬ IsMoving call := by
  rintro ⟨account, source, destination, rfl⟩
  exact Bool.noConfusion (h : true = false)

theorem uses_isEligible (account : Account) : (isEligible account).Uses IsReading := by
  unfold isEligible
  split
  · exact (uses_readClaim account.id).bind fun _ => Action.uses_pure _
  · exact (uses_log _ _).bind fun _ => Action.uses_pure _

theorem uses_settle (settings : AllocationSettings) :
    (settle settings).Uses fun call => ¬ IsMoving call := by
  unfold settle
  split
  · exact Action.uses_pure _
  · exact ⟨by rintro ⟨_, _, _, h⟩; simp at h, fun _ => trivial⟩

/-- Claiming an account moves nothing. -/
theorem uses_claim (settings : AllocationSettings) (account owner : String) :
    (claim settings account owner).Uses fun call => ¬ IsMoving call := by
  apply ((uses_readClaim account).mono fun _ => not_isMoving_of_isReading).bind
  intro read
  split
  · have hwrite : (writeClaim account owner).Uses fun call => ¬ IsMoving call := by
      refine Action.Uses.bind ⟨by rintro ⟨_, _, _, h⟩; simp at h, fun _ => trivial⟩ fun token => ?_
      refine Action.Uses.bind (Action.uses_cloud ?_) fun _ => Action.uses_pure _
      rintro ⟨_, _, _, h⟩
      simp at h
    apply hwrite.bind
    intro token
    apply (uses_settle settings).bind
    intro _
    exact ((uses_readTags account).mono fun _ => not_isMoving_of_isReading).bind fun _ =>
      Action.uses_pure _
  · exact Action.uses_pure _

/-! ### The scan -/

/-- Looking at the account of a member tells whether it can be lent. -/
theorem exists_perform_isEligible (hanswers : world.OrganizationAnswers)
    (hmember : world.cloud.organization.state.find? member.account.id = some member) :
    ∃ looked, world.perform (isEligible member.account) = (.ok member.isLendable, looked) ∧
      world.HasOnlyRead looked := by
  rw [Member.isLendable_eq, isEligible]
  split
  · rename_i hactive
    obtain ⟨read, hread, hunchanged⟩ := exists_perform_readClaim hanswers hmember
    refine ⟨read, ?_, hunchanged⟩
    rw [perform_bind_ok hread, perform_pure, hactive, Bool.true_and]
  · rename_i hinactive
    obtain ⟨_, said, hsaid⟩ :=
      succeeds_log .debug ("Skipping account " ++ member.account.id ++ ": status "
        ++ member.account.status.toWire) world
    refine ⟨said, ?_, hasOnlyRead_of_perform (uses_log _ _) hsaid⟩
    rw [perform_bind_ok hsaid, perform_pure, Bool.eq_false_iff.2 hinactive, Bool.false_and]

/-- What is returned when one of the candidates is won, or none. -/
def choice (root : String) : Option String → Except PoolError String
  | some account => .ok account
  | none => .error (.noUntaggedAccounts root)

theorem eq_some_of_choice {root account : String} {won : Option String}
    (h : choice root won = .ok account) : won = some account := by
  cases won with
  | none => simp [choice] at h
  | some other => simpa [choice] using h

/-- An account is passed over: what comes of trying it and others comes of trying the others in a
later world, and nothing is moved before. -/
structure PassesOver (payer : Payer) (settings : AllocationSettings) (owner : String)
    (account : Account) (rest : List Account) (world mid : World) : Prop where
  perform : world.perform (assignFrom payer settings owner (account :: rest)) =
    mid.perform (assignFrom payer settings owner rest)
  calls : ∀ call ∈ world.calls (assignFrom payer settings owner (account :: rest)), IsMoving call →
    call ∈ mid.calls (assignFrom payer settings owner rest)

/-- An account that cannot be lent is passed over. -/
theorem exists_passesOver_of_not_isLendable (hanswers : world.OrganizationAnswers)
    (hmember : world.cloud.organization.state.find? member.account.id = some member)
    (hlendable : member.isLendable = false) (payer : Payer) (settings : AllocationSettings)
    (owner : String) (rest : List Account) :
    ∃ mid, PassesOver payer settings owner member.account rest world mid ∧
      world.HasOnlyRead mid := by
  obtain ⟨looked, hlooked, hread⟩ := exists_perform_isEligible hanswers hmember
  rw [hlendable] at hlooked
  refine ⟨looked, ⟨perform_bind_ok hlooked _, fun call hcall hmoving => ?_⟩, hread⟩
  rw [assignFrom, calls_bind_ok hlooked] at hcall
  rcases List.mem_append.1 hcall with hcall | hcall
  · exact absurd hmoving
      (not_isMoving_of_isReading ((uses_isEligible member.account).mem_trace hcall))
  · exact hcall

/-- An account that can be lent and has a rival is claimed, lost, and passed over. -/
theorem exists_passesOver_of_contains (hanswers : world.OrganizationAnswers)
    (hmember : world.cloud.organization.state.find? member.account.id = some member)
    (hlendable : member.isLendable = true)
    (hrival : world.cloud.organization.state.rivals.contains member.account.id = true)
    (payer : Payer) (settings : AllocationSettings) (owner : String) (rest : List Account) :
    ∃ mid, PassesOver payer settings owner member.account rest world mid ∧
      world.HasBecome (world.cloud.organization.state.tagged member.account.id owner
        (Host.Token.ofBits world.host.tokens)) 1 mid := by
  obtain ⟨looked, hlooked, hread⟩ := exists_perform_isEligible hanswers hmember
  rw [hlendable] at hlooked
  have hbecome := hread.hasBecome
  obtain ⟨claimed, hclaimed, hnext⟩ := exists_perform_claim (hbecome.answers hanswers)
    (hbecome.state ▸ hmember) (Member.isFree_of_isLendable hlendable) settings owner
  rw [hbecome.state, hrival] at hclaimed
  rw [hbecome.state, hbecome.tokens] at hnext
  obtain ⟨_, said, hsaid⟩ := succeeds_log .warn ("Lost the claim on account " ++ member.account.id
    ++ " to a concurrent writer, trying the next one") claimed
  refine ⟨said, ⟨?_, fun call hcall hmoving => ?_⟩, ?_⟩
  · rw [assignFrom, perform_bind_ok hlooked, if_pos rfl, perform_bind_ok hclaimed, if_neg (by simp),
      perform_bind_ok hsaid]
  · rw [assignFrom, calls_bind_ok hlooked, if_pos rfl, calls_bind_ok hclaimed, if_neg (by simp),
      calls_bind_ok hsaid] at hcall
    rcases List.mem_append.1 hcall with hcall | hcall
    · exact absurd hmoving
        (not_isMoving_of_isReading ((uses_isEligible member.account).mem_trace hcall))
    rcases List.mem_append.1 hcall with hcall | hcall
    · exact absurd hmoving ((uses_claim settings member.account.id owner).mem_trace hcall)
    rcases List.mem_append.1 hcall with hcall | hcall
    · exact absurd hmoving (not_isMoving_of_isReading ((uses_log _ _).mem_trace hcall))
    · exact hcall
  · have hnow := (hbecome.trans hnext).read (hasOnlyRead_of_perform (uses_log _ _) hsaid)
    rwa [Nat.zero_add] at hnow

/-- A free account under the root without a rival is won and handed over. -/
theorem exists_perform_claim_handOver (hanswers : world.OrganizationAnswers)
    (hdistinct : world.cloud.organization.state.IsDistinct)
    (hmember : world.cloud.organization.state.find? account = some member)
    (hfree : (Claim.ofTags member.tags).isFree = true) (hparent : member.parent = payer.root)
    (hrival : world.cloud.organization.state.rivals.contains account = false)
    (settings : AllocationSettings) (owner : String) :
    ∃ claimed lent, world.perform (claim settings account owner) = (.ok true, claimed) ∧
      claimed.perform (handOver payer account owner) = (.ok account, lent) ∧
      world.HasBecome (world.cloud.organization.state.raced payer owner
        (Host.Token.ofBits world.host.tokens) [] (some account)) 1 lent := by
  obtain ⟨claimed, hclaimed, hbecome⟩ := exists_perform_claim hanswers hmember hfree settings owner
  rw [hrival] at hclaimed
  have hfound := Organization.find?_tagged hmember owner (Host.Token.ofBits world.host.tokens)
  rw [← hbecome.state] at hfound
  obtain ⟨lent, hlent, hnext⟩ :=
    exists_perform_handOver payer (hbecome.answers hanswers) hfound hparent
      owner
  rw [hbecome.state, Organization.moved_tagged_eq_raced hdistinct hrival] at hnext
  exact ⟨claimed, lent, hclaimed, hlent, hbecome.trans hnext⟩

/-- Trying accounts comes to some accounts that are lost to their rivals, and to one that is won or
to none.  When none is won, nothing is moved. -/
def ComesTo (payer : Payer) (settings : AllocationSettings) (owner : String)
    (accounts : List Account) (world : World) (lost : List String) (won : Option String) : Prop :=
  ∃ drawn after,
    world.perform (assignFrom payer settings owner accounts) = (choice payer.root won, after) ∧
    world.HasBecome (world.cloud.organization.state.raced payer owner
      (Host.Token.ofBits (world.host.tokens + lost.length)) lost won) drawn after ∧
    (won = none → ∀ call ∈ world.calls (assignFrom payer settings owner accounts), ¬ IsMoving call)

theorem comesTo_nil (payer : Payer) (settings : AllocationSettings) (owner : String)
    (world : World) : ComesTo payer settings owner [] world [] none := by
  refine ⟨0, world, rfl, ?_, fun _ call hcall => absurd hcall List.not_mem_nil⟩
  rw [Organization.raced_nil]
  exact .refl world

/-- What comes of the others comes of all, when the first account was only looked at. -/
theorem ComesTo.skip {account : Account} {rest : List Account} {mid : World} {lost : List String}
    {won : Option String} (h : ComesTo payer settings owner rest mid lost won)
    (hover : PassesOver payer settings owner account rest world mid)
    (hread : world.HasOnlyRead mid) :
    ComesTo payer settings owner (account :: rest) world lost won := by
  obtain ⟨drawn, after, hafter, hnext, hunmoved⟩ := h
  have hbecome := hread.hasBecome
  rw [hbecome.state, hbecome.tokens] at hnext
  exact ⟨_, after, hover.perform.trans hafter, hbecome.trans hnext,
    fun hnone call hcall hmoving => hunmoved hnone call (hover.calls call hcall hmoving) hmoving⟩

/-- An account that is passed over because of its rival is lost besides those that come after it. -/
theorem ComesTo.lose {account : Account} {rest : List Account} {mid : World} {lost : List String}
    {won : Option String} (h : ComesTo payer settings owner rest mid lost won)
    (hover : PassesOver payer settings owner account rest world mid)
    (hbecome : world.HasBecome (world.cloud.organization.state.tagged account.id owner
      (Host.Token.ofBits world.host.tokens)) 1 mid)
    (hdistinct : world.cloud.organization.state.IsDistinct)
    (hrival : world.cloud.organization.state.rivals.contains account.id = true)
    (hlost : account.id ∉ lost) (hwon : won ≠ some account.id) :
    ComesTo payer settings owner (account :: rest) world (account.id :: lost) won := by
  obtain ⟨drawn, after, hafter, hnext, hunmoved⟩ := h
  have htokens :
      world.host.tokens + 1 + lost.length = world.host.tokens + (account.id :: lost).length := by
    rw [List.length_cons]
    omega
  rw [hbecome.state, hbecome.tokens, Organization.tagged_eq_raced hdistinct hrival payer owner _,
    Organization.raced_raced hlost hwon, htokens] at hnext
  exact ⟨_, after, hover.perform.trans hafter, hbecome.trans hnext,
    fun hnone call hcall hmoving => hunmoved hnone call (hover.calls call hcall hmoving) hmoving⟩

/-- An account that can be lent and has no rival is won, and nothing after it is tried. -/
theorem comesTo_win (hanswers : world.OrganizationAnswers)
    (hdistinct : world.cloud.organization.state.IsDistinct)
    (hmember : world.cloud.organization.state.find? member.account.id = some member)
    (hlendable : member.isLendable = true) (hparent : member.parent = payer.root)
    (hrival : world.cloud.organization.state.rivals.contains member.account.id = false)
    (settings : AllocationSettings) (owner : String) (rest : List Account) :
    ComesTo payer settings owner (member.account :: rest) world [] (some member.account.id) := by
  obtain ⟨looked, hlooked, hread⟩ := exists_perform_isEligible hanswers hmember
  rw [hlendable] at hlooked
  have hbecome := hread.hasBecome
  obtain ⟨claimed, lent, hclaimed, hlent, hnext⟩ :=
    exists_perform_claim_handOver (hbecome.answers hanswers)
      (hbecome.state ▸ hdistinct) (hbecome.state ▸ hmember)
      (Member.isFree_of_isLendable hlendable) hparent (by rw [hbecome.state, hrival]) settings owner
  rw [hbecome.state, hbecome.tokens] at hnext
  refine ⟨_, lent, ?_, hbecome.trans hnext, fun hnone => absurd hnone (Option.some_ne_none _)⟩
  rw [assignFrom, perform_bind_ok hlooked, if_pos rfl, perform_bind_ok hclaimed, if_pos rfl, hlent]
  rfl

/-- The members are tried one after the other. -/
theorem comesTo_members (payer : Payer) (settings : AllocationSettings) (owner : String)
    (hanswers : world.OrganizationAnswers) (hdistinct : world.cloud.organization.state.IsDistinct)
    (hnodup : (members.map (·.account.id)).Nodup)
    (hthere : ∀ member ∈ members,
      world.cloud.organization.state.find? member.account.id = some member ∧
      member.parent = payer.root)
    (hrivals : ∀ member ∈ members,
      world.cloud.organization.state.rivals.contains member.account.id =
        rivals.contains member.account.id) :
    ComesTo payer settings owner (members.map (·.account)) world
      (contested rivals (lendableAmong members))
      (uncontested? rivals (lendableAmong members)) := by
  induction members generalizing world with
  | nil => exact comesTo_nil payer settings owner world
  | cons member rest ih =>
    obtain ⟨hmember, hparent⟩ := hthere member List.mem_cons_self
    obtain ⟨hfresh, hnodup⟩ := List.nodup_cons.1 hnodup
    obtain ⟨-, hthere⟩ := List.forall_mem_cons.1 hthere
    obtain ⟨hrival, hrivals⟩ := List.forall_mem_cons.1 hrivals
    have hne : ∀ other ∈ rest, other.account.id ≠ member.account.id := by
      rintro other hother heq
      exact hfresh (List.mem_map.2 ⟨other, hother, heq⟩)
    rw [List.map_cons, lendableAmong_cons]
    cases hlendable : member.isLendable with
    | false =>
      rw [if_neg Bool.false_ne_true]
      obtain ⟨mid, hover, hread⟩ :=
        exists_passesOver_of_not_isLendable hanswers hmember hlendable payer settings owner
          (rest.map (·.account))
      have hstate := hread.hasBecome.state
      exact (ih (hread.hasBecome.answers hanswers) (hstate ▸ hdistinct) hnodup
        (fun other hother => hstate ▸ hthere other hother)
        fun other hother => hstate ▸ hrivals other hother).skip hover hread
    | true =>
      rw [if_pos rfl, contested_cons, uncontested?_cons]
      cases hcontains : rivals.contains member.account.id with
      | false =>
        rw [if_neg Bool.false_ne_true, if_neg Bool.false_ne_true]
        exact comesTo_win hanswers hdistinct hmember hlendable hparent (hrival.trans hcontains)
          settings owner _
      | true =>
        rw [if_pos rfl, if_pos rfl]
        obtain ⟨mid, hover, hbecome⟩ := exists_passesOver_of_contains hanswers hmember hlendable
          (hrival.trans hcontains) payer settings owner (rest.map (·.account))
        -- the account that was just lost is not among the candidates that are left
        have hgone : member.account.id ∉ lendableAmong rest := by
          intro hleft
          obtain ⟨other, hother, -, heq⟩ := exists_of_mem_lendableAmong hleft
          exact hne other hother heq
        have hrest := ih (hbecome.answers hanswers) (hbecome.state ▸ hdistinct.answer _) hnodup
          (fun other hother => by
            rw [hbecome.state, Organization.find?_tagged_of_ne (hne other hother)]
            exact hthere other hother)
          (fun other hother => by
            rw [hbecome.state, Organization.contains_rivals_tagged_of_ne (hne other hother)]
            exact hrivals other hother)
        exact hrest.lose hover hbecome hdistinct (hrival.trans hcontains)
          (fun h => hgone (mem_of_mem_contested h)) fun h => hgone (mem_of_uncontested? h)

/-! ### The pool -/

theorem uses_poolAccounts (parent : String) : (poolAccounts parent).Uses IsReading := by
  apply (uses_organization rfl).bind
  intro accounts
  split
  · trivial
  · exact (uses_log _ _).bind fun _ => Action.uses_pure _

/-- The accounts of a unit are listed when there is one. -/
theorem exists_perform_poolAccounts (hanswers : world.OrganizationAnswers) (parent : String) :
    ∃ listed, world.perform (poolAccounts parent) =
        (if world.cloud.organization.state.under parent = [] then .error (.noAccountsInRoot parent)
          else .ok ((world.cloud.organization.state.under parent).map (·.account)), listed) ∧
      world.HasOnlyRead listed := by
  have hanswer : (world.cloud.organization.state.answer (.listAccounts parent)).1 =
      .ok ((world.cloud.organization.state.under parent).map (·.account)) := rfl
  have hlisted := perform_organization (hanswers _) hanswer
  refine ⟨_, Prod.ext ?_ rfl, hasOnlyRead_of_uses (uses_poolAccounts parent) world⟩
  show (world.perform (poolAccounts parent)).1 = _
  rw [poolAccounts, perform_bind_ok hlisted]
  split
  · rename_i hempty
    rw [if_pos (by simpa using hempty), perform_throw]
  · rename_i hsome
    obtain ⟨_, said, hsaid⟩ := succeeds_log .trace ("Pool " ++ parent ++ " holds " ++ toString
      ((world.cloud.organization.state.under parent).map (·.account)).length ++ " accounts") _
    rw [perform_bind_ok hsaid, if_neg (by simpa using hsome), perform_pure]

/-- The first of the members that can be lent is found. -/
theorem perform_firstEligible? (members : List Member) (hanswers : world.OrganizationAnswers)
    (hthere : ∀ member ∈ members,
      world.cloud.organization.state.find? member.account.id = some member) :
    (world.perform (firstEligible? (members.map (·.account)))).1 =
      .ok ((members.find? (·.isLendable)).map (·.account)) := by
  induction members generalizing world with
  | nil => rfl
  | cons member rest ih =>
    obtain ⟨looked, hlooked, hread⟩ :=
      exists_perform_isEligible hanswers (hthere member List.mem_cons_self)
    rw [List.map_cons, firstEligible?, perform_bind_ok hlooked, List.find?_cons]
    cases member.isLendable with
    | true => rfl
    | false =>
      refine ih (hanswers.of_hasOnlyRead hread) fun other hother => ?_
      rw [hread.cloud.state]
      exact hthere other (List.mem_cons_of_mem _ hother)

/-- The members under a unit are found there. -/
theorem find?_of_mem_under {organization : Organization} (hdistinct : organization.IsDistinct)
    {parent : String} (hmember : member ∈ organization.under parent) :
    organization.find? member.account.id = some member ∧ member.parent = parent := by
  obtain ⟨hmember, hparent⟩ := List.mem_filter.1 hmember
  exact ⟨Organization.find?_of_mem hdistinct hmember, of_decide_eq_true hparent⟩

theorem perform_findFree (hanswers : world.OrganizationAnswers)
    (hdistinct : world.cloud.organization.state.IsDistinct) (root : String) :
    (world.perform (findFree root)).1 =
      if world.cloud.organization.state.under root = [] then .error (.noAccountsInRoot root)
      else choice root (((world.cloud.organization.state.under root).find?
        (·.isLendable)).map (·.account.id)) := by
  obtain ⟨listed, hlisted, hread⟩ := exists_perform_poolAccounts hanswers root
  split at hlisted
  · rename_i hempty
    rw [findFree, perform_bind_error hlisted, if_pos hempty]
  · rename_i hsome
    have hfirst := perform_firstEligible? (world.cloud.organization.state.under root)
      (hanswers.of_hasOnlyRead hread) fun member hmember => by
        rw [hread.cloud.state]
        exact (find?_of_mem_under hdistinct hmember).1
    rw [findFree, perform_bind_ok hlisted, perform_bind, hfirst, if_neg hsome]
    cases (world.cloud.organization.state.under root).find? (·.isLendable) <;> rfl

theorem uncontested?_empty (members : List Member) :
    uncontested? Dict.empty (lendableAmong members) =
      (members.find? (·.isLendable)).map (·.account.id) := by
  have hfirst :
      uncontested? Dict.empty (lendableAmong members) = (lendableAmong members).head? := by
    cases lendableAmong members <;> rfl
  rw [hfirst, lendableAmong, List.head?_map, List.head?_filter]

/-- The members under the root are tried one after the other when there is one. -/
theorem exists_perform_assign (payer : Payer) (settings : AllocationSettings) (owner : String)
    (hanswers : world.OrganizationAnswers) (hdistinct : world.cloud.organization.state.IsDistinct) :
    let organization := world.cloud.organization.state
    let lost := contested organization.rivals (organization.lendable payer.root)
    let won := uncontested? organization.rivals (organization.lendable payer.root)
    let token := Host.Token.ofBits (world.host.tokens + lost.length)
    let lending := assign payer settings owner
    ∃ drawn after, world.perform lending =
        (if organization.under payer.root = [] then .error (.noAccountsInRoot payer.root)
          else choice payer.root won, after) ∧
      world.HasBecome (organization.raced payer owner token lost won) drawn after ∧
      (won = none → ∀ call ∈ world.calls lending, ¬ IsMoving call) := by
  intro organization lost won token lending
  obtain ⟨listed, hlisted, hread⟩ := exists_perform_poolAccounts hanswers payer.root
  have hbecome := hread.hasBecome
  have hlisting : ∀ call ∈ world.calls (poolAccounts payer.root), ¬ IsMoving call :=
    fun call hcall =>
    not_isMoving_of_isReading ((uses_poolAccounts payer.root).mem_trace hcall)
  by_cases hempty : organization.under payer.root = []
  case pos =>
    rw [if_pos hempty] at hlisted
    have hcalls : world.calls lending = world.calls (poolAccounts payer.root) :=
      calls_bind_error hlisted _
    have hnone : organization.lendable payer.root = [] := by rw [Organization.lendable, hempty]; rfl
    have hlost : lost = [] := by simp only [lost, hnone]; rfl
    have hwon : won = none := by simp only [won, hnone]; rfl
    rw [hcalls, if_pos hempty, hlost, hwon, Organization.raced_nil]
    exact ⟨0, listed, perform_bind_error hlisted _, hbecome, fun _ => hlisting⟩
  case neg =>
    rw [if_neg hempty] at hlisted
    obtain ⟨drawn, after, hafter, hnext, hunmoved⟩ := comesTo_members payer settings owner
      (hbecome.answers hanswers) (hbecome.state ▸ hdistinct)
      (hdistinct.sublist (List.filter_sublist.map _))
      (fun member hmember => by
        rw [hbecome.state]
        exact find?_of_mem_under hdistinct hmember)
      (fun member _ => by rw [hbecome.state])
    rw [hbecome.state, hbecome.tokens] at hnext
    have hcalls : world.calls lending = world.calls (poolAccounts payer.root) ++
        listed.calls (assignFrom payer settings owner
          ((organization.under payer.root).map (·.account))) := calls_bind_ok hlisted _
    rw [hcalls, if_neg hempty]
    refine ⟨_, after, (perform_bind_ok hlisted _).trans hafter, hbecome.trans hnext,
      fun hnone call hcall => ?_⟩
    exact (List.mem_append.1 hcall).elim (hlisting call) (hunmoved hnone call)

end Lending

open Lending

/-- When no request to the organization is registered to fail and its members have different
numbers, lending the first free account gives the first account under the root that can be lent and
has no rival.  Those that can be lent and come before it are lost to their rivals, and nothing else
changes.  When there is none, nothing is moved. -/
theorem World.assign_first_uncontested (world : World) (payer : Payer)
    (settings : AllocationSettings) (owner : String) (hanswers : world.OrganizationAnswers)
    (hdistinct : world.cloud.organization.state.IsDistinct) :
    let organization := world.cloud.organization.state
    let lost := contested organization.rivals (organization.lendable payer.root)
    let won := uncontested? organization.rivals (organization.lendable payer.root)
    let token := Host.Token.ofBits (world.host.tokens + lost.length)
    let lending := assign payer settings owner
    (world.perform lending).1 =
        (if organization.under payer.root = [] then .error (.noAccountsInRoot payer.root)
          else choice payer.root won) ∧
      (world.perform lending).2.cloud.organization.state =
        organization.raced payer owner token lost won ∧
      (won = none → ∀ call ∈ world.calls lending, ¬ IsMoving call) ∧
      (organization.rivals = Dict.empty →
        (world.perform (findFree payer.root)).1 = (world.perform lending).1) := by
  intro organization lost won token lending
  obtain ⟨drawn, after, hlending, hbecome, hunmoved⟩ :=
    exists_perform_assign payer settings owner hanswers hdistinct
  rw [hlending]
  refine ⟨rfl, hbecome.state, hunmoved, fun halone => ?_⟩
  rw [perform_findFree hanswers hdistinct, ← uncontested?_empty, ← halone]
  rfl

/-! ### A pool with rivals -/

/-- The payer of the pool. -/
def rivalPayer : Payer := { root := "r-pool", claimed := "ou-lent" }

/-- A pool with an account that is suspended, one with half of a claim, and four that are free. -/
def triedWorld (rivals : Dict String) : World where
  cloud := (Cloud.ofCaller (.ok "999999999999")).changeOrganization fun _ => {
    members := [⟨{ id := "111111111111", status := .suspended }, "r-pool", Dict.empty⟩,
      ⟨{ id := "222222222222", status := .active }, "r-pool", Dict.ofList [("owner", "grace")]⟩,
      ⟨{ id := "333333333333", status := .active }, "r-pool", Dict.ofList [("team", "tools")]⟩,
      ⟨{ id := "444444444444", status := .active }, "ou-lent", Dict.empty⟩,
      ⟨{ id := "555555555555", status := .active }, "r-pool", Dict.empty⟩,
      ⟨{ id := "666666666666", status := .active }, "r-pool", Dict.ofList [("team", "tests")]⟩,
      ⟨{ id := "777777777777", status := .active }, "r-pool", Dict.empty⟩]
    rivals }

/-- Three of the free accounts have rivals, and one of these has the owner's own name. -/
def someRivals : Dict String :=
  Dict.ofList [("333333333333", "bob"), ("555555555555", "alice"), ("777777777777", "bob")]

/-- The third of the free accounts is lent, the two before it are their rivals', and the last one is
left alone.  Without rivals the first one is lent, which is the one that is found. -/
theorem assign_first_uncontested_rivals :
    let lent := (triedWorld someRivals).perform (assign rivalPayer {} "alice")
    let after := lent.2.cloud.organization.state
    (lent.1 = .ok "666666666666" ∧
      (after.tags "333333333333").owner? = some "bob" ∧
      (after.tags "555555555555").get? Tags.tokenKey = some "rival-alice" ∧
      after.parent? "555555555555" = some "r-pool" ∧
      (after.tags "666666666666").owner? = some "alice" ∧
      after.parent? "666666666666" = some "ou-lent" ∧
      after.find? "777777777777" =
        (triedWorld someRivals).cloud.organization.state.find? "777777777777" ∧
      after.rivals = Dict.ofList [("777777777777", "bob")]) ∧
    ((triedWorld Dict.empty).perform (findFree "r-pool")).1 = .ok "333333333333" := by
  intro lent after
  obtain ⟨hlent, hafter, -⟩ :=
    (triedWorld someRivals).assign_first_uncontested rivalPayer {} "alice" (fun _ => rfl)
      (by decide +kernel)
  obtain ⟨hfirst, -, -, hfind⟩ :=
    (triedWorld Dict.empty).assign_first_uncontested rivalPayer {} "alice" (fun _ => rfl)
      (by decide +kernel)
  have hwon : uncontested? (triedWorld someRivals).cloud.organization.state.rivals
      ((triedWorld someRivals).cloud.organization.state.lendable rivalPayer.root) =
        some "666666666666" := by
    decide +kernel
  have hwonAlone : uncontested? (triedWorld Dict.empty).cloud.organization.state.rivals
      ((triedWorld Dict.empty).cloud.organization.state.lendable rivalPayer.root) =
        some "333333333333" := by
    decide +kernel
  rw [hwon, if_neg (by decide +kernel)] at hlent
  rw [hwonAlone, if_neg (by decide +kernel)] at hfirst
  rw [hwon] at hafter
  refine ⟨⟨hlent, ?_⟩, (hfind rfl).trans hfirst⟩
  dsimp only [after, lent]
  rw [hafter]
  decide +kernel

end AccountLending
