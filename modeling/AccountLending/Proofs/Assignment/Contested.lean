import AccountLending.Lending.Assignment
import AccountLending.Proofs.Ownership

/-!
# One account and its rivals

An account is claimed while rivals wait: a rival that waits for an account lets the next claim be
written to it, and then writes its own over it.  Nothing else happens, and no request is refused.  A
claim is then kept exactly when no rival waits, whatever the rival's name is, since the token of a
rival is none that is drawn.

* `Token.ofBits_ne_rivalToken` — no token that is drawn is a rival's;
* `Organization.raced` — an organization after some accounts were lost to rivals and one was won;
* `World.HasBecome` — what a world keeps while its organization is changed and tokens are drawn;
* `exists_perform_claim` — what comes of claiming an account;
* `exists_perform_handOver` — the account that was won is handed over.
-/

namespace AccountLending

/-! ## Tokens -/

/-- The token with which a rival claims an account. -/
def rivalToken (rival : String) : String := "rival-" ++ rival

namespace Host.Token

theorem not_mem_hexField (width n : Nat) : 'r' ∉ hexField width n := by
  induction width generalizing n with
  | zero => exact List.not_mem_nil
  | succ width ih =>
    have hdigit : ∀ d < 16, 'r' ≠ Nat.digitChar d := by decide
    rw [hexField, List.mem_append, List.mem_singleton]
    rintro (h | h)
    · exact ih _ h
    · exact hdigit _ (Nat.mod_lt n (by decide)) h

/-- A token starts with a hexadecimal digit, and so is no rival's. -/
theorem ofBits_ne_rivalToken (n : Nat) (rival : String) : ofBits n ≠ rivalToken rival := by
  intro h
  obtain ⟨c, rest, hfield⟩ := List.exists_cons_of_length_eq_add_one (length_hexField 8 (n >>> 90))
  have hhead := congrArg (fun text => text.toList.head?) h
  have hr : ("rival-" : String).toList.head? = some 'r' := by decide
  simp only [ofBits, rivalToken, hfield, String.toList_ofList, String.toList_append,
    List.cons_append, List.head?_cons, List.head?_append, hr, Option.some_or,
    Option.some.injEq] at hhead
  have hmem := not_mem_hexField 8 (n >>> 90)
  rw [hfield, hhead] at hmem
  exact hmem List.mem_cons_self

end Host.Token

/-! ## Organizations with rivals -/

/-- A member whose tags are its old ones under those of a claim. -/
def Member.claimedBy (member : Member) (owner token : String) : Member :=
  { member with tags := member.tags.insertAll (Tags.ofClaim owner token).entries }

namespace Organization

/-- A member that was lost to its rival. -/
def overtaken (organization : Organization) (member : Member) : Member :=
  match organization.rivals.get? member.account.id with
  | some rival => member.claimedBy rival (rivalToken rival)
  | none => member

/-- An organization after accounts were lost to their rivals, who do not wait any more, and one
account was won by an owner. -/
def raced (organization : Organization) (payer : Payer) (owner token : String) (lost : List String)
    (won : Option String) : Organization :=
  { organization with
    members := organization.members.map fun member =>
      if member.account.id ∈ lost then organization.overtaken member
      else if won = some member.account.id then
        { member.claimedBy owner token with parent := payer.claimed }
      else member
    rivals := organization.rivals.eraseAll lost }

end Organization

namespace Organization

variable {organization : Organization} {account : String} {member : Member}

/-- The claim of a rival is written over the one before it, tag by tag. -/
theorem written_rival (old : Tags) (owner token rival : String) :
    written old (Tags.ofClaim owner token) (some rival) =
      old.insertAll (Tags.ofClaim rival (rivalToken rival)).entries := by
  apply Dict.ext_get?
  intro key
  simp only [written, rivalToken, Dict.get?_insertAll_entries, Tags.get?_ofClaim]
  split
  · rfl
  · split
    · rfl
    · split <;> rfl

/-- When the members have different numbers, a change of one of them is a change of all with its
number. -/
theorem members_change (h : organization.IsDistinct) (account : String) (f : Member → Member) :
    (organization.change account f).members =
      organization.members.map fun member =>
        if member.account.id = account then f member else member := by
  obtain ⟨members, resources, rivals⟩ := organization
  change (members.map (·.account.id)).Nodup at h
  show changeFirst account f members = _
  induction members with
  | nil => rfl
  | cons first rest ih =>
    obtain ⟨hfirst, hrest⟩ := List.nodup_cons.1 h
    rw [changeFirst, List.map_cons]
    split
    · rename_i hid
      have hothers :
          ∀ other ∈ rest, (if other.account.id = account then f other else other) = other := by
        intro other hother
        refine if_neg fun heq => hfirst (List.mem_map.2 ⟨other, hother, ?_⟩)
        exact heq.trans hid.symm
      rw [List.map_congr_left hothers, List.map_id']
    · rw [ih hrest]

/-- An organization after a claim was written to an account, and a rival's claim over it if one
waits. -/
def tagged (organization : Organization) (account owner token : String) : Organization :=
  (organization.answer (.tag account (Tags.ofClaim owner token))).2

theorem members_tagged (h : organization.IsDistinct) (account owner token : String) :
    (organization.tagged account owner token).members = organization.members.map fun member =>
      if member.account.id = account then
        { member with
          tags :=
            written member.tags (Tags.ofClaim owner token) (organization.rivals.get? account) }
      else member :=
  members_change h account _

/-- The account of a rival is lost to it. -/
theorem tagged_eq_raced (h : organization.IsDistinct)
    (hrival : organization.rivals.contains account = true) (payer : Payer) (owner token : String) :
    organization.tagged account owner token =
      organization.raced payer owner token [account] none := by
  obtain ⟨rival, hrival⟩ := Option.isSome_iff_exists.1 hrival
  refine (Organization.mk.injEq ..).mpr ⟨(members_tagged h account owner token).trans ?_, rfl, rfl⟩
  refine List.map_congr_left fun member _ => ?_
  simp only [List.mem_singleton, reduceCtorEq, if_false, hrival, written_rival]
  split
  · rename_i hid
    rw [overtaken, hid, hrival]
    rfl
  · rfl

/-- An account without a rival is won when it is moved as well. -/
theorem moved_tagged_eq_raced (h : organization.IsDistinct)
    (hrival : organization.rivals.contains account = false) (payer : Payer) (owner token : String) :
    (organization.tagged account owner token).change account
        (fun member => { member with parent := payer.claimed }) =
      organization.raced payer owner token [] (some account) := by
  have hnone : organization.rivals.get? account = none := by simpa [Dict.contains] using hrival
  have htagged : (organization.tagged account owner token).IsDistinct := h.answer _
  have hrivals : organization.rivals.erase account = organization.rivals := by
    apply Dict.ext_get?
    intro other
    rw [Dict.get?_erase]
    split
    · rename_i heq
      rw [heq, hnone]
    · rfl
  refine (Organization.mk.injEq ..).mpr ⟨(members_change htagged account _).trans ?_, rfl, hrivals⟩
  rw [members_tagged h, List.map_map]
  refine List.map_congr_left fun member _ => ?_
  by_cases hid : member.account.id = account
  · simp [hid, hnone, written, Member.claimedBy]
  · have hne : ¬ account = member.account.id := fun heq => hid heq.symm
    simp [hid, hne]

theorem find?_tagged (hmember : organization.find? account = some member) (owner token : String) :
    (organization.tagged account owner token).find? account = some { member with
      tags :=
        written member.tags (Tags.ofClaim owner token) (organization.rivals.get? account) } := by
  have hfind :=
    find?_change { organization with rivals := organization.rivals.erase account } account account
      (fun member => { member with
        tags := written member.tags (Tags.ofClaim owner token) (organization.rivals.get? account) })
      fun _ => rfl
  rw [if_pos rfl] at hfind
  refine hfind.trans ?_
  show (organization.find? account).map _ = _
  rw [hmember, Option.map_some]

/-- Writing a claim moves nothing. -/
theorem parent?_tagged (organization : Organization) (account owner token other : String) :
    (organization.tagged account owner token).parent? other = organization.parent? other := by
  let erased : Organization := { organization with rivals := organization.rivals.erase account }
  have hparent : (erased.change account fun member => { member with
      tags :=
        written member.tags (Tags.ofClaim owner token) (organization.rivals.get? account) }).parent?
          other = _ :=
    parent?_change account other _ fun _ => rfl
  refine hparent.trans ?_
  split <;> rfl

end Organization

/-! ## Worlds that go on -/

/-- A world whose organization has become another one while so many tokens were drawn. -/
structure World.HasBecome (before : World) (organization : Organization) (drawn : Nat)
    (after : World) : Prop where
  state : after.cloud.organization.state = organization
  tokens : after.host.tokens = before.host.tokens + drawn
  failing : after.cloud.organization.failing = before.cloud.organization.failing

namespace World

variable {before mid after world : World} {organization other : Organization} {drawn more : Nat}

theorem HasBecome.refl (world : World) : world.HasBecome world.cloud.organization.state 0 world :=
  ⟨rfl, rfl, rfl⟩

theorem HasBecome.trans (h : before.HasBecome organization drawn mid)
    (h' : mid.HasBecome other more after) : before.HasBecome other (drawn + more) after where
  state := h'.state
  tokens := by rw [h'.tokens, h.tokens, Nat.add_assoc]
  failing := h'.failing.trans h.failing

theorem HasBecome.answers (h : before.HasBecome organization drawn after)
    (hanswers : before.OrganizationAnswers) : after.OrganizationAnswers := by
  intro request
  rw [Journaled.fails, h.failing]
  exact hanswers request

theorem HasOnlyRead.hasBecome (h : before.HasOnlyRead after) :
    before.HasBecome before.cloud.organization.state 0 after where
  state := h.cloud.state
  tokens := by
    have hhost := congrArg Host.tokens h.host
    exact hhost
  failing := h.cloud.failing

/-- Something that is only read is read in a world that goes on as it was. -/
theorem HasBecome.read (h : before.HasBecome organization drawn mid)
    (hread : mid.HasOnlyRead after) : before.HasBecome organization drawn after := by
  have hboth := h.trans hread.hasBecome
  rwa [h.state] at hboth

/-- A request to an organization that refuses none. -/
theorem exists_perform_organization (hanswers : world.OrganizationAnswers)
    {request : Organization.Request} {a : request.Answer}
    (hanswer : (world.cloud.organization.state.answer request).1 = .ok a) :
    ∃ after, world.perform (Action.organization request) = (.ok a, after) ∧
      world.HasBecome (world.cloud.organization.state.answer request).2 0 after :=
  ⟨_, perform_organization (hanswers request) hanswer, rfl, rfl, rfl⟩

end World

namespace Lending

open World

variable {payer : Payer} {settings : AllocationSettings} {owner account token : String}
variable {member : Member} {world : World}

/-! ## Claiming an account -/

/-- Letting a claim settle takes time and nothing else. -/
theorem perform_settle (settings : AllocationSettings) (world : World) :
    world.perform (settle settings) = (.ok (), world) := by
  unfold settle
  split <;> rfl

/-- A claim is written with the next token. -/
theorem exists_perform_writeClaim (hanswers : world.OrganizationAnswers)
    (hmember : world.cloud.organization.state.find? account = some member) (owner : String) :
    let token := Host.Token.ofBits world.host.tokens
    ∃ written, world.perform (writeClaim account owner) = (.ok token, written) ∧
      world.HasBecome (world.cloud.organization.state.tagged account owner token) 1 written := by
  intro token
  let drawn : World := { world with host := { world.host with tokens := world.host.tokens + 1 } }
  have hdrawn : world.perform (Action.host .freshToken) = (.ok token, drawn) := perform_lift _ _
  have hbecome : world.HasBecome drawn.cloud.organization.state 1 drawn := ⟨rfl, rfl, rfl⟩
  have hanswer :
      (drawn.cloud.organization.state.answer (.tag account (Tags.ofClaim owner token))).1 =
      .ok () := by
    simp only [Organization.answer, Organization.fromMember, drawn, hmember]
  obtain ⟨written, hwritten, hnext⟩ :=
    exists_perform_organization (hbecome.answers hanswers) hanswer
  refine ⟨written, ?_, hbecome.trans hnext⟩
  rw [writeClaim, perform_bind_ok hdrawn, perform_bind_ok hwritten]
  rfl

/-- The claim that is read back is the one that was written exactly when no rival waited. -/
theorem keepsClaim_written (old : Tags) (owner : String) (n : Nat) (rival : Option String) :
    keepsClaim (Organization.written old (Tags.ofClaim owner (Host.Token.ofBits n)) rival) owner
      (Host.Token.ofBits n) = rival.isNone := by
  cases rival with
  | none => simp [keepsClaim]
  | some rival =>
    have htoken := Host.Token.ofBits_ne_rivalToken n rival
    have hread :
        (Organization.written old (Tags.ofClaim owner (Host.Token.ofBits n)) (some rival)).get?
          Tags.tokenKey = some (rivalToken rival) := by
      rw [Organization.written_rival, Dict.get?_insertAll_entries, Tags.get?_ofClaim, if_pos rfl,
        Option.some_or]
    simp [keepsClaim, hread, htoken.symm]

/-- A free account is claimed: it is won when no rival waits for it, and lost to the rival
otherwise. -/
theorem exists_perform_claim (hanswers : world.OrganizationAnswers)
    (hmember : world.cloud.organization.state.find? account = some member)
    (hfree : (Claim.ofTags member.tags).isFree = true) (settings : AllocationSettings)
    (owner : String) :
    ∃ claimed, world.perform (claim settings account owner) =
        (.ok (!world.cloud.organization.state.rivals.contains account), claimed) ∧
      world.HasBecome (world.cloud.organization.state.tagged account owner
        (Host.Token.ofBits world.host.tokens)) 1 claimed := by
  obtain ⟨read, hread, hunchanged⟩ := exists_perform_readClaim hanswers hmember
  have hbecome := hunchanged.hasBecome
  have htokens : read.host.tokens = world.host.tokens := hbecome.tokens
  have hstill : read.cloud.organization.state.find? account = some member := by
    rw [hbecome.state]
    exact hmember
  obtain ⟨written, hwritten, hnext⟩ :=
    exists_perform_writeClaim (hbecome.answers hanswers) hstill owner
  rw [htokens, hbecome.state] at hnext
  rw [htokens] at hwritten
  have hnow := hbecome.trans hnext
  have hfound := Organization.find?_tagged hmember owner (Host.Token.ofBits world.host.tokens)
  rw [← hnow.state] at hfound
  obtain ⟨back, hback, hsame⟩ := exists_perform_readTags (hnow.answers hanswers) hfound
  refine ⟨back, ?_, hnow.read hsame⟩
  rw [claim, perform_bind_ok hread, if_pos hfree, perform_bind_ok hwritten,
    perform_bind_ok (perform_settle settings written), perform_bind_ok hback, keepsClaim_written,
    perform_pure]
  rw [Dict.contains, Option.not_isSome]

/-- An account under the root is handed over. -/
theorem exists_perform_handOver (payer : Payer) (hanswers : world.OrganizationAnswers)
    (hmember : world.cloud.organization.state.find? account = some member)
    (hparent : member.parent = payer.root) (owner : String) :
    ∃ lent, world.perform (handOver payer account owner) = (.ok account, lent) ∧
      world.HasBecome (world.cloud.organization.state.change account fun member =>
        { member with parent := payer.claimed }) 0 lent := by
  obtain ⟨_, said, hsaid⟩ :=
    succeeds_log .debug ("Moving account " ++ account ++ " from " ++ payer.root
      ++ " to " ++ payer.claimed) world
  have hbecome := (hasOnlyRead_of_perform (uses_log _ _) hsaid).hasBecome
  have hstill : said.cloud.organization.state.find? account = some member := by
    rw [hbecome.state]
    exact hmember
  have hanswer :
      said.cloud.organization.state.answer (.move account payer.root payer.claimed) = _ :=
    Organization.answer_move hstill hparent
  obtain ⟨moved, hmoved, hnext⟩ := exists_perform_organization (hbecome.answers hanswers)
    (congrArg Prod.fst hanswer)
  rw [hanswer, hbecome.state] at hnext
  obtain ⟨_, told, htold⟩ :=
    succeeds_log .info ("Assigned account " ++ account ++ " to " ++ owner) moved
  have hmove : world.perform (moveAccount account payer.root payer.claimed) = (.ok (), moved) :=
    (perform_bind_ok hsaid _).trans hmoved
  refine ⟨told, ?_, (hbecome.trans hnext).read (hasOnlyRead_of_perform (uses_log _ _) htold)⟩
  rw [handOver, perform_bind_ok hmove, perform_bind_ok htold]
  rfl

end Lending

end AccountLending
