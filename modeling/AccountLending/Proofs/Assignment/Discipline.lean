import AccountLending.Proofs.Assignment.Failures
import AccountLending.Proofs.Assignment.Protocol

/-!
# The order of the calls of lending

What a party that lends an account asks the cloud for, and when, whatever is replied: the replies
may be those of an organization that others change between any two of its calls, or of none at all.

* `Permitted` — what may be asked, told by the calls before it and their replies;
* `Disciplined` — every call is permitted, and a move is the last one;
* `Steps` — the protocol of lending any account or a given one, which goes through a part of the
  listing;
* `Reached` — the invariant: what a stage of that protocol says about the calls so far;
* `lending_disciplined` — lending the first free account, or a given one, is disciplined.
-/

namespace AccountLending

/-! ## Calls in order -/

namespace Exchange

/-- The pool was listed. -/
def listing (payer : Payer) (accounts : List Account) : Exchange Call.Reply :=
  ⟨.cloud (.organization (.listAccounts payer.root)), .ok accounts⟩

/-- The tags of an account were read. -/
def look (account : String) (tags : Tags) : Exchange Call.Reply :=
  ⟨.cloud (.organization (.listTags account)), .ok tags⟩

/-- A claim was written to an account. -/
def write (account owner token : String) : Exchange Call.Reply :=
  ⟨.cloud (.organization (.tag account (Tags.ofClaim owner token))), .ok ()⟩

/-- An account was moved to the claimed unit. -/
def moved (payer : Payer) (account : String) : Exchange Call.Reply :=
  ⟨.cloud (.organization (.move account payer.root payer.claimed)), .ok ()⟩

/-- Whether it is the cloud that was called. -/
def isGateway (exchange : Exchange Call.Reply) : Bool :=
  match exchange.op with
  | .cloud _ => true
  | .host _ => false

/-- The account that was to be tagged. -/
def tagged? (exchange : Exchange Call.Reply) : Option String :=
  match exchange.op with
  | .cloud (.organization (.tag account _)) => some account
  | _ => none

/-- Whether an account was to be moved. -/
def isMove (exchange : Exchange Call.Reply) : Bool :=
  match exchange.op with
  | .cloud (.organization (.move ..)) => true
  | _ => false

end Exchange

namespace Lending

open Stage Exchange

variable {payer : Payer} {owner : String} {calls : List (Exchange Call.Reply)}

/-- The calls to the cloud among all calls. -/
def gateway (history : List (Exchange Call.Reply)) : List (Exchange Call.Reply) :=
  history.filter Exchange.isGateway

/-- The accounts that were to be tagged, in the order of the calls. -/
def tagged (calls : List (Exchange Call.Reply)) : List String := calls.filterMap Exchange.tagged?

/-- The numbers of the active accounts of a listing, in its order. -/
def activeIds (accounts : List Account) : List String :=
  (accounts.filter (·.isActive)).map (·.id)

/-- What a party may ask the cloud for after the calls that it has made. -/
inductive Permitted (payer : Payer) (owner : String) (before : List (Exchange Call.Reply)) :
    Call → Prop
  /-- The pool is listed before everything else, and so only once. -/
  | list (hfirst : before = []) :
      Permitted payer owner before (.cloud (.organization (.listAccounts payer.root)))
  /-- Only the tags of active accounts of the listing are read. -/
  | look {accounts : List Account} {account : String} (hlisted : listing payer accounts ∈ before)
      (hactive : account ∈ activeIds accounts) :
      Permitted payer owner before (.cloud (.organization (.listTags account)))
  /-- An account is tagged right after its tags were read and showed neither an owner nor a claim.
  It comes after all accounts tagged before in the listing, where it is active. -/
  | tag {accounts : List Account} {account token : String} {earlier : List (Exchange Call.Reply)}
      {seen : Tags} (hlisted : listing payer accounts ∈ before)
      (hordered : (tagged before ++ [account]).Sublist (activeIds accounts))
      (hlooked : before = earlier ++ [Exchange.look account seen])
      (hfree : seen.contains Tags.ownerKey = false ∧ seen.contains Tags.claimedKey = false) :
      Permitted payer owner before
        (.cloud (.organization (.tag account (Tags.ofClaim owner token))))
  /-- An account is moved right after its tags were read back and showed the party's owner and the
  token that it had just written. -/
  | move {account token : String} {earlier : List (Exchange Call.Reply)} {seen : Tags}
      (hlooked : before = earlier ++ [write account owner token, Exchange.look account seen])
      (hown : seen.owner? = some owner ∧ seen.get? Tags.tokenKey = some token) :
      Permitted payer owner before (.cloud (.organization (.move account payer.root payer.claimed)))

/-- The calls of a party to the cloud keep to the order of a verified claim. -/
structure Disciplined (payer : Payer) (owner : String) (calls : List (Exchange Call.Reply)) :
    Prop where
  permitted : ∀ before call after,
    calls = before ++ call :: after → Permitted payer owner before call.op
  /-- Nothing is asked after a move, so there is at most one. -/
  last : ∀ before call after, calls = before ++ call :: after → call.isMove = true → after = []

/-- A call among calls and one more is that one, or is among the others. -/
theorem eq_or_of_append_singleton {α : Type} {all before after : List α} {final call : α}
    (h : all ++ [final] = before ++ call :: after) :
    (before = all ∧ call = final ∧ after = []) ∨
      ∃ rest, after = rest ++ [final] ∧ all = before ++ call :: rest := by
  rw [List.append_cons before] at h
  rcases List.append_eq_append_iff.1 h with ⟨between, hbefore, hafter⟩ | ⟨rest, hall, hafter⟩
  · rcases List.singleton_eq_append_iff.1 hafter with ⟨rfl, rfl⟩ | ⟨rfl, rfl⟩
    · exact .inr ⟨[], rfl, by rw [hbefore, List.append_nil]⟩
    · obtain ⟨hall, hcall⟩ := List.append_inj' hbefore rfl
      exact .inl ⟨hall, List.singleton_inj.1 hcall, rfl⟩
  · exact .inr ⟨rest, hafter, by rw [hall, List.append_assoc, List.singleton_append]⟩

/-- A permitted call that comes after no move keeps the order. -/
theorem Disciplined.append (h : Disciplined payer owner calls) {call : Exchange Call.Reply}
    (hcall : Permitted payer owner calls call.op)
    (hunmoved : ∀ other ∈ calls, other.isMove = false) :
    Disciplined payer owner (calls ++ [call]) where
  permitted before other after hsplit := by
    rcases eq_or_of_append_singleton hsplit with ⟨rfl, rfl, -⟩ | ⟨rest, -, hcalls⟩
    · exact hcall
    · exact h.permitted before other rest hcalls
  last before other after hsplit hmove := by
    rcases eq_or_of_append_singleton hsplit with ⟨-, -, rfl⟩ | ⟨rest, -, rfl⟩
    · rfl
    · simp [hunmoved other (by simp)] at hmove

/-! ## The protocol -/

/-- What lending does when only a part of the listing is gone through. -/
inductive Steps (payer : Payer) (owner : String) : Stage → (call : Call) → call.Reply → Stage → Prop
  | move {stage stage' : Stage} {call : Call} {reply : call.Reply}
      (hmoves : Moves payer owner stage call reply stage') :
      Steps payer owner stage call reply stage'
  | picked {accounts chosen : List Account} (hchosen : chosen.Sublist accounts) :
      Steps payer owner .unlisted (.cloud (.organization (.listAccounts payer.root))) (.ok accounts)
        (.scanning chosen)

/-- An account is returned exactly by those that have won it. -/
def Returns : Except PoolError String → Stage → Prop
  | .ok account, stage => stage = .won account
  | .error _, stage => ∀ account, stage ≠ .won account

theorem returns_of_ends {result : Except PoolError String} {stage : Stage} (h : Ends result stage) :
    Returns result stage := by
  cases result with
  | ok account => exact h
  | error e =>
    intro account hwon
    cases e <;> simp [Ends, hwon] at h

variable (payer owner) in
/-- What follows the protocol of the whole listing follows that of a part of it. -/
theorem follows_steps {α : Type} {ends : Except PoolError α → Stage → Prop} {action : Action α}
    {stage : Stage} (h : action.Follows (Moves payer owner) ends stage) :
    action.Follows (Steps payer owner) ends stage :=
  Program.Follows.mono h (fun _ _ _ _ => .move) fun _ _ h => h

/-- The account that is asked for is looked for in the listing, and there is nothing else to try. -/
theorem assignAccount_follows (payer : Payer) (settings : AllocationSettings)
    (account owner : String) :
    (assignAccount payer settings account owner).Follows (Steps payer owner) Returns .unlisted := by
  unfold assignAccount
  split
  case isFalse => exact fun _ => by simp
  refine (Action.follows_bind ..).2
    ((Action.follows_bind ..).2 ((Action.follows_cloud ..).2 fun reply => ?_))
  cases reply with
  | error failure => exact ⟨_, .move (.failed .list), by simp [Action.Onward, Returns]⟩
  | ok accounts =>
    refine ⟨.scanning (accounts.find? (·.id = account)).toList, .picked ?sublist, ?_⟩
    case sublist =>
      cases hfound : accounts.find? (·.id = account) with
      | none => simp
      | some found => simpa using List.mem_of_find?_eq_some hfound
    cases accounts with
    | nil => exact fun _ => by simp
    | cons first rest =>
      refine (Action.follows_bind ..).2 (follows_steps payer owner (follows_log ?_))
      simp only [Action.onward_ok, Action.follows_pure]
      cases hfound : (first :: rest).find? (·.id = account) with
      | none => exact fun _ => by simp
      | some found =>
        obtain rfl : found.id = account := by simpa using List.find?_some hfound
        show Action.Follows _ _ (if found.isActive = true then _ else _) (Stage.scanning [found])
        split
        case isFalse => exact fun _ => by simp
        rename_i hactive
        have hfailed : ∀ failure, Returns (.error (.service failure)) .stopped := by simp [Returns]
        refine (Action.follows_bind ..).2 (follows_steps payer owner ?_)
        have hskipped : ∀ other ∈ ([] : List Account), other.isActive = false := by simp
        apply follows_readClaim (@Asks.look payer owner [] [] found hskipped hactive)
          (fun _ => @Moves.looked payer owner [] [] found _ hskipped hactive) hfailed
        intro tags
        cases hclaim : Claim.ofTags tags with
        | claimed other => exact fun _ => by simp [Claim.isFree]
        | halfTagged other => exact fun _ => by simp [Claim.isFree]
        | free =>
          refine (Action.follows_bind ..).2
            (follows_steps payer owner (follows_claim hfailed ?_ ?_))
          · exact follows_steps payer owner
              (Program.Follows.mono follows_handOver (fun _ _ _ _ h => h)
              fun _ _ => returns_of_ends)
          · exact fun _ => by simp

/-! ## The invariant -/

/-- The accounts that can still be tagged come after those that were, in the order of the
listing. -/
structure Ahead (payer : Payer) (calls : List (Exchange Call.Reply))
    (ids : List String) : Prop where
  unmoved : ∀ call ∈ calls, call.isMove = false
  listed :
    ∃ accounts, listing payer accounts ∈ calls ∧ (tagged calls ++ ids).Sublist (activeIds accounts)

/-- What each stage says about the calls so far. -/
def Reached (payer : Payer) (owner : String) (calls : List (Exchange Call.Reply)) : Stage → Prop
  | .unlisted => calls = []
  | .scanning rest => Ahead payer calls (activeIds rest)
  | .rechecking account rest => Ahead payer calls (account.id :: activeIds rest)
  | .naming account rest | .tagging account _ rest =>
    Ahead payer calls (account.id :: activeIds rest) ∧
      ∃ earlier seen, calls = earlier ++ [look account.id seen] ∧
        seen.contains Tags.ownerKey = false ∧ seen.contains Tags.claimedKey = false
  | .verifying account token rest =>
    Ahead payer calls (activeIds rest) ∧ ∃ earlier,
      calls = earlier ++ [write account.id owner token]
  | .moving account =>
    (∀ call ∈ calls, call.isMove = false) ∧
      ∃ earlier token seen,
        calls = earlier ++ [write account.id owner token, look account.id seen] ∧
        seen.owner? = some owner ∧ seen.get? Tags.tokenKey = some token
  | .won account => ∃ earlier, calls = earlier ++ [moved payer account]
  | .stopped => ∀ account, moved payer account ∉ calls

theorem not_contains_of_isFree {tags : Tags} (h : (Claim.ofTags tags).isFree = true) :
    tags.contains Tags.ownerKey = false ∧ tags.contains Tags.claimedKey = false := by
  simpa [Dict.contains, Tags.owner?] using (Claim.isFree_ofTags_iff tags).1 h

theorem gateway_append_cloud (history : List (Exchange Call.Reply)) (request : Cloud.Request)
    (reply : Except ServiceError request.Answer) :
    gateway (history ++ [⟨.cloud request, reply⟩]) = gateway history ++
      [⟨.cloud request, reply⟩] := by
  simp [gateway, Exchange.isGateway]

theorem gateway_append_host (history : List (Exchange Call.Reply)) (request : Host.Request)
    (reply : request.Answer) : gateway (history ++ [⟨.host request, reply⟩]) = gateway history := by
  simp [gateway, Exchange.isGateway]

theorem activeIds_skip {skipped rest : List Account} {account : Account}
    (hskipped : ∀ other ∈ skipped, other.isActive = false) (hactive : account.isActive = true) :
    activeIds (skipped ++ account :: rest) = account.id :: activeIds rest := by
  have hnone : skipped.filter (·.isActive) = [] := by simpa using hskipped
  simp [activeIds, hnone, hactive]

/-- What was listed is ahead after the listing, and every part of it. -/
theorem ahead_of_listing {accounts chosen : List Account} (hchosen : chosen.Sublist accounts) :
    Ahead payer [listing payer accounts] (activeIds chosen) where
  unmoved := by simp [listing, Exchange.isMove]
  listed := ⟨accounts, by simp, (hchosen.filter _).map _⟩

theorem not_moved_of_unmoved (h : ∀ call ∈ calls, call.isMove = false) (account : String) :
    moved payer account ∉ calls := by
  intro hmem
  simpa [moved, Exchange.isMove] using h _ hmem

namespace Ahead

variable {ids : List String}

/-- An account that can still be tagged is an active one of the listing. -/
theorem look {account : String} (h : Ahead payer calls (account :: ids)) :
    Permitted payer owner calls (.cloud (.organization (.listTags account))) := by
  obtain ⟨accounts, hlisted, hordered⟩ := h.listed
  exact .look hlisted (hordered.subset (by simp))

/-- An account that was tagged is an active one of the listing. -/
theorem readBack {account : String} (h : Ahead payer calls ids) (htagged : account ∈ tagged calls) :
    Permitted payer owner calls (.cloud (.organization (.listTags account))) := by
  obtain ⟨accounts, hlisted, hordered⟩ := h.listed
  exact .look hlisted (hordered.subset (List.mem_append_left _ htagged))

/-- Fewer accounts can be tagged. -/
theorem sublist {fewer : List String} (h : Ahead payer calls ids) (hfewer : fewer.Sublist ids) :
    Ahead payer calls fewer := by
  obtain ⟨accounts, hlisted, hordered⟩ := h.listed
  exact ⟨h.unmoved, accounts, hlisted, ((List.Sublist.refl _).append hfewer).trans hordered⟩

/-- A call that neither tags nor moves leaves all accounts ahead. -/
theorem append {call : Exchange Call.Reply} (h : Ahead payer calls ids)
    (htagged : call.tagged? = none) (hmove : call.isMove = false) :
    Ahead payer (calls ++ [call]) ids := by
  obtain ⟨accounts, hlisted, hordered⟩ := h.listed
  refine ⟨?_, accounts, List.mem_append_left _ hlisted, ?_⟩
  · simpa [or_imp, forall_and] using ⟨h.unmoved, hmove⟩
  · simpa [tagged, htagged] using hordered

/-- Tagging the first account that is ahead leaves the others ahead. -/
theorem tag {account token : String} (h : Ahead payer calls (account :: ids)) :
    Ahead payer (calls ++ [write account owner token]) ids := by
  obtain ⟨accounts, hlisted, hordered⟩ := h.listed
  refine ⟨?_, accounts, List.mem_append_left _ hlisted, ?_⟩
  · simpa [or_imp, forall_and, write, Exchange.isMove] using h.unmoved
  · simpa [tagged, write, Exchange.tagged?] using hordered

end Ahead

namespace Reached

/-- What is asked at a stage is permitted there, and nothing was moved yet. -/
theorem permitted {stage : Stage} {request : Organization.Request}
    (h : Reached payer owner calls stage) (hasks : Asks payer owner stage request) :
    Permitted payer owner calls (.cloud (.organization request)) ∧ ∀ call ∈ calls,
      call.isMove = false := by
  cases hasks with
  | list =>
    obtain rfl : calls = [] := h
    exact ⟨.list rfl, by simp⟩
  | look hskipped hactive =>
    have hahead : Ahead payer calls (activeIds _) := h
    rw [activeIds_skip hskipped hactive] at hahead
    exact ⟨hahead.look, hahead.unmoved⟩
  | recheck => exact ⟨Ahead.look h, Ahead.unmoved h⟩
  | tag =>
    obtain ⟨hahead, earlier, seen, hlooked, hfree⟩ := h
    obtain ⟨accounts, hlisted, hordered⟩ := hahead.listed
    refine ⟨.tag hlisted (List.Sublist.trans ?_ hordered) hlooked hfree, hahead.unmoved⟩
    exact (List.Sublist.refl _).append (by simp)
  | verify =>
    obtain ⟨hahead, earlier, hwritten⟩ := h
    exact ⟨hahead.readBack (by simp [hwritten, tagged, write, Exchange.tagged?]), hahead.unmoved⟩
  | move =>
    obtain ⟨hunmoved, earlier, token, seen, hlooked, hown⟩ := h
    exact ⟨.move hlooked hown, hunmoved⟩

/-- What is asked by a step is permitted. -/
theorem permitted_step {stage stage' : Stage} {request : Cloud.Request}
    {reply : Except ServiceError request.Answer} (h : Reached payer owner calls stage)
    (hsteps : Steps payer owner stage (.cloud request) reply stage') :
    Permitted payer owner calls (.cloud request) ∧ ∀ call ∈ calls, call.isMove = false := by
  cases hsteps with
  | picked => exact h.permitted .list
  | move hmoves =>
    cases hmoves with
    | failed hasks => exact h.permitted hasks
    | listed => exact h.permitted .list
    | looked hskipped hactive => exact h.permitted (.look hskipped hactive)
    | rechecked => exact h.permitted .recheck
    | tagged => exact h.permitted .tag
    | verified => exact h.permitted .verify
    | moved => exact h.permitted .move

/-- A call to the cloud leads to a stage that says what is true of the calls then. -/
theorem step {stage stage' : Stage} {request : Cloud.Request}
    {reply : Except ServiceError request.Answer} (h : Reached payer owner calls stage)
    (hsteps : Steps payer owner stage (.cloud request) reply stage') :
    Reached payer owner (calls ++ [⟨.cloud request, reply⟩]) stage' := by
  cases hsteps with
  | @picked accounts chosen hchosen =>
    obtain rfl : calls = [] := h
    exact ahead_of_listing hchosen
  | move hmoves =>
  cases hmoves with
  | failed hasks =>
    -- a move that failed is none, and there was none before
    intro account hmem
    rcases List.mem_append.1 hmem with hmem | hmem
    · exact not_moved_of_unmoved (h.permitted hasks).2 account hmem
    · obtain ⟨rfl, hreply⟩ : _ ∧ HEq (Except.ok ()) (Except.error _) := by simpa [moved] using hmem
      simp at hreply
  | @listed accounts =>
    obtain rfl : calls = [] := h
    cases accounts with
    | nil => exact fun _ => by simp [moved]
    | cons account rest => exact ahead_of_listing (.refl _)
  | @looked skipped rest account tags hskipped hactive =>
    have hahead : Ahead payer calls (activeIds _) := h
    rw [activeIds_skip hskipped hactive] at hahead
    have hnow : Ahead payer (calls ++ [Exchange.look account.id tags]) _ := hahead.append rfl rfl
    cases (Claim.ofTags tags).isFree with
    | false => exact hnow.sublist (List.sublist_cons_self ..)
    | true => exact hnow
  | @rechecked account rest tags =>
    have hnow : Ahead payer (calls ++ [Exchange.look account.id tags]) _ := Ahead.append h rfl rfl
    cases hfree : (Claim.ofTags tags).isFree with
    | false => exact hnow.sublist (List.sublist_cons_self ..)
    | true => exact ⟨hnow, calls, tags, rfl, not_contains_of_isFree hfree⟩
  | tagged => exact ⟨h.1.tag, calls, rfl⟩
  | @verified account token rest tags =>
    obtain ⟨hahead, earlier, hwritten⟩ := h
    have hnow : Ahead payer (calls ++ [Exchange.look account.id tags]) _ := hahead.append rfl rfl
    cases hkeeps : keepsClaim tags owner token with
    | false => exact hnow
    | true =>
      refine ⟨hnow.unmoved, earlier, token, tags, by simp [hwritten, Exchange.look], ?_⟩
      simpa [keepsClaim, and_comm] using hkeeps
  | moved => exact ⟨calls, rfl⟩

/-- A call to the host changes nothing of that. -/
theorem host {stage stage' : Stage} {request : Host.Request} {reply : request.Answer}
    (h : Reached payer owner calls stage)
    (hsteps : Steps payer owner stage (.host request) reply stage') :
    Reached payer owner calls stage' := by
  cases hsteps with
  | move hmoves =>
    cases hmoves with
    | host => exact h
    | named => exact h

/-- Only those that have won an account have moved one. -/
theorem eq_won {stage : Stage} {account : String} (h : Reached payer owner calls stage)
    (hmoved : moved payer account ∈ calls) : ∃ other, stage = .won other := by
  have hunmoved : ¬ ∀ call ∈ calls, call.isMove = false := fun hcalls =>
    not_moved_of_unmoved hcalls account hmoved
  cases stage with
  | unlisted =>
    obtain rfl : calls = [] := h
    simp at hmoved
  | scanning rest => exact absurd (Ahead.unmoved h) hunmoved
  | rechecking account rest => exact absurd (Ahead.unmoved h) hunmoved
  | naming account rest => exact absurd h.1.unmoved hunmoved
  | tagging account token rest => exact absurd h.1.unmoved hunmoved
  | verifying account token rest => exact absurd h.1.unmoved hunmoved
  | moving account => exact absurd h.1 hunmoved
  | won other => exact ⟨other, rfl⟩
  | stopped => exact absurd hmoved (h account)

/-- An account is returned exactly when the last call has moved it. -/
theorem returned {stage : Stage} {result : Except PoolError String}
    (h : Reached payer owner calls stage) (hreturns : Returns result stage) (account : String) :
    result = .ok account ↔ ∃ earlier, calls = earlier ++ [moved payer account] := by
  constructor
  · rintro rfl
    obtain rfl : stage = .won account := hreturns
    exact h
  · rintro ⟨earlier, hcalls⟩
    have hmem : moved payer account ∈ calls := by simp [hcalls]
    obtain ⟨other, rfl⟩ := h.eq_won hmem
    cases result with
    | error e => exact absurd rfl (hreturns other)
    | ok returned =>
      obtain rfl := Stage.won.inj hreturns
      obtain ⟨earlier', hcalls'⟩ := h
      rw [hcalls] at hcalls'
      obtain ⟨-, hlast⟩ := List.append_inj' hcalls' rfl
      simpa [moved, eq_comm] using hlast

end Reached

/-! ## Whole runs -/

/-- A run of an action lends as it should: its calls to the cloud are disciplined, and it returns an
account exactly when the last of them has moved that account. -/
structure LendsInOrder {σ : Type} (handle : (call : Call) → σ → call.Reply × σ) (s : σ)
    (payer : Payer) (owner : String) (action : Action String) : Prop where
  disciplined : Disciplined payer owner (gateway (action.run.exchanges handle s))
  returned : ∀ id, (action.run.run handle s).1 = .ok id ↔
    ∃ earlier, gateway (action.run.exchanges handle s) = earlier ++ [moved payer id]

/-- Whatever follows the protocol of lending lends as it should, in any surroundings. -/
theorem lendsInOrder_of_follows {action : Action String}
    (h : action.Follows (Steps payer owner) Returns .unlisted) {σ : Type}
    (handle : (call : Call) → σ → call.Reply × σ) (s : σ) :
    LendsInOrder handle s payer owner action := by
  have hkeeps : ∀ history stage call reply stage',
      Disciplined payer owner (gateway history) ∧ Reached payer owner (gateway history) stage →
      Steps payer owner stage call reply stage' →
      Disciplined payer owner (gateway (history ++ [⟨call, reply⟩])) ∧
        Reached payer owner (gateway (history ++ [⟨call, reply⟩])) stage' := by
    rintro history stage (request | request) reply stage' ⟨hdisciplined, hreached⟩ hsteps
    · rw [gateway_append_cloud]
      obtain ⟨hpermitted, hunmoved⟩ := hreached.permitted_step hsteps
      exact ⟨hdisciplined.append hpermitted hunmoved, hreached.step hsteps⟩
    · rw [gateway_append_host]
      exact ⟨hdisciplined, hreached.host hsteps⟩
  have hstart : Disciplined payer owner (gateway []) ∧ Reached payer owner (gateway []) .unlisted :=
    ⟨⟨by simp [gateway], by simp [gateway]⟩, rfl⟩
  obtain ⟨stage, ⟨hdisciplined, hreached⟩, hreturns⟩ := h.exchanges hkeeps handle s hstart
  exact ⟨hdisciplined, hreached.returned hreturns⟩

/-- Lending the first free account of a pool, or a given one, calls the cloud in the order of a
verified claim, and returns an account exactly when its last call has moved that account from the
root of the pool to the claimed unit.  This is so whatever surroundings the calls are made in:
`handle` may fail any call, and change anything between two of them.  Lending the first free account
never fails for a lost claim. -/
theorem lending_disciplined {σ : Type} (handle : (call : Call) → σ → call.Reply × σ) (s : σ)
    (payer : Payer) (settings : AllocationSettings) (owner : String) :
    LendsInOrder handle s payer owner (assign payer settings owner) ∧
      (∀ account, ((assign payer settings owner).run.run handle s).1 ≠
        .error (.claimConflict account)) ∧
      ∀ account,
        LendsInOrder handle s payer owner (assignAccount payer settings account owner) := by
  refine ⟨?_, fun account hconflict => ?_, fun account => ?_⟩
  · exact lendsInOrder_of_follows ((assign_follows payer settings owner).mono (fun _ _ _ _ => .move)
      fun _ _ => returns_of_ends) handle s
  · cases (failsWith_assign payer settings owner).run handle s hconflict
  · exact lendsInOrder_of_follows (assignAccount_follows payer settings account owner) handle s

end Lending

end AccountLending
