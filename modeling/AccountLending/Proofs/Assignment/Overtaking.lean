import AccountLending.Proofs.Assignment.Exclusive

/-!
# Whose name a lent account has

Parties lend accounts of one pool at the same time, with nobody else at work.  The tags of an
account are those of the party that wrote last.  A party reads its claim back before it moves the
account, but another one that found the account free earlier can still write after that: it
overtakes the party, which moves the account all the same and returns it, while the tags name the
other one.

* `Overtook` — the four calls by which a party is overtaken, in their order;
* `Recorded` — the invariant: the last writer is in the tags, and it overtook everybody who has read
  back;
* `Stage.IsBorneOut.keep` — what the invariant says of a party stays true while another one moves;
* `assign_recorded` — the owner tag of a returned account names the party unless it was overtaken;
* `race_overtaken` — a race in which that happens.
-/

namespace AccountLending.Lending

open Stage

variable {ι : Type} {payer : Payer} {owner : ι → String}
variable {trace : List (Event ι Call.Reply)} {cloud after : Cloud} {stages : ι → Stage}

/-! ## Orders of calls -/

/-- A party reads the tags of an account. -/
def looked (i : ι) (account : String) (tags : Tags) : Event ι Call.Reply :=
  ⟨i, .cloud (.organization (.listTags account)), .ok tags⟩

/-- A party writes a claim to an account. -/
def claimed (i : ι) (account owner token : String) : Event ι Call.Reply :=
  ⟨i, .cloud (.organization (.tag account (Tags.ofClaim owner token))), .ok ()⟩

theorem tagged_of_claimed {i : ι} {account owner token : String}
    (h : claimed i account owner token ∈ trace) : Tagged trace i account := ⟨_, h⟩

/-- A party was the last one to tag an account. -/
def TaggedLast (trace : List (Event ι Call.Reply)) (i : ι) (account : String) : Prop :=
  ∃ before tags rest,
    trace = before ++ ⟨i, .cloud (.organization (.tag account tags)), .ok ()⟩ :: rest ∧
    ∀ j, ¬ Tagged rest j account

/-- A party found an account free before anybody tagged it. -/
def FoundFree (trace : List (Event ι Call.Reply)) (i : ι) (account : String) : Prop :=
  ∃ before tags rest, trace = before ++ looked i account tags :: rest ∧
    (Claim.ofTags tags).isFree = true ∧ ∀ j, ¬ Tagged before j account

/-- A party tagged an account, and later found its own claim on it. -/
def ReadBack (owner : ι → String) (trace : List (Event ι Call.Reply)) (i : ι)
    (account : String) : Prop :=
  ∃ before token rest tags, trace = before ++ claimed i account (owner i) token :: rest ∧
    looked i account tags ∈ rest ∧ keepsClaim tags (owner i) token = true

/-- A party `j` overtook a party `i`: after `j` had found the account free, `i` tagged it and found
its own claim on it, and only then did `j` tag it as well. -/
def Overtook (owner : ι → String) (trace : List (Event ι Call.Reply)) (j i : ι)
    (account : String) : Prop :=
  ∃ free token own other,
    [looked j account free, claimed i account (owner i) token, looked i account own,
      claimed j account (owner j) other].Sublist trace ∧
    (Claim.ofTags free).isFree = true ∧ keepsClaim own (owner i) token = true

/-! ### More calls -/

theorem tagged_append {later : List (Event ι Call.Reply)} {i : ι} {account : String}
    (h : Tagged (trace ++ later) i account) : Tagged trace i account ∨ Tagged later i account := by
  obtain ⟨tags, hmem⟩ := h
  exact (List.mem_append.1 hmem).imp (fun hmem => ⟨tags, hmem⟩) fun hmem => ⟨tags, hmem⟩

/-- A request that failed has tagged nothing. -/
theorem not_tagged_failed {i j : ι} {request : Organization.Request} {failure : ServiceError}
    {account : String} :
    ¬ Tagged [(⟨i, .cloud (.organization request), .error failure⟩ : Event ι Call.Reply)] j
      account := by
  rintro ⟨tags, hmem⟩
  cases request <;> simp at hmem

theorem FoundFree.append {i : ι} {account : String} (h : FoundFree trace i account)
    (later : List (Event ι Call.Reply)) : FoundFree (trace ++ later) i account := by
  obtain ⟨before, tags, rest, rfl, hfree, hnone⟩ := h
  exact ⟨before, tags, rest ++ later, by simp, hfree, hnone⟩

theorem ReadBack.append {i : ι} {account : String} (h : ReadBack owner trace i account)
    (later : List (Event ι Call.Reply)) : ReadBack owner (trace ++ later) i account := by
  obtain ⟨before, token, rest, tags, rfl, hread, hkeeps⟩ := h
  exact ⟨before, token, rest ++ later, tags, by simp, List.mem_append_left _ hread, hkeeps⟩

theorem Overtook.append {i j : ι} {account : String} (h : Overtook owner trace j i account)
    (later : List (Event ι Call.Reply)) : Overtook owner (trace ++ later) j i account := by
  obtain ⟨free, token, own, other, hcalls, hfree, hkeeps⟩ := h
  exact ⟨free, token, own, other, hcalls.trans (List.sublist_append_left _ _), hfree, hkeeps⟩

theorem TaggedLast.append {i : ι} {account : String} (h : TaggedLast trace i account)
    {later : List (Event ι Call.Reply)} (hlater : ∀ j, ¬ Tagged later j account) :
    TaggedLast (trace ++ later) i account := by
  obtain ⟨before, tags, rest, rfl, hnone⟩ := h
  exact ⟨before, tags, rest ++ later, by simp,
    fun j hj => (tagged_append hj).elim (hnone j) (hlater j)⟩

theorem taggedLast_claimed (trace : List (Event ι Call.Reply)) (i : ι)
    (account owner token : String) :
    TaggedLast (trace ++ [claimed i account owner token]) i account :=
  ⟨trace, _, [], rfl, fun _ hj => by simp [Tagged] at hj⟩

/-- A party that found an account free before anybody tagged it did so before every claim on it. -/
theorem sublist_of_foundFree {i j : ι} {account : String} (hfound : FoundFree trace j account)
    (hread : ReadBack owner trace i account) :
    ∃ free token own,
      [looked j account free, claimed i account (owner i) token,
        looked i account own].Sublist trace ∧
      (Claim.ofTags free).isFree = true ∧ keepsClaim own (owner i) token = true := by
  obtain ⟨first, free, rest, htrace, hfree, hnone⟩ := hfound
  obtain ⟨before, token, rest', own, rfl, hown, hkeeps⟩ := hread
  refine ⟨free, token, own, ?_, hfree, hkeeps⟩
  -- the claim is not among the calls before the look, so the look is among those before the claim
  have hlook : looked j account free ∈ before := by
    rcases List.append_eq_append_iff.1 htrace with ⟨between, rfl, hrest⟩ | ⟨between, rfl, hrest⟩
    · cases between with
      | nil => simp [looked, claimed] at hrest
      | cons event between =>
        obtain rfl := (List.cons.inj hrest).1
        exact absurd (tagged_of_claimed (List.mem_append_right _ List.mem_cons_self)) (hnone i)
    · cases between with
      | nil => simp [looked, claimed] at hrest
      | cons event between =>
        rw [(List.cons.inj hrest).1]
        simp
  exact (List.singleton_sublist.2 hlook).append (.cons_cons _ (List.singleton_sublist.2 hown))

/-- Whoever tags an account that it found free overtakes all that have read their claims back. -/
theorem overtook_of_claimed {i j : ι} {account token : String} (hfound : FoundFree trace j account)
    (hread : ReadBack owner trace i account) :
    Overtook owner (trace ++ [claimed j account (owner j) token]) j i account := by
  obtain ⟨free, own, tags, hcalls, hfree, hkeeps⟩ := sublist_of_foundFree hfound hread
  exact ⟨free, own, tags, token, hcalls.append (.refl _), hfree, hkeeps⟩

/-! ## The invariant -/

namespace Stage

/-- The account that the party has found free twice and not tagged yet. -/
def next? : Stage → Option Account
  | .naming account _ | .tagging account _ _ => some account
  | _ => none

/-- The account on which the party has found its own claim. -/
def kept? : Stage → Option String
  | .moving account => some account.id
  | .won account => some account
  | _ => none

end Stage

/-- The owner tag of an account is the last writer's, which is the party itself or has overtaken
it. -/
def IsRecorded (owner : ι → String) (trace : List (Event ι Call.Reply)) (tags : Tags) (i : ι)
    (account : String) : Prop :=
  ∃ j, TaggedLast trace j account ∧ tags.owner? = some (owner j) ∧
    (j = i ∨ j ≠ i ∧ Overtook owner trace j i account)

/-- The calls so far bear out the stage of a party. -/
structure Stage.IsBorneOut (owner : ι → String) (trace : List (Event ι Call.Reply))
    (organization : Organization) (i : ι) (stage : Stage) : Prop where
  found : ∀ account, stage.next? = some account → FoundFree trace i account.id
  written : ∀ account token rest, stage = .verifying account token rest →
    claimed i account.id (owner i) token ∈ trace
  kept : ∀ account, stage.kept? = some account → ReadBack owner trace i account ∧
    IsRecorded owner trace (organization.tags account) i account

/-- The invariant of parties that lend accounts of a pool while nobody else is at work. -/
structure Recorded (owner : ι → String) (trace : List (Event ι Call.Reply)) (cloud : Cloud)
    (stages : ι → Stage) : Prop where
  undisturbed : cloud.IsUndisturbed
  /-- Tags name who wrote them last. -/
  last : ∀ i account, Tagged trace i account → ∃ j, TaggedLast trace j account ∧
    (cloud.organization.state.tags account).owner? = some (owner j)
  borneOut : ∀ i, (stages i).IsBorneOut owner trace cloud.organization.state i

/-- A party that does not move has its stage borne out as before, when the account on which it found
its claim stays on record. -/
theorem Stage.IsBorneOut.keep {i : ι} {stage : Stage} {event : Event ι Call.Reply}
    {old new : Organization} (h : stage.IsBorneOut owner trace old i)
    (hrecorded : ∀ account, ReadBack owner trace i account →
      IsRecorded owner trace (old.tags account) i account →
        IsRecorded owner (trace ++ [event]) (new.tags account) i account) :
    stage.IsBorneOut owner (trace ++ [event]) new i where
  found account hnext := (h.found account hnext).append _
  written account token rest hverifying :=
    List.mem_append_left _ (h.written account token rest hverifying)
  kept account hkept :=
    have hold := h.kept account hkept
    ⟨hold.1.append _, hrecorded account hold.1 hold.2⟩

theorem IsRecorded.append {tags : Tags} {i : ι} {account : String}
    (h : IsRecorded owner trace tags i account) {later : List (Event ι Call.Reply)}
    (hlater : ∀ j, ¬ Tagged later j account) :
    IsRecorded owner (trace ++ later) tags i account := by
  obtain ⟨j, hlast, howner, hover⟩ := h
  exact ⟨j, hlast.append hlater, howner, hover.imp_right fun hj => ⟨hj.1, hj.2.append _⟩⟩

namespace Recorded

theorem initial (h : cloud.IsUndisturbed) : Recorded owner [] cloud (fun _ => .unlisted) where
  undisturbed := h
  last _ _ htagged := by simp [Tagged] at htagged
  borneOut _ :=
    { found := fun _ hnext => by simp [next?] at hnext
      written := fun _ _ _ hverifying => by simp at hverifying
      kept := fun _ hkept => by simp [kept?] at hkept }

/-- An account that was found free has not been tagged before. -/
theorem foundFree (h : Recorded owner trace cloud stages) {i : ι} {account : String} {tags : Tags}
    (htags : cloud.organization.state.tags account = tags)
    (hfree : (Claim.ofTags tags).isFree = true) :
    FoundFree (trace ++ [looked i account tags]) i account := by
  refine ⟨trace, tags, [], rfl, hfree, fun j hj => ?_⟩
  obtain ⟨k, -, howner⟩ := h.last j account hj
  rw [htags, ((Claim.isFree_ofTags_iff tags).1 hfree).1] at howner
  simp at howner

/-- A party finds its own claim on an account.  No other party has the same name, so it was the last
one to write. -/
theorem verified (h : Recorded owner trace cloud stages) (howner : Function.Injective owner) {i : ι}
    {account : Account} {token : String} {rest : List Account} {tags : Tags}
    (hi : stages i = .verifying account token rest)
    (htags : cloud.organization.state.tags account.id = tags)
    (hkeeps : keepsClaim tags (owner i) token = true) :
    ReadBack owner (trace ++ [looked i account.id tags]) i account.id ∧
      IsRecorded owner trace tags i account.id := by
  have hclaimed := (h.borneOut i).written account token rest hi
  constructor
  · obtain ⟨before, later, rfl⟩ := List.append_of_mem hclaimed
    exact ⟨before, token, later ++ [looked i account.id tags], tags, by simp, by simp, hkeeps⟩
  · obtain ⟨j, hlast, hj⟩ := h.last i account.id (tagged_of_claimed hclaimed)
    rw [htags] at hj
    have hi : tags.owner? = some (owner i) := by
      simp only [keepsClaim, Bool.and_eq_true, decide_eq_true_eq] at hkeeps
      exact hkeeps.2
    exact ⟨j, hlast, hj, .inl (howner (Option.some.inj (hj.symm.trans hi)))⟩

variable [DecidableEq ι]

/-- A party goes on to another stage by a call that leaves all tags as they are. -/
theorem quiet (h : Recorded owner trace cloud stages) {i : ι} {call : Call} {reply : call.Reply}
    {stage : Stage}
    (hnone : ∀ j account, ¬ Tagged [(⟨i, call, reply⟩ : Event ι Call.Reply)] j account)
    (hundisturbed : after.IsUndisturbed)
    (htags : ∀ account,
      after.organization.state.tags account = cloud.organization.state.tags account)
    (hfound : ∀ account, stage.next? = some account →
      FoundFree (trace ++ [⟨i, call, reply⟩]) i account.id)
    (hwritten : ∀ account token rest, stage = .verifying account token rest →
      claimed i account.id (owner i) token ∈ trace)
    (hkept : ∀ account, stage.kept? = some account →
      ReadBack owner (trace ++ [⟨i, call, reply⟩]) i account ∧
      IsRecorded owner trace (cloud.organization.state.tags account) i account) :
    Recorded owner (trace ++ [⟨i, call, reply⟩]) after (Function.update stages i stage) := by
  refine ⟨hundisturbed, fun j account hj => ?last,
    (Function.forall_update_iff stages fun j other => other.IsBorneOut owner _ _ j).2
      ⟨?_, fun j hne => ?_⟩⟩
  case last =>
    obtain ⟨k, hlast, howner⟩ :=
      h.last j account ((tagged_append hj).resolve_right (hnone j account))
    exact ⟨k, hlast.append fun l => hnone l account, by rwa [htags]⟩
  · refine ⟨hfound, fun account token rest hstage => ?_, fun account hstage => ?_⟩
    · exact List.mem_append_left _ (hwritten account token rest hstage)
    · obtain ⟨hread, hrecorded⟩ := hkept account hstage
      rw [htags]
      exact ⟨hread, hrecorded.append fun l => hnone l account⟩
  · refine (h.borneOut j).keep fun account _ hrecorded => ?_
    rw [htags]
    exact hrecorded.append fun l => hnone l account

/-- A party tags the account that it found free: it is the last writer now, and overtakes all those
that have read their claims back. -/
theorem tag (h : Recorded owner trace cloud stages) {i : ι} {account : Account}
    {token : String} {rest : List Account} (hi : stages i = .tagging account token rest)
    (hanswers : Cloud.Answers
      (.cloud (.organization (.tag account.id (Tags.ofClaim (owner i) token)))) cloud
      (.ok ()) after) :
    Recorded owner (trace ++ [claimed i account.id (owner i) token]) after
      (Function.update stages i (.verifying account token rest)) := by
  obtain ⟨hundisturbed, htags, -, hfind⟩ := Cloud.IsUndisturbed.tag h.undisturbed hanswers
  have hothers : ∀ other, other ≠ account.id → after.organization.state.tags other =
      cloud.organization.state.tags other :=
    fun other hne => Organization.tags_congr (hfind other hne)
  have hnone : ∀ other, other ≠ account.id →
      ∀ j, ¬ Tagged [claimed i account.id (owner i) token] j other := by
    intro other hne j hj
    have hbefore : Tagged ([] : List (Event ι Call.Reply)) j other := tagged_of_ne hne hj
    simp [Tagged] at hbefore
  have hown : (after.organization.state.tags account.id).owner? = some (owner i) := by
    rw [htags, Tags.owner?_written]
  have hlast := taggedLast_claimed trace i account.id (owner i) token
  refine ⟨hundisturbed, fun j other hj => ?last,
    (Function.forall_update_iff stages fun j other => other.IsBorneOut owner _ _ j).2
      ⟨?_, fun j hne => ?_⟩⟩
  case last =>
    by_cases heq : other = account.id
    · rw [heq]
      exact ⟨i, hlast, hown⟩
    · obtain ⟨k, hbefore, hk⟩ := h.last j other (tagged_of_ne heq hj)
      exact ⟨k, hbefore.append (hnone other heq), by rwa [hothers other heq]⟩
  · refine ⟨by simp [next?], ?_, by simp [kept?]⟩
    rintro _ _ _ ⟨⟩
    simp
  · refine (h.borneOut j).keep fun other hread hrecorded => ?_
    by_cases heq : other = account.id
    · subst heq
      have hfound := (h.borneOut i).found account (by rw [hi]; rfl)
      exact ⟨i, hlast, hown, .inr ⟨hne.symm, overtook_of_claimed hfound hread⟩⟩
    · rw [hothers other heq]
      exact hrecorded.append (hnone other heq)

/-- The same for a stage at which nothing is known of any account. -/
theorem read (h : Recorded owner trace cloud stages) {i : ι} {call : Call} {reply : call.Reply}
    {stage : Stage}
    (hnone : ∀ j account, ¬ Tagged [(⟨i, call, reply⟩ : Event ι Call.Reply)] j account)
    (hundisturbed : after.IsUndisturbed)
    (hstate : after.organization.state = cloud.organization.state)
    (hnext : stage.next? = none) (hkept : stage.kept? = none)
    (hverifying : ∀ account token rest, stage ≠ .verifying account token rest) :
    Recorded owner (trace ++ [⟨i, call, reply⟩]) after (Function.update stages i stage) :=
  h.quiet hnone hundisturbed (fun _ => by rw [hstate]) (by simp [hnext])
    (fun account token rest hstage => absurd hstage (hverifying account token rest))
    (by simp [hkept])

/-- Every move of every party keeps the invariant. -/
theorem step (h : Recorded owner trace cloud stages) (howner : Function.Injective owner)
    {i : ι} {call : Call} {reply : call.Reply} {stage : Stage}
    (hanswers : Cloud.Answers call cloud reply after)
    (hmoves : Moves payer (owner i) (stages i) call reply stage) :
    Recorded owner (trace ++ [⟨i, call, reply⟩]) after (Function.update stages i stage) := by
  generalize hi : stages i = before at hmoves
  cases hmoves with
  | host =>
    obtain rfl : after = cloud := hanswers
    rw [← hi]
    exact h.quiet (by simp [Tagged]) h.undisturbed (fun _ => rfl)
      (fun account hnext => ((h.borneOut i).found account hnext).append _) (h.borneOut i).written
      fun account hkept => ((h.borneOut i).kept account hkept).imp_left fun hread => hread.append _
  | named =>
    obtain rfl : after = cloud := hanswers
    refine h.quiet (by simp [Tagged]) h.undisturbed (fun _ => rfl)
      (fun account hnext => ?_) (by simp)
      (by simp [kept?])
    exact ((h.borneOut i).found account (by rw [hi]; exact hnext)).append _
  | failed hasks =>
    obtain ⟨hundisturbed, hstate⟩ := h.undisturbed.failed hanswers
    exact h.read (fun _ _ => not_tagged_failed) hundisturbed hstate rfl rfl (by simp)
  | @listed accounts =>
    obtain ⟨hundisturbed, hstate, -⟩ := Cloud.IsUndisturbed.listAccounts h.undisturbed hanswers
    cases accounts <;> exact h.read (by simp [Tagged]) hundisturbed hstate rfl rfl (by simp)
  | @looked _ rest account tags =>
    obtain ⟨hundisturbed, hstate, -⟩ := h.undisturbed.listTags hanswers
    cases (Claim.ofTags tags).isFree <;>
      exact h.read (by simp [Tagged]) hundisturbed hstate rfl rfl (by simp)
  | @rechecked account rest tags =>
    obtain ⟨hundisturbed, hstate, htags⟩ := h.undisturbed.listTags hanswers
    cases hfree : (Claim.ofTags tags).isFree with
    | false => exact h.read (by simp [Tagged]) hundisturbed hstate rfl rfl (by simp)
    | true =>
      refine h.quiet (by simp [Tagged]) hundisturbed
        (fun _ => by rw [hstate]) (fun other hnext => ?_) (by simp)
        (by simp [kept?])
      obtain rfl := Option.some.inj hnext
      exact h.foundFree htags hfree
  | tagged => exact h.tag hi hanswers
  | @verified account token rest tags =>
    obtain ⟨hundisturbed, hstate, htags⟩ := h.undisturbed.listTags hanswers
    cases hkeeps : keepsClaim tags (owner i) token with
    | false => exact h.read (by simp [Tagged]) hundisturbed hstate rfl rfl (by simp)
    | true =>
      refine h.quiet (by simp [Tagged]) hundisturbed
        (fun _ => by rw [hstate]) (by simp [next?]) (by simp)
        fun other hkept => ?_
      obtain rfl := Option.some.inj hkept
      rw [htags]
      exact h.verified howner hi htags hkeeps
  | @moved account =>
    obtain ⟨hundisturbed, -, -, htags, -⟩ := Cloud.IsUndisturbed.move h.undisturbed hanswers
    refine h.quiet (by simp [Tagged]) hundisturbed htags
      (by simp [next?]) (by simp) fun other hkept => ?_
    obtain ⟨hread, hown⟩ := (h.borneOut i).kept other (by rw [hi]; exact hkept)
    exact ⟨hread.append _, hown⟩

end Recorded

/-! ## Whole runs -/

variable [DecidableEq ι]

theorem recorded_of_run (hundisturbed : cloud.IsUndisturbed) {settings : ι → AllocationSettings}
    (howner : Function.Injective owner)
    {final : Concurrent Cloud ι Call.Reply fun _ => Except PoolError String}
    (hrun : Concurrent.Run Cloud.Answers (lenders cloud payer settings owner) trace final) :
    ∃ stages : ι → Stage,
      (∀ i, (final.programs i).Follows (Moves payer (owner i)) Ends (stages i)) ∧
        Recorded owner trace final.state stages :=
  hrun.invariant (fun _ _ _ _ _ _ _ _ hrecorded hanswers hmoves =>
    hrecorded.step howner hanswers hmoves)
    (fun i => assign_follows payer (settings i) (owner i)) (Recorded.initial hundisturbed)

/-- Parties with different names lend accounts of one pool while nobody else is at work and no
request is registered to fail; tokens and everything else that hosts reply may be anything.  The
owner tag of an account names the party that tagged it last.  For an account that was returned to a
party, this is the party itself, or it is one that overtook the party: it had found the account free
before the party tagged it, and tagged it only after the party had found its own claim on it. -/
theorem assign_recorded (hundisturbed : cloud.IsUndisturbed) (payer : Payer)
    (settings : ι → AllocationSettings) (howner : Function.Injective owner)
    {final : Concurrent Cloud ι Call.Reply fun _ => Except PoolError String}
    (hrun : Concurrent.Run Cloud.Answers (lenders cloud payer settings owner) trace final)
    {i : ι} {account : String} (hdone : final.programs i = .done (.ok account)) :
    ∃ j, TaggedLast trace j account ∧
      (final.state.organization.state.tags account).owner? = some (owner j) ∧
      (j = i ∨ j ≠ i ∧ Overtook owner trace j i account) := by
  obtain ⟨stages, hfollows, hrecorded⟩ := recorded_of_run hundisturbed howner hrun
  have hends : Ends (.ok account) (stages i) := Concurrent.Run.ends_of_done (hfollows i) hdone
  have hwon : stages i = .won account := hends
  exact ((hrecorded.borneOut i).kept account (by rw [hwon]; rfl)).2

/-! ## A race that the wrong party wins -/

/-- The two parties of the race: one of them has found the only account free twice and has its
token, when the other one begins, tags the account and reads its claim back.  Then the first party
tags the account, the second one moves it, and the first one finds its own claim. -/
def overtakingParties : List Bool :=
  List.replicate 5 false ++ List.replicate 8 true ++ [false] ++ List.replicate 3 true
    ++ List.replicate 5 false

/-- The race after that. -/
def overtakenFinal : Concurrent Cloud Bool Call.Reply fun _ => Except PoolError String :=
  overtakingParties.foldl (Concurrent.advance raceServe) race

theorem run_overtaken : ∃ trace, Concurrent.Run Cloud.Answers race trace overtakenFinal :=
  Concurrent.Run.schedule Cloud.Answers raceServe
    (by rintro party (request | request) cloud <;> rfl) race overtakingParties

theorem done_overtaken : overtakenFinal.programs true = .done (.ok "111122223333") := by
  have hwon : (overtakenFinal.result? true).map Except.toOption = some (some "111122223333") := by
    decide +kernel
  obtain ⟨ada, hada, hwon⟩ := Option.map_eq_some_iff.1 hwon
  cases ada with
  | ok account =>
    rw [← Option.some.inj hwon]
    exact Concurrent.eq_done_of_result? hada
  | error e => simp [Except.toOption] at hwon

theorem owner?_overtaken :
    (overtakenFinal.state.organization.state.tags "111122223333").owner? = some "grace" := by
  decide +kernel

theorem injective_raceOwner :
    Function.Injective fun party : Bool => if party then "ada" else "grace" := by
  rintro (_ | _) (_ | _) h <;> simp_all

theorem isUndisturbed_raceCloud : raceCloud.IsUndisturbed := ⟨fun _ => rfl, rfl, by decide⟩

/-- Two parties with different names and different tokens lend at the same time from a pool that
nobody else uses.  Both are done; the only account was returned to one of them, and has the name of
the other. -/
theorem race_overtaken : ∃ trace : List (Event Bool Call.Reply),
    raceCloud.IsUndisturbed ∧
    (∀ cloud, (raceServe true (.host .freshToken) cloud).1 ≠
      (raceServe false (.host .freshToken) cloud).1) ∧
    Concurrent.Run Cloud.Answers race trace overtakenFinal ∧
    overtakenFinal.programs true = .done (.ok "111122223333") ∧
    (∃ e, overtakenFinal.programs false = .done (.error e)) ∧
    (overtakenFinal.state.organization.state.tags "111122223333").owner? = some "grace" := by
  obtain ⟨trace, hrun⟩ := run_overtaken
  refine ⟨trace, isUndisturbed_raceCloud, fun _ => ?_, hrun, done_overtaken, ?_, owner?_overtaken⟩
  · show Host.Token.ofBits 1 ≠ Host.Token.ofBits 0
    decide +kernel
  · have hlost : (overtakenFinal.result? false).map Except.toOption = some none := by decide +kernel
    obtain ⟨grace, hgrace, hlost⟩ := Option.map_eq_some_iff.1 hlost
    cases grace with
    | ok account => simp [Except.toOption] at hlost
    | error e => exact ⟨e, Concurrent.eq_done_of_result? hgrace⟩

/-- In that race the party whose name is on the account has overtaken the one that got it. -/
theorem race_recorded : ∃ trace : List (Event Bool Call.Reply),
    Concurrent.Run Cloud.Answers race trace overtakenFinal ∧ TaggedLast trace false "111122223333" ∧
      Overtook (fun party : Bool => if party then "ada" else "grace") trace false true
        "111122223333" := by
  obtain ⟨trace, hrun⟩ := run_overtaken
  obtain ⟨j, hlast, howner, hover⟩ :=
    assign_recorded isUndisturbed_raceCloud _ _ injective_raceOwner hrun done_overtaken
  rw [owner?_overtaken] at howner
  cases j with
  | false => exact ⟨trace, hrun, hlast, (hover.resolve_left (by simp)).2⟩
  | true => simp at howner

end AccountLending.Lending
