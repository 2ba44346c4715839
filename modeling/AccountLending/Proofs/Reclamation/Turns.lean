import Mathlib.Algebra.Order.BigOperators.Group.List
import Mathlib.Algebra.Order.Ring.Nat
import AccountLending.Proofs.Reclamation.Completion

/-!
# One account after the other

A reclamation deals with the accounts of its plan in turns.  What fails in the first three steps of
a turn ends the run: the accounts before it have their reports, clean or not, and the accounts after
it have not been touched.  What fails while an account is cleared only stands in its report.

* `Call.account?`, `Call.isInside` — the account that a call is about, and whether it reaches into
  it;
* `IsOfTurn` — what is true of every call of an account's turn when it is made;
* `ReleaseFails` — the first step of a turn that fails, and its failure;
* `Reclaimer.aborted_of_perform_reclaimAll` — where a run that is aborted has stopped;
* `World.reclaim_in_turns` — what is left by a run that is aborted, and by one that is not.
-/

namespace AccountLending

/-! ## What calls are about -/

/-- The account that a request is about. -/
def Organization.Request.account? : Organization.Request → Option String
  | .parentOf account | .listTags account | .tag account _ | .untag account _ | .move account _ _ =>
    some account
  | .listAccounts _ | .findResources .. => none

namespace Call

/-- The account that a call is about. -/
def account? : Call → Option String
  | .cloud (.organization request) => request.account?
  | .cloud (.identity (.assumeRole arn _ _)) => Cloud.accountOfRole? arn
  | .cloud (.iam (some session) _) => some session.accessKey
  | _ => none

/-- Whether a call reaches into an account: it opens a session in it, or uses its IAM. -/
def isInside : Call → Bool
  | .cloud (.identity (.assumeRole ..)) | .cloud (.iam ..) => true
  | _ => false

/-- A request to the organization that is about an account, or a call to the host. -/
def IsPlacing (account : String) : Call → Prop
  | .cloud (.organization request) => request.account? = some account
  | .host _ => True
  | _ => False

/-- A request for a role in an account, or a call to the host. -/
def IsOpening (account : String) : Call → Prop
  | .cloud (.identity (.assumeRole arn _ _)) => Cloud.accountOfRole? arn = some account
  | .host _ => True
  | _ => False

end Call

/-! ## What calls leave alone -/

/-- A request about one account leaves all others where they are. -/
theorem Organization.find?_serve_of_ne {request : Request} {account other : String}
    (h : request.account? = some account) (hother : other ≠ account)
    (service : Journaled Organization Request) :
    (serve request service).2.state.find? other = service.state.find? other := by
  unfold serve
  split
  · rfl
  cases request with
  | tag account' tags =>
    obtain rfl : account' = account := Option.some.inj h
    exact find?_change_of_ne (fun _ => rfl) hother
  | untag account' keys =>
    obtain rfl : account' = account := Option.some.inj h
    exact find?_change_of_ne (fun _ => rfl) hother
  | move account' source destination =>
    obtain rfl : account' = account := Option.some.inj h
    simp only [Organization.answer]
    split
    · rfl
    · split
      · exact find?_change_of_ne (fun _ => rfl) hother
      · rfl
  | _ => rfl

/-- Two worlds in which only one account differs, and its IAM is the same. -/
structure World.IsSameForOthers (account : String) (before after : World) : Prop where
  find? : ∀ other, other ≠ account →
    after.cloud.organization.state.find? other = before.cloud.organization.state.find? other
  iamOf : ∀ other, after.cloud.iamOf other = before.cloud.iamOf other

namespace World.IsSameForOthers

variable {account : String} {before mid after : World}

theorem refl (account : String) (world : World) : IsSameForOthers account world world :=
  ⟨fun _ _ => rfl, fun _ => rfl⟩

theorem trans (h : IsSameForOthers account before mid) (h' : IsSameForOthers account mid after) :
    IsSameForOthers account before after :=
  ⟨fun other hother => (h'.find? other hother).trans (h.find? other hother),
    fun other => (h'.iamOf other).trans (h.iamOf other)⟩

theorem serve {call : Call} (hcall : call.IsPlacing account ∨ call.IsOpening account)
    (world : World) : IsSameForOthers account world (World.serve call world).2 := by
  match call, hcall with
  | .host request, _ => exact ⟨fun _ _ => rfl, fun _ => rfl⟩
  | .cloud (.organization request), .inl hrequest =>
    exact ⟨fun other hother => Organization.find?_serve_of_ne hrequest hother _, fun _ => rfl⟩
  | .cloud (.identity (.assumeRole arn name _)), _ =>
    obtain ⟨horganization, hiam⟩ := world.cloud.assumeRole_keeps arn name
    refine ⟨fun other _ => ?_, hiam⟩
    exact congrArg (fun service => service.state.find? other) horganization
  | .cloud (.identity .caller), .inl h => exact absurd h id
  | .cloud (.identity .caller), .inr h => exact absurd h id
  | .cloud (.iam session request), .inl h => exact absurd h id
  | .cloud (.iam session request), .inr h => exact absurd h id

end World.IsSameForOthers

namespace Lending

open World

variable {reclaimer : Reclaimer} {account : String} {world now after : World}

/-! ## A turn -/

/-- An account has no claim tags, and stands under the root of the pool. -/
structure IsFreed (reclaimer : Reclaimer) (account : String) (world : World) : Prop where
  tags : ∀ key ∈ Tags.claimKeys, (world.cloud.organization.state.tags account).contains key = false
  parent : world.cloud.organization.state.parent? account = some reclaimer.payer.root

theorem IsFreed.congr (h : IsFreed reclaimer account world)
    (hsame : now.cloud.organization = world.cloud.organization) :
    IsFreed reclaimer account now where
  tags := by
    rw [hsame]
    exact h.tags
  parent := by
    rw [hsame]
    exact h.parent

/-- What is true of a call of an account's turn: it is about no other account, and when it reaches
into the account, the account is free and in its place. -/
structure IsOfTurn (reclaimer : Reclaimer) (account : String) (moment : Call × World) : Prop where
  about : ∀ other, moment.1.account? = some other → other = account
  inside : moment.1.isInside = true →
    moment.1.account? = some account ∧ IsFreed reclaimer account moment.2

theorem isOfTurn_host (request : Host.Request) (now : World) :
    IsOfTurn reclaimer account (.host request, now) where
  about _ hother := by simp [Call.account?] at hother
  inside h := by simp [Call.isInside] at h

theorem isOfTurn_of_isPlacing {moment : Call × World} (h : moment.1.IsPlacing account) :
    IsOfTurn reclaimer account moment := by
  obtain ⟨call, now⟩ := moment
  match call, h with
  | .host request, _ => exact isOfTurn_host request now
  | .cloud (.organization request), hrequest =>
    refine ⟨fun other hother => ?_, fun h => by simp [Call.isInside] at h⟩
    exact Option.some.inj (hother.symm.trans hrequest)

theorem isOfTurn_of_isOpening {moment : Call × World} (h : moment.1.IsOpening account)
    (hfreed : IsFreed reclaimer account moment.2) : IsOfTurn reclaimer account moment := by
  obtain ⟨call, now⟩ := moment
  match call, h with
  | .host request, _ => exact isOfTurn_host request now
  | .cloud (.identity (.assumeRole arn name seconds)), harn =>
    exact ⟨fun other hother => Option.some.inj (hother.symm.trans harn), fun _ => ⟨harn, hfreed⟩⟩

theorem isOfTurn_of_isOwnCall {moment : Call × World}
    (h : IsOwnCall (Cloud.sessionOf account) moment.1)
    (hfreed : IsFreed reclaimer account moment.2) : IsOfTurn reclaimer account moment := by
  obtain ⟨call, now⟩ := moment
  match call, h with
  | .host (.log line), _ => exact isOfTurn_host (.log line) now
  | .cloud (.iam (some session) request), hsession =>
    have hkey : session.accessKey = account := congrArg Session.accessKey hsession
    exact ⟨fun other hother => (Option.some.inj hother).symm.trans hkey,
      fun _ => ⟨congrArg some hkey, hfreed⟩⟩

namespace Reclaimer

/-! ### The calls of a turn -/

theorem uses_untag (account : String) : (untag account).Uses (Call.IsPlacing account) := by
  have hread : (readTags account).Uses (Call.IsPlacing account) := Action.uses_cloud rfl
  apply hread.bind
  intro tags
  dsimp only
  split
  · exact ⟨trivial, fun _ => trivial⟩
  · have hremove :
        ∀ keys, (Action.organization (.untag account keys)).Uses (Call.IsPlacing account) :=
      fun _ => Action.uses_cloud rfl
    exact (hremove _).bind fun _ => ⟨trivial, fun _ => trivial⟩

theorem uses_moveBack (reclaimer : Reclaimer) (account : String) :
    (reclaimer.moveBack account).Uses (Call.IsPlacing account) := by
  have hplace : (Action.organization (.parentOf account)).Uses (Call.IsPlacing account) :=
    Action.uses_cloud rfl
  have hparent : (reclaimer.poolParent account).Uses (Call.IsPlacing account) := by
    apply hplace.bind
    intro parent
    split <;> trivial
  apply hparent.bind
  intro parent
  split
  · exact ⟨trivial, fun _ => trivial⟩
  · have hmove : ∀ source destination,
        (Action.organization (.move account source destination)).Uses (Call.IsPlacing account) :=
      fun _ _ => Action.uses_cloud rfl
    exact (hmove _ _).bind fun _ => ⟨trivial, fun _ => trivial⟩

theorem uses_openSession (reclaimer : Reclaimer) (hvalid : AccountId.isValid account = true) :
    (reclaimer.openSession account).Uses (Call.IsOpening account) := by
  have hopen : ∀ name, (Action.identity (.assumeRole (reclaimer.adminRoleArn account) name
      reclaimer.settings.sessionSeconds)).Uses (Call.IsOpening account) :=
    fun _ => Action.uses_cloud (accountOfRole?_adminRoleArn reclaimer hvalid)
  exact ⟨trivial, fun _ => ⟨trivial, fun _ => hopen _⟩⟩

theorem uses_report (reclaimer : Reclaimer) (p : Planned) (session : Session) :
    (reclaimer.report p session).Uses (IsOwnCall session) :=
  (uses_clear ⟨p.account, session⟩ reclaimer.settings).bind fun _ => ⟨trivial, fun _ => trivial⟩

/-! ### The worlds of a turn -/

/-- An account that lost its claim tags and was moved back is free and in its place. -/
theorem isFreed_of_perform {freed moved : World}
    (huntag : world.perform (untag account) = (.ok (), freed))
    (hmove : freed.perform (reclaimer.moveBack account) = (.ok (), moved)) :
    IsFreed reclaimer account moved := by
  obtain ⟨parent, placed, hplaced, -⟩ := exists_of_perform_bind hmove
  obtain ⟨untaggedMember, hfreed, -⟩ := exists_of_perform_poolParent hplaced
  have huntagged := hasChanged_of_perform_untag huntag
  rw [huntagged.find?, if_pos rfl, Option.map_eq_some_iff] at hfreed
  obtain ⟨member, hmember, rfl⟩ := hfreed
  have hmoved :
      moved.cloud.organization.state.find? account = some (reclaimer.returned member) := by
    rw [(huntagged.trans (hasChanged_of_perform_moveBack hmove)).find?, if_pos rfl, hmember]
    rfl
  constructor
  · intro key hkey
    rw [Organization.tags_of_find? hmoved]
    simp [returned, atRoot, untagged, Dict.contains, Dict.get?_eraseAll, hkey]
  · simp [Organization.parent?, hmoved, returned, atRoot]

/-- The organization stays what it is while a session is opened. -/
theorem keeps_organization_of_isOpening (call : Call) (now : World) (h : call.IsOpening account)
    (hsame : now.cloud.organization = world.cloud.organization) :
    (World.serve call now).2.cloud.organization = world.cloud.organization := by
  match call, h with
  | .host request, _ => exact hsame
  | .cloud (.identity (.assumeRole arn name _)), _ =>
    exact (now.cloud.assumeRole_keeps arn name).1.trans hsame

/-- The organization stays what it is while an account is cleared. -/
theorem keeps_organization_of_isOwnCall {session : Session} (call : Call) (now : World)
    (h : IsOwnCall session call) (hsame : now.cloud.organization = world.cloud.organization) :
    (World.serve call now).2.cloud.organization = world.cloud.organization := by
  match call, h with
  | .host (.log line), _ => exact hsame
  | .cloud (.iam (some _) request), _ => exact hsame

/-- Returning an account touches no other account, and no IAM at all, however it ends. -/
theorem isSameForOthers_of_perform_release (hvalid : AccountId.isValid account = true)
    {result : Except PoolError Session}
    (h : world.perform (reclaimer.release account) = (result, after)) :
    World.IsSameForOthers account world after := by
  have huses : (reclaimer.release account).Uses fun call => call.IsPlacing account ∨
      call.IsOpening account :=
    ((uses_untag account).mono fun _ => .inl).bind fun _ =>
      ((reclaimer.uses_moveBack account).mono fun _ => .inl).bind fun _ =>
        (reclaimer.uses_openSession hvalid).mono fun _ => .inr
  have hkeeps : ∀ call now, (Call.IsPlacing account call ∨ call.IsOpening account) →
      World.IsSameForOthers account world now →
      World.IsSameForOthers account world (World.serve call now).2 :=
    fun _ now hcall hnow => hnow.trans (.serve hcall now)
  have hkept := perform_keeps huses hkeeps (.refl account world)
  rwa [h] at hkept

/-- Every call of returning an account belongs to its turn. -/
theorem isOfTurn_of_mem_release (hvalid : AccountId.isValid account = true) {moment : Call × World}
    (h : moment ∈ world.moments (reclaimer.release account)) :
    IsOfTurn reclaimer account moment := by
  have hplacing : ∀ {action : Action Unit} {now : World}, action.Uses (Call.IsPlacing account) →
      moment ∈ now.moments action → IsOfTurn reclaimer account moment := fun huses hmem =>
    isOfTurn_of_isPlacing (Program.Uses.mem_trace huses (World.mem_calls_iff.2 ⟨moment.2, hmem⟩))
  rcases World.mem_moments_bind.1 h with h | ⟨_, freed, huntag, h⟩
  · exact hplacing (uses_untag account) h
  rcases World.mem_moments_bind.1 h with h | ⟨_, moved, hmove, h⟩
  · exact hplacing (reclaimer.uses_moveBack account) h
  -- a session is only asked for after the other two steps
  obtain ⟨hopening, hsame⟩ := Program.Uses.of_mem_moments (reclaimer.uses_openSession hvalid)
    keeps_organization_of_isOpening rfl h
  exact isOfTurn_of_isOpening hopening ((isFreed_of_perform huntag hmove).congr hsame)

/-- An account that was returned is free and in its place. -/
theorem isFreed_of_perform_release (hvalid : AccountId.isValid account = true) {session : Session}
    (h : world.perform (reclaimer.release account) = (.ok session, after)) :
    IsFreed reclaimer account after := by
  obtain ⟨_, freed, huntag, h⟩ := exists_of_perform_bind h
  obtain ⟨_, moved, hmove, h⟩ := exists_of_perform_bind h
  have hsame : (moved.perform (reclaimer.openSession account)).2.cloud.organization =
      moved.cloud.organization :=
    perform_keeps (reclaimer.uses_openSession hvalid) keeps_organization_of_isOpening rfl
  rw [h] at hsame
  exact (isFreed_of_perform huntag hmove).congr hsame

/-- Every call of clearing a returned account belongs to its turn. -/
theorem isOfTurn_of_mem_report {p : Planned} (hfreed : IsFreed reclaimer p.account world)
    {moment : Call × World}
    (h : moment ∈ (reclaimer.report p (Cloud.sessionOf p.account)).moments World.serve world) :
    IsOfTurn reclaimer p.account moment := by
  obtain ⟨hown, hsame⟩ :=
    (reclaimer.uses_report p _).of_mem_moments keeps_organization_of_isOwnCall rfl h
  exact isOfTurn_of_isOwnCall hown (hfreed.congr hsame)

/-! ## All turns -/

variable {planned before rest : List Planned} {done reports : List Report} {p : Planned}
  {turn : World}

/-- Every call belongs to the turn of one of the accounts. -/
theorem isOfTurn_of_mem_reclaimAll (hvalid : ∀ p ∈ planned, AccountId.isValid p.account = true)
    {moment : Call × World} (h : moment ∈ world.moments (reclaimer.reclaimAll done planned)) :
    ∃ p ∈ planned, IsOfTurn reclaimer p.account moment := by
  induction planned generalizing done world with
  | nil => simp [reclaimAll, moments, Program.moments] at h
  | cons p rest ih =>
    have hp := hvalid p List.mem_cons_self
    rcases World.mem_moments_bind.1 h with h | ⟨result, released, hrelease, h⟩
    · rw [World.moments_result] at h
      exact ⟨p, List.mem_cons_self, isOfTurn_of_mem_release hp h⟩
    rw [World.perform_result] at hrelease
    obtain ⟨hresult, rfl⟩ := Prod.mk.inj hrelease
    obtain rfl := Except.ok.inj hresult
    cases hturn : world.perform (reclaimer.release p.account) with
    | mk result released =>
    rw [hturn] at h
    cases result with
    | error source => simp [moments, Program.moments] at h
    | ok session =>
      obtain ⟨rfl, -⟩ := of_perform_release hp hturn
      rcases World.mem_moments_bind.1 h with h | ⟨report, mid, -, h⟩
      · rw [World.moments_lift] at h
        exact ⟨p, List.mem_cons_self,
          isOfTurn_of_mem_report (isFreed_of_perform_release hp hturn) h⟩
      · obtain ⟨q, hq, hofTurn⟩ := ih (fun q hq => hvalid q (List.mem_cons_of_mem _ hq)) h
        exact ⟨q, List.mem_cons_of_mem _ hq, hofTurn⟩

/-- Accounts can be dealt with in two parts. -/
theorem reclaimAll_append (reclaimer : Reclaimer) (done : List Report)
    (before rest : List Planned) :
    reclaimer.reclaimAll done (before ++ rest) =
      reclaimer.reclaimAll done before >>= fun reports => reclaimer.reclaimAll reports rest := by
  induction before generalizing done with
  | nil => simp [reclaimAll]
  | cons p before ih =>
    simp only [List.cons_append, reclaimAll, bind_assoc]
    congr 1
    funext result
    cases result with
    | error source => rfl
    | ok session => simp only [bind_assoc, ih]

end Reclaimer

/-- The first step of an account's turn that fails, with its failure: removing the claim tags,
moving the account back, or opening a session in it. -/
inductive ReleaseFails (reclaimer : Reclaimer) (account : String) (turn : World) : PoolError → Prop
  | untag {source : PoolError} (h : (turn.perform (Reclaimer.untag account)).1 = .error source) :
      ReleaseFails reclaimer account turn source
  | moveBack {source : PoolError} {freed : World}
      (huntag : turn.perform (Reclaimer.untag account) = (.ok (), freed))
      (h : (freed.perform (reclaimer.moveBack account)).1 = .error source) :
      ReleaseFails reclaimer account turn source
  | openSession {source : PoolError} {freed moved : World}
      (huntag : turn.perform (Reclaimer.untag account) = (.ok (), freed))
      (hmove : freed.perform (reclaimer.moveBack account) = (.ok (), moved))
      (h : (moved.perform (reclaimer.openSession account)).1 = .error source) :
      ReleaseFails reclaimer account turn source

namespace Reclaimer

variable {planned before rest : List Planned} {done reports : List Report} {p : Planned}
  {turn : World}

/-- Returning an account by its three steps. -/
theorem release_eq (reclaimer : Reclaimer) (account : String) :
    reclaimer.release account = untag account >>= fun _ =>
      reclaimer.moveBack account >>= fun _ => reclaimer.openSession account := rfl

/-- Returning an account fails as the first of its steps that fails. -/
theorem releaseFails_of_perform {source : PoolError}
    (h : turn.perform (reclaimer.release account) = (.error source, after)) :
    ReleaseFails reclaimer account turn source := by
  rw [release_eq] at h
  cases huntag : turn.perform (untag account) with
  | mk result freed =>
  cases result with
  | error e =>
    rw [perform_bind_error huntag] at h
    obtain rfl := Except.error.inj (congrArg Prod.fst h)
    exact .untag (congrArg Prod.fst huntag)
  | ok _ =>
    rw [perform_bind_ok huntag] at h
    cases hmove : freed.perform (reclaimer.moveBack account) with
    | mk result moved =>
    cases result with
    | error e =>
      rw [perform_bind_error hmove] at h
      obtain rfl := Except.error.inj (congrArg Prod.fst h)
      exact .moveBack huntag (congrArg Prod.fst hmove)
    | ok _ =>
      rw [perform_bind_ok hmove] at h
      exact .openSession huntag hmove (congrArg Prod.fst h)

/-- When a step fails, so does returning the account. -/
theorem perform_of_releaseFails {source : PoolError}
    (h : ReleaseFails reclaimer account turn source) :
    (turn.perform (reclaimer.release account)).1 = .error source := by
  rw [release_eq]
  cases h with
  | untag h => rw [perform_bind_error (Prod.ext h rfl)]
  | moveBack huntag h => rw [perform_bind_ok huntag, perform_bind_error (Prod.ext h rfl)]
  | openSession huntag hmove h => rw [perform_bind_ok huntag, perform_bind_ok hmove, h]

/-- An account that cannot be returned is the last one that a call is about. -/
theorem mem_release_of_aborted {source : PoolError} {moment : Call × World}
    (hrelease : turn.perform (reclaimer.release p.account) = (.error source, after))
    (h : moment ∈ turn.moments (reclaimer.reclaimAll done (p :: rest))) :
    moment ∈ turn.moments (reclaimer.release p.account) := by
  rcases World.mem_moments_bind.1 h with h | ⟨result, _, hresult, h⟩
  · rwa [World.moments_result] at h
  · rw [World.perform_result, hrelease] at hresult
    obtain rfl := Except.ok.inj (Prod.mk.inj hresult).1
    simp [moments, Program.moments] at h

/-- A run that fails has stopped in the turn of one of the accounts, with the reports of those
before it. -/
theorem aborted_of_perform_reclaimAll {e : PoolError}
    (h : world.perform (reclaimer.reclaimAll done planned) = (.error e, after)) :
    ∃ before p rest reports turn source, planned = before ++ p :: rest ∧
      world.perform (reclaimer.reclaimAll done before) = (.ok reports, turn) ∧
      turn.perform (reclaimer.release p.account) = (.error source, after) ∧
      e = .reclaimAborted p.account source reports := by
  induction planned generalizing done world with
  | nil => exact absurd h (by simp [reclaimAll, World.perform_pure])
  | cons p rest ih =>
    cases hrelease : world.perform (reclaimer.release p.account) with
    | mk result released =>
    cases result with
    | error source =>
      rw [perform_reclaimAll_aborted hrelease] at h
      obtain ⟨he, rfl⟩ := Prod.mk.inj h
      exact ⟨[], p, rest, done, world, source, rfl, rfl, hrelease, (Except.error.inj he).symm⟩
    | ok session =>
      rw [perform_reclaimAll_cons hrelease rfl] at h
      obtain ⟨before, q, others, reports, turn, source, rfl, hbefore, hturn, he⟩ := ih h
      exact ⟨p :: before, q, others, reports, turn, source, rfl,
        (perform_reclaimAll_cons hrelease rfl).trans hbefore, hturn, he⟩

end Reclaimer

/-! ## The whole run -/

theorem HasTakenBack.of_asked {accounts : List String} {question : String} {mid : World}
    (hread : world.HasOnlyRead mid)
    (h : HasTakenBack reclaimer accounts (mid.asked question) after) :
    HasTakenBack reclaimer accounts world after where
  find? other := by
    rw [← hread.cloud.state]
    exact h.find? other
  iamOf other hother := (h.iamOf other hother).trans (hread.iamOf other)
  cleared other hother := by
    rw [← hread.iamOf]
    exact h.cleared other hother
  isRefused call := (h.isRefused call).trans (hread.isRefused call)

/-- What is left by a run that was aborted at an account.  The world is the one before the run, and
the start is the one in which the operator has agreed. -/
structure IsAbortedAt (reclaimer : Reclaimer) (world start after : World) (before : List Planned)
    (p : Planned) (rest : List Planned) (source : PoolError) (reports : List Report) : Prop where
  /-- The accounts before it have all their reports. -/
  reported : reports = before.map (reclaimer.reportOf world)
  /-- The run has come to the turn of the account, in which a step failed. -/
  stopped : ∃ turn, start.perform (reclaimer.reclaimAll [] before) = (.ok reports, turn) ∧
    ReleaseFails reclaimer p.account turn source
  iamOf : after.cloud.iamOf p.account = world.cloud.iamOf p.account
  untouched : ∀ q ∈ rest,
    after.cloud.organization.state.find? q.account =
      world.cloud.organization.state.find? q.account ∧
      after.cloud.iamOf q.account = world.cloud.iamOf q.account
  uncalled : ∀ q ∈ rest, ∀ call ∈ start.calls (reclaimer.reclaimAll [] (before ++ p :: rest)),
    call.account? ≠ some q.account

/-- What is left by a run that was not aborted. -/
structure IsConcluded (reclaimer : Reclaimer) (world after : World) (planned : List Planned)
    (result : Except PoolError ReclaimOutcome) : Prop where
  takenBack : HasTakenBack reclaimer (planned.map (·.account)) world after
  completed : result = .ok (.completed (planned.map (reclaimer.reportOf world))) ↔
    ∀ p ∈ planned, (reclaimer.reportOf world p).isClean = true
  incomplete : (∃ p ∈ planned, (reclaimer.reportOf world p).isClean = false) →
    result = .error (.teardownIncomplete (planned.map (reclaimer.reportOf world))) ∧
      PoolError.failedTotal (planned.map (reclaimer.reportOf world)) =
        (planned.map fun p => (reclaimer.reportOf world p).failedCount).sum ∧
      1 ≤ PoolError.failedTotal (planned.map (reclaimer.reportOf world))

/-- How a run whose operator has agreed deals with the accounts of its plan. -/
structure DealsInTurns (reclaimer : Reclaimer) (target : ReclaimTarget) (world start after : World)
    (planned : List Planned) (result : Except PoolError ReclaimOutcome) : Prop where
  /-- After the plan and the question there are only the calls of the turns. -/
  calls : world.calls (reclaimer.reclaim askOperator target) = world.calls (reclaimer.plan target)
    ++ .host (.confirm (reclaimer.question target planned)) ::
      start.calls (reclaimer.reclaimAll [] planned)
  aborted : ∀ account source reports, result = .error (.reclaimAborted account source reports) →
    ∃ before p rest, planned = before ++ p :: rest ∧ p.account = account ∧
      IsAbortedAt reclaimer world start after before p rest source reports
  /-- A step that fails in the turn of an account ends the run. -/
  stops : ∀ before p rest reports turn source, planned = before ++ p :: rest →
    start.perform (reclaimer.reclaimAll [] before) = (.ok reports, turn) →
    ReleaseFails reclaimer p.account turn source →
    result = .error (.reclaimAborted p.account source reports)
  /-- When no step fails in the turn of any account, all accounts are dealt with. -/
  concluded : (∀ before p rest reports turn source, planned = before ++ p :: rest →
      start.perform (reclaimer.reclaimAll [] before) = (.ok reports, turn) →
      ¬ ReleaseFails reclaimer p.account turn source) →
    IsConcluded reclaimer world after planned result

theorem failedTotal_eq_sum (reports : List Report) :
    PoolError.failedTotal reports = (reports.map Report.failedCount).sum := by
  induction reports with
  | nil => rfl
  | cons report rest ih => exact congrArg (report.failedCount + ·) ih

/-- A report that is not clean counts. -/
theorem one_le_failedTotal {reports : List Report} {report : Report} (hreport : report ∈ reports)
    (hclean : report.isClean = false) : 1 ≤ PoolError.failedTotal reports := by
  have hfailed : 1 ≤ report.failedCount := by
    simpa [Report.isClean, Nat.one_le_iff_ne_zero] using hclean
  rw [failedTotal_eq_sum]
  exact Nat.le_trans hfailed (List.le_sum_of_mem (List.mem_map_of_mem hreport))

namespace Reclaimer

variable {planned : List Planned} {mid start : World} {target : ReclaimTarget}

/-- An aborted run by the accounts before, at and after the place where it stopped. -/
theorem isAbortedAt_of_perform {before rest : List Planned} {p : Planned} {turn : World}
    {source : PoolError} {reports : List Report} {question : String} (hread : world.HasOnlyRead mid)
    (hnodup : ((before ++ p :: rest).map (·.account)).Nodup)
    (hvalid : ∀ q ∈ before ++ p :: rest, AccountId.isValid q.account = true)
    (hbefore : (mid.asked question).perform (reclaimer.reclaimAll [] before) = (.ok reports, turn))
    (hturn : turn.perform (reclaimer.release p.account) = (.error source, after)) :
    IsAbortedAt reclaimer world (mid.asked question) after before p rest source reports := by
  rw [List.map_append, List.map_cons] at hnodup
  obtain ⟨hnodupBefore, hnodupRest, hapart⟩ := List.nodup_append.1 hnodup
  obtain ⟨hpRest, -⟩ := List.nodup_cons.1 hnodupRest
  have hp : AccountId.isValid p.account = true := hvalid p (by simp)
  have hvalidBefore : ∀ q ∈ before, AccountId.isValid q.account = true :=
    fun q hq => hvalid q (List.mem_append_left _ hq)
  have hpBefore : p.account ∉ before.map (·.account) := fun hmem =>
    hapart _ hmem _ List.mem_cons_self rfl
  have hrestBefore : ∀ q ∈ rest, q.account ∉ before.map (·.account) := fun q hq hmem =>
    hapart _ hmem _ (List.mem_cons_of_mem _ (List.mem_map_of_mem hq)) rfl
  have hrestP : ∀ q ∈ rest, q.account ≠ p.account := fun q hq heq =>
    hpRest (heq ▸ List.mem_map_of_mem hq)
  obtain ⟨hreports, htaken⟩ := of_perform_reclaimAll hnodupBefore hvalidBefore hbefore
  have hsame := isSameForOthers_of_perform_release hp hturn
  have htakenWorld := htaken.of_asked hread
  refine
    { reported := ?reported
      stopped := ⟨turn, hbefore, releaseFails_of_perform hturn⟩
      iamOf := (hsame.iamOf p.account).trans (htakenWorld.iamOf p.account hpBefore)
      untouched := fun q hq => ⟨?find, ?iam⟩
      uncalled := fun q hq call hcall habout => ?uncalled }
  case reported =>
    rw [hreports, List.nil_append]
    exact List.map_congr_left fun q _ => reportOf_congr (hread.iamOf q.account)
  case find =>
    rw [hsame.find? q.account (hrestP q hq), htakenWorld.find?, if_neg (hrestBefore q hq)]
  case iam => exact (hsame.iamOf q.account).trans (htakenWorld.iamOf q.account (hrestBefore q hq))
  case uncalled =>
    -- every call is one of the turns before, or of the turn that failed
    obtain ⟨now, hmoment⟩ := World.mem_calls_iff.1 hcall
    rw [reclaimAll_append] at hmoment
    rcases World.mem_moments_bind.1 hmoment with hmoment | ⟨_, _, hagain, hmoment⟩
    · obtain ⟨r, hr, hofTurn⟩ := isOfTurn_of_mem_reclaimAll hvalidBefore hmoment
      exact hrestBefore q hq (hofTurn.about _ habout ▸ List.mem_map_of_mem hr)
    · obtain ⟨-, rfl⟩ := Prod.mk.inj (hagain.symm.trans hbefore)
      have hofTurn := isOfTurn_of_mem_release hp (mem_release_of_aborted hturn hmoment)
      exact hrestP q hq (hofTurn.about _ habout)

/-- A run that was not aborted by its reports. -/
theorem isConcluded_of_perform {reports : List Report} {question : String}
    (hread : world.HasOnlyRead mid) (hnodup : (planned.map (·.account)).Nodup)
    (hvalid : ∀ p ∈ planned, AccountId.isValid p.account = true)
    (hall : (mid.asked question).perform (reclaimer.reclaimAll [] planned) = (.ok reports, after)) :
    IsConcluded reclaimer world after planned (conclusion reports) := by
  obtain ⟨hreports, htaken⟩ := of_perform_reclaimAll hnodup hvalid hall
  have hworld : reports = planned.map (reclaimer.reportOf world) := by
    rw [hreports, List.nil_append]
    exact List.map_congr_left fun q _ => reportOf_congr (hread.iamOf q.account)
  refine ⟨htaken.of_asked hread, ?_, ?_⟩
  · rw [conclusion_eq_completed_iff, hworld]
    simp
  · rintro ⟨p, hp, hclean⟩
    have hmem : reclaimer.reportOf world p ∈ reports := hworld ▸ List.mem_map_of_mem hp
    have hfails : reports.all Report.isClean = false :=
      List.all_eq_false.2 ⟨_, hmem, by simp [hclean]⟩
    rw [← hworld]
    refine ⟨by rw [conclusion, hfails, if_neg Bool.false_ne_true], ?_,
      one_le_failedTotal hmem hclean⟩
    rw [failedTotal_eq_sum, hworld, List.map_map]
    rfl

/-- A step that fails in the turn of an account ends the run. -/
theorem perform_reclaimAll_of_releaseFails {before rest : List Planned} {p : Planned} {turn : World}
    {source : PoolError} {done reports : List Report}
    (hbefore : world.perform (reclaimer.reclaimAll done before) = (.ok reports, turn))
    (hfails : ReleaseFails reclaimer p.account turn source) :
    (world.perform (reclaimer.reclaimAll done (before ++ p :: rest))).1 =
      .error (.reclaimAborted p.account source reports) := by
  have hrelease := perform_of_releaseFails hfails
  rw [reclaimAll_append, perform_bind_ok hbefore,
    perform_reclaimAll_aborted (Prod.ext hrelease rfl)]

/-- A run whose operator agrees to its plan. -/
theorem dealsInTurns_of_agreed {result : Except PoolError ReclaimOutcome}
    (hplan : world.perform (reclaimer.plan target) = (.ok planned, mid))
    (hanswer : world.host.answer (reclaimer.question target planned) = true)
    (hrun : world.perform (reclaimer.reclaim askOperator target) = (result, after)) :
    DealsInTurns reclaimer target world (mid.asked (reclaimer.question target planned))
      after planned
      result := by
  have hread := hasOnlyRead_of_perform (reclaimer.uses_plan target) hplan
  have hconfirm := mid.run_askOperator (reclaimer.question target planned)
  rw [hread.answer, hanswer] at hconfirm
  obtain ⟨hnodup, hplanned⟩ := planned_of_perform_plan hplan
  have hvalid : ∀ p ∈ planned, AccountId.isValid p.account = true :=
    fun p hp => (hplanned p hp).isValid
  cases hall : (mid.asked (reclaimer.question target planned)).perform
    (reclaimer.reclaimAll [] planned) with
  | mk all finished =>
  obtain ⟨rfl, rfl⟩ := Prod.mk.inj (hrun.symm.trans (perform_reclaim_agreed hplan hconfirm hall))
  have hcalls := calls_reclaim_agreed hplan hconfirm
  rw [List.append_assoc] at hcalls
  refine
    { calls := hcalls
      aborted := fun account source reports haborted => ?aborted
      stops := fun before p rest reports turn source hsplit hbefore hfails => ?stops
      concluded := fun hfails => ?concluded }
  case stops =>
    subst hsplit
    obtain rfl : all = .error (.reclaimAborted p.account source reports) :=
      (congrArg Prod.fst hall).symm.trans (perform_reclaimAll_of_releaseFails hbefore hfails)
    rfl
  case aborted =>
    cases all with
    | ok reports' =>
      have hconclusion : conclusion reports' = .error (.reclaimAborted account source reports) :=
        haborted
      unfold conclusion at hconclusion
      split at hconclusion <;> simp at hconclusion
    | error e =>
      obtain ⟨before, p, rest, reports', turn, source', rfl, hbefore, hturn, rfl⟩ :=
        aborted_of_perform_reclaimAll hall
      obtain ⟨haccount, rfl, rfl⟩ := PoolError.reclaimAborted.inj (Except.error.inj haborted)
      exact ⟨before, p, rest, rfl, haccount,
        isAbortedAt_of_perform hread hnodup hvalid hbefore hturn⟩
  case concluded =>
    cases all with
    | ok reports => exact isConcluded_of_perform hread hnodup hvalid hall
    | error e =>
      obtain ⟨before, p, rest, reports, turn, source, hsplit, hbefore, hturn, -⟩ :=
        aborted_of_perform_reclaimAll hall
      exact absurd (releaseFails_of_perform hturn)
        (hfails before p rest reports turn source hsplit hbefore)

/-- Nothing reaches into an account before its turn has come so far. -/
theorem isFreed_of_mem_reclaim {moment : Call × World}
    (h : moment ∈ world.moments (reclaimer.reclaim askOperator target))
    (hinside : moment.1.isInside = true) :
    ∃ account, moment.1.account? = some account ∧ IsFreed reclaimer account moment.2 := by
  have hhost : ∀ (request : Host.Request) (now : World), (Call.host request, now) ≠ moment := by
    rintro request now rfl
    simp [Call.isInside] at hinside
  rcases World.mem_moments_bind.1 h with h | ⟨planned, mid, hplan, h⟩
  · have hreading := (reclaimer.uses_plan target).mem_trace (World.mem_calls_iff.2 ⟨moment.2, h⟩)
    obtain ⟨call, now⟩ := moment
    match call, hreading with
    | .cloud (.organization request), _ => simp [Call.isInside] at hinside
    | .cloud (.identity .caller), _ => simp [Call.isInside] at hinside
    | .host (.log line), _ => simp [Call.isInside] at hinside
  rcases World.mem_moments_bind.1 h with h | ⟨agreed, start, hagreed, h⟩
  · exact absurd (List.mem_singleton.1 h).symm (hhost _ _)
  obtain ⟨-, hplanned⟩ := planned_of_perform_plan hplan
  cases agreed with
  | false =>
    rcases World.mem_moments_bind.1 h with h | ⟨_, _, -, h⟩
    · exact absurd (List.mem_singleton.1 h).symm (hhost _ _)
    · simp [moments, Program.moments] at h
  | true =>
    rcases World.mem_moments_bind.1 h with h | ⟨reports, after, -, h⟩
    · obtain ⟨p, -, hofTurn⟩ := isOfTurn_of_mem_reclaimAll (fun p hp => (hplanned p hp).isValid) h
      exact ⟨p.account, hofTurn.inside hinside⟩
    · split at h <;> simp [moments, Program.moments] at h

end Reclaimer

end Lending

open Lending

/-- A reclamation whose operator agrees to its plan deals with the accounts of the plan in turns.
When it is aborted at an account, the accounts before it have all their reports, the first step of
its turn that failed is the source, its IAM is what it was, and the accounts after it were neither
called nor changed since the plan.  When no step fails in any turn, all accounts are taken back; the
reclamation completes if and only if all reports are clean, and otherwise tells how many artifacts
of all reports are left.  And every reclamation reaches into an account only after this has lost its
claim tags and stands under the root of the pool. -/
theorem World.reclaim_in_turns {world after : World} {reclaimer : Reclaimer}
    {target : ReclaimTarget} {result : Except PoolError ReclaimOutcome}
    (hrun : world.perform (reclaimer.reclaim askOperator target) = (result, after)) :
    (∀ planned mid, world.perform (reclaimer.plan target) = (.ok planned, mid) →
      world.host.answer (reclaimer.question target planned) = true →
      DealsInTurns reclaimer target world (mid.asked (reclaimer.question target planned)) after
        planned result) ∧
    ∀ moment ∈ world.moments (reclaimer.reclaim askOperator target), moment.1.isInside = true →
      ∃ account, moment.1.account? = some account ∧ IsFreed reclaimer account moment.2 := by
  constructor
  · intro planned mid hplan hanswer
    exact Reclaimer.dealsInTurns_of_agreed hplan hanswer hrun
  · exact fun moment hmoment => Reclaimer.isFreed_of_mem_reclaim hmoment

/-! ### Two accounts of a user -/

/-- An account of the user, with a number. -/
def crewMember (id : String) : Member :=
  ⟨{ id, status := .active }, "ou-lent", Tags.ofClaim "alice" "token"⟩

/-- A world with two accounts of a user.  In the first one there is an access key that cannot be
deleted, and the session in the second one is refused when it is said so. -/
def crewWorld (refused : Bool) : World where
  cloud :=
    let members := (Cloud.ofCaller (.ok "999999999999")).changeOrganization fun organization =>
      (organization.addMember (crewMember "111111111111")).addMember (crewMember "222222222222")
    let stuck := members.changeIam "111111111111" fun service =>
      (service.modify fun _ => (({} : Iam).addUser "alice").addAccessKey "alice" "key").failOn
        "DeleteAccessKey:alice/key"
    { stuck with
      identity :=
        if refused then stuck.identity.failOn "AssumeRole:222222222222" else stuck.identity }

/-- The plan for the user. -/
def crewPlan : List Planned := [⟨"111111111111", some "alice"⟩, ⟨"222222222222", some "alice"⟩]

theorem exists_plan_crew (refused : Bool) :
    ∃ mid, (crewWorld refused).perform (lentReclaimer.plan (.user "alice")) =
      (.ok crewPlan, mid) := by
  apply World.exists_of_toOption
  cases refused <;> decide +kernel

/-- The account at which a run was aborted, and the artifacts that are left in the accounts before
it. -/
def stoppedAt? : Except PoolError ReclaimOutcome → Option (String × List Nat)
  | .error (.reclaimAborted account _ reports) => some (account, reports.map Report.failedCount)
  | _ => none

theorem exists_of_stoppedAt? {result : Except PoolError ReclaimOutcome} {account : String}
    {counts : List Nat} (h : stoppedAt? result = some (account, counts)) :
    ∃ source reports, result = .error (.reclaimAborted account source reports) ∧
      reports.map Report.failedCount = counts := by
  unfold stoppedAt? at h
  split at h
  · obtain ⟨rfl, rfl⟩ := Prod.mk.inj (Option.some.inj h)
    exact ⟨_, _, rfl, rfl⟩
  · simp at h

/-- The run is aborted at the second account with the report of the first one, which is not clean,
when its session is refused, and is incomplete when it is not. -/
theorem reclaim_in_turns_crew :
    (∃ source report,
      ((crewWorld true).perform (lentReclaimer.reclaim askOperator (.user "alice"))).1 =
      .error (.reclaimAborted "222222222222" source [report]) ∧ report.isClean = false) ∧
    ((crewWorld false).perform (lentReclaimer.reclaim askOperator (.user "alice"))).1 =
      .error (.teardownIncomplete (crewPlan.map (lentReclaimer.reportOf (crewWorld false)))) := by
  have hturns : ∀ refused, ∃ start after,
      DealsInTurns lentReclaimer (.user "alice") (crewWorld refused) start after crewPlan
        ((crewWorld refused).perform (lentReclaimer.reclaim askOperator (.user "alice"))).1 := by
    intro refused
    obtain ⟨mid, hplan⟩ := exists_plan_crew refused
    cases hrun : (crewWorld refused).perform
      (lentReclaimer.reclaim askOperator (.user "alice")) with
    | mk result after => exact ⟨_, after, (World.reclaim_in_turns hrun).1 crewPlan mid hplan rfl⟩
  constructor
  · have hstopped : stoppedAt?
        ((crewWorld true).perform (lentReclaimer.reclaim askOperator (.user "alice"))).1 =
        some ("222222222222", [2]) := by
      decide +kernel
    obtain ⟨source, reports, hresult, hcounts⟩ := exists_of_stoppedAt? hstopped
    obtain ⟨start, after, hturns⟩ := hturns true
    obtain ⟨before, p, rest, hplan, -, haborted⟩ := hturns.aborted _ source reports hresult
    -- one report, so that only the first account was dealt with
    have hlength := congrArg List.length hcounts
    rw [List.length_map, haborted.reported, List.length_map] at hlength
    obtain ⟨first, rfl⟩ := List.length_eq_one_iff.1 hlength
    obtain rfl := (List.cons.inj hplan).1
    refine ⟨source, lentReclaimer.reportOf (crewWorld true) ⟨"111111111111", some "alice"⟩, ?_,
      by decide +kernel⟩
    rw [hresult, haborted.reported]
    rfl
  · have hwent : stoppedAt?
        ((crewWorld false).perform (lentReclaimer.reclaim askOperator (.user "alice"))).1 =
        none := by
      decide +kernel
    obtain ⟨start, after, hturns⟩ := hturns false
    have hconcluded :=
      hturns.concluded fun before p rest reports turn source hplan hbefore hfails => by
      rw [hturns.stops before p rest reports turn source hplan hbefore hfails] at hwent
      simp [stoppedAt?] at hwent
    exact (hconcluded.incomplete ⟨_, List.mem_cons_self, by decide +kernel⟩).1

end AccountLending
