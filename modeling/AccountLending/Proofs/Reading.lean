import AccountLending.Lending.Ownership
import AccountLending.Proofs.Organization
import AccountLending.Proofs.Performing

/-!
# Calls that only read

Tags, places and the caller's number are read without changing anything but the log and the journal
of the organization.  What is read of an account is what its member says.

* `Lending.IsReading` — the calls that read;
* `World.HasOnlyRead` — what a world keeps while it is only read;
* `World.hasOnlyRead_of_uses` — what makes no other calls only reads;
* `World.of_perform_organization` — an answer was not refused, and comes from the members.
-/

namespace AccountLending

namespace Lending

/-! ## The calls -/

/-- A call that reads the organization or the caller's number, or writes a line to the log. -/
def IsReading : Call → Prop
  | .cloud (.organization request) => request.isMutation = false
  | .cloud (.identity .caller) => True
  | .host (.log _) => True
  | _ => False

theorem uses_log (level : Log.Level) (message : String) :
    (Action.log level message).Uses IsReading :=
  ⟨trivial, fun _ => trivial⟩

theorem uses_organization {request : Organization.Request} (h : request.isMutation = false) :
    (Action.organization request).Uses IsReading :=
  Action.uses_cloud h

theorem uses_caller : (Action.identity .caller).Uses IsReading := Action.uses_cloud trivial

theorem uses_readTags (account : String) : (readTags account).Uses IsReading :=
  uses_organization rfl

theorem uses_observe (account : String) (tags : Tags) : (observe account tags).Uses IsReading := by
  unfold observe
  split
  · trivial
  · exact ⟨trivial, fun _ => trivial⟩

theorem uses_readClaim (account : String) : (readClaim account).Uses IsReading :=
  (uses_readTags account).bind fun tags => Action.uses_lift (uses_observe account tags)

theorem uses_accountsAmong (user : String) (found arns : List String) :
    (accountsAmong user found arns).Uses IsReading := by
  induction arns generalizing found with
  | nil => trivial
  | cons arn rest ih =>
    unfold accountsAmong
    split
    · exact ih _
    · exact ⟨trivial, fun _ => ih _⟩

theorem uses_accountsOf (user : String) : (accountsOf user).Uses IsReading := by
  apply (uses_organization rfl).bind
  intro arns
  split
  · trivial
  · apply (Action.uses_lift (uses_accountsAmong user [] arns)).bind
    intro accounts
    split <;> trivial

end Lending

/-! ## A world that is only read -/

/-- A cloud that differs from another one only in what the journal of the organization has of
requests that change nothing. -/
structure Cloud.HasOnlyRead (before after : Cloud) : Prop where
  state : after.organization.state = before.organization.state
  failing : after.organization.failing = before.organization.failing
  calls : ∃ calls, after.organization.calls = before.organization.calls ++ calls ∧
    ∀ call ∈ calls, call.isMutation = false
  identity : after.identity = before.identity
  iam : after.iam = before.iam

theorem Cloud.HasOnlyRead.refl (cloud : Cloud) : HasOnlyRead cloud cloud :=
  ⟨rfl, rfl, ⟨[], (List.append_nil _).symm, by simp⟩, rfl, rfl⟩

theorem Cloud.HasOnlyRead.trans {before mid after : Cloud} (h : HasOnlyRead before mid)
    (h' : HasOnlyRead mid after) : HasOnlyRead before after := by
  obtain ⟨calls, hcalls, hreading⟩ := h.calls
  obtain ⟨others, hothers, hothersReading⟩ := h'.calls
  refine ⟨h'.state.trans h.state, h'.failing.trans h.failing, ⟨calls ++ others, ?_, ?_⟩,
    h'.identity.trans h.identity, h'.iam.trans h.iam⟩
  · rw [hothers, hcalls, List.append_assoc]
  · intro call hcall
    rcases List.mem_append.1 hcall with hcall | hcall
    · exact hreading call hcall
    · exact hothersReading call hcall

/-- A world that differs from another one only in the log and in a cloud that was only read. -/
structure World.HasOnlyRead (before after : World) : Prop where
  cloud : Cloud.HasOnlyRead before.cloud after.cloud
  host : { after.host with log := [] } = { before.host with log := [] }

theorem World.HasOnlyRead.refl (world : World) : HasOnlyRead world world := ⟨.refl world.cloud, rfl⟩

theorem World.HasOnlyRead.trans {before mid after : World} (h : HasOnlyRead before mid)
    (h' : HasOnlyRead mid after) : HasOnlyRead before after :=
  ⟨h.cloud.trans h'.cloud, h'.host.trans h.host⟩

theorem World.HasOnlyRead.questions {before after : World} (h : HasOnlyRead before after) :
    after.host.questions = before.host.questions := by
  have hhost := congrArg Host.questions h.host
  exact hhost

theorem World.HasOnlyRead.answer {before after : World} (h : HasOnlyRead before after) :
    after.host.answer = before.host.answer := by
  have hhost := congrArg Host.answer h.host
  exact hhost

namespace World

theorem HasOnlyRead.serve {call : Call} (hcall : Lending.IsReading call) (world : World) :
    HasOnlyRead world (World.serve call world).2 := by
  match call, hcall with
  | .cloud (.organization request), hrequest =>
    refine ⟨⟨Organization.state_serve_of_isMutation hrequest _, Organization.failing_serve _ _,
      ⟨[request], Organization.calls_serve request _, ?_⟩, rfl, rfl⟩, rfl⟩
    intro call hcall
    rw [List.mem_singleton.1 hcall]
    exact hrequest
  | .cloud (.identity .caller), _ => exact .refl world
  | .host (.log line), _ => exact ⟨.refl world.cloud, rfl⟩

/-- What only uses reading calls only reads. -/
theorem hasOnlyRead_of_uses {α : Type} {action : Action α} (h : action.Uses Lending.IsReading)
    (world : World) : HasOnlyRead world (world.perform action).2 :=
  perform_keeps h (fun _ now hcall hnow => hnow.trans (.serve hcall now)) (.refl world)

theorem hasOnlyRead_of_perform {α : Type} {action : Action α} {result : Except PoolError α}
    {world after : World} (huses : action.Uses Lending.IsReading)
    (h : world.perform action = (result, after)) : HasOnlyRead world after := by
  have hread := hasOnlyRead_of_uses huses world
  rwa [h] at hread

end World

/-! ## What is read -/

/-- An answer of the organization was not refused, and comes from its members. -/
theorem World.of_perform_organization {request : Organization.Request} {a : request.Answer}
    {world after : World} (h : world.perform (Action.organization request) = (.ok a, after)) :
    world.cloud.organization.fails request.entry = false ∧
      (world.cloud.organization.state.answer request).1 = .ok a := by
  have hreply :
      (Organization.serve request world.cloud.organization).1.mapError PoolError.service = .ok a :=
    congrArg Prod.fst h
  replace hreply := ok_of_mapError hreply
  unfold Organization.serve at hreply
  split at hreply
  · cases hreply
  · rename_i hgranted
    exact ⟨Bool.not_eq_true _ |>.mp hgranted, ok_of_mapError hreply⟩

/-- Asking whose credentials the caller has is answered by what is known of it, and changes
nothing. -/
theorem World.perform_caller {caller : String} {world : World}
    (h : world.cloud.identity.state = .ok caller) :
    world.perform (Action.identity .caller) = (.ok caller, world) := by
  refine Prod.ext ?_ rfl
  show (world.cloud.identity.state.mapError (ServiceError.mk .identity)).mapError
    PoolError.service = _
  rw [h]
  rfl

theorem World.caller_of_perform {caller : String} {world after : World}
    (h : world.perform (Action.identity .caller) = (.ok caller, after)) :
    world.cloud.identity.state = .ok caller := by
  have hreply : (world.cloud.identity.state.mapError (ServiceError.mk .identity)).mapError
      PoolError.service = .ok caller := congrArg Prod.fst h
  exact ok_of_mapError (ok_of_mapError hreply)

namespace Lending

theorem exists_of_perform_readTags {account : String} {tags : Tags} {world after : World}
    (h : world.perform (readTags account) = (.ok tags, after)) :
    ∃ member, world.cloud.organization.state.find? account = some member ∧ member.tags = tags :=
  Organization.exists_of_fromMember ((World.of_perform_organization h).2)

theorem exists_of_perform_readClaim {account : String} {claim : Claim} {world after : World}
    (h : world.perform (readClaim account) = (.ok claim, after)) :
    ∃ member, world.cloud.organization.state.find? account = some member ∧
      member.tags.owner? = claim.owner? := by
  obtain ⟨tags, mid, htags, hobserve⟩ := World.exists_of_perform_bind h
  obtain ⟨member, hmember, rfl⟩ := exists_of_perform_readTags htags
  refine ⟨member, hmember, ?_⟩
  have hclaim : (mid.run (observe account member.tags)).1 = claim := by
    have hresult := congrArg Prod.fst hobserve
    rw [World.perform_lift] at hresult
    exact Except.ok.inj hresult
  rw [← hclaim, ← Claim.owner?_ofTags]
  unfold observe
  split <;> rfl

end Lending

end AccountLending
