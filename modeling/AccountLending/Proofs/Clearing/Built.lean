import AccountLending.Proofs.Clearing.Survivors

/-!
# Accounts that were set up from nothing

The accounts whose roles, policies, users and groups were set up one after the other.  What can be
said of all of them is about their policies: each is stored under the resource name that belongs to
its own name, and has exactly one default version.

* `Iam.IsBuilt` — the accounts that the operations for setting up can come to;
* `Iam.IsBuilt.policy` — what holds of a policy of such an account;
* `Iam.policyArn_injective` — so the policies of an account have different names.
-/

namespace AccountLending

namespace Iam

/-- An account that was set up from nothing, with its own policies named after it. -/
inductive IsBuilt (account : String) : Iam → Prop
  | new : IsBuilt account {}
  | addRole {iam : Iam} (role path : String) (h : IsBuilt account iam) :
    IsBuilt account (iam.addRole role path)
  | attachRolePolicy {iam : Iam} (role arn : String) (h : IsBuilt account iam) :
    IsBuilt account (iam.attachRolePolicy role arn)
  | putRolePolicy {iam : Iam} (role policy : String) (h : IsBuilt account iam) :
    IsBuilt account (iam.putRolePolicy role policy)
  | addPolicy {iam : Iam} (policy : String) (extra : Nat) (h : IsBuilt account iam) :
    IsBuilt account (iam.addPolicy account policy extra)
  | addUser {iam : Iam} (user : String) (h : IsBuilt account iam) :
      IsBuilt account (iam.addUser user)
  | setProfile {iam : Iam} (user : String) (h : IsBuilt account iam) :
      IsBuilt account (iam.setProfile user)
  | addAccessKey {iam : Iam} (user key : String) (h : IsBuilt account iam) :
    IsBuilt account (iam.addAccessKey user key)
  | addCertificate {iam : Iam} (user certificate : String) (h : IsBuilt account iam) :
    IsBuilt account (iam.addCertificate user certificate)
  | putUserPolicy {iam : Iam} (user policy : String) (h : IsBuilt account iam) :
    IsBuilt account (iam.putUserPolicy user policy)
  | attachUserPolicy {iam : Iam} (user arn : String) (h : IsBuilt account iam) :
    IsBuilt account (iam.attachUserPolicy user arn)
  | addToGroup {iam : Iam} (user group : String) (h : IsBuilt account iam) :
    IsBuilt account (iam.addToGroup user group)
  | attachGroupPolicy {iam : Iam} (group arn : String) (h : IsBuilt account iam) :
    IsBuilt account (iam.attachGroupPolicy group arn)

variable {account : String} {iam : Iam}

theorem policyArn_injective (account : String) : Function.Injective (policyArn account) :=
  fun _ _ h => (String.append_right_inj _).1 h

theorem policies_addGroup (iam : Iam) (group : String) :
    (iam.addGroup group).policies = iam.policies := by
  unfold addGroup
  split <;> rfl

/-- A policy of an account that was set up has one default version, and is found under its own
name. -/
theorem IsBuilt.policy (h : iam.IsBuilt account) {arn : String} {policy : Policy}
    (harn : iam.policies.get? arn = some policy) :
    policy.IsSound ∧ arn = policyArn account policy.name := by
  induction h with
  | new => simp at harn
  | addPolicy name extra _ ih =>
    rw [Iam.addPolicy, Dict.get?_insert] at harn
    split at harn
    · rename_i heq
      rw [← Option.some.inj harn]
      exact ⟨isSound_versionsOf name extra, heq⟩
    · exact ih harn
  -- a group may have to be added first, which is no policy either
  | addToGroup user group _ ih => exact ih (policies_addGroup _ group ▸ harn)
  | attachGroupPolicy group arn _ ih => exact ih (policies_addGroup _ group ▸ harn)
  -- nothing else that is set up is a policy
  | addRole role path _ ih => exact ih harn
  | attachRolePolicy role arn _ ih => exact ih harn
  | putRolePolicy role policy _ ih => exact ih harn
  | addUser user _ ih => exact ih harn
  | setProfile user _ ih => exact ih harn
  | addAccessKey user key _ ih => exact ih harn
  | addCertificate user certificate _ ih => exact ih harn
  | putUserPolicy user policy _ ih => exact ih harn
  | attachUserPolicy user arn _ ih => exact ih harn

theorem IsBuilt.isSound (h : iam.IsBuilt account) : iam.IsSound := fun _ _ harn => (h.policy harn).1

end Iam

/-- The account of the two users was set up in that way. -/
theorem isBuilt_crowdWorld :
    (crowdWorld.cloud.iamOf crowdSite.session.accessKey).state.IsBuilt "111122223333" := by
  rw [iamOf_crowdWorld]
  exact .addRole "builder" "/"
    (.attachGroupPolicy "staff" _ (.attachUserPolicy "bob" _ (.addUser "bob"
      (.addAccessKey "alice" "key" (.addUser "alice" (.addPolicy "old" 1 .new))))))

end AccountLending
