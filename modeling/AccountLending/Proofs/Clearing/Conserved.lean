import AccountLending.Proofs.Clearing.Built
import AccountLending.Proofs.Clearing.Size
import AccountLending.Proofs.Following

/-!
# The count of what was deleted

A clearing makes an entry that says deleted for each thing that it has taken away, and for nothing
else.  This holds whatever the account replies; so what the report says was deleted and what is left
are together what was there.

* `Counts` — a program whose value tells how much it took, whatever the replies;
* `counts_clear` — a clearing counts what it takes;
* `Counts.conserves` — such a program leaves as much less in the account as it has counted;
* `World.clear_conserves` — what a report says was deleted is what the account has lost.
-/

namespace AccountLending

namespace Lending

open Iam (Query Removal)

/-- How much a call took from an account's IAM, by the reply to it. -/
def taken : (call : Call) → call.Reply → Nat
  | .cloud (.iam _ request), reply => request.taken reply
  | .cloud (.organization _), _ | .cloud (.identity _), _ | .host _, _ => 0

/-- The protocol of a clearing that keeps a tally: each call is one of its own, and what it took is
added. -/
def Tallies (session : Session) (tally : Nat) (call : Call) (reply : call.Reply)
    (tally' : Nat) : Prop :=
  IsOwnCall session call ∧ tally' = tally + taken call reply

variable {α β : Type} {session : Session} {site : Site} {settings : ReclaimSettings}

/-- A program counts what it takes when a measure of its value is added to the tally, whatever the
replies. -/
def Counts (session : Session) (measure : α → Nat) (program : Engine α) : Prop :=
  ∀ tally, program.Follows (Tallies session) (fun a tally' => tally' = tally + measure a) tally

/-- How many entries say that something was deleted. -/
def deleted (entries : List Artifact) : Nat := entries.countP (·.status.isSucceeded)

theorem add_deleted (tally : Nat) (entries others : List Artifact) :
    tally + deleted entries + deleted others = tally + deleted (entries ++ others) := by
  rw [deleted, deleted, deleted, List.countP_append, Nat.add_assoc]

/-! ## Counting calls -/

variable {ends : β → Nat → Prop} {tally : Nat}

/-- What follows a part that counts starts with what the part has counted. -/
theorem Counts.follows_bind {measure : α → Nat} {program : Engine α} {f : α → Engine β}
    (h : Counts session measure program)
    (hf : ∀ a, (f a).Follows (Tallies session) ends (tally + measure a)) :
    (program.bind f).Follows (Tallies session) ends tally := by
  rw [Program.follows_bind]
  refine (h tally).mono (fun _ _ _ _ => id) fun a tally' heq => ?_
  rw [heq]
  exact hf a

theorem follows_iam {request : Iam.Request} {f : Except ServiceError request.Answer → Engine β}
    (hf : ∀ reply, (f reply).Follows (Tallies session) ends (tally + request.taken reply)) :
    ((Engine.iam session request).bind f).Follows (Tallies session) ends tally :=
  fun reply => ⟨_, ⟨rfl, rfl⟩, hf reply⟩

/-- A listing takes nothing. -/
theorem follows_query {query : Query} {f : Except ServiceError query.Answer → Engine β}
    (hf : ∀ reply, (f reply).Follows (Tallies session) ends tally) :
    ((Engine.iam session (.query query)).bind f).Follows (Tallies session) ends tally :=
  follows_iam hf

/-- An entry by itself takes nothing. -/
theorem follows_note {ends : List Artifact → Nat → Prop} (artifact : Artifact)
    (h : ends [artifact] tally) : (note site artifact).Follows (Tallies session) ends tally :=
  fun _ => ⟨tally, ⟨trivial, rfl⟩, h⟩

theorem counts_note {artifact : Artifact} (h : artifact.status.isSucceeded = false) :
    Counts session deleted (note site artifact) :=
  fun tally => follows_note artifact (by simp [deleted, h])

theorem counts_attempt (target : Target) : Counts site.session deleted (attempt site target) := by
  intro tally
  refine follows_iam fun reply => follows_note _ ?_
  cases reply <;> rfl

/-! ## Counting parts of a clearing -/

theorem counts_nothing : Counts session deleted (pure []) := fun _ => rfl

/-- Two parts one after the other, with their entries joined. -/
theorem Counts.append {act other : Engine (List Artifact)} (hact : Counts session deleted act)
    (hother : Counts session deleted other) :
    Counts session deleted (do return (← act) ++ (← other)) :=
  fun _ => hact.follows_bind fun _ => hother.follows_bind fun _ => add_deleted _ _ _

theorem counts_forEach {act : α → Engine (List Artifact)}
    (h : ∀ item, Counts session deleted (act item))
    (items : List α) : Counts session deleted (forEach act items) := by
  induction items with
  | nil => exact counts_nothing
  | cons item rest ih => exact (h item).append ih

theorem counts_strip (principal : String) (blocked : Option String) (dependents : List Dependents) :
    Counts site.session (fun result => deleted result.1)
      (strip site principal blocked dependents) := by
  induction dependents generalizing blocked with
  | nil => exact fun _ => rfl
  | cons first rest ih =>
    refine fun tally => follows_query fun reply => ?_
    cases reply with
    | ok answer =>
      exact (counts_forEach counts_attempt _).follows_bind fun _ =>
        (ih _).follows_bind fun _ => add_deleted _ _ _
    | error failure =>
      exact (counts_note rfl).follows_bind fun _ => (ih _).follows_bind fun _ => add_deleted _ _ _

theorem counts_removePrincipal (dependents : List Dependents) (target : Target) :
    Counts site.session deleted (removePrincipal site dependents target) := by
  refine fun tally => (counts_strip _ _ _).follows_bind fun (entries, blocked) => ?_
  cases blocked with
  | some reason => exact (counts_note rfl).follows_bind fun _ => add_deleted _ _ _
  | none => exact (counts_attempt target).follows_bind fun _ => add_deleted _ _ _

theorem counts_removeRoles :
    Counts site.session (fun result => deleted result.1) (removeRoles site settings) := by
  refine fun tally => follows_query fun reply => ?_
  cases reply with
  | error failure => exact (counts_note rfl).follows_bind fun _ => rfl
  | ok roles =>
    refine (counts_forEach (fun role => ?_) roles).follows_bind fun _ => rfl
    split
    · exact fun tally _ => ⟨tally, ⟨trivial, rfl⟩, rfl⟩
    · exact counts_removePrincipal _ _

theorem counts_leavePolicy (policy : Iam.PolicySummary) (part reason : String)
    (failure : ServiceError) :
    Counts site.session deleted (leavePolicy site policy part reason failure) :=
  (counts_note rfl).append (counts_note rfl)

theorem counts_deletePolicy (policy : Iam.PolicySummary) :
    Counts site.session deleted (deletePolicy site policy) := by
  refine fun tally => follows_query fun reply => ?_
  cases reply with
  | error failure => exact counts_leavePolicy policy _ _ failure tally
  | ok versions => exact (counts_forEach counts_attempt _).append (counts_attempt _) tally

theorem counts_removePolicy (kept : List String) (policy : Iam.PolicySummary) :
    Counts site.session deleted (removePolicy site settings kept policy) := by
  refine fun tally => follows_query fun reply => ?_
  cases reply with
  | error failure => exact counts_leavePolicy policy _ _ failure tally
  | ok entities =>
    dsimp only
    split
    · exact counts_note rfl tally
    · exact (counts_forEach counts_attempt _).append (counts_deletePolicy policy) tally

theorem counts_removePolicies (kept : List String) :
    Counts site.session deleted (removePolicies site settings kept) := by
  refine fun tally => follows_query fun reply => ?_
  cases reply with
  | error failure => exact counts_note rfl tally
  | ok policies => exact counts_forEach (counts_removePolicy kept) policies tally

/-- A login profile is said to be deleted only if there was one. -/
theorem counts_removeUser (user : String) : Counts site.session deleted (removeUser site user) := by
  refine fun tally => follows_iam fun reply => ?_
  have htaken : Iam.Request.taken (.deleteLoginProfile user) reply =
      deleted [⟨.loginProfile, user, profileStatus reply⟩] := by
    cases reply with
    | error failure => rfl
    | ok had => cases had <;> rfl
  rw [htaken]
  refine fun _ => ⟨_, ⟨trivial, rfl⟩, ?_⟩
  exact (counts_removePrincipal _ _).follows_bind fun _ => add_deleted _ _ _

theorem counts_removeUsers : Counts site.session deleted (removeUsers site) := by
  refine fun tally => follows_query fun reply => ?_
  cases reply with
  | error failure => exact counts_note rfl tally
  | ok users => exact counts_forEach counts_removeUser users tally

/-- A clearing counts what it takes. -/
theorem counts_clear (site : Site) (settings : ReclaimSettings) :
    Counts site.session deleted (clear site settings) := by
  refine fun tally => counts_removeRoles.follows_bind fun (roles, kept) => ?_
  refine (counts_removePolicies kept).follows_bind fun policies => ?_
  refine counts_removeUsers.follows_bind fun users => ?_
  have hboth := add_deleted tally roles policies
  exact (congrArg (· + deleted users) hboth).trans (add_deleted tally (roles ++ policies) users)

/-! ## Counting against an account -/

/-- What a call of a clearing took is what the account of its session has lost. -/
theorem size_serve_own {call : Call} (hcall : IsOwnCall session call) (world : World)
    (hsound : (world.cloud.iamOf session.accessKey).state.IsSound) :
    let before := (world.cloud.iamOf session.accessKey).state
    let after := ((World.serve call world).2.cloud.iamOf session.accessKey).state
    after.IsSound ∧ after.IsWithin before ∧
    after.size + taken call (World.serve call world).1 = before.size := by
  match call, hcall with
  | .cloud (.iam (some _) request), rfl =>
    obtain ⟨hsize, hstill⟩ := Iam.size_serve request hsound
    have hwithin := Iam.isWithin_serve request (world.cloud.iamOf session.accessKey)
    have hafter :
        (World.serve (.cloud (.iam (some session) request)) world).2.cloud.iamOf session.accessKey =
        (Iam.serve request (world.cloud.iamOf session.accessKey)).2 :=
      (Cloud.iamOf_changeIam _ _ _ _).trans (if_pos rfl)
    intro before after
    have hstate : after = (Iam.serve request (world.cloud.iamOf session.accessKey)).2.state :=
      congrArg Journaled.state hafter
    rw [hstate]
    exact ⟨hstill, hwithin, hsize⟩
  | .host (.log line), _ => exact ⟨hsound, .refl _, rfl⟩

/-- What was tallied so far and what is left of an account are together what was there. -/
def Balances (session : Session) (before : Iam) (world : World) (tally : Nat) : Prop :=
  let now := (world.cloud.iamOf session.accessKey).state
  now.IsSound ∧ now.IsWithin before ∧ now.size + tally = before.size

theorem Balances.serve {before : Iam} {now later : World} {tally tally' : Nat} {call : Call}
    {reply : call.Reply} (h : Balances session before now tally)
    (hserve : World.serve call now = (reply, later))
    (hmove : Tallies session tally call reply tally') : Balances session before later tally' := by
  obtain ⟨hsound, hwithin, hsize⟩ := h
  obtain ⟨hcall, rfl⟩ := hmove
  obtain rfl : (World.serve call now).1 = reply := congrArg Prod.fst hserve
  obtain rfl : (World.serve call now).2 = later := congrArg Prod.snd hserve
  obtain ⟨hstill, hless, hlost⟩ := size_serve_own hcall now hsound
  refine ⟨hstill, hwithin.trans hless, ?_⟩
  rw [← Nat.add_assoc, Nat.add_right_comm, hlost, hsize]

/-- In a world a program that counts leaves an account with as much less as it has counted. -/
theorem Counts.conserves {measure : α → Nat} {program : Engine α}
    (h : Counts session measure program) (world : World)
    (hsound : (world.cloud.iamOf session.accessKey).state.IsSound) :
    let before := (world.cloud.iamOf session.accessKey).state
    let run := world.run program
    let after := (run.2.cloud.iamOf session.accessKey).state
    after.IsWithin before ∧ after.size + measure run.1 = before.size := by
  intro before run after
  have hstart : Balances session before world 0 := ⟨hsound, .refl before, rfl⟩
  obtain ⟨tally, ⟨-, hwithin, hsize⟩, htally⟩ := (h 0).keeps
    (fun _ _ _ _ _ _ hnow hserve hmove => hnow.serve hserve hmove) hstart
  rw [htally, Nat.zero_add] at hsize
  exact ⟨hwithin, hsize⟩

end Lending

open Lending

/-- An account that was set up from nothing (`hbuilt`) is cleared.  What the report says was
deleted, and what is left of the account, are together what was there, whatever is registered to
fail.  And nothing is left that was not there. -/
theorem World.clear_conserves (world : World) (site : Site) (settings : ReclaimSettings)
    (owner : Option String) {account : String}
    (hbuilt : (world.cloud.iamOf site.session.accessKey).state.IsBuilt account) :
    let before := (world.cloud.iamOf site.session.accessKey).state
    let run := world.run (clear site settings)
    let after := (run.2.cloud.iamOf site.session.accessKey).state
    let report := (Report.mk site.account owner []).add run.1
    after.IsWithin before ∧ after.size + report.deletedCount = before.size := by
  intro before run after report
  have hcount : report.deletedCount = deleted run.1 := by
    rw [Report.deletedCount_add]
    exact Nat.zero_add _
  rw [hcount]
  exact (counts_clear site settings).conserves world hbuilt.isSound

/-- The account of the two users holds eight things, of which four are deleted. -/
theorem clear_conserves_crowd :
    crowdIam.size = 8 ∧
      ((Report.mk "111122223333" none []).add
        (crowdWorld.run (clear crowdSite {})).1).deletedCount = 4 := by
  have hconserves := (crowdWorld.clear_conserves crowdSite {} none isBuilt_crowdWorld).2
  have hbefore : crowdIam.size = 8 := by decide +kernel
  have hafter : ((crowdWorld.run (clear crowdSite {})).2.cloud.iamOf
      crowdSite.session.accessKey).state.size = 4 := by decide +kernel
  rw [iamOf_crowdWorld, hbefore, hafter] at hconserves
  exact ⟨hbefore, Nat.add_left_cancel hconserves⟩

end AccountLending
