import AccountLending.Proofs.Clearing.Listings
import AccountLending.Proofs.Clearing.Survivors

/-!
# Which requests a clearing makes

The requests of the deeds, written out: for a principal the listing of each column followed by the
removals of its names, for a policy its listings, detachments and old versions, and at the end the
deletion, unless a listing was refused.  So what belongs to one role, policy or user concludes with
its deletion, and these deletions and the listings of the whole account are the landmarks by which
the phases of a clearing can be told.

* `calls_stripDeeds`, `calls_policyDeeds` — the requests for a principal's columns and for a policy;
* `Concludes` — requests none of which is a landmark but the last, which may be a deletion;
* `filter_clearDeeds` — the landmarks of a clearing come in a fixed order, each at most once.
-/

namespace AccountLending

/-- Whether a request deletes a role, a policy or a user, or lists all of them. -/
def Iam.Request.isLandmark : Iam.Request → Bool
  | .query .roles | .query .localPolicies | .query .users => true
  | .remove removal => removal.isFinal
  | _ => false

namespace Lending

open Iam (Query Removal PolicySummary PolicyEntities VersionSummary)

variable {ρ : Type} {failing : NameSet} {iam : Iam} {settings : ReclaimSettings}
  {deletion : Removal}

/-! ## Requests that conclude with a deletion -/

/-- None of the requests is a landmark, but for a deletion that may be the last one. -/
def Concludes (deletion : Removal) (calls : List Iam.Request) : Prop :=
  ∃ earlier, (∀ request ∈ earlier, request.isLandmark = false) ∧
    (calls = earlier ∨ calls = earlier ++ [.remove deletion])

namespace Concludes

variable {calls : List Iam.Request} {request : Iam.Request}

/-- Of the landmarks only the deletion is among the requests. -/
theorem filter_sublist (h : Concludes deletion calls) :
    (calls.filter Iam.Request.isLandmark).Sublist [.remove deletion] := by
  obtain ⟨earlier, hearlier, hcalls⟩ := h
  have hnone : earlier.filter Iam.Request.isLandmark = [] :=
    List.filter_eq_nil_iff.2 fun other hother =>
      by rw [hearlier other hother]; exact Bool.false_ne_true
  rcases hcalls with rfl | rfl
  · rw [hnone]
    exact List.nil_sublist _
  · rw [List.filter_append, hnone, List.nil_append]
    exact List.filter_sublist

theorem eq_of_mem (h : Concludes deletion calls) {other : Removal} (hfinal : other.isFinal = true)
    (hmem : .remove other ∈ calls) : other = deletion := by
  have hlandmark := h.filter_sublist.subset (List.mem_filter.2 ⟨hmem, hfinal⟩)
  simpa using hlandmark

/-- A request that is made whenever the deletion is, is made before it. -/
theorem precedes (h : Concludes deletion calls) (hrequest : request.isLandmark = false)
    (hfinal : deletion.isFinal = true) (hdue : .remove deletion ∈ calls → request ∈ calls) :
    Precedes (· = request) (· = .remove deletion) calls := by
  obtain ⟨earlier, hearlier, hcalls⟩ := h
  have hnot : ∀ other ∈ earlier, other ≠ .remove deletion := by
    rintro other hother rfl
    exact absurd ((hearlier _ hother).symm.trans hfinal) Bool.false_ne_true
  rcases hcalls with rfl | rfl
  · exact .of_forall_not hnot
  · have hmem : request ∈ earlier := by
      rcases List.mem_append.1 (hdue (by simp)) with hmem | hmem
      · exact hmem
      · rw [List.mem_singleton.1 hmem] at hrequest
        exact absurd (hrequest.symm.trans hfinal) Bool.false_ne_true
    exact .append_of_mem hnot hmem rfl

end Concludes

/-! ## Principals -/

/-- The requests for the columns of a principal, as far as they can be listed. -/
theorem calls_stripDeeds (failing : NameSet) (principal : String) {columns : List (Column ρ)}
    (hdisjoint : AreDisjoint columns) (x : ρ) :
    Deed.calls (stripDeeds failing principal columns x) = columns.flatMap fun column =>
      .query column.dependents.query :: if column.isUnlisted failing then []
        else (column.names x).keys.map fun name => .remove (column.target name).removal := by
  induction columns generalizing x with
  | nil => rfl
  | cons column rest ih =>
    obtain ⟨hcolumn, hdisjoint⟩ := List.pairwise_cons.1 hdisjoint
    -- what is left of one column does not change the names of the others
    have hrest : ∀ other ∈ rest, other.names (column.left failing x) = other.names x :=
      fun other hother => (hcolumn other hother _ x).2
    have hdeeds : Deed.calls (column.deeds failing principal x) =
        .query column.dependents.query :: if column.isUnlisted failing then []
          else (column.names x).keys.map fun name => .remove (column.target name).removal := by
      unfold Column.deeds
      split
      · rfl
      · simp [Deed.calls, Deed.call?, List.filterMap_map, Function.comp_def]
    rw [stripDeeds, Deed.calls_append, hdeeds, ih hdisjoint, List.flatMap_cons]
    refine congrArg (_ ++ ·) (List.flatMap_congr fun other hother => ?_)
    rw [hrest other hother]

namespace Principal

variable {principal : Principal ρ}

/-- The requests for a principal end with its deletion, unless it is blocked. -/
theorem calls_deeds (failing : NameSet) (principal : Principal ρ) (x : ρ) :
    Deed.calls (principal.deeds failing x) =
      Deed.calls (stripDeeds failing principal.target.name principal.columns x) ++
        if principal.isBlocked failing then [] else [.remove principal.target.removal] := by
  have hsome := isSome_blockedBy failing none principal.columns
  rw [Option.isSome_none, Bool.false_or, ← isBlocked] at hsome
  rw [deeds, Deed.calls_append, lastDeed, ← hsome]
  cases blockedBy failing none principal.columns <;> rfl

/-- The dependents of a principal are listed and removed by requests that are no landmarks. -/
def IsPlain (principal : Principal ρ) : Prop :=
  ∀ column ∈ principal.columns, (Iam.Request.query column.dependents.query).isLandmark = false ∧
    ∀ name, (column.target name).removal.isFinal = false

variable (hplain : principal.IsPlain) (hdisjoint : AreDisjoint principal.columns)
include hplain hdisjoint

theorem isLandmark_stripDeeds (failing : NameSet) (name : String) (x : ρ) :
    ∀ request ∈ Deed.calls (stripDeeds failing name principal.columns x),
      request.isLandmark = false := by
  intro request hrequest
  rw [calls_stripDeeds failing _ hdisjoint] at hrequest
  obtain ⟨column, hcolumn, hrequest⟩ := List.mem_flatMap.1 hrequest
  obtain ⟨hquery, htarget⟩ := hplain column hcolumn
  rcases List.mem_cons.1 hrequest with rfl | hrequest
  · exact hquery
  split at hrequest
  · exact absurd hrequest List.not_mem_nil
  · obtain ⟨name, -, rfl⟩ := List.mem_map.1 hrequest
    exact htarget name

theorem concludes (failing : NameSet) (x : ρ) :
    Concludes principal.target.removal (Deed.calls (principal.deeds failing x)) := by
  refine ⟨_, isLandmark_stripDeeds hplain hdisjoint failing principal.target.name x, ?_⟩
  rw [calls_deeds]
  split
  · exact .inl (List.append_nil _)
  · exact .inr rfl

/-- A principal that is deleted is not blocked, so the removal of each of its dependents was
requested too. -/
theorem mem_calls_deeds {x : ρ} (hfinal : principal.target.removal.isFinal = true)
    (hdeleted : .remove principal.target.removal ∈ Deed.calls (principal.deeds failing x))
    {column : Column ρ} (hcolumn : column ∈ principal.columns) {name : String}
    (hname : (column.names x).contains name = true) :
    .remove (column.target name).removal ∈ Deed.calls (principal.deeds failing x) := by
  have hlisted : column.isUnlisted failing = false := by
    cases hblocked : principal.isBlocked failing with
    | false =>
      simp only [isBlocked, List.any_eq_false] at hblocked
      exact Bool.not_eq_true _ |>.mp (hblocked column hcolumn)
    | true =>
      rw [calls_deeds, hblocked, if_pos rfl, List.append_nil] at hdeleted
      have hlandmark := isLandmark_stripDeeds hplain hdisjoint failing _ x _ hdeleted
      exact absurd (hlandmark.symm.trans hfinal) Bool.false_ne_true
  rw [calls_deeds, calls_stripDeeds failing _ hdisjoint]
  refine List.mem_append_left _ (List.mem_flatMap.2 ⟨column, hcolumn, List.mem_cons_of_mem _ ?_⟩)
  rw [if_neg (by rw [hlisted]; exact Bool.false_ne_true)]
  exact List.mem_map_of_mem ((NameSet.mem_keys_iff _ _).2 hname)

end Principal

theorem isPlain_rolePrincipal (role : String) : (rolePrincipal role).IsPlain := by
  intro column hcolumn
  simp only [rolePrincipal, List.mem_cons, List.not_mem_nil, or_false] at hcolumn
  rcases hcolumn with rfl | rfl <;> exact ⟨rfl, fun _ => rfl⟩

theorem isPlain_userPrincipal (user : String) : (userPrincipal user).IsPlain := by
  intro column hcolumn
  simp only [userPrincipal, List.mem_cons, List.not_mem_nil, or_false] at hcolumn
  rcases hcolumn with rfl | rfl | rfl | rfl | rfl <;> exact ⟨rfl, fun _ => rfl⟩

theorem concludes_roleDeeds (failing : NameSet) (settings : ReclaimSettings) (role : String)
    (content : Iam.Role) :
    Concludes (.deleteRole role) (Deed.calls (roleDeeds failing settings role content)) := by
  unfold roleDeeds
  split
  · exact ⟨[], by simp, .inl rfl⟩
  · exact Principal.concludes (isPlain_rolePrincipal role) (disjoint_rolePrincipal role)
      failing content

theorem concludes_userDeeds (failing : NameSet) (user : String) (content : Iam.User) :
    Concludes (.deleteUser user) (Deed.calls (userDeeds failing user content)) := by
  obtain ⟨earlier, hearlier, hcalls⟩ := Principal.concludes (isPlain_userPrincipal user)
    (disjoint_userPrincipal user) failing (profileLeft failing user content)
  have hprofile : Deed.calls (userDeeds failing user content) = .deleteLoginProfile user ::
      Deed.calls ((userPrincipal user).deeds failing (profileLeft failing user content)) := rfl
  refine ⟨.deleteLoginProfile user :: earlier, List.forall_mem_cons.2 ⟨rfl, hearlier⟩, ?_⟩
  rw [hprofile]
  exact hcalls.imp (congrArg _) (congrArg _)

/-! ## Policies -/

theorem calls_attachmentDeeds (failing : NameSet) (policy : PolicySummary)
    (entities : PolicyEntities) :
    Deed.calls (attachmentDeeds failing policy entities) =
      (attachments policy entities).map fun target => .remove target.removal := by
  simp [attachmentDeeds, Deed.calls, Deed.call?, List.filterMap_map, Function.comp_def]

theorem calls_versionDeeds (failing : NameSet) (policy : PolicySummary)
    (versions : List VersionSummary) (content : Iam.Policy) :
    Deed.calls (versionDeeds failing policy versions content) =
      versions.map fun version => .remove (.deleteVersion policy.arn version.id) := by
  induction versions generalizing content with
  | nil => rfl
  | cons version rest ih => exact congrArg (_ :: ·) (ih _)

theorem calls_deletionDeeds (failing : NameSet) (policy : PolicySummary) (isReleased : Bool)
    (content : Iam.Policy) : Deed.calls (deletionDeeds failing policy isReleased content) =
      .query (.policyVersions policy.arn) ::
        if refused failing (.query (.policyVersions policy.arn)) then []
        else (oldOf content).map (fun version => .remove (.deleteVersion policy.arn version.id))
          ++ [.remove (.deletePolicy policy.arn)] := by
  unfold deletionDeeds
  split
  · rfl
  · rw [← calls_versionDeeds failing policy (oldOf content) content]
    exact congrArg (_ :: ·) (Deed.calls_append _ _)

/-- The requests for a policy: when it is reached it is detached, and when its versions can be
listed the old ones and then the policy itself are deleted. -/
theorem calls_policyDeeds (failing : NameSet) (settings : ReclaimSettings) (kept : List String)
    (iam : Iam) (policy : PolicySummary) (content : Iam.Policy) :
    Deed.calls (policyDeeds failing settings kept iam policy content) =
      .query (.policyEntities policy.arn) :: if isReached failing settings kept iam policy.arn then
        (attachments policy (iam.entities policy.arn)).map (fun target => .remove target.removal)
          ++ .query (.policyVersions policy.arn) ::
            if refused failing (.query (.policyVersions policy.arn)) then []
            else (oldOf content).map (fun version => .remove (.deleteVersion policy.arn version.id))
              ++ [.remove (.deletePolicy policy.arn)]
      else [] := by
  unfold policyDeeds isReached
  cases refused failing (.query (.policyEntities policy.arn)) with
  | true => rfl
  | false =>
    cases protector? settings kept (iam.entities policy.arn) with
    | some protector => rfl
    | none =>
      rw [← calls_attachmentDeeds failing, ← calls_deletionDeeds failing policy
        (isReleased failing policy (iam.entities policy.arn)) content]
      exact congrArg (_ :: ·) (Deed.calls_append _ _)

theorem concludes_policyDeeds (failing : NameSet) (settings : ReclaimSettings) (kept : List String)
    (iam : Iam) (policy : PolicySummary) (content : Iam.Policy) :
    Concludes (.deletePolicy policy.arn)
      (Deed.calls (policyDeeds failing settings kept iam policy content)) := by
  let listed : Iam.Request := .query (.policyEntities policy.arn)
  let detached : List Iam.Request :=
    (attachments policy (iam.entities policy.arn)).map fun target => .remove target.removal
  let trimmed : List Iam.Request :=
    (oldOf content).map fun version => .remove (.deleteVersion policy.arn version.id)
  have hdetached : ∀ request ∈ detached, request.isLandmark = false := by
    intro request hrequest
    obtain ⟨target, htarget, rfl⟩ := List.mem_map.1 hrequest
    exact isFinal_of_mem_attachments htarget
  have htrimmed : ∀ request ∈ trimmed, request.isLandmark = false := by
    intro request hrequest
    obtain ⟨version, -, rfl⟩ := List.mem_map.1 hrequest
    rfl
  rw [calls_policyDeeds]
  split
  swap
  · exact ⟨[listed], by simp [listed, Iam.Request.isLandmark], .inl rfl⟩
  split
  · refine ⟨listed :: (detached ++ [.query (.policyVersions policy.arn)]), ?_, .inl rfl⟩
    simpa [listed, Iam.Request.isLandmark, or_imp, forall_and] using hdetached
  · refine ⟨listed :: (detached ++ .query (.policyVersions policy.arn) :: trimmed), ?_, .inr ?_⟩
    · simp [listed, Iam.Request.isLandmark, or_imp, forall_and]
      exact ⟨hdetached, htrimmed⟩
    · simp [listed, detached, trimmed]

/-! ## Phases -/

/-- What was listed of all roles, all policies or all users. -/
def listedOf {α : Type} (failing : NameSet) (all : Query) (items : List α) : List α :=
  if refused failing (.query all) then [] else items

theorem listedOf_sublist {α : Type} (failing : NameSet) (all : Query) (items : List α) :
    (listedOf failing all items).Sublist items := by
  unfold listedOf
  split
  · exact List.nil_sublist items
  · exact .refl items

/-- The requests of a phase: all items are listed, and what was listed is dealt with one after the
other. -/
theorem calls_phase {α : Type} (failing : NameSet) (all : Query) (name : String) (items : List α)
    (deeds : α → List Deed) :
    Deed.calls (if refused failing (.query all) then [.unlisted all name]
      else .listed all :: items.flatMap deeds) =
        .query all :: (listedOf failing all items).flatMap fun item => Deed.calls (deeds item) := by
  unfold listedOf
  split
  · rfl
  · exact congrArg (_ :: ·) List.filterMap_flatMap

theorem calls_rolesDeeds (failing : NameSet) (settings : ReclaimSettings) (roles : Dict Iam.Role) :
    Deed.calls (rolesDeeds failing settings roles) =
      .query .roles :: (listedOf failing .roles roles.entries).flatMap fun e =>
        Deed.calls (roleDeeds failing settings e.1 e.2) :=
  calls_phase _ _ _ _ _

theorem calls_policiesDeeds (failing : NameSet) (settings : ReclaimSettings) (kept : List String)
    (iam : Iam) :
    Deed.calls (policiesDeeds failing settings kept iam) =
      .query .localPolicies ::
        (listedOf failing .localPolicies iam.policies.entries).flatMap fun e =>
        Deed.calls (policyDeeds failing settings kept iam ⟨e.2.name, e.1⟩ e.2) :=
  calls_phase _ _ _ _ _

theorem calls_usersDeeds (failing : NameSet) (users : Dict Iam.User) :
    Deed.calls (usersDeeds failing users) =
      .query .users :: (listedOf failing .users users.entries).flatMap fun e =>
        Deed.calls (userDeeds failing e.1 e.2) :=
  calls_phase _ _ _ _ _

/-- When each item's requests conclude with its deletion, the landmarks of a phase are its listing
and then deletions of different items. -/
theorem filter_phase {α : Type} {all : Query} (hall : (Iam.Request.query all).isLandmark = true)
    {listed items : List α} (hlisted : listed.Sublist items) {calls : α → List Iam.Request}
    {deletion : α → Removal} (h : ∀ item, Concludes (deletion item) (calls item)) :
    ((.query all :: listed.flatMap calls).filter Iam.Request.isLandmark).Sublist
      (.query all :: items.map fun item => .remove (deletion item)) := by
  rw [List.filter_cons_of_pos hall]
  refine List.Sublist.cons_cons _ (List.Sublist.trans ?_ (hlisted.map _))
  rw [List.filter_flatMap, List.map_eq_flatMap]
  clear hlisted
  induction listed with
  | nil => exact .refl _
  | cons item rest ih => exact (h item).filter_sublist.append ih

/-- The listings and deletions by which the phases of a clearing can be told, in their order. -/
def landmarks (iam : Iam) : List Iam.Request :=
  (.query .roles :: iam.roles.keys.map fun role => .remove (.deleteRole role))
    ++ (.query .localPolicies :: iam.policies.keys.map fun arn => .remove (.deletePolicy arn))
    ++ .query .users :: iam.users.keys.map fun user => .remove (.deleteUser user)

theorem filter_rolesDeeds (failing : NameSet) (settings : ReclaimSettings) (roles : Dict Iam.Role) :
    ((Deed.calls (rolesDeeds failing settings roles)).filter Iam.Request.isLandmark).Sublist
      (.query .roles :: roles.keys.map fun role => .remove (.deleteRole role)) := by
  rw [calls_rolesDeeds, Dict.keys, List.map_map]
  exact filter_phase rfl (listedOf_sublist _ _ _) fun e =>
    concludes_roleDeeds failing settings e.1 e.2

theorem filter_policiesDeeds (failing : NameSet) (settings : ReclaimSettings) (kept : List String)
    (iam : Iam) :
    ((Deed.calls (policiesDeeds failing settings kept iam)).filter Iam.Request.isLandmark).Sublist
      (.query .localPolicies :: iam.policies.keys.map fun arn => .remove (.deletePolicy arn)) := by
  rw [calls_policiesDeeds, Dict.keys, List.map_map]
  exact filter_phase rfl (listedOf_sublist _ _ _) fun e =>
    concludes_policyDeeds failing settings kept iam ⟨e.2.name, e.1⟩ e.2

theorem filter_usersDeeds (failing : NameSet) (users : Dict Iam.User) :
    ((Deed.calls (usersDeeds failing users)).filter Iam.Request.isLandmark).Sublist
      (.query .users :: users.keys.map fun user => .remove (.deleteUser user)) := by
  rw [calls_usersDeeds, Dict.keys, List.map_map]
  exact filter_phase rfl (listedOf_sublist _ _ _) fun e => concludes_userDeeds failing e.1 e.2

/-- The landmarks of a clearing come in the order of its phases. -/
theorem filter_clearDeeds (failing : NameSet) (settings : ReclaimSettings) (iam : Iam) :
    ((Deed.calls (clearDeeds failing settings iam)).filter Iam.Request.isLandmark).Sublist
      (landmarks iam) := by
  have husers : (afterPolicies failing settings iam).users.keys = iam.users.keys := by
    show (userHolder.after failing _ iam.users).keys = _
    rw [Holder.after, Dict.keys, Dict.entries_each, List.map_map]
    rfl
  rw [clearDeeds, Deed.calls_append, Deed.calls_append, List.filter_append,
    List.filter_append, landmarks, ← husers]
  exact ((filter_rolesDeeds failing settings iam.roles).append
    (filter_policiesDeeds failing settings _ (afterRoles failing settings iam))).append
      (filter_usersDeeds failing _)

theorem nodup_landmarks (iam : Iam) : (landmarks iam).Nodup := by
  have hmap : ∀ (names : List String) {deletion : String → Removal}, names.Nodup →
      Function.Injective deletion →
      (names.map fun name => Iam.Request.remove (deletion name)).Nodup :=
    fun _ _ hnodup hinjective => hnodup.map fun _ _ heq => hinjective (Iam.Request.remove.inj heq)
  have hroles := hmap iam.roles.keys (Dict.nodup_keys _) fun _ _ => Removal.deleteRole.inj
  have hpolicies := hmap iam.policies.keys (Dict.nodup_keys _) fun _ _ => Removal.deletePolicy.inj
  have husers := hmap iam.users.keys (Dict.nodup_keys _) fun _ _ => Removal.deleteUser.inj
  rw [landmarks, List.nodup_append, List.nodup_append, List.nodup_cons, List.nodup_cons,
    List.nodup_cons]
  refine ⟨⟨⟨by simp, hroles⟩, ⟨by simp, hpolicies⟩, by simp⟩, ⟨by simp, husers⟩, ?_⟩
  simp only [List.mem_append, List.mem_cons, List.mem_map]
  grind

end Lending

end AccountLending
