import AccountLending.Proofs.Clearing.Built

/-!
# What the entries of a clearing say

Every role, policy and user that a clearing deals with has one entry of its own, which comes after
those of what depended on it and says whether it is gone.  These entries, and those of the listings
of all roles, all policies and all users, are the landmarks of a report; they can be told from the
account beforehand.

* `Principal.verdict`, `policyVerdict` — what the entry of a principal and of a policy says;
* `filter_entries_clearDeeds` — the landmarks of a report, in the order of the phases;
* `Accounts` — each artifact of a kind has exactly one entry, and it says truly whether the artifact
  is gone;
* `World.clear_entries` — the report of a clearing accounts for the users, the roles that are not
  protected, and the policies.
-/

namespace AccountLending

/-- Whether an entry is about a role, a policy or a user itself, or about the listing of all of
them. -/
def Artifact.isLandmark (artifact : Artifact) : Bool :=
  match artifact.kind with
  | .role | .policy | .user => true
  | .listing => !artifact.name.toList.contains '/'
  | _ => false

/-- The listings of a principal's or policy's parts have its name and a slash in front. -/
theorem Artifact.isLandmark_listing (name part : String) (status : Artifact.Status) :
    (Artifact.mk .listing (name ++ "/" ++ part) status).isLandmark = false := by
  simp [isLandmark]

namespace Lending

open Iam (Query Removal PolicySummary PolicyEntities VersionSummary)

variable {ρ : Type} {failing : NameSet} {iam : Iam} {settings : ReclaimSettings}
  {kept : List String}

/-! ## Principals -/

theorem statusOf_eq_succeeded_iff (reply : Except ServiceError Unit) :
    statusOf reply = .succeeded ↔ reply = .ok () := by
  cases reply <;> simp [statusOf]

theorem statusOf_ne_skipped (reply : Except ServiceError Unit) (reason : String) :
    statusOf reply ≠ .skipped reason := by
  cases reply <;> simp [statusOf]

/-- The report says of each column that cannot be listed that it cannot. -/
theorem unlisted_mem_stripDeeds {columns : List (Column ρ)} {column : Column ρ}
    (hcolumn : column ∈ columns) (hunlisted : column.isUnlisted failing = true)
    (principal : String) (x : ρ) :
    .unlisted column.dependents.query (principal ++ "/" ++ column.dependents.words) ∈
      stripDeeds failing principal columns x := by
  induction columns generalizing x with
  | nil => simp at hcolumn
  | cons first rest ih =>
    rw [stripDeeds, List.mem_append]
    rcases List.mem_cons.1 hcolumn with rfl | hcolumn
    · rw [Column.deeds_of_isUnlisted hunlisted]
      exact .inl (List.mem_singleton_self _)
    · exact .inr (ih hcolumn _)

/-- The entries of the dependents of a principal are no landmarks. -/
theorem filter_entries_stripDeeds (failing : NameSet) (principal : String)
    {columns : List (Column ρ)} (hkind : ∀ column ∈ columns, ∀ name status,
      (Artifact.mk (column.target name).kind (column.target name).name status).isLandmark = false)
    (x : ρ) :
    (Deed.entries (stripDeeds failing principal columns x)).filter Artifact.isLandmark = [] := by
  induction columns generalizing x with
  | nil => rfl
  | cons column rest ih =>
    have hrest := ih (fun other hother => hkind other (List.mem_cons_of_mem _ hother))
      (column.left failing x)
    rw [stripDeeds, Deed.entries_append, List.filter_append, hrest, List.append_nil, Column.deeds]
    split
    · simp [Deed.entries, Deed.entry?, Artifact.isLandmark_listing]
    · simp [Deed.entries, Deed.entry?, hkind column List.mem_cons_self]

namespace Principal

variable {principal : Principal ρ}

/-- What becomes of a principal. -/
def verdict (failing : NameSet) (principal : Principal ρ) (x : ρ) : Artifact.Status :=
  match blockedBy failing none principal.columns with
  | some reason => .skipped reason
  | none => statusOf (principal.deletion failing (stripLeft failing principal.columns x))

theorem entry?_lastDeed (failing : NameSet) (principal : Principal ρ) (x : ρ) :
    Deed.entry? (principal.lastDeed failing x) =
      some ⟨principal.target.kind, principal.target.name, principal.verdict failing x⟩ := by
  unfold lastDeed verdict
  cases blockedBy failing none principal.columns <;> rfl

theorem isSome_blockedBy_eq (failing : NameSet) (principal : Principal ρ) :
    (blockedBy failing none principal.columns).isSome = principal.isBlocked failing := by
  rw [isSome_blockedBy, Option.isSome_none, Bool.false_or, isBlocked]

/-- A principal is said to be deleted exactly when nothing is left of it. -/
theorem verdict_eq_succeeded_iff (failing : NameSet) (principal : Principal ρ) (x : ρ) :
    principal.verdict failing x = .succeeded ↔ principal.left failing x = none := by
  have hblocked := isSome_blockedBy_eq failing principal
  unfold verdict left deletion granted
  cases hreason : blockedBy failing none principal.columns with
  | some reason =>
    rw [hreason, Option.isSome_some] at hblocked
    simp [← hblocked]
  | none =>
    rw [hreason, Option.isSome_none] at hblocked
    simp only [statusOf_eq_succeeded_iff, ← hblocked, Bool.false_or]
    cases principal.isBare (stripLeft failing principal.columns x) <;>
      cases refused failing (.remove principal.target.removal) <;> simp

/-- A principal is only passed over when one of its columns cannot be listed, and the report says
so. -/
theorem unlisted_of_verdict {x : ρ} {reason : String}
    (h : principal.verdict failing x = .skipped reason) :
    ∃ column ∈ principal.columns, column.isUnlisted failing = true ∧
      .unlisted column.dependents.query (principal.target.name ++ "/" ++ column.dependents.words) ∈
        principal.deeds failing x := by
  have hblocked : principal.isBlocked failing = true := by
    rw [← isSome_blockedBy_eq]
    unfold verdict at h
    split at h
    · rename_i hreason
      rw [hreason, Option.isSome_some]
    · exact absurd h (statusOf_ne_skipped _ _)
  obtain ⟨column, hcolumn, hunlisted⟩ := List.any_eq_true.1 hblocked
  exact ⟨column, hcolumn, hunlisted,
    List.mem_append_left _ (unlisted_mem_stripDeeds hcolumn hunlisted principal.target.name x)⟩

/-- The dependents of a principal are no landmarks, but the principal itself is one. -/
structure IsMarked (principal : Principal ρ) : Prop where
  columns : ∀ column ∈ principal.columns, ∀ name status,
    (Artifact.mk (column.target name).kind (column.target name).name status).isLandmark = false
  target :
    ∀ status, (Artifact.mk principal.target.kind principal.target.name status).isLandmark = true

/-- Of the entries of a principal only its own is a landmark. -/
theorem filter_entries (h : principal.IsMarked) (failing : NameSet) (x : ρ) :
    (Deed.entries (principal.deeds failing x)).filter Artifact.isLandmark =
      [⟨principal.target.kind, principal.target.name, principal.verdict failing x⟩] := by
  have hlast : Deed.entries [principal.lastDeed failing x] =
      [⟨principal.target.kind, principal.target.name, principal.verdict failing x⟩] := by
    simp [Deed.entries, entry?_lastDeed]
  rw [deeds, Deed.entries_append, List.filter_append,
    filter_entries_stripDeeds failing _ h.columns, hlast,
    List.nil_append, List.filter_cons_of_pos (h.target _), List.filter_nil]

end Principal

theorem isMarked_rolePrincipal (role : String) : (rolePrincipal role).IsMarked where
  columns := by simp [rolePrincipal, roleAttached, roleInline, Artifact.isLandmark]
  target _ := rfl

theorem isMarked_userPrincipal (user : String) : (userPrincipal user).IsMarked where
  columns := by
    simp [userPrincipal, userKeys, userCertificates, userInline, userAttached, userGroups,
      Artifact.isLandmark]
  target _ := rfl

/-! ## Policies -/

/-- What becomes of a policy that is to be deleted. -/
def deletionVerdict (failing : NameSet) (policy : PolicySummary) (isReleased : Bool)
    (content : Iam.Policy) : Artifact.Status :=
  if refused failing (.query (.policyVersions policy.arn)) then
    .skipped "could not list policy versions"
  else statusOf
    (policyDeletion failing policy isReleased
      (versionsLeft failing policy.arn (oldOf content) content))

/-- What becomes of a policy. -/
def policyVerdict (failing : NameSet) (settings : ReclaimSettings) (kept : List String) (iam : Iam)
    (policy : PolicySummary) (content : Iam.Policy) : Artifact.Status :=
  if refused failing (.query (.policyEntities policy.arn)) then
    .skipped "could not list attached entities"
  else match protector? settings kept (iam.entities policy.arn) with
    | some role => .skipped ("attached to protected role " ++ role)
    | none =>
      deletionVerdict failing policy (isReleased failing policy (iam.entities policy.arn)) content

/-- The listings of the parts of a policy, with the words for what is listed. -/
def policyListings (arn : String) : List (String × Query) :=
  [("entities", .policyEntities arn), ("versions", .policyVersions arn)]

theorem deletionVerdict_eq_succeeded_iff (failing : NameSet) (policy : PolicySummary)
    (isReleased : Bool) (content : Iam.Policy) :
    deletionVerdict failing policy isReleased content = .succeeded ↔
      deletionLeft failing policy isReleased content = none := by
  unfold deletionVerdict deletionLeft
  split
  · simp
  · rw [statusOf_eq_succeeded_iff]
    dsimp only
    split <;> rename_i hreply <;> simp [hreply]

/-- A policy is said to be deleted exactly when it is reached and nothing is left of it. -/
theorem policyVerdict_eq_succeeded_iff (policy : PolicySummary) (content : Iam.Policy) :
    policyVerdict failing settings kept iam policy content = .succeeded ↔
      isReached failing settings kept iam policy.arn = true ∧
        policyLeft failing iam policy content = none := by
  unfold policyVerdict isReached policyLeft
  cases refused failing (.query (.policyEntities policy.arn)) with
  | true => simp
  | false =>
    cases protector? settings kept (iam.entities policy.arn) with
    | some role => simp
    | none => simp [deletionVerdict_eq_succeeded_iff]

/-- Of the entries of a deletion only that of the policy itself is a landmark. -/
theorem filter_entries_deletionDeeds (failing : NameSet) (policy : PolicySummary)
    (isReleased : Bool) (content : Iam.Policy) :
    (Deed.entries (deletionDeeds failing policy isReleased content)).filter Artifact.isLandmark =
      [⟨.policy, policy.name, deletionVerdict failing policy isReleased content⟩] := by
  have hversions : ∀ olds content, (Deed.entries (versionDeeds failing policy olds content)).filter
      Artifact.isLandmark = [] := by
    intro olds
    induction olds with
    | nil => exact fun _ => rfl
    | cons version rest ih => exact fun _ => ih _
  unfold deletionDeeds deletionVerdict
  cases refused failing (.query (.policyVersions policy.arn)) with
  | true =>
    have hlisting := Artifact.isLandmark_listing policy.name "versions"
    simp [Deed.entries, Deed.entry?, hlisting]
    rfl
  | false =>
    rw [if_neg Bool.false_ne_true, if_neg Bool.false_ne_true, ← List.singleton_append,
      Deed.entries_append, Deed.entries_append, List.filter_append, List.filter_append, hversions]
    rfl

/-- Of the entries of a policy only its own is a landmark. -/
theorem filter_entries_policyDeeds (failing : NameSet) (settings : ReclaimSettings)
    (kept : List String) (iam : Iam) (policy : PolicySummary) (content : Iam.Policy) :
    (Deed.entries (policyDeeds failing settings kept iam policy content)).filter
      Artifact.isLandmark =
      [⟨.policy, policy.name, policyVerdict failing settings kept iam policy content⟩] := by
  have hattachments :
      (Deed.entries (attachmentDeeds failing policy (iam.entities policy.arn))).filter
        Artifact.isLandmark = [] := by
    simp [attachmentDeeds, attachments, Deed.entries, Deed.entry?, Artifact.isLandmark]
  unfold policyDeeds policyVerdict
  cases refused failing (.query (.policyEntities policy.arn)) with
  | true =>
    have hlisting := Artifact.isLandmark_listing policy.name "entities"
    simp [Deed.entries, Deed.entry?, hlisting]
    rfl
  | false =>
    cases protector? settings kept (iam.entities policy.arn) with
    | some role => rfl
    | none =>
      rw [if_neg Bool.false_ne_true, if_neg Bool.false_ne_true, ← List.singleton_append,
        Deed.entries_append, Deed.entries_append, List.filter_append, List.filter_append,
        hattachments]
      exact filter_entries_deletionDeeds failing policy _ content

/-- A policy is only passed over when it is attached to a role that is known to be protected, or one
of its listings is refused, and the report says so. -/
theorem unlisted_of_policyVerdict {policy : PolicySummary} {content : Iam.Policy} {reason : String}
    (h : policyVerdict failing settings kept iam policy content = .skipped reason) :
    (∃ role, protector? settings kept (iam.entities policy.arn) = some role ∧
        reason = "attached to protected role " ++ role) ∨
      ∃ part ∈ policyListings policy.arn, refused failing (.query part.2) = true ∧
        .unlisted part.2 (policy.name ++ "/" ++ part.1) ∈
          policyDeeds failing settings kept iam policy content := by
  unfold policyVerdict at h
  unfold policyDeeds
  cases hentities : refused failing (.query (.policyEntities policy.arn)) with
  | true => exact .inr ⟨("entities", _), by simp [policyListings], hentities, by simp⟩
  | false =>
    rw [hentities, if_neg Bool.false_ne_true] at h
    cases hprotector : protector? settings kept (iam.entities policy.arn) with
    | some role =>
      rw [hprotector] at h
      exact .inl ⟨role, rfl, (Artifact.Status.skipped.inj h).symm⟩
    | none =>
      rw [hprotector] at h
      simp only [deletionVerdict] at h
      cases hversions : refused failing (.query (.policyVersions policy.arn)) with
      | true =>
        exact .inr ⟨("versions", _), by simp [policyListings], hversions, by simp [deletionDeeds,
          hversions]⟩
      | false =>
        rw [hversions, if_neg Bool.false_ne_true] at h
        exact absurd h (statusOf_ne_skipped _ _)

/-! ## The landmarks of a report -/

/-- The landmarks of a phase: what could not be listed has one entry, and all that was listed has
its own. -/
def phaseEntries (failing : NameSet) (all : Query) (name : String) (entries : List Artifact) :
    List Artifact :=
  if refused failing (.query all) then [⟨.listing, name, .failed (refusal (.query all)).message⟩]
  else entries

theorem filter_entries_phase {α : Type} (failing : NameSet) (all : Query) {name : String}
    (hname : '/' ∉ name.toList) (items : List α) (deeds : α → List Deed) :
    (Deed.entries (if refused failing (.query all) then [.unlisted all name]
      else .listed all :: items.flatMap deeds)).filter Artifact.isLandmark =
        phaseEntries failing all name
          (items.flatMap fun item => (Deed.entries (deeds item)).filter Artifact.isLandmark) := by
  unfold phaseEntries
  split
  · simp [Deed.entries, Deed.entry?, Artifact.isLandmark, hname]
  · rw [← List.filter_flatMap]
    exact congrArg (List.filter _) List.filterMap_flatMap

/-- The own entries of the roles that are not protected. -/
def roleEntries (failing : NameSet) (settings : ReclaimSettings) (roles : Dict Iam.Role) :
    List Artifact :=
  (roles.entries.filter fun e => !isKept settings e.1 e.2).map fun e =>
    ⟨.role, e.1, (rolePrincipal e.1).verdict failing e.2⟩

/-- The own entries of the policies. -/
def policyEntries (failing : NameSet) (settings : ReclaimSettings) (kept : List String)
    (iam : Iam) : List Artifact :=
  iam.policies.entries.map fun e =>
    ⟨.policy, e.2.name, policyVerdict failing settings kept iam ⟨e.2.name, e.1⟩ e.2⟩

/-- The own entries of the users. -/
def userEntries (failing : NameSet) (users : Dict Iam.User) : List Artifact :=
  users.entries.map fun e =>
    ⟨.user, e.1, (userPrincipal e.1).verdict failing (profileLeft failing e.1 e.2)⟩

theorem filter_entries_rolesDeeds (failing : NameSet) (settings : ReclaimSettings)
    (roles : Dict Iam.Role) :
    (Deed.entries (rolesDeeds failing settings roles)).filter Artifact.isLandmark =
      phaseEntries failing .roles "roles" (roleEntries failing settings roles) := by
  have hrole : ∀ e : String × Iam.Role, (Deed.entries (roleDeeds failing settings e.1 e.2)).filter
      Artifact.isLandmark = if isKept settings e.1 e.2 then [] else
        [⟨.role, e.1, (rolePrincipal e.1).verdict failing e.2⟩] := by
    intro e
    unfold roleDeeds
    split
    · rfl
    · exact Principal.filter_entries (isMarked_rolePrincipal e.1) failing e.2
  rw [rolesDeeds, filter_entries_phase failing _ (by decide)]
  simp only [hrole]
  refine congrArg (phaseEntries failing .roles "roles") ?_
  unfold roleEntries
  induction roles.entries with
  | nil => rfl
  | cons e rest ih =>
    rw [List.flatMap_cons, ih, List.filter_cons]
    cases isKept settings e.1 e.2 <;> rfl

theorem filter_entries_policiesDeeds (failing : NameSet) (settings : ReclaimSettings)
    (kept : List String) (iam : Iam) :
    (Deed.entries (policiesDeeds failing settings kept iam)).filter Artifact.isLandmark =
      phaseEntries failing .localPolicies "local policies"
        (policyEntries failing settings kept iam) := by
  rw [policiesDeeds, filter_entries_phase failing _ (by decide)]
  simp only [filter_entries_policyDeeds]
  rw [← List.map_eq_flatMap]
  rfl

theorem filter_entries_usersDeeds (failing : NameSet) (users : Dict Iam.User) :
    (Deed.entries (usersDeeds failing users)).filter Artifact.isLandmark =
      phaseEntries failing .users "users" (userEntries failing users) := by
  have huser : ∀ e : String × Iam.User, (Deed.entries (userDeeds failing e.1 e.2)).filter
      Artifact.isLandmark =
        [⟨.user, e.1, (userPrincipal e.1).verdict failing (profileLeft failing e.1 e.2)⟩] :=
    fun e => Principal.filter_entries (isMarked_userPrincipal e.1) failing _
  rw [usersDeeds, filter_entries_phase failing _ (by decide)]
  simp only [huser]
  rw [← List.map_eq_flatMap]
  rfl

/-- The landmarks of a report come in the order of the phases. -/
theorem filter_entries_clearDeeds (failing : NameSet) (settings : ReclaimSettings) (iam : Iam) :
    (Deed.entries (clearDeeds failing settings iam)).filter Artifact.isLandmark =
      phaseEntries failing .roles "roles" (roleEntries failing settings iam.roles)
        ++ phaseEntries failing .localPolicies "local policies"
          (policyEntries failing settings (keptNames failing settings iam)
            (afterRoles failing settings iam))
        ++ phaseEntries failing .users "users"
          (userEntries failing (afterPolicies failing settings iam).users) := by
  rw [clearDeeds, Deed.entries_append, Deed.entries_append, List.filter_append, List.filter_append,
    filter_entries_rolesDeeds, filter_entries_policiesDeeds, filter_entries_usersDeeds]

/-! ## Accounting for a kind of artifacts -/

/-- Each artifact of a kind that is present has exactly one entry, nothing else has an entry of the
kind, and the entry says that the artifact was deleted exactly when it is gone. -/
structure Accounts (kind : Artifact.Kind) (present isGone : String → Prop)
    (entries : List Artifact) : Prop where
  once : ∀ name, present name →
    entries.countP (fun entry => entry.kind = kind ∧ entry.name = name) = 1
  only : ∀ entry ∈ entries, entry.kind = kind → present entry.name
  truthful : ∀ entry ∈ entries, entry.kind = kind → (entry.status = .succeeded ↔ isGone entry.name)

/-- A report accounts for the artifacts of a kind, unless they could not be listed.  Then it has no
entry of the kind, but one for the listing, which says that it failed. -/
structure AccountsUnless (isRefused : Bool) (kind : Artifact.Kind) (listing : String)
    (present isGone : String → Prop) (entries : List Artifact) : Prop where
  accounts : isRefused = false → Accounts kind present isGone entries
  silent : isRefused = true → ∀ entry ∈ entries, entry.kind ≠ kind
  listing : entries.countP (fun entry => entry.kind = .listing ∧ entry.name = listing ∧
    entry.status.isFailed = true) = if isRefused then 1 else 0

/-- When the entries of a kind are those of artifacts with different names, the report accounts for
these. -/
theorem Accounts.of_map {α : Type} {kind : Artifact.Kind} {present isGone : String → Prop}
    {entries : List Artifact} {items : List α} {entry : α → Artifact}
    (hentries : entries.filter (fun e => e.kind = kind) = items.map entry)
    (hnodup : (items.map fun item => (entry item).name).Nodup)
    (hpresent : ∀ name, present name ↔ ∃ item ∈ items, (entry item).name = name)
    (hgone : ∀ item ∈ items, (entry item).status = .succeeded ↔ isGone (entry item).name) :
    Accounts kind present isGone entries := by
  have hitem : ∀ e ∈ entries, e.kind = kind → ∃ item ∈ items, entry item = e := by
    intro e he hkind
    have hmem : e ∈ entries.filter fun e => e.kind = kind :=
      List.mem_filter.2 ⟨he, by simpa using hkind⟩
    rw [hentries] at hmem
    exact List.mem_map.1 hmem
  constructor
  · intro name hname
    obtain ⟨item, hmem, rfl⟩ := (hpresent name).1 hname
    have hnames : (items.map fun item => (entry item).name) =
        (entries.filter fun e => e.kind = kind).map Artifact.name := by
      rw [hentries, List.map_map]
      rfl
    have hcount := List.count_eq_one_of_mem hnodup (List.mem_map_of_mem hmem)
    rw [hnames, List.count, List.countP_map, List.countP_filter] at hcount
    rw [← hcount]
    refine List.countP_congr fun e _ => ?_
    simp [and_comm]
  · intro e he hkind
    obtain ⟨item, hmem, rfl⟩ := hitem e he hkind
    exact (hpresent _).2 ⟨item, hmem, rfl⟩
  · intro e he hkind
    obtain ⟨item, hmem, rfl⟩ := hitem e he hkind
    exact hgone item hmem

theorem filter_phaseEntries {own : List Artifact} {kind : Artifact.Kind}
    (hown : ∀ entry ∈ own, entry.kind = kind) (failing : NameSet) (all : Query) (name : String)
    {other : Artifact.Kind} (hother : other ≠ .listing) :
    (phaseEntries failing all name own).filter (fun entry => entry.kind = other) =
      if kind = other then (if refused failing (.query all) then [] else own) else [] := by
  unfold phaseEntries
  split
  · simp [Ne.symm hother]
  · split
    · rename_i hkind
      exact List.filter_eq_self.2 fun entry hentry => by simpa [hown entry hentry] using hkind
    · rename_i hkind
      exact List.filter_eq_nil_iff.2 fun entry hentry => by simpa [hown entry hentry] using hkind

/-- Each phase has an entry for its listing exactly when this is refused. -/
theorem countP_phaseEntries {own : List Artifact} {kind : Artifact.Kind}
    (hown : ∀ entry ∈ own, entry.kind = kind) (hkind : kind ≠ .listing) (failing : NameSet)
    (all : Query) (name listing : String) :
    (phaseEntries failing all name own).countP (fun entry => entry.kind = .listing ∧
      entry.name = listing ∧ entry.status.isFailed = true) =
        if refused failing (.query all) ∧ name = listing then 1 else 0 := by
  unfold phaseEntries
  cases refused failing (.query all) with
  | true => by_cases hname : name = listing <;> simp [hname, Artifact.Status.isFailed]
  | false =>
    simp only [Bool.false_eq_true, if_false, false_and, List.countP_eq_zero]
    intro entry hentry
    simp [hown entry hentry, hkind]

theorem AccountsUnless.of_filter {isRefused : Bool} {kind : Artifact.Kind} {listing : String}
    {present isGone : String → Prop} {entries own : List Artifact}
    (hfilter : entries.filter (fun entry => entry.kind = kind) = if isRefused then [] else own)
    (hlisting : entries.countP (fun entry => entry.kind = .listing ∧ entry.name = listing ∧
      entry.status.isFailed = true) = if isRefused then 1 else 0)
    (haccounts : isRefused = false → entries.filter (fun entry => entry.kind = kind) = own →
      Accounts kind present isGone entries) :
    AccountsUnless isRefused kind listing present isGone entries where
  accounts hlisted := haccounts hlisted (by rw [hfilter, hlisted, if_neg Bool.false_ne_true])
  silent hrefused entry hentry hkind := by
    rw [hrefused, if_pos rfl, List.filter_eq_nil_iff] at hfilter
    exact hfilter entry hentry (by simpa using hkind)
  listing := hlisting

/-! ## Accounting for a clearing -/

theorem kind_roleEntries (failing : NameSet) (settings : ReclaimSettings) (roles : Dict Iam.Role) :
    ∀ entry ∈ roleEntries failing settings roles, entry.kind = .role :=
  List.forall_mem_map.2 fun _ _ => rfl

theorem kind_policyEntries (failing : NameSet) (settings : ReclaimSettings) (kept : List String)
    (iam : Iam) : ∀ entry ∈ policyEntries failing settings kept iam, entry.kind = .policy :=
  List.forall_mem_map.2 fun _ _ => rfl

theorem kind_userEntries (failing : NameSet) (users : Dict Iam.User) :
    ∀ entry ∈ userEntries failing users, entry.kind = .user :=
  List.forall_mem_map.2 fun _ _ => rfl

/-- The entries of roles, of policies or of users are those of one phase. -/
theorem filter_kind_clearDeeds (failing : NameSet) (settings : ReclaimSettings) (iam : Iam)
    {kind : Artifact.Kind} (hkind : kind = .role ∨ kind = .policy ∨ kind = .user) :
    (Deed.entries (clearDeeds failing settings iam)).filter (fun entry => entry.kind = kind) =
      (if .role = kind then if refused failing (.query .roles) then [] else
          roleEntries failing settings iam.roles else [])
        ++ (if .policy = kind then if refused failing (.query .localPolicies) then [] else
          policyEntries failing settings (keptNames failing settings iam)
            (afterRoles failing settings iam)
          else [])
        ++ (if .user = kind then if refused failing (.query .users) then [] else
          userEntries failing (afterPolicies failing settings iam).users else []) := by
  have hlisting : kind ≠ .listing := by rcases hkind with rfl | rfl | rfl <;> decide
  have hlandmark : ∀ entry : Artifact, (decide (entry.kind = kind) && entry.isLandmark) =
      decide (entry.kind = kind) := by
    intro entry
    by_cases heq : entry.kind = kind
    · subst heq
      rcases hkind with h | h | h <;> simp [Artifact.isLandmark, h]
    · simp [heq]
  have hboth := congrArg (List.filter fun entry => entry.kind = kind)
    (filter_entries_clearDeeds failing settings iam)
  simp only [List.filter_filter, hlandmark] at hboth
  rw [hboth, List.filter_append, List.filter_append,
    filter_phaseEntries (kind_roleEntries failing settings iam.roles) failing _ _ hlisting,
    filter_phaseEntries (kind_policyEntries failing settings _ _) failing _ _ hlisting,
    filter_phaseEntries (kind_userEntries failing _) failing _ _ hlisting]

/-- A report says exactly once that roles, policies or users could not be listed, if so. -/
theorem countP_clearDeeds (failing : NameSet) (settings : ReclaimSettings) (iam : Iam)
    (listing : String) (hname : '/' ∉ listing.toList) :
    (Deed.entries (clearDeeds failing settings iam)).countP (fun entry => entry.kind = .listing ∧
      entry.name = listing ∧ entry.status.isFailed = true) =
        (if refused failing (.query .roles) ∧ "roles" = listing then 1 else 0)
          + (if refused failing (.query .localPolicies) ∧ "local policies" = listing then 1 else 0)
          + (if refused failing (.query .users) ∧ "users" = listing then 1 else 0) := by
  have hboth := congrArg (List.countP fun entry => entry.kind = .listing ∧ entry.name = listing ∧
    entry.status.isFailed = true) (filter_entries_clearDeeds failing settings iam)
  rw [List.countP_filter, List.countP_append, List.countP_append,
    countP_phaseEntries (kind_roleEntries failing settings iam.roles) (by decide),
    countP_phaseEntries (kind_policyEntries failing settings _ _) (by decide),
    countP_phaseEntries (kind_userEntries failing _) (by decide)] at hboth
  rw [← hboth]
  refine List.countP_congr fun entry _ => ?_
  simp only [Bool.and_eq_true, decide_eq_true_eq]
  refine ⟨fun h => ⟨h, ?_⟩, And.left⟩
  simpa [Artifact.isLandmark, h.1, h.2.1] using hname

theorem accountsUnless_users (failing : NameSet) (settings : ReclaimSettings) (iam : Iam) :
    AccountsUnless (refused failing (.query .users)) .user "users"
      (fun user => iam.users.contains user = true)
      (fun user => (cleared failing settings iam).users.contains user = false)
      (Deed.entries (clearDeeds failing settings iam)) := by
  have hnames : ∀ user,
      (afterPolicies failing settings iam).users.contains user = iam.users.contains user := by
    intro user
    rw [Dict.contains, afterPolicies_users_get?, Option.isSome_map, Dict.contains]
  refine .of_filter (by simpa using filter_kind_clearDeeds failing settings iam (.inr (.inr rfl)))
    (by simpa using countP_clearDeeds failing settings iam "users" (by decide))
    fun hlisted hown => ?_
  refine Accounts.of_map hown (Dict.nodup_keys _) (fun user => ?_) fun e he => ?_
  · rw [← hnames user, Dict.contains, Option.isSome_iff_exists, ← Dict.mem_keys_iff]
    exact List.mem_map
  · rw [Principal.verdict_eq_succeeded_iff, ← userLeft, Dict.contains, cleared, usersLeft, hlisted,
      if_neg Bool.false_ne_true, Dict.get?_filterMap, (Dict.mem_entries_iff _ e.1 e.2).1 he,
      Option.bind_some, Option.isSome_eq_false_iff, Option.isNone_iff_eq_none]

theorem accountsUnless_roles (failing : NameSet) (settings : ReclaimSettings) (iam : Iam) :
    AccountsUnless (refused failing (.query .roles)) .role "roles"
      (fun role => ∃ content, iam.roles.get? role = some content ∧
        isProtectedRole settings ⟨role, content.path⟩ = false)
      (fun role => (cleared failing settings iam).roles.contains role = false)
      (Deed.entries (clearDeeds failing settings iam)) := by
  refine .of_filter (by simpa using filter_kind_clearDeeds failing settings iam (.inl rfl))
    (by simpa using countP_clearDeeds failing settings iam "roles" (by decide))
    fun hlisted hown => ?_
  refine Accounts.of_map hown ((Dict.nodup_keys iam.roles).sublist (List.filter_sublist.map _))
    (fun role => ?_) fun e he => ?_
  · simp only [List.mem_filter, Prod.exists, Dict.mem_entries_iff, Bool.not_eq_true', isKept]
    constructor
    · rintro ⟨content, hrole, hfree⟩
      exact ⟨role, content, ⟨hrole, hfree⟩, rfl⟩
    · rintro ⟨_, content, hboth, rfl⟩
      exact ⟨content, hboth⟩
  · obtain ⟨hentry, hfree⟩ := List.mem_filter.1 he
    rw [Bool.not_eq_true'] at hfree
    rw [Principal.verdict_eq_succeeded_iff, Dict.contains, cleared_roles_get?,
      Option.isSome_map, rolesLeft, hlisted, if_neg Bool.false_ne_true, Dict.get?_filterMap,
      (Dict.mem_entries_iff _ e.1 e.2).1 hentry,
      Option.bind_some, roleLeft, hfree, if_neg Bool.false_ne_true, Option.isSome_eq_false_iff,
      Option.isNone_iff_eq_none]

/-- A policy is said to be deleted exactly when it is gone, as long as the policies could be
listed. -/
theorem policyVerdict_cleared (hlisted : refused failing (.query .localPolicies) = false)
    {arn : String} {content : Iam.Policy} (harn : iam.policies.get? arn = some content) :
    policyVerdict failing settings (keptNames failing settings iam)
      (afterRoles failing settings iam)
        ⟨content.name, arn⟩ content = .succeeded ↔
      (cleared failing settings iam).policies.contains arn = false := by
  have hpolicy : (afterRoles failing settings iam).policies.contains arn = true := by
    simp [afterRoles, Dict.contains, harn]
  rw [policyVerdict_eq_succeeded_iff, Dict.contains, cleared_policies_get?, harn,
    Option.bind_some, isCleared, isGone, hlisted, hpolicy]
  cases isReached failing settings (keptNames failing settings iam)
    (afterRoles failing settings iam) arn with
  | true => simp
  | false => simp

theorem accountsUnless_policies (failing : NameSet) (settings : ReclaimSettings) {account : String}
    (hbuilt : iam.IsBuilt account) :
    AccountsUnless (refused failing (.query .localPolicies)) .policy "local policies"
      (fun policy => iam.policies.contains (Iam.policyArn account policy) = true)
      (fun policy => (cleared failing settings iam).policies.contains
        (Iam.policyArn account policy) = false)
      (Deed.entries (clearDeeds failing settings iam)) := by
  have harn : ∀ e ∈ iam.policies.entries, iam.policies.get? e.1 = some e.2 ∧
      e.1 = Iam.policyArn account e.2.name := by
    intro e he
    have hpolicy := (Dict.mem_entries_iff _ e.1 e.2).1 he
    exact ⟨hpolicy, (hbuilt.policy hpolicy).2⟩
  have hnodup : (iam.policies.entries.map fun e => e.2.name).Nodup := by
    have hkeys : iam.policies.keys =
        (iam.policies.entries.map fun e => e.2.name).map (Iam.policyArn account) := by
      rw [List.map_map]
      exact List.map_congr_left fun e he => (harn e he).2
    exact .of_map (Iam.policyArn account) (hkeys ▸ Dict.nodup_keys iam.policies)
  refine .of_filter (by simpa using filter_kind_clearDeeds failing settings iam (.inr (.inl rfl)))
    (by simpa using countP_clearDeeds failing settings iam "local policies" (by decide))
    fun hlisted hown => ?_
  refine Accounts.of_map hown hnodup (fun policy => ?_) fun e he => ?_
  · rw [Dict.contains, Option.isSome_iff_exists]
    constructor
    · rintro ⟨content, hcontent⟩
      exact ⟨_, (Dict.mem_entries_iff _ _ content).2 hcontent,
        (Iam.policyArn_injective account (hbuilt.policy hcontent).2).symm⟩
    · rintro ⟨e, he, rfl⟩
      exact ⟨e.2, (harn e he).2 ▸ (harn e he).1⟩
  · rw [← (harn e he).2]
    exact policyVerdict_cleared hlisted (harn e he).1

/-! ## What is passed over -/

/-- One of the listings of an artifact's parts is refused, and the report says so under the
artifact's name. -/
def MissesListing (failing : NameSet) (entries : List Artifact) (name : String)
    (listings : List (String × Query)) : Prop :=
  ∃ part ∈ listings, refused failing (.query part.2) = true ∧
    ⟨.listing, name ++ "/" ++ part.1, .failed (refusal (.query part.2)).message⟩ ∈ entries

/-- The listings of a principal's dependents, with the words for what is listed. -/
def listingsOf (dependents : List Dependents) : List (String × Query) :=
  dependents.map fun part => (part.words, part.query)

theorem MissesListing.of_deeds {deeds : List Deed} {name words : String} {query : Query}
    {listings : List (String × Query)} (hpart : (words, query) ∈ listings)
    (hrefused : refused failing (.query query) = true)
    (hdeed : .unlisted query (name ++ "/" ++ words) ∈ deeds) :
    MissesListing failing (Deed.entries deeds) name listings :=
  ⟨_, hpart, hrefused, List.mem_filterMap.2 ⟨_, hdeed, rfl⟩⟩

theorem MissesListing.of_verdict {principal : Principal ρ} {x : ρ} {reason : String}
    {deeds : List Deed} (h : principal.verdict failing x = .skipped reason)
    (hdeeds : ∀ deed ∈ principal.deeds failing x, deed ∈ deeds) :
    MissesListing failing (Deed.entries deeds) principal.target.name
      (listingsOf (principal.columns.map (·.dependents))) := by
  obtain ⟨column, hcolumn, hunlisted, hdeed⟩ := Principal.unlisted_of_verdict h
  have hpart : (column.dependents.words, column.dependents.query) ∈
      listingsOf (principal.columns.map (·.dependents)) :=
    List.mem_map_of_mem (List.mem_map_of_mem hcolumn)
  exact .of_deeds hpart hunlisted (hdeeds _ hdeed)

/-- An entry of a phase is the own entry of something that was listed. -/
theorem exists_of_mem_clearDeeds {name : String} {status : Artifact.Status} {kind : Artifact.Kind}
    (hkind : kind = .role ∨ kind = .policy ∨ kind = .user)
    (hentry : ⟨kind, name, status⟩ ∈ Deed.entries (clearDeeds failing settings iam)) :
    (kind = .role ∧ refused failing (.query .roles) = false ∧
        ⟨kind, name, status⟩ ∈ roleEntries failing settings iam.roles) ∨
      (kind = .policy ∧ refused failing (.query .localPolicies) = false ∧ ⟨kind, name, status⟩ ∈
        policyEntries failing settings (keptNames failing settings iam)
        (afterRoles failing settings iam)) ∨
      (kind = .user ∧ refused failing (.query .users) = false ∧
        ⟨kind, name, status⟩ ∈ userEntries failing (afterPolicies failing settings iam).users) := by
  have hmem : ⟨kind, name, status⟩ ∈ (Deed.entries (clearDeeds failing settings iam)).filter
      fun entry => entry.kind = kind := List.mem_filter.2 ⟨hentry, by simp⟩
  rw [filter_kind_clearDeeds failing settings iam hkind] at hmem
  rcases hkind with rfl | rfl | rfl
  · left
    simpa using hmem
  · right; left
    simpa using hmem
  · right; right
    simpa using hmem

theorem missesListing_of_skipped_user {user reason : String}
    (hentry : ⟨.user, user, .skipped reason⟩ ∈ Deed.entries (clearDeeds failing settings iam)) :
    MissesListing failing (Deed.entries (clearDeeds failing settings iam)) user
      (listingsOf (userDependents user)) := by
  rcases exists_of_mem_clearDeeds (.inr (.inr rfl)) hentry with
    ⟨h, -⟩ | ⟨h, -⟩ | ⟨-, hlisted, hmem⟩
  · exact absurd h (by decide)
  · exact absurd h (by decide)
  obtain ⟨e, he, heq⟩ := List.mem_map.1 hmem
  obtain ⟨-, rfl, hverdict⟩ := Artifact.mk.inj heq
  refine .of_verdict hverdict fun deed hdeed => List.mem_append_right _ ?_
  rw [usersDeeds, hlisted, if_neg Bool.false_ne_true]
  exact List.mem_cons_of_mem _ (List.mem_flatMap.2 ⟨e, he, List.mem_cons_of_mem _ hdeed⟩)

theorem missesListing_of_skipped_role {role reason : String}
    (hentry : ⟨.role, role, .skipped reason⟩ ∈ Deed.entries (clearDeeds failing settings iam)) :
    MissesListing failing (Deed.entries (clearDeeds failing settings iam)) role
      (listingsOf (roleDependents role)) := by
  rcases exists_of_mem_clearDeeds (.inl rfl) hentry with ⟨-, hlisted, hmem⟩ | ⟨h, -⟩ | ⟨h, -⟩
  · obtain ⟨e, he, heq⟩ := List.mem_map.1 hmem
    obtain ⟨hrole, hfree⟩ := List.mem_filter.1 he
    rw [Bool.not_eq_true'] at hfree
    obtain ⟨-, rfl, hverdict⟩ := Artifact.mk.inj heq
    refine .of_verdict hverdict fun deed hdeed => List.mem_append_left _ (List.mem_append_left _ ?_)
    rw [rolesDeeds, hlisted, if_neg Bool.false_ne_true]
    refine List.mem_cons_of_mem _ (List.mem_flatMap.2 ⟨e, hrole, ?_⟩)
    rwa [roleDeeds, hfree, if_neg Bool.false_ne_true]
  · exact absurd h (by decide)
  · exact absurd h (by decide)

/-- A role for which a policy is left is protected, and the policy was attached to it from the
start. -/
theorem exists_of_protector? {arn role : String}
    (h : protector? settings (keptNames failing settings iam)
      ((afterRoles failing settings iam).entities arn) = some role) :
    ∃ content, iam.roles.get? role = some content ∧
      isProtectedRole settings ⟨role, content.path⟩ = true ∧
      content.attached.contains arn = true := by
  have hknown := List.find?_some h
  obtain ⟨left, hleft, hattached⟩ := mem_entities_roles_iff.1 (List.mem_of_find?_eq_some h)
  -- a role that is protected by its name is protected
  have hname : ∀ content : Iam.Role, isProtectedName settings role = true →
      isProtectedRole settings ⟨role, content.path⟩ = true := by
    intro content hprotected
    rw [isProtectedRole, hprotected, Bool.or_true]
  rw [afterRoles, rolesLeft] at hleft
  rw [keptNames] at hknown
  cases hrefused : refused failing (.query .roles) with
  | true =>
    rw [hrefused, if_pos rfl] at hleft hknown
    exact ⟨left, hleft, hname left (by simpa using hknown), hattached⟩
  | false =>
    rw [hrefused, if_neg Bool.false_ne_true] at hleft hknown
    rw [Dict.get?_filterMap, Option.bind_eq_some_iff] at hleft
    obtain ⟨content, hrole, hleft⟩ := hleft
    have hkept : isKept settings role content = true := by
      rcases (Bool.or_eq_true _ _).mp hknown with hmem | hprotected
      · rwa [List.contains_iff_mem, Dict.mem_map_fst_filter hrole] at hmem
      · exact hname content hprotected
    -- a protected role is left as it was
    rw [roleLeft, hkept, if_pos rfl] at hleft
    obtain rfl := Option.some.inj hleft
    exact ⟨content, hrole, hkept, hattached⟩

theorem missesListing_of_skipped_policy {account policy reason : String}
    (hbuilt : iam.IsBuilt account)
    (hentry : ⟨.policy, policy, .skipped reason⟩ ∈ Deed.entries (clearDeeds failing settings iam)) :
    (∃ role content, iam.roles.get? role = some content ∧
        isProtectedRole settings ⟨role, content.path⟩ = true ∧
        content.attached.contains (Iam.policyArn account policy) = true ∧
        reason = "attached to protected role " ++ role) ∨
      MissesListing failing (Deed.entries (clearDeeds failing settings iam)) policy
        (policyListings (Iam.policyArn account policy)) := by
  rcases exists_of_mem_clearDeeds (.inr (.inl rfl)) hentry with
    ⟨h, -⟩ | ⟨-, hlisted, hmem⟩ | ⟨h, -⟩
  · exact absurd h (by decide)
  swap
  · exact absurd h (by decide)
  obtain ⟨e, he, heq⟩ := List.mem_map.1 hmem
  obtain ⟨-, rfl, hverdict⟩ := Artifact.mk.inj heq
  rw [← (hbuilt.policy ((Dict.mem_entries_iff _ e.1 e.2).1 he)).2]
  rcases unlisted_of_policyVerdict hverdict with
    ⟨role, hprotector, hreason⟩ | ⟨part, hpart, hrefused, hdeed⟩
  · obtain ⟨content, hrole, hprotected, hattached⟩ := exists_of_protector? hprotector
    exact .inl ⟨role, content, hrole, hprotected, hattached, hreason⟩
  · refine .inr (.of_deeds hpart hrefused (List.mem_append_left _ (List.mem_append_right _ ?_)))
    rw [policiesDeeds, hlisted, if_neg Bool.false_ne_true]
    exact List.mem_cons_of_mem _ (List.mem_flatMap.2 ⟨e, he, hdeed⟩)

/-- What the entries of a clearing say about an account, by what it was before and is afterwards:
they account for its users, for its roles that are not protected, and for its own policies, and
nothing of these was passed over without a reason that is in the report. -/
structure IsFaithful (account : String) (settings : ReclaimSettings) (failing : NameSet)
    (before after : Iam) (entries : List Artifact) : Prop where
  users : AccountsUnless (refused failing (.query .users)) .user "users"
    (fun user => before.users.contains user = true)
    (fun user => after.users.contains user = false) entries
  roles : AccountsUnless (refused failing (.query .roles)) .role "roles"
    (fun role => ∃ content, before.roles.get? role = some content ∧
      isProtectedRole settings ⟨role, content.path⟩ = false)
    (fun role => after.roles.contains role = false) entries
  /-- All of the account's own policies are stored under a resource name of this form. -/
  named : ∀ arn policy, before.policies.get? arn = some policy →
    arn = Iam.policyArn account policy.name
  policies : AccountsUnless (refused failing (.query .localPolicies)) .policy "local policies"
    (fun policy => before.policies.contains (Iam.policyArn account policy) = true)
    (fun policy => after.policies.contains (Iam.policyArn account policy) = false) entries
  skippedUsers : ∀ user reason, ⟨.user, user, .skipped reason⟩ ∈ entries →
    MissesListing failing entries user (listingsOf (userDependents user))
  skippedRoles : ∀ role reason, ⟨.role, role, .skipped reason⟩ ∈ entries →
    MissesListing failing entries role (listingsOf (roleDependents role))
  skippedPolicies : ∀ policy reason, ⟨.policy, policy, .skipped reason⟩ ∈ entries →
    (∃ role content, before.roles.get? role = some content ∧
        isProtectedRole settings ⟨role, content.path⟩ = true ∧
        content.attached.contains (Iam.policyArn account policy) = true ∧
        reason = "attached to protected role " ++ role) ∨
      MissesListing failing entries policy (policyListings (Iam.policyArn account policy))

theorem isFaithful_clearDeeds (failing : NameSet) (settings : ReclaimSettings) {account : String}
    (hbuilt : iam.IsBuilt account) :
    IsFaithful account settings failing iam (cleared failing settings iam)
      (Deed.entries (clearDeeds failing settings iam)) where
  users := accountsUnless_users failing settings iam
  roles := accountsUnless_roles failing settings iam
  named _ _ harn := (hbuilt.policy harn).2
  policies := accountsUnless_policies failing settings hbuilt
  skippedUsers _ _ := missesListing_of_skipped_user
  skippedRoles _ _ := missesListing_of_skipped_role
  skippedPolicies _ _ := missesListing_of_skipped_policy hbuilt

end Lending

open Lending

/-- The report of a clearing of an account that was set up from nothing (`hbuilt`) is faithful when
it starts without entries: whatever is registered to fail, each user, each role that is not
protected and each of the account's own policies has exactly one entry of its own, which says that
it was deleted exactly when it is gone. -/
theorem World.clear_entries (world : World) (site : Site) (settings : ReclaimSettings)
    (owner : Option String) {account : String}
    (hbuilt : (world.cloud.iamOf site.session.accessKey).state.IsBuilt account) :
    let before := world.cloud.iamOf site.session.accessKey
    let run := world.run (clear site settings)
    let report := (Report.mk site.account owner []).add run.1
    IsFaithful account settings before.failing before.state
      (run.2.cloud.iamOf site.session.accessKey).state report.artifacts := by
  intro before run report
  obtain ⟨hentries, hafter, -⟩ := world.run_clear site settings
  have hstate : (run.2.cloud.iamOf site.session.accessKey).state =
      cleared before.failing settings before.state := congrArg Journaled.state hafter
  have hartifacts :
      report.artifacts = Deed.entries (clearDeeds before.failing settings before.state) :=
    hentries
  rw [hstate, hartifacts]
  exact isFaithful_clearDeeds before.failing settings hbuilt

/-- The first user, whose access key cannot be deleted, has one entry, and of the users only the
other one is said to be deleted. -/
theorem clear_entries_crowd :
    let entries := (crowdWorld.run (clear crowdSite {})).1
    entries.countP (fun entry => entry.kind = .user ∧ entry.name = "alice") = 1 ∧
      ∀ entry ∈ entries, entry.kind = .user → (entry.status = .succeeded ↔ entry.name = "bob") := by
  intro entries
  have hfaithful := crowdWorld.clear_entries crowdSite {} none isBuilt_crowdWorld
  rw [iamOf_crowdWorld] at hfaithful
  have husers := hfaithful.users.accounts (by decide +kernel)
  refine ⟨husers.once "alice" (by decide +kernel), fun entry hentry hkind => ?_⟩
  rw [husers.truthful entry hentry hkind]
  have hpresent : entry.name = "alice" ∨ entry.name = "bob" := by
    have hkeys : crowdIam.users.keys = ["alice", "bob"] := by decide +kernel
    have hmem := husers.only entry hentry hkind
    rw [Dict.contains, Option.isSome_iff_exists, ← Dict.mem_keys_iff, hkeys] at hmem
    simpa using hmem
  rcases hpresent with hname | hname
  · rw [hname]
    decide +kernel
  · rw [hname]
    decide +kernel

end AccountLending
