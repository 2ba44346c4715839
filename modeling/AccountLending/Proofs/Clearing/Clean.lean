import AccountLending.Proofs.Clearing.Protection

/-!
# Deeds that do not fail

What it means for roles and users that no deed of their removal failed: no listing was refused, so
nothing was passed over, and whatever was to be removed is gone.  And when no request of the deeds
is registered to fail, none of them fails.

* `Deed.AreClean`, `Deed.AreGranted` — deeds of which none failed, and of which none was refused;
* `Principal.left_of_areClean` — what was removed without a failure is gone;
* `Principal.areClean_of_areGranted` — what is not refused does not fail.
-/

namespace AccountLending.Lending

open Iam (Query Removal PolicySummary PolicyEntities VersionSummary)

variable {ρ : Type} {failing : NameSet} {iam : Iam} {settings : ReclaimSettings}

/-! ## Deeds -/

namespace Deed

/-- Whether a deed did not fail. -/
def isClean : Deed → Bool
  | listed _ | left .. => true
  | unlisted .. => false
  | tried _ reply => !(statusOf reply).isFailed
  | profiled _ reply => !(profileStatus reply).isFailed

/-- Whether the request of a deed is not registered to fail. -/
def isGranted (failing : NameSet) (deed : Deed) : Bool :=
  deed.call?.all fun request => !refused failing request

/-- None of the deeds failed. -/
def AreClean (deeds : List Deed) : Prop := ∀ deed ∈ deeds, deed.isClean = true

/-- None of the requests of the deeds is registered to fail. -/
def AreGranted (failing : NameSet) (deeds : List Deed) : Prop :=
  ∀ deed ∈ deeds, deed.isGranted failing = true

theorem areClean_iff {deeds : List Deed} :
    AreClean deeds ↔ ∀ artifact ∈ entries deeds, artifact.status.isFailed = false := by
  have hdeed : ∀ deed : Deed, deed.isClean = true ↔
      ∀ artifact, deed.entry? = some artifact → artifact.status.isFailed = false := by
    intro deed
    cases deed <;> simp [isClean, entry?, Artifact.Status.isFailed]
  simp only [AreClean, hdeed, entries, List.mem_filterMap]
  constructor
  · rintro h artifact ⟨deed, hmem, hentry⟩
    exact h deed hmem artifact hentry
  · intro h deed hmem artifact hentry
    exact h artifact ⟨deed, hmem, hentry⟩

theorem areGranted_iff {deeds : List Deed} :
    AreGranted failing deeds ↔ ∀ request ∈ calls deeds, refused failing request = false := by
  simp only [AreGranted, isGranted, calls, List.mem_filterMap]
  constructor
  · rintro h request ⟨deed, hmem, hcall⟩
    simpa [hcall] using h deed hmem
  · intro h deed hmem
    cases hcall : deed.call? with
    | none => rfl
    | some request => simpa using h request ⟨deed, hmem, hcall⟩

theorem areClean_append {deeds others : List Deed} :
    AreClean (deeds ++ others) ↔ AreClean deeds ∧ AreClean others :=
  List.forall_mem_append

theorem areGranted_append {deeds others : List Deed} :
    AreGranted failing (deeds ++ others) ↔ AreGranted failing deeds ∧ AreGranted failing others :=
  List.forall_mem_append

theorem areClean_cons {deed : Deed} {deeds : List Deed} :
    AreClean (deed :: deeds) ↔ deed.isClean = true ∧ AreClean deeds :=
  List.forall_mem_cons

theorem areGranted_cons {deed : Deed} {deeds : List Deed} :
    AreGranted failing (deed :: deeds) ↔ deed.isGranted failing = true ∧ AreGranted failing deeds :=
  List.forall_mem_cons

theorem areClean_flatMap {α : Type} {items : List α} {deeds : α → List Deed} :
    AreClean (items.flatMap deeds) ↔ ∀ item ∈ items, AreClean (deeds item) :=
  List.forall_mem_flatMap

theorem areGranted_flatMap {α : Type} {items : List α} {deeds : α → List Deed} :
    AreGranted failing (items.flatMap deeds) ↔ ∀ item ∈ items, AreGranted failing (deeds item) :=
  List.forall_mem_flatMap

theorem isClean_tried_iff {target : Target} {reply : Except ServiceError Unit} :
    (tried target reply).isClean = true ↔ reply = .ok () := by
  cases reply <;> simp [isClean, statusOf, Artifact.Status.isFailed]

theorem isGranted_tried_iff {target : Target} {reply : Except ServiceError Unit} :
    (tried target reply).isGranted failing = true ↔
    refused failing (.remove target.removal) = false := by
  simp [isGranted, call?]

theorem isGranted_unlisted_iff {query : Query} {name : String} :
    (unlisted query name).isGranted failing = true ↔ refused failing (.query query) = false := by
  simp [isGranted, call?]

/-- Nothing that starts with a listing is clean, unless the listing is not refused. -/
theorem areClean_listing_iff {query : Query} {name : String} {others rest : List Deed} :
    AreClean
        (if refused failing (.query query) then .unlisted query name :: others
          else .listed query :: rest) ↔
      refused failing (.query query) = false ∧ AreClean rest := by
  cases refused failing (.query query) with
  | true => simp [areClean_cons, isClean]
  | false => simp [areClean_cons, isClean]

theorem of_areGranted_listing {query : Query} {name : String} {others rest : List Deed}
    (h : AreGranted failing
      (if refused failing (.query query) then .unlisted query name :: others
        else .listed query :: rest)) :
    refused failing (.query query) = false ∧ AreGranted failing rest := by
  cases hrefused : refused failing (.query query) with
  | true =>
    rw [hrefused, if_pos rfl, areGranted_cons, isGranted_unlisted_iff] at h
    exact absurd (h.1.symm.trans hrefused) Bool.false_ne_true
  | false =>
    rw [hrefused, if_neg Bool.false_ne_true, areGranted_cons] at h
    exact ⟨rfl, h.2⟩

end Deed

open Deed

theorem granted_of_not_refused {removal : Removal} (h : refused failing (.remove removal) = false) :
    granted failing removal = .ok () := by
  rw [granted, h]
  rfl

/-! ## Principals -/

theorem Column.isUnlisted_of_areClean {column : Column ρ} {principal : String} {x : ρ}
    (h : AreClean (column.deeds failing principal x)) : column.isUnlisted failing = false := by
  cases hunlisted : column.isUnlisted failing with
  | false => rfl
  | true =>
    rw [Column.deeds_of_isUnlisted hunlisted, areClean_cons] at h
    exact absurd h.1 Bool.false_ne_true

theorem isUnlisted_of_areClean {columns : List (Column ρ)} {principal : String} {x : ρ}
    (h : AreClean (stripDeeds failing principal columns x)) :
    columns.any (·.isUnlisted failing) = false := by
  induction columns generalizing x with
  | nil => rfl
  | cons column rest ih =>
    obtain ⟨hcolumn, hrest⟩ := areClean_append.1 h
    rw [List.any_cons, Column.isUnlisted_of_areClean hcolumn, ih hrest]
    rfl

theorem Principal.lastDeed_of_not_isBlocked {principal : Principal ρ} (x : ρ)
    (h : principal.isBlocked failing = false) : principal.lastDeed failing x =
      .tried principal.target
        (principal.deletion failing (stripLeft failing principal.columns x)) := by
  have hblocked := isSome_blockedBy failing none principal.columns
  rw [Option.isSome_none, Bool.false_or, ← isBlocked, h, Option.isSome_eq_false_iff,
    Option.isNone_iff_eq_none] at hblocked
  rw [lastDeed, hblocked]

/-- A principal that was removed without a failure is gone. -/
theorem Principal.left_of_areClean {principal : Principal ρ} {x : ρ}
    (h : AreClean (principal.deeds failing x)) : principal.left failing x = none := by
  obtain ⟨hstrip, hlast⟩ := areClean_append.1 h
  have hblocked : principal.isBlocked failing = false := isUnlisted_of_areClean hstrip
  have hdeleted := hlast _ (List.mem_singleton_self _)
  rw [lastDeed_of_not_isBlocked x hblocked, isClean_tried_iff] at hdeleted
  unfold deletion granted at hdeleted
  rw [left, hblocked]
  -- the deletion was answered with success, so nothing stood against it
  cases hbare : principal.isBare (stripLeft failing principal.columns x) <;>
    cases hrefused : refused failing (.remove principal.target.removal) <;>
      simp_all

theorem Column.of_areGranted {column : Column ρ} {principal : String} {x : ρ}
    (h : AreGranted failing (column.deeds failing principal x)) :
    AreClean (column.deeds failing principal x) ∧ column.isUnlisted failing = false ∧
      column.survivors failing x = Dict.empty := by
  cases hunlisted : column.isUnlisted failing with
  | true =>
    rw [Column.deeds_of_isUnlisted hunlisted, areGranted_cons, isGranted_unlisted_iff] at h
    exact absurd (h.1.symm.trans hunlisted) Bool.false_ne_true
  | false =>
    rw [Column.deeds_of_listed hunlisted, areGranted_cons] at h
    have hnames : ∀ name ∈ (column.names x).keys,
        refused failing (.remove (column.target name).removal) = false :=
      fun name hname => isGranted_tried_iff.1 (h.2 _ (List.mem_map_of_mem hname))
    refine ⟨?_, rfl, ?_⟩
    · rw [Column.deeds_of_listed hunlisted, areClean_cons]
      refine ⟨rfl, fun deed hdeed => ?_⟩
      obtain ⟨name, hname, rfl⟩ := List.mem_map.1 hdeed
      exact isClean_tried_iff.2 (granted_of_not_refused (hnames name hname))
    · apply NameSet.ext_contains
      intro name
      rw [survivors, NameSet.contains_keep, hunlisted, Bool.false_or]
      cases hname : (column.names x).contains name with
      | false => rfl
      | true => rw [hnames name ((NameSet.mem_keys_iff _ _).2 hname)]; rfl

/-- What the removal of single columns keeps, the removal of all of them keeps. -/
theorem stripLeft_keeps {P : ρ → Prop} {columns : List (Column ρ)}
    (hset : ∀ column ∈ columns, ∀ names x, P x → P (column.set names x)) {x : ρ} (hx : P x) :
    P (stripLeft failing columns x) := by
  induction columns generalizing x with
  | nil => exact hx
  | cons column rest ih =>
    apply ih (fun other hother => hset other (List.mem_cons_of_mem _ hother))
    exact hset column List.mem_cons_self _ x hx

/-- The columns of a principal are parts of its content that do not overlap, whichever is changed
first. -/
def AreDisjoint (columns : List (Column ρ)) : Prop :=
  columns.Pairwise fun column other => ∀ names x,
    column.names (other.set names x) = column.names x ∧
    other.names (column.set names x) = other.names x

theorem strip_of_areGranted {columns : List (Column ρ)} {place : ρ → Iam}
    {principal : String} {x : ρ} (hdisjoint : AreDisjoint columns)
    (hholds : ∀ column ∈ columns, column.Holds place)
    (h : AreGranted failing (stripDeeds failing principal columns x)) :
    AreClean (stripDeeds failing principal columns x) ∧ columns.any (·.isUnlisted failing) = false ∧
      ∀ column ∈ columns, column.names (stripLeft failing columns x) = Dict.empty := by
  induction columns generalizing x with
  | nil => exact ⟨by simp [stripDeeds, AreClean], rfl, by simp⟩
  | cons column rest ih =>
    obtain ⟨hfirst, hrest⟩ := areGranted_append.1 h
    obtain ⟨hlater, hdisjoint⟩ := List.pairwise_cons.1 hdisjoint
    obtain ⟨hclean, hlisted, hempty⟩ := Column.of_areGranted hfirst
    obtain ⟨hrestClean, hrestListed, hrestEmpty⟩ :=
      ih hdisjoint (fun other hother => hholds other (List.mem_cons_of_mem _ hother)) hrest
    refine ⟨areClean_append.2 ⟨hclean, hrestClean⟩, ?_, fun other hother => ?_⟩
    · rw [List.any_cons, hlisted, hrestListed]
      rfl
    · rcases List.mem_cons.1 hother with rfl | hother
      · -- the names that its own removal left are kept by the later ones
        refine stripLeft_keeps (P := fun x => other.names x = Dict.empty)
          (fun later hmem names x hx => (hlater later hmem names x).1.trans hx) ?_
        exact ((hholds other List.mem_cons_self).names_set _ _).trans hempty
      · exact hrestEmpty other hother

/-- A principal that can be deleted when it has no dependents is removed without a failure, when
nothing is refused. -/
theorem Principal.areClean_of_areGranted {principal : Principal ρ} {place : Option ρ → Iam} {x : ρ}
    (hholds : principal.Holds place) (hdisjoint : AreDisjoint principal.columns)
    (hbare : (∀ column ∈ principal.columns,
        column.names (stripLeft failing principal.columns x) = Dict.empty) →
      principal.isBare (stripLeft failing principal.columns x) = true)
    (h : AreGranted failing (principal.deeds failing x)) :
    AreClean (principal.deeds failing x) := by
  obtain ⟨hstrip, hlast⟩ := areGranted_append.1 h
  obtain ⟨hclean, hlisted, hempty⟩ := strip_of_areGranted hdisjoint hholds.columns hstrip
  have hdeed := lastDeed_of_not_isBlocked x hlisted
  have hgranted := hlast _ (List.mem_singleton_self _)
  rw [hdeed, isGranted_tried_iff] at hgranted
  refine areClean_append.2 ⟨hclean, fun deed hmem => ?_⟩
  rw [List.mem_singleton.1 hmem, hdeed, isClean_tried_iff, deletion, hbare hempty, if_pos rfl]
  exact granted_of_not_refused hgranted

/-! ## Roles and users -/

theorem rolesLeft_of_areClean {roles : Dict Iam.Role}
    (h : AreClean (rolesDeeds failing settings roles)) :
    refused failing (.query .roles) = false ∧ ∀ role, (rolesLeft failing settings roles).get? role =
      (roles.get? role).filter fun content => isKept settings role content := by
  obtain ⟨hlisted, hclean⟩ := areClean_listing_iff.1 h
  refine ⟨hlisted, fun role => ?_⟩
  rw [rolesLeft, hlisted, if_neg Bool.false_ne_true, Dict.get?_filterMap]
  cases hrole : roles.get? role with
  | none => rfl
  | some content =>
    have hdeeds := areClean_flatMap.1 hclean _ ((Dict.mem_entries_iff roles role content).2 hrole)
    rw [Option.bind_some, Option.filter_some, roleLeft]
    rw [roleDeeds] at hdeeds
    cases hkept : isKept settings role content with
    | true => rfl
    | false =>
      rw [hkept, if_neg Bool.false_ne_true] at hdeeds
      rw [if_neg Bool.false_ne_true, if_neg Bool.false_ne_true, Principal.left_of_areClean hdeeds]

theorem usersLeft_of_areClean {users : Dict Iam.User} (h : AreClean (usersDeeds failing users))
    (user : String) : (usersLeft failing users).get? user = none := by
  obtain ⟨hlisted, hclean⟩ := areClean_listing_iff.1 h
  rw [usersLeft, hlisted, if_neg Bool.false_ne_true, Dict.get?_filterMap]
  cases huser : users.get? user with
  | none => rfl
  | some content =>
    have hdeeds := areClean_flatMap.1 hclean _ ((Dict.mem_entries_iff users user content).2 huser)
    exact Principal.left_of_areClean (areClean_cons.1 hdeeds).2

theorem disjoint_rolePrincipal (role : String) : AreDisjoint (rolePrincipal role).columns := by
  simp [AreDisjoint, rolePrincipal, roleAttached, roleInline]

theorem role_areClean_of_areGranted {role : String} {content : Iam.Role}
    (h : AreGranted failing ((rolePrincipal role).deeds failing content)) :
    AreClean ((rolePrincipal role).deeds failing content) := by
  refine Principal.areClean_of_areGranted (rolePrincipal_holds {} role)
    (disjoint_rolePrincipal role)
    (fun hempty => ?_) h
  have hattached := hempty (roleAttached role) (by simp [rolePrincipal])
  have hinline := hempty (roleInline role) (by simp [rolePrincipal])
  simp only [roleAttached] at hattached
  simp only [roleInline] at hinline
  simp only [rolePrincipal] at hattached hinline ⊢
  rw [hattached, hinline]
  rfl

theorem disjoint_userPrincipal (user : String) : AreDisjoint (userPrincipal user).columns := by
  simp [AreDisjoint, userPrincipal, userKeys, userCertificates, userInline,
    userAttached, userGroups]

theorem user_areClean_of_areGranted {user : String} {content : Iam.User}
    (h : AreGranted failing (userDeeds failing user content)) :
    AreClean (userDeeds failing user content) := by
  obtain ⟨hprofile, hrest⟩ := areGranted_cons.1 h
  have hgranted : refused failing (.deleteLoginProfile user) = false := by
    simpa [isGranted, call?] using hprofile
  refine areClean_cons.2 ⟨?_, ?_⟩
  · rw [profileDeletion, hgranted, if_neg Bool.false_ne_true]
    cases content.hasProfile <;> rfl
  · refine Principal.areClean_of_areGranted (userPrincipal_holds {} user)
      (disjoint_userPrincipal user)
      (fun hempty => ?_) hrest
    -- no column touches the login profile, which was deleted before
    have hnoProfile : (stripLeft failing (userPrincipal user).columns
        (profileLeft failing user content)).hasProfile = false := by
      refine stripLeft_keeps (P := fun content : Iam.User => content.hasProfile = false) ?_ ?_
      · intro column hcolumn names x hx
        simp only [userPrincipal, List.mem_cons, List.not_mem_nil, or_false] at hcolumn
        rcases hcolumn with rfl | rfl | rfl | rfl | rfl <;> exact hx
      · simp [profileLeft, hgranted]
    have hkeys := hempty (userKeys user) (by simp [userPrincipal])
    have hcertificates := hempty (userCertificates user) (by simp [userPrincipal])
    have hinline := hempty (userInline user) (by simp [userPrincipal])
    have hattached := hempty (userAttached user) (by simp [userPrincipal])
    have hgroups := hempty (userGroups user) (by simp [userPrincipal])
    simp only [userKeys] at hkeys
    simp only [userCertificates] at hcertificates
    simp only [userInline] at hinline
    simp only [userAttached] at hattached
    simp only [userGroups] at hgroups
    show Iam.User.isBare _ = true
    rw [Iam.User.isBare, hnoProfile, hkeys, hcertificates, hinline, hattached, hgroups]
    rfl

end AccountLending.Lending
